import CloudCredit.Accounting.BatchOutcome
import CloudCredit.Accounting.Workflow
import CloudCredit.TigerBeetle.Reservations

/-!
# What a successful gauge request leaves behind

When every answer of the request has a case, each old reservation is gone, and
each new one is either committed or was rejected for lack of credits. The
identifiers reported to the workflow are those of the committed ones.
-/
namespace CloudCredit.Accounting

open Library TigerBeetle Domain Ledger

section Turn

variable {tb : Service} {L L' : Books} {t : Transfer} {r : CreateTransferResult}

/-- A transfer of a request is decided on some books between the first and the last. -/
theorem Classifies.turn {ts : List Transfer} (hL : L.Wf) (hc : Classifies tb L ts) (ht : t ∈ ts) :
    ∃ M, M.Wf ∧ L.Grows M ∧ (tb.createTransfer M t).2.Grows (tb.createTransfers L ts).2 ∧
      Classified t (tb.createTransfer M t).1 := by
  induction ts generalizing L with
  | nil => simp at ht
  | cons x ts ih =>
    have hdoc := tb.transfer_documented L x
    rcases List.mem_cons.mp ht with rfl | ht
    · exact ⟨L, hL, .refl L, tb.createTransfers_grows _ ts, hc.1⟩
    · obtain ⟨M, hM, hgrow, hrest, hclass⟩ := ih (hdoc.wf hL) hc.2 ht
      exact ⟨M, hM, hdoc.grows.trans hgrow, hrest, hclass⟩

/-- The answer at that turn is the one that is written down. -/
theorem Classifies.recorded {α : Type} {xs : List (α × Transfer)} {x : α × Transfer} (hL : L.Wf)
    (hc : Classifies tb L (xs.map Prod.snd)) (hx : x ∈ xs) (J : List (Entry α)) :
    ∃ M, Classified x.2 (tb.createTransfer M x.2).1 ∧
      (tb.createTransfer M x.2).2.Grows (tb.createTransfers L (xs.map Prod.snd)).2 ∧
      ⟨x.1, x.2, (tb.createTransfer M x.2).1⟩ ∈ (tb.record (L, J) xs).2 := by
  induction xs generalizing L J with
  | nil => cases hx
  | cons y ys ih =>
    rcases List.mem_cons.mp hx with rfl | hx
    · exact ⟨L, hc.1, tb.createTransfers_grows _ _,
        (tb.record_suffix _ ys).subset List.mem_cons_self⟩
    · exact ih ((tb.transfer_documented L y.2).wf hL) hc.2 hx _

theorem classified_void_settles (ha : Answers L t r L')
    (hv : t.flags.voidPendingTransfer = true) (hc : Classified t r) :
    L.transfer? t.pendingID = none ∨ L'.isVoided t.pendingID = true := by
  have hdecided := gaugeClassified_decided hc
  cases ha with
  | @repeated e he =>
    right
    obtain ⟨hmem, -⟩ := Books.transfer?_some he
    have hagree := existsResult_agrees (t := L.stored t) (e := e)
      (fun hd => by simp [hd, Classified, gaugeClassified, classified] at hc)
      (fun hd => by simp [hd, Classified, gaugeClassified, classified] at hc)
    rw [stored_flags, stored_pendingID] at hagree
    refine List.any_eq_true.mpr ⟨e, hmem, ?_⟩
    simp [← hagree.1, ← hagree.2, hv]
  | alreadyFailed => cases hdecided
  | pendingNotFound hf hv' hi hp => exact .inl hp
  | @voided p hf hv' hi hp hm hd =>
    right
    simp [Books.isVoided, Books.release, Transfer.fill, hv]
  | @alreadyVoided p hf hv' hi hp hm hd =>
    right
    rw [← (Books.transfer?_some hp).2]
    exact hd
  | voidInvalid hf hv' hi hr => simp [CreateTransferResult.decided, hr] at hdecided
  | pendingMismatch hf hv' hi hp hm hr => simp [CreateTransferResult.decided, hr] at hdecided
  | _ => simp_all

theorem classified_new_settles (ha : Answers L t r L')
    (hv : t.flags.voidPendingTransfer = false) (hc : classified r = true) :
    r = .exceedsCredits ∧ t.id ∈ L'.failed ∨
      r ≠ .exceedsCredits ∧ ∃ x, L'.transfer? t.id = some x := by
  have hdecided := classified_decided hc
  cases ha with
  | @repeated e he =>
    right
    refine ⟨fun hx => ?_, e, he⟩
    have hfound := existsResult_found (L.stored t) e
    rw [hx] at hfound
    cases hfound
  | exceedsCredits => exact .inl ⟨rfl, List.mem_cons_self⟩
  | posted => exact .inr ⟨by simp, t, by simp [Books.transfer?, Books.post]⟩
  | reserved => exact .inr ⟨by simp, t, by simp [Books.transfer?, Books.reserve]⟩
  | invalid hf hv' hi hr => simp [CreateTransferResult.decided, hr] at hdecided
  | overflow hf hv' hi ho hr => simp [CreateTransferResult.decided, hr] at hdecided
  | alreadyFailed => cases hdecided
  | _ => simp_all

end Turn

theorem exists_latest {hbs : List HeartbeatSignal} {hb : HeartbeatSignal} (hmem : hb ∈ hbs) :
    ∃ l, latestByCluster hbs hb.clusterID = some l ∧ hb.sequenceNumber ≤ l.sequenceNumber := by
  induction hbs using List.reverseRecOn with
  | nil => cases hmem
  | append_singleton hbs x ih =>
    rw [latestByCluster_append]
    rcases List.mem_append.mp hmem with hmem | hmem
    · obtain ⟨l, hl, hle⟩ := ih hmem
      by_cases hc : hb.clusterID = x.clusterID
      · rw [hc] at hl ⊢
        simp only [keepLatest, hl]
        split_ifs with hlt
        · exact ⟨x, Table.set_same _ _ _, UInt64.le_trans hle (UInt64.le_of_lt hlt)⟩
        · exact ⟨l, hl, hle⟩
      · rcases keepLatest_cases (latestByCluster hbs) x hb.clusterID with he | ⟨hx, -⟩
        · exact ⟨l, he.trans hl, hle⟩
        · exact absurd hx.symm hc
    · obtain rfl := List.mem_singleton.mp hmem
      cases hprev : latestByCluster hbs hb.clusterID with
      | none =>
        simp only [keepLatest, hprev]
        exact ⟨hb, Table.set_same _ _ _, UInt64.le_refl _⟩
      | some prev =>
        simp only [keepLatest, hprev]
        split_ifs with hlt
        · exact ⟨hb, Table.set_same _ _ _, UInt64.le_refl _⟩
        · exact ⟨prev, hprev, UInt64.not_lt.mp hlt⟩

theorem latestByCluster_first {pre post : List HeartbeatSignal} {hb : HeartbeatSignal}
    (hpre : ∀ x ∈ pre, x.clusterID = hb.clusterID → x.sequenceNumber < hb.sequenceNumber)
    (hpost : ∀ x ∈ post, x.clusterID = hb.clusterID → x.sequenceNumber ≤ hb.sequenceNumber) :
    latestByCluster (pre ++ hb :: post) hb.clusterID = some hb := by
  induction post using List.reverseRecOn with
  | nil =>
    rw [latestByCluster_append, keepLatest]
    cases hprev : latestByCluster pre hb.clusterID with
    | none => exact Table.set_same _ _ _
    | some prev =>
      obtain ⟨hmem, hc⟩ := latestByCluster_mem hprev
      simp only [hpre prev hmem hc, if_true]
      exact Table.set_same _ _ _
  | append_singleton post x ih =>
    have hold := ih fun y hy => hpost y (List.mem_append_left _ hy)
    rw [← List.cons_append, ← List.append_assoc, latestByCluster_append]
    rcases keepLatest_cases (latestByCluster (pre ++ hb :: post)) x hb.clusterID with he | ⟨hc, -⟩
    · rw [he, hold]
    · have hle := hpost x (by simp) hc
      rw [keepLatest, hc, hold]
      simp only [UInt64.not_lt.mpr hle, if_false]
      exact hold

/-- The reservation an update has in the books, zero if it has none. -/
def committedID (L : Books) (u : GaugePendingUpdate) : Uint128 :=
  if 0 < u.newAmount ∧ (L.transfer? u.newPendingID).isSome then u.newPendingID else 0

theorem answerVoid_grows (tb : Service) (rand : ℕ → Uint128) (n : ℕ) {L : Books} (hL : L.Wf)
    (u : GaugePendingUpdate) :
    (answerVoid tb rand n L u).2.Wf ∧ L.Grows (answerVoid tb rand n L u).2 := by
  unfold answerVoid
  split
  · exact ⟨(tb.transfer_documented L _).wf hL, (tb.transfer_documented L _).grows⟩
  · exact ⟨hL, .refl L⟩

theorem gaugeOutcome_settles (tb : Service) (rand : ℕ → Uint128) (n : ℕ) {L M : Books}
    (u : GaugePendingUpdate) (hid : 0 < u.newAmount → u.newPendingID ≠ 0)
    (hc : ∀ r, (answerNew tb rand n L u).1 = some r → classified r = true)
    (hgrow : (answerNew tb rand n L u).2.Grows M) (hM : M.Wf) :
    (gaugeOutcome rand u n (answerNew tb rand n L u).1).newPendingID = committedID M u := by
  by_cases hpos : 0 < u.newAmount
  · have hnew : u.newID rand n = u.newPendingID := if_pos (hid hpos)
    simp only [answerNew, hpos, if_true, Option.some.injEq, forall_eq'] at hc hgrow
    simp only [gaugeOutcome, answerNew, hpos, if_true, Option.isSome_some, true_and, ne_eq,
      Option.some.injEq, hnew, committedID]
    have hsettle := classified_new_settles (tb.transfer_documented L (u.newTransfer rand n)) rfl hc
    rw [show (u.newTransfer rand n).id = u.newPendingID from hnew] at hsettle
    rcases hsettle with ⟨hx, hfailed⟩ | ⟨hx, x, hx'⟩
    · have hnone : M.transfer? u.newPendingID = none := by
        rw [Books.transfer?_none]
        intro x hmem hxid
        exact hM.failed_fresh x hmem (hxid ▸ hgrow.failed.subset hfailed)
      simp [hx, hnone]
    · simp [hx, hgrow.transfer? hM hx']
  · simp [gaugeOutcome, answerNew, hpos, committedID]

theorem gaugeOutcomes_settle (tb : Service) (rand : ℕ → Uint128) (n : ℕ) {L : Books} (hL : L.Wf)
    (xs : List (String × GaugePendingUpdate))
    (hids : ∀ x ∈ xs, 0 < x.2.newAmount → x.2.newPendingID ≠ 0)
    (hc : ∀ a ∈ (gaugeAnswers tb rand n L (xs.map Prod.snd)).1, a.Classified) :
    xs.zip ((gaugeOutcomes rand n (xs.map Prod.snd)
        (gaugeAnswers tb rand n L (xs.map Prod.snd)).1).map (·.newPendingID)) =
      xs.map fun x => (x, committedID (gaugeAnswers tb rand n L (xs.map Prod.snd)).2 x.2) := by
  induction xs generalizing n L with
  | nil => rfl
  | cons x xs ih =>
    simp only [List.forall_mem_cons] at hids
    simp only [List.map_cons, gaugeAnswers, List.forall_mem_cons] at hc
    obtain ⟨hvoid, hgrow⟩ := answerVoid_grows tb rand n hL x.2
    have hnew : (answerNew tb rand n (answerVoid tb rand n L x.2).2 x.2).2.Wf := by
      unfold answerNew
      split
      · exact (tb.transfer_documented _ _).wf hvoid
      · exact hvoid
    have hrest := createTransfers_gauge tb rand (n + 1)
      (answerNew tb rand n (answerVoid tb rand n L x.2).2 x.2).2 (xs.map Prod.snd)
    have hbooks := congrArg Prod.snd hrest
    have hM := tb.createTransfers_wf hnew ((gaugeTransfers rand (n + 1) (xs.map Prod.snd)).map Prod.fst)
    have hg := tb.createTransfers_grows
      (answerNew tb rand n (answerVoid tb rand n L x.2).2 x.2).2
      ((gaugeTransfers rand (n + 1) (xs.map Prod.snd)).map Prod.fst)
    rw [hbooks] at hM hg
    simp only [List.map_cons, gaugeAnswers, gaugeOutcomes, List.zip_cons_cons,
      ih (n + 1) hnew hids.2 hc.2]
    rw [gaugeOutcome_settles tb rand n x.2 hids.1 hc.1.2 hg hM]

section Reported

variable {tb : Service} {L : Books} {input : TBBatchInput} {att : BatchAttempt}
  {per : Table ResourceType ResourceBatchResult} {R : TBBatchResult}

/-- What a successful second request reports for the gauges of the batch. -/
theorem submitGauges_reports (hL : L.Wf)
    (hids : ∀ x ∈ gaugeUpdates input att.clusters, 0 < x.2.newAmount → x.2.newPendingID ≠ 0)
    (hok : (submitGauges input tb att per L).1 = .ok R) :
    R.gaugeUpdates = Table.empty.setInAll ((gaugeUpdates input att.clusters).map fun x =>
      (updateKey x, committedID (tb.createTransfers L (gaugeRequest input att)).2 x.2)) := by
  obtain ⟨-, hc, rfl⟩ := (submitGauges_ok_iff input tb att L per R).mp hok
  have hclass := (classifies_gauge tb att.rand 0 L _).mp hc
  have hsettle := gaugeOutcomes_settle tb att.rand 0 hL _ hids hclass
  rw [createTransfers_gaugeRequest]
  simp only [batchResult, gaugePairs]
  congr 1
  have hzip := congrArg (List.map fun p => (updateKey p.1, p.2)) hsettle
  rw [List.zip_map_right, List.map_map, List.map_map] at hzip
  exact hzip

theorem reported_of_mem (hL : L.Wf)
    (hids : ∀ x ∈ gaugeUpdates input att.clusters, 0 < x.2.newAmount → x.2.newPendingID ≠ 0)
    (hok : (submitGauges input tb att per L).1 = .ok R) {x : String × GaugePendingUpdate}
    (hx : x ∈ gaugeUpdates input att.clusters) :
    (R.gaugeUpdates x.1).bind (· x.2.resource) =
      some (committedID (tb.createTransfers L (gaugeRequest input att)).2 x.2) := by
  rw [submitGauges_reports hL hids hok, Table.setInAll_apply]
  refine Table.setAll_of_mem _ ?_ (List.mem_map.mpr ⟨x, hx, rfl⟩)
  rw [List.map_map]
  exact gaugeUpdates_keys_nodup att.clusters

theorem reported_of_notMem (hL : L.Wf)
    (hids : ∀ x ∈ gaugeUpdates input att.clusters, 0 < x.2.newAmount → x.2.newPendingID ≠ 0)
    (hok : (submitGauges input tb att per L).1 = .ok R) {c : String} {r : ResourceType}
    (hno : ∀ x ∈ gaugeUpdates input att.clusters, updateKey x ≠ (c, r)) :
    (R.gaugeUpdates c).bind (· r) = none := by
  rw [submitGauges_reports hL hids hok, Table.setInAll_apply, Table.setAll_of_notMem]
  · rfl
  · intro y hy
    obtain ⟨x, hx, rfl⟩ := List.mem_map.mp hy
    exact hno x hx

end Reported

theorem applyGaugeUpdates_apply (pending updates : GaugeIDs) (c : String) (r : ResourceType) :
    (applyGaugeUpdates pending updates c).bind (· r) =
      match (updates c).bind (· r) with
      | some id => if id = 0 then none else some id
      | none => (pending c).bind (· r) := by
  unfold applyGaugeUpdates
  cases updates c <;> rfl

end CloudCredit.Accounting
