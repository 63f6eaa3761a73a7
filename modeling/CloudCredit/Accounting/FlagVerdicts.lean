import CloudCredit.Accounting.Answerable
import CloudCredit.Accounting.Retry

/-!
# What a flush says about a resource

The verdicts of a batch are written into one entry for each resource, so the last one counts:
the usage transfers in the order of the heartbeats, the gauges in the order in which the
clusters are visited. Whether a transfer is rejected can be read off the books at its turn, so
the books before the call tell whether a rejection is kept: when the last entry of its
resource is a rejected one too.
-/
namespace CloudCredit.Accounting

open Library TigerBeetle Domain Ledger

/-- The transfers of a request with their answers. -/
def answered (tb : Service) : Books → List Transfer → List (Transfer × CreateTransferResult)
  | _, [] => []
  | L, t :: ts => (t, (tb.createTransfer L t).1) :: answered tb (tb.createTransfer L t).2 ts

section Answered

variable {tb : Service} {L : Books} {ts : List Transfer} {x : Transfer × CreateTransferResult}

theorem answered_append (tb : Service) (L : Books) (xs ys : List Transfer) :
    answered tb L (xs ++ ys) = answered tb L xs ++ answered tb (tb.createTransfers L xs).2 ys := by
  induction xs generalizing L with
  | nil => rfl
  | cons x xs ih => simp [answered, Service.createTransfers, ih]

theorem map_fst_answered (tb : Service) (L : Books) (ts : List Transfer) :
    (answered tb L ts).map Prod.fst = ts := by
  induction ts generalizing L with
  | nil => rfl
  | cons t ts ih => simp [answered, ih]

theorem answered_map {α : Type} (tb : Service) (L : Books) (f : α → Transfer) (us : List α) :
    answered tb L (us.map f) =
      (us.zip (tb.createTransfers L (us.map f)).1).map fun p => (f p.1, p.2) := by
  induction us generalizing L with
  | nil => rfl
  | cons u us ih => simp [answered, Service.createTransfers, ih]

theorem mem_of_answered (hx : x ∈ answered tb L ts) : x.1 ∈ ts := by
  rw [← map_fst_answered tb L ts]
  exact List.mem_map_of_mem hx

theorem exists_answered (tb : Service) (L : Books) {t : Transfer} (ht : t ∈ ts) :
    ∃ x ∈ answered tb L ts, x.1 = t := by
  rw [← map_fst_answered tb L ts] at ht
  exact List.mem_map.mp ht

theorem failed_of_exceeds (hx : x ∈ answered tb L ts) (hr : x.2 = .exceedsCredits) :
    x.1.id ∈ (tb.createTransfers L ts).2.failed := by
  induction ts generalizing L with
  | nil => cases hx
  | cons t ts ih =>
    rcases List.mem_cons.mp hx with rfl | hx
    · obtain ⟨-, hfail⟩ := (tb.transfer_documented L t).exceeds_transient hr
      refine (tb.createTransfers_grows _ ts).failed.subset ?_
      rw [hfail]
      exact List.mem_cons_self
    · exact ih hx

end Answered

section Written

variable {tb : Service} {L L' : Books} {rand : ℕ → Uint128} {n : ℕ} {u : GaugePendingUpdate}
  {x : Transfer × CreateTransferResult}

theorem regular_of_exceeds {t : Transfer} (ha : Answers L t .exceedsCredits L') :
    t.flags.voidPendingTransfer = false := by
  generalize hr : CreateTransferResult.exceedsCredits = r at ha
  cases ha with
  | @repeated e he =>
    have hfound := existsResult_found (L.stored t) e
    rw [← hr] at hfound
    cases hfound
  | voidInvalid hf hv hi hinvalid => simp [← hr, CreateTransferResult.invalid] at hinvalid
  | pendingMismatch hf hv hi hp hm hmismatch =>
    simp [← hr, CreateTransferResult.mismatch] at hmismatch
  | exceedsCredits hf hv => exact hv
  | invalid hf hv => exact hv
  | overflow hf hv => exact hv
  | _ => cases hr

theorem answered_update (hx : x ∈ answered tb L ((u.transfers rand n).map Prod.fst)) :
    x.1.ledger = u.resource.ledgerID ∧ (x.2 = .exceedsCredits →
      (answerNew tb rand n (answerVoid tb rand n L u).2 u).1 = some .exceedsCredits) := by
  have hnew : ∀ M, x ∈ answered tb M ((if 0 < u.newAmount then
      [((u.newTransfer rand n, ⟨n, false⟩) : Transfer × GaugeMeta)] else []).map Prod.fst) →
      x.1.ledger = u.resource.ledgerID ∧ (x.2 = .exceedsCredits →
        (answerNew tb rand n M u).1 = some .exceedsCredits) := by
    intro M hx
    unfold answerNew
    split_ifs at hx ⊢ with hpos
    · obtain rfl := List.mem_singleton.mp hx
      exact ⟨rfl, congrArg some⟩
    · cases hx
  unfold GaugePendingUpdate.transfers at hx
  rw [List.map_append, answered_append] at hx
  unfold answerVoid
  cases hold : u.oldPendingID with
  | none =>
    rw [hold] at hx
    exact hnew L hx
  | some old =>
    rw [hold] at hx
    rcases List.mem_append.mp hx with hx | hx
    · obtain rfl := List.mem_singleton.mp hx
      refine ⟨rfl, fun hr => ?_⟩
      have hdoc := tb.transfer_documented L (u.voidTransfer rand n old)
      rw [show (tb.createTransfer L (u.voidTransfer rand n old)).1 = .exceedsCredits from hr] at hdoc
      cases regular_of_exceeds hdoc
    · exact hnew _ hx

theorem exists_answered_new
    (hx : (answerNew tb rand n (answerVoid tb rand n L u).2 u).1 = some .exceedsCredits) :
    ∃ x ∈ answered tb L ((u.transfers rand n).map Prod.fst),
      x.1.ledger = u.resource.ledgerID ∧ x.2 = .exceedsCredits := by
  unfold answerNew at hx
  split_ifs at hx with hpos
  refine ⟨(u.newTransfer rand n, .exceedsCredits), ?_, rfl, rfl⟩
  rw [← Option.some.inj hx]
  unfold GaugePendingUpdate.transfers answerVoid
  rw [List.map_append, answered_append, if_pos hpos]
  cases u.oldPendingID with
  | none => exact List.mem_singleton.mpr rfl
  | some old => exact List.mem_cons_of_mem _ (List.mem_singleton.mpr rfl)

/-- The verdicts on a list of gauges, in the order in which they are written. -/
def writtenGauges (tb : Service) (rand : ℕ → Uint128) (n : ℕ) (L : Books)
    (xs : List (String × GaugePendingUpdate)) : List (ResourceType × ResourceBatchResult) :=
  (xs.zip (gaugeOutcomes rand n (xs.map Prod.snd)
    (gaugeAnswers tb rand n L (xs.map Prod.snd)).1)).map gaugeResult

theorem writtenGauges_cons (x : String × GaugePendingUpdate)
    (xs : List (String × GaugePendingUpdate)) :
    writtenGauges tb rand n L (x :: xs) =
      (x.2.resource, {
        accepted := (answerNew tb rand n (answerVoid tb rand n L x.2).2 x.2).1 ≠
          some .exceedsCredits
        exceedsCredits := (answerNew tb rand n (answerVoid tb rand n L x.2).2 x.2).1 =
          some .exceedsCredits }) ::
        writtenGauges tb rand (n + 1)
          (tb.createTransfers L ((x.2.transfers rand n).map Prod.fst)).2 xs := by
  rw [createTransfers_update]
  rfl

theorem answered_gauges_cons (x : String × GaugePendingUpdate)
    (xs : List (String × GaugePendingUpdate)) :
    answered tb L ((gaugeTransfers rand n ((x :: xs).map Prod.snd)).map Prod.fst) =
      answered tb L ((x.2.transfers rand n).map Prod.fst) ++
        answered tb (tb.createTransfers L ((x.2.transfers rand n).map Prod.fst)).2
          ((gaugeTransfers rand (n + 1) (xs.map Prod.snd)).map Prod.fst) := by
  rw [← answered_append, ← List.map_append]
  rfl

theorem writtenGauges_of_answered {xs : List (String × GaugePendingUpdate)}
    (hx : x ∈ answered tb L ((gaugeTransfers rand n (xs.map Prod.snd)).map Prod.fst)) :
    ∃ p ∈ writtenGauges tb rand n L xs, p.1.ledgerID = x.1.ledger ∧
      (x.2 = .exceedsCredits → p.2.exceedsCredits = true) := by
  induction xs generalizing n L with
  | nil => cases hx
  | cons y ys ih =>
    rw [answered_gauges_cons] at hx
    rw [writtenGauges_cons]
    rcases List.mem_append.mp hx with hx | hx
    · obtain ⟨hledger, hr⟩ := answered_update hx
      exact ⟨_, List.mem_cons_self, hledger.symm, fun he => decide_eq_true (hr he)⟩
    · obtain ⟨p, hp, hpx⟩ := ih hx
      exact ⟨p, List.mem_cons_of_mem _ hp, hpx⟩

theorem answered_of_writtenGauges {xs : List (String × GaugePendingUpdate)}
    {p : ResourceType × ResourceBatchResult} (hp : p ∈ writtenGauges tb rand n L xs)
    (hr : p.2.exceedsCredits = true) :
    ∃ x ∈ answered tb L ((gaugeTransfers rand n (xs.map Prod.snd)).map Prod.fst),
      x.1.ledger = p.1.ledgerID ∧ x.2 = .exceedsCredits := by
  induction xs generalizing n L with
  | nil => cases hp
  | cons y ys ih =>
    rw [writtenGauges_cons] at hp
    rw [answered_gauges_cons]
    rcases List.mem_cons.mp hp with rfl | hp
    · obtain ⟨x, hx, hxr⟩ := exists_answered_new (of_decide_eq_true hr)
      exact ⟨x, List.mem_append_left _ hx, hxr⟩
    · obtain ⟨x, hx, hxr⟩ := ih hp
      exact ⟨x, List.mem_append_right _ hx, hxr⟩

end Written

section Batch

variable (h : Blake3) (input : TBBatchInput) (tb : Service) (att : BatchAttempt) (L : Books)

/-- The verdicts of an attempt in the order in which they are written: the usage transfers,
then the gauges. -/
def written : List (ResourceType × ResourceBatchResult) :=
  (((usageTransfers h input).zip (tb.createTransfers L (usageRequest h input)).1).map fun x =>
    (x.1.2.resource, ⟨x.2 ≠ .exceedsCredits, x.2 = .exceedsCredits, duplicate x.2⟩)) ++
  writtenGauges tb att.rand 0 (tb.createTransfers L (usageRequest h input)).2
    (gaugeUpdates input att.clusters)

theorem batchResult_perResource :
    (batchResult input att (usageVerdicts h input tb L) (gaugeVerdicts h input tb att L)).perResource =
      Table.empty.setAll (written h input tb att L) := by
  rw [written, Table.setAll_append]
  rfl

variable {h input tb att L}

theorem written_dual {p : ResourceType × ResourceBatchResult} (hp : p ∈ written h input tb att L) :
    p.2.accepted = !p.2.exceedsCredits := by
  rcases List.mem_append.mp hp with hp | hp
  · obtain ⟨x, -, rfl⟩ := List.mem_map.mp hp
    simp
  · obtain ⟨x, hx, rfl⟩ := List.mem_map.mp hp
    exact gaugeOutcomes_dual _ _ (List.of_mem_zip hx).2

theorem written_of_answered {x : Transfer × CreateTransferResult}
    (hx : x ∈ answered tb L (batchRequest h input att)) :
    ∃ p ∈ written h input tb att L, p.1.ledgerID = x.1.ledger ∧
      (x.2 = .exceedsCredits → p.2.exceedsCredits = true) := by
  rw [batchRequest, answered_append] at hx
  rcases List.mem_append.mp hx with hx | hx
  · rw [usageRequest, answered_map] at hx
    obtain ⟨y, hy, rfl⟩ := List.mem_map.mp hx
    exact ⟨_, List.mem_append_left _ (List.mem_map_of_mem hy), rfl, decide_eq_true⟩
  · obtain ⟨p, hp, hpx⟩ := writtenGauges_of_answered hx
    exact ⟨p, List.mem_append_right _ hp, hpx⟩

theorem answered_of_written {p : ResourceType × ResourceBatchResult}
    (hp : p ∈ written h input tb att L) (hr : p.2.exceedsCredits = true) :
    ∃ x ∈ answered tb L (batchRequest h input att),
      x.1.ledger = p.1.ledgerID ∧ x.2 = .exceedsCredits := by
  rw [batchRequest, answered_append]
  rcases List.mem_append.mp hp with hp | hp
  · obtain ⟨y, hy, rfl⟩ := List.mem_map.mp hp
    refine ⟨(y.1.2.toTransfer, y.2), List.mem_append_left _ ?_, rfl, of_decide_eq_true hr⟩
    rw [usageRequest, answered_map]
    exact List.mem_map.mpr ⟨y, hy, rfl⟩
  · obtain ⟨x, hx, hxr⟩ := answered_of_writtenGauges hp hr
    exact ⟨x, List.mem_append_right _ hx, hxr⟩

end Batch

/-- The transfer is new and its debit is over the credits of the account. -/
def overdraws (L : Books) (t : Transfer) : Bool :=
  L.transfer? t.id = none && t.id ∉ L.failed && !t.flags.voidPendingTransfer && L.exceeds t

/-- Some transfer of a list overdraws its account at its turn. -/
def anyOverdraws (tb : Service) : Books → List Transfer → Bool
  | _, [] => false
  | L, t :: ts => overdraws L t || anyOverdraws tb (tb.createTransfer L t).2 ts

/-- The transfers of the gauges, one list for each, numbered from `n`. -/
def entriesOfGauges (rand : ℕ → Uint128) : ℕ → List GaugePendingUpdate →
    List (ResourceType × List Transfer)
  | _, [] => []
  | n, u :: us =>
    (u.resource, (u.transfers rand n).map Prod.fst) :: entriesOfGauges rand (n + 1) us

/-- The transfers of an attempt, one list for each verdict, in the order of the verdicts. -/
def entries (h : Blake3) (input : TBBatchInput) (att : BatchAttempt) :
    List (ResourceType × List Transfer) :=
  (usageTransfers h input).map (fun x => (x.2.resource, [x.2.toTransfer])) ++
    entriesOfGauges att.rand 0 ((gaugeUpdates input att.clusters).map Prod.snd)

/-- Which entries overdraw an account, each on the books at its turn. -/
def overdrawn (tb : Service) : Books → List (ResourceType × List Transfer) →
    List (ResourceType × Bool)
  | _, [] => []
  | L, e :: es => (e.1, anyOverdraws tb L e.2) :: overdrawn tb (tb.createTransfers L e.2).2 es

section Overdrawn

variable {tb : Service} {L L' : Books} {t : Transfer} {ts : List Transfer}
  {rand : ℕ → Uint128} {n : ℕ}

theorem exceeds_iff_overdraws {r : CreateTransferResult} (ha : Answers L t r L')
    (hc : Classified t r) : r = .exceedsCredits ↔ overdraws L t = true := by
  have hd := gaugeClassified_decided hc
  unfold overdraws
  cases ha with
  | @repeated e he =>
    have hfound := existsResult_found (L.stored t) e
    have hne : existsResult (L.stored t) e ≠ .exceedsCredits := fun hx => by
      rw [hx] at hfound
      cases hfound
    simp [he, hne]
  | alreadyFailed => cases hd
  | invalid hf hv hi hr => simp [CreateTransferResult.decided, hr] at hd
  | overflow hf hv hi ho hr => simp [CreateTransferResult.decided, hr] at hd
  | exceedsCredits hf hv hi ho hx => simp [hf.1, hf.2, hv, hx]
  | posted hf hv hi ho hx => simp [hx]
  | reserved hf hv hi ho hx => simp [hx]
  | voidInvalid hf hv hi hr => simp [CreateTransferResult.decided, hr] at hd
  | pendingMismatch hf hv hi hp hm hr => simp [CreateTransferResult.decided, hr] at hd
  | pendingNotFound hf hv => simp [hv]
  | alreadyVoided hf hv => simp [hv]
  | voided hf hv => simp [hv]

theorem anyOverdraws_iff (hc : Classifies tb L ts) :
    anyOverdraws tb L ts = true ↔ ∃ x ∈ answered tb L ts, x.2 = .exceedsCredits := by
  induction ts generalizing L with
  | nil => simp [anyOverdraws, answered]
  | cons t ts ih =>
    have hhead := exceeds_iff_overdraws (tb.transfer_documented L t) hc.1
    simp only [anyOverdraws, answered, Bool.or_eq_true, ih hc.2, List.exists_mem_cons_iff, hhead]

theorem overdrawn_append (tb : Service) (L : Books) (es fs : List (ResourceType × List Transfer)) :
    overdrawn tb L (es ++ fs) =
      overdrawn tb L es ++ overdrawn tb (tb.createTransfers L (es.flatMap Prod.snd)).2 fs := by
  induction es generalizing L with
  | nil => rfl
  | cons e es ih =>
    simp only [List.cons_append, overdrawn, ih, List.flatMap_cons, Service.createTransfers_append]

theorem overdrawn_map_fst (tb : Service) (L : Books) (es : List (ResourceType × List Transfer)) :
    (overdrawn tb L es).map Prod.fst = es.map Prod.fst := by
  induction es generalizing L with
  | nil => rfl
  | cons e es ih => simp [overdrawn, ih]

theorem overdrawn_usage (us : List (HeartbeatSignal × UsageTransfer))
    (hc : Classifies tb L (us.map (·.2.toTransfer))) :
    overdrawn tb L (us.map fun x => (x.2.resource, [x.2.toTransfer])) =
      (us.zip (tb.createTransfers L (us.map (·.2.toTransfer))).1).map fun x =>
        (x.1.2.resource, decide (x.2 = .exceedsCredits)) := by
  induction us generalizing L with
  | nil => rfl
  | cons u us ih =>
    have hhead := exceeds_iff_overdraws (tb.transfer_documented L u.2.toTransfer) hc.1
    simp only [List.map_cons, overdrawn, anyOverdraws, Bool.or_false, Service.createTransfers,
      List.zip_cons_cons, ih hc.2, Bool.decide_congr hhead, Bool.decide_eq_true]

theorem overdrawn_gauges (xs : List (String × GaugePendingUpdate))
    (hc : Classifies tb L ((gaugeTransfers rand n (xs.map Prod.snd)).map Prod.fst)) :
    overdrawn tb L (entriesOfGauges rand n (xs.map Prod.snd)) =
      (writtenGauges tb rand n L xs).map fun p => (p.1, p.2.exceedsCredits) := by
  induction xs generalizing n L with
  | nil => rfl
  | cons x xs ih =>
    simp only [List.map_cons, gaugeTransfers, List.map_append, classifies_append] at hc
    have hhead : anyOverdraws tb L ((x.2.transfers rand n).map Prod.fst) = true ↔
        (answerNew tb rand n (answerVoid tb rand n L x.2).2 x.2).1 = some .exceedsCredits := by
      rw [anyOverdraws_iff hc.1]
      constructor
      · rintro ⟨y, hy, hr⟩
        exact (answered_update hy).2 hr
      · intro hx
        obtain ⟨y, hy, -, hr⟩ := exists_answered_new hx
        exact ⟨y, hy, hr⟩
    rw [writtenGauges_cons, List.map_cons, List.map_cons, entriesOfGauges, overdrawn, ih hc.2]
    simp only [← hhead, Bool.decide_eq_true]

theorem gaugeEntries_flat (rand : ℕ → Uint128) (n : ℕ) (us : List GaugePendingUpdate) :
    (entriesOfGauges rand n us).flatMap Prod.snd = (gaugeTransfers rand n us).map Prod.fst := by
  induction us generalizing n with
  | nil => rfl
  | cons u us ih => simp [entriesOfGauges, gaugeTransfers, ih]

variable {h : Blake3} {input : TBBatchInput} {att : BatchAttempt}

theorem entries_flat : (entries h input att).flatMap Prod.snd = batchRequest h input att := by
  rw [entries, List.flatMap_append, gaugeEntries_flat, batchRequest, usageRequest, List.flatMap_map,
    ← List.map_eq_flatMap]
  rfl

theorem overdrawn_entries (hc : Classifies tb L (batchRequest h input att)) :
    overdrawn tb L (entries h input att) =
      (written h input tb att L).map fun p => (p.1, p.2.exceedsCredits) := by
  rw [batchRequest, classifies_append] at hc
  rw [entries, overdrawn_append, overdrawn_usage _ hc.1, written, List.map_append, List.map_map,
    List.flatMap_map, ← List.map_eq_flatMap]
  exact congrArg _ (overdrawn_gauges _ hc.2)

theorem update_ledger {u : GaugePendingUpdate} (ht : t ∈ (u.transfers rand n).map Prod.fst) :
    t.ledger = u.resource.ledgerID := by
  unfold GaugePendingUpdate.transfers at ht
  cases u.oldPendingID <;> split_ifs at ht <;>
    simp [GaugePendingUpdate.voidTransfer, GaugePendingUpdate.newTransfer] at ht <;> grind

theorem entries_ledger {e : ResourceType × List Transfer} (he : e ∈ entries h input att) :
    ∀ t ∈ e.2, t.ledger = e.1.ledgerID := by
  intro t ht
  rcases List.mem_append.mp he with he | he
  · obtain ⟨x, -, rfl⟩ := List.mem_map.mp he
    rw [List.mem_singleton.mp ht]
    rfl
  · generalize (gaugeUpdates input att.clusters).map Prod.snd = us at he
    generalize 0 = n at he
    induction us generalizing n with
    | nil => cases he
    | cons u us ih =>
      rcases List.mem_cons.mp he with rfl | he
      · exact update_ledger ht
      · exact ih _ he

end Overdrawn

section Flags

variable {ps : List (ResourceType × ResourceBatchResult)}

theorem flag_eq (flags : Table ResourceType Bool) (r : ResourceType)
    (hdual : ∀ p ∈ ps, p.2.accepted = !p.2.exceedsCredits) :
    (applyExceeded flags (Table.empty.setAll ps) r).getD false =
      (((ps.map fun p => (p.1, p.2.exceedsCredits)).filter (·.1 = r)).getLast?.map Prod.snd).getD
        ((flags r).getD false) := by
  have hlast : Table.empty.setAll ps r = (ps.filter (·.1 = r)).getLast?.map Prod.snd := by
    rw [Table.setAll_apply, ← List.head?_filter, List.filter_reverse, List.head?_reverse]
    simp
  have hfilter : (ps.map fun p => (p.1, p.2.exceedsCredits)).filter (·.1 = r) =
      (ps.filter (·.1 = r)).map fun p => (p.1, p.2.exceedsCredits) := by
    rw [List.filter_map]
    rfl
  rw [applyExceeded, hlast, hfilter, List.getLast?_map]
  cases hq : (ps.filter (·.1 = r)).getLast? with
  | none => rfl
  | some q =>
    have hqps : q ∈ ps := (List.mem_filter.mp (List.mem_of_getLast? hq)).1
    simp only [Option.map_some, Option.getD_some, hdual q hqps]
    cases q.2.exceedsCredits <;> rfl

end Flags

/-- What the service answered in the attempts of a flush, each made on its own books. -/
def flushAnswers (h : Blake3) (input : TBBatchInput) (tb : Service)
    (attempts : List (BatchAttempt × Books)) : List (Transfer × CreateTransferResult) :=
  attempts.flatMap fun a => answered tb a.2 (reachedTransfers h input tb a.1 a.2)

section Flush

variable {h : Blake3} {input : TBBatchInput} {tb : Service} {att : BatchAttempt} {L : Books}
  {earlier : List (BatchAttempt × Books)} {result : TBBatchResult}
  {x : Transfer × CreateTransferResult}

theorem mem_batchRequest_of_flushAnswers (hgen : earlier = [] ∨ input.PreGenerated)
    (hx : x ∈ flushAnswers h input tb (earlier ++ [(att, L)])) : x.1 ∈ batchRequest h input att := by
  obtain ⟨a, ha, hx⟩ := List.mem_flatMap.mp hx
  have hmem := reachedTransfers_subset h input tb a.1 a.2 (mem_of_answered hx)
  rcases List.mem_append.mp ha with ha | ha
  · have hp := hgen.resolve_left (List.ne_nil_of_mem ha)
    exact (batchRequest_perm hp a.1 att).mem_iff.mp hmem
  · rw [List.mem_singleton.mp ha] at hmem
    exact hmem

theorem mem_answered_of_exceeds (hL : L.Wf) (hgen : earlier = [] ∨ input.PreGenerated)
    (hearlier : ∀ a ∈ earlier, (submitTBBatch h input tb a.1 a.2).2.Grows L)
    (hok : (submitTBBatch h input tb att L).1 = .ok result)
    (hx : x ∈ flushAnswers h input tb (earlier ++ [(att, L)])) (hr : x.2 = .exceedsCredits) :
    x ∈ answered tb L (batchRequest h input att) := by
  have hrequest := mem_batchRequest_of_flushAnswers hgen hx
  obtain ⟨a, ha, hx⟩ := List.mem_flatMap.mp hx
  rcases List.mem_append.mp ha with ha | ha
  · obtain ⟨-, -, hclass, -⟩ := (submitTBBatch_ok_iff h input tb att L result).mp hok
    have hfailed := failed_of_exceeds hx hr
    rw [← submitTBBatch_books] at hfailed
    exact absurd hclass (not_classifies_of_blocked hL hrequest
      (.inl ((hearlier a ha).failed.subset hfailed)))
  · rw [List.mem_singleton.mp ha, reachedTransfers_of_ok h input tb att L hok] at hx
    exact hx

theorem mem_flushAnswers_last (hok : (submitTBBatch h input tb att L).1 = .ok result)
    (hx : x ∈ answered tb L (batchRequest h input att)) :
    x ∈ flushAnswers h input tb (earlier ++ [(att, L)]) := by
  refine List.mem_flatMap.mpr ⟨(att, L), List.mem_append_right _ (List.mem_singleton.mpr rfl), ?_⟩
  rw [reachedTransfers_of_ok h input tb att L hok]
  exact hx

end Flush

/-- What a flush says about a resource: the flag is set if one of its transfers was rejected,
not set if none was and one was accepted, and as before if none was submitted. -/
def FlagTells (answers : List (Transfer × CreateTransferResult)) (r : ResourceType)
    (before after : Bool) : Prop :=
  ((∃ x ∈ answers, x.1.ledger = r.ledgerID ∧ x.2 = .exceedsCredits) → after = true) ∧
    ((∀ x ∈ answers, x.1.ledger = r.ledgerID → x.2 ≠ .exceedsCredits) →
      (∃ x ∈ answers, x.1.ledger = r.ledgerID ∧ Classified x.1 x.2) → after = false) ∧
    ((∀ x ∈ answers, x.1.ledger ≠ r.ledgerID) → after = before)

/-- An entry of the resource overdraws its account. -/
def Overdraws (tb : Service) (L : Books) (es : List (ResourceType × List Transfer))
    (r : ResourceType) : Prop :=
  ∃ e ∈ overdrawn tb L es, e.1 = r ∧ e.2 = true

/-- An entry of the resource has a transfer. -/
def Submits (es : List (ResourceType × List Transfer)) (r : ResourceType) : Prop :=
  ∃ e ∈ es, e.1 = r ∧ e.2 ≠ []

/-- The last entry of the resource overdraws its account if any does, and a resource whose
flag is set has a transfer if it has an entry. -/
def RejectionsKept (tb : Service) (L : Books) (es : List (ResourceType × List Transfer))
    (r : ResourceType) (before : Bool) : Prop :=
  (¬Overdraws tb L es r ∨
      ((overdrawn tb L es).filter (·.1 = r)).getLast?.map Prod.snd = some true) ∧
    (Submits es r ∨ (∀ e ∈ es, e.1 ≠ r) ∨ before = false)

instance (tb : Service) (L : Books) (es : List (ResourceType × List Transfer)) (r : ResourceType) :
    Decidable (Overdraws tb L es r) :=
  inferInstanceAs (Decidable (∃ e ∈ overdrawn tb L es, _))

instance (es : List (ResourceType × List Transfer)) (r : ResourceType) : Decidable (Submits es r) :=
  inferInstanceAs (Decidable (∃ e ∈ es, _))

instance (tb : Service) (L : Books) (es : List (ResourceType × List Transfer)) (r : ResourceType)
    (before : Bool) : Decidable (RejectionsKept tb L es r before) :=
  inferInstanceAs (Decidable (_ ∧ _))

section Tells

variable {h : Blake3} {input : TBBatchInput} {tb : Service} {att : BatchAttempt} {L : Books}
  {earlier : List (BatchAttempt × Books)} {result : TBBatchResult} {r : ResourceType}

theorem rejected_iff (hL : L.Wf) (hgen : earlier = [] ∨ input.PreGenerated)
    (hearlier : ∀ a ∈ earlier, (submitTBBatch h input tb a.1 a.2).2.Grows L)
    (hok : (submitTBBatch h input tb att L).1 = .ok result) :
    (∃ x ∈ flushAnswers h input tb (earlier ++ [(att, L)]),
        x.1.ledger = r.ledgerID ∧ x.2 = .exceedsCredits) ↔
      Overdraws tb L (entries h input att) r := by
  obtain ⟨-, -, hclass, -⟩ := (submitTBBatch_ok_iff h input tb att L result).mp hok
  rw [Overdraws, overdrawn_entries hclass]
  constructor
  · rintro ⟨x, hx, hledger, hr⟩
    have hmem := mem_answered_of_exceeds hL hgen hearlier hok hx hr
    obtain ⟨p, hp, hpr, hpx⟩ := written_of_answered hmem
    exact ⟨_, List.mem_map_of_mem hp, ResourceType.ledgerID_injective (hpr.trans hledger), hpx hr⟩
  · rintro ⟨e, he, her, hex⟩
    obtain ⟨p, hp, rfl⟩ := List.mem_map.mp he
    obtain ⟨x, hx, hledger, hr⟩ := answered_of_written hp hex
    exact ⟨x, mem_flushAnswers_last hok hx, hledger.trans (congrArg _ her), hr⟩

theorem submitted_iff (earlier : List (BatchAttempt × Books)) (r : ResourceType)
    (hgen : earlier = [] ∨ input.PreGenerated)
    (hok : (submitTBBatch h input tb att L).1 = .ok result) :
    (∃ x ∈ flushAnswers h input tb (earlier ++ [(att, L)]), x.1.ledger = r.ledgerID) ↔
      Submits (entries h input att) r := by
  constructor
  · rintro ⟨x, hx, hledger⟩
    have hmem := mem_batchRequest_of_flushAnswers hgen hx
    rw [← entries_flat] at hmem
    obtain ⟨e, he, hxe⟩ := List.mem_flatMap.mp hmem
    refine ⟨e, he, ResourceType.ledgerID_injective ?_, List.ne_nil_of_mem hxe⟩
    rw [← entries_ledger he x.1 hxe, hledger]
  · rintro ⟨e, he, rfl, hne⟩
    obtain ⟨t, ht⟩ := List.exists_mem_of_ne_nil e.2 hne
    have hmem : t ∈ batchRequest h input att := by
      rw [← entries_flat]
      exact List.mem_flatMap.mpr ⟨e, he, ht⟩
    obtain ⟨x, hx, rfl⟩ := exists_answered tb L hmem
    exact ⟨x, mem_flushAnswers_last hok hx, entries_ledger he _ ht⟩

theorem classified_of_answered {ts : List Transfer} {x : Transfer × CreateTransferResult}
    (hc : Classifies tb L ts) (hx : x ∈ answered tb L ts) : Classified x.1 x.2 := by
  induction ts generalizing L with
  | nil => cases hx
  | cons t ts ih =>
    rcases List.mem_cons.mp hx with rfl | hx
    · exact hc.1
    · exact ih hc.2 hx

theorem accepted_iff (earlier : List (BatchAttempt × Books)) (r : ResourceType)
    (hgen : earlier = [] ∨ input.PreGenerated)
    (hok : (submitTBBatch h input tb att L).1 = .ok result) :
    (∃ x ∈ flushAnswers h input tb (earlier ++ [(att, L)]),
        x.1.ledger = r.ledgerID ∧ Classified x.1 x.2) ↔
      Submits (entries h input att) r := by
  rw [← submitted_iff earlier r hgen hok]
  refine ⟨fun ⟨x, hx, hledger, _⟩ => ⟨x, hx, hledger⟩, ?_⟩
  rintro ⟨x, hx, hledger⟩
  obtain ⟨-, -, hclass, -⟩ := (submitTBBatch_ok_iff h input tb att L result).mp hok
  obtain ⟨y, hy, hyx⟩ := exists_answered tb L (mem_batchRequest_of_flushAnswers hgen hx)
  exact ⟨y, mem_flushAnswers_last hok hy, hyx ▸ hledger, classified_of_answered hclass hy⟩

theorem flagTells_iff {answers : List (Transfer × CreateTransferResult)} {before after : Bool}
    {R S : Prop}
    (hrejected : (∃ x ∈ answers, x.1.ledger = r.ledgerID ∧ x.2 = .exceedsCredits) ↔ R)
    (hsubmitted : (∃ x ∈ answers, x.1.ledger = r.ledgerID) ↔ S)
    (haccepted : (∃ x ∈ answers, x.1.ledger = r.ledgerID ∧ Classified x.1 x.2) ↔ S) :
    FlagTells answers r before after ↔
      (R → after = true) ∧ (¬R → S → after = false) ∧ (¬S → after = before) := by
  have hnone : (∀ x ∈ answers, x.1.ledger = r.ledgerID → x.2 ≠ .exceedsCredits) ↔ ¬R := by
    rw [← hrejected]
    simp only [not_exists, not_and, ne_eq]
  have hsilent : (∀ x ∈ answers, x.1.ledger ≠ r.ledgerID) ↔ ¬S := by
    rw [← hsubmitted]
    simp only [not_exists, not_and, ne_eq]
  rw [FlagTells, hrejected, hnone, haccepted, hsilent]

theorem kept_iff {es : List (ResourceType × List Transfer)} {before : Bool}
    (hsubmits : Overdraws tb L es r → Submits es r) :
    ((Overdraws tb L es r → (((overdrawn tb L es).filter (·.1 = r)).getLast?.map Prod.snd).getD
          before = true) ∧
        (¬Overdraws tb L es r → Submits es r →
          (((overdrawn tb L es).filter (·.1 = r)).getLast?.map Prod.snd).getD before = false) ∧
        (¬Submits es r →
          (((overdrawn tb L es).filter (·.1 = r)).getLast?.map Prod.snd).getD before = before)) ↔
      RejectionsKept tb L es r before := by
  have hnames : (∃ f ∈ overdrawn tb L es, f.1 = r) ↔ ∃ e ∈ es, e.1 = r := by
    rw [← List.mem_map, overdrawn_map_fst, List.mem_map]
  unfold RejectionsKept
  cases hq : ((overdrawn tb L es).filter (·.1 = r)).getLast? with
  | none =>
    rw [List.getLast?_eq_none_iff, List.filter_eq_nil_iff] at hq
    have hno : ∀ e ∈ es, e.1 ≠ r := fun e he her => by
      obtain ⟨f, hf, hfr⟩ := hnames.mpr ⟨e, he, her⟩
      exact hq f hf (decide_eq_true hfr)
    have hns : ¬Submits es r := fun ⟨e, he, her, _⟩ => hno e he her
    have hnr := mt hsubmits hns
    exact iff_of_true ⟨fun hr => absurd hr hnr, fun _ hs => absurd hs hns, fun _ => rfl⟩
      ⟨.inl hnr, .inr (.inl hno)⟩
  | some q =>
    obtain ⟨hmem, hqr⟩ := List.mem_filter.mp (List.mem_of_getLast? hq)
    have hsome : ¬∀ e ∈ es, e.1 ≠ r := fun hno => by
      obtain ⟨e, he, her⟩ := hnames.mp ⟨q, hmem, of_decide_eq_true hqr⟩
      exact hno e he her
    have hlast : q.2 = true → Overdraws tb L es r := fun hx =>
      ⟨q, hmem, of_decide_eq_true hqr, hx⟩
    simp only [Option.map_some, Option.getD_some, Option.some.injEq, hsome, false_or]
    cases hx : q.2 <;> cases before <;> simp_all

end Tells

/-- A successful flush tells what happened to a resource exactly if the books it finds let the
last entry of the resource be rejected whenever one is, and no gauge without a transfer
stands alone for the resource while its flag is set. -/
theorem rejection_not_masked_iff (h : Blake3) (input : TBBatchInput) (tb : Service)
    (s : TenantAccountingState) (earlier : List (BatchAttempt × Books)) (att : BatchAttempt)
    (L : Books) (result : TBBatchResult) (r : ResourceType) (hL : L.Wf)
    (hgen : earlier = [] ∨ input.PreGenerated)
    (hearlier : ∀ a ∈ earlier, (submitTBBatch h input tb a.1 a.2).2.Grows L)
    (hok : (submitTBBatch h input tb att L).1 = .ok result) :
    FlagTells (flushAnswers h input tb (earlier ++ [(att, L)])) r
        ((s.exceededResources r).getD false)
        (((s.applyBatchResult result).exceededResources r).getD false) ↔
      RejectionsKept tb L (entries h input att) r ((s.exceededResources r).getD false) := by
  have hrejected := rejected_iff (r := r) hL hgen hearlier hok
  have hsubmitted := submitted_iff earlier r hgen hok
  have haccepted := accepted_iff earlier r hgen hok
  obtain ⟨-, -, hclass, rfl⟩ := (submitTBBatch_ok_iff h input tb att L result).mp hok
  have hflag : ((applyExceeded s.exceededResources (Table.empty.setAll (written h input tb att L))
      r).getD false) = _ := flag_eq s.exceededResources r fun p hp => written_dual hp
  rw [← overdrawn_entries hclass] at hflag
  rw [flagTells_iff hrejected hsubmitted haccepted]
  simp only [TenantAccountingState.applyBatchResult, batchResult_perResource, hflag]
  refine kept_iff fun hr => hsubmitted.mp ?_
  obtain ⟨x, hx, hledger, -⟩ := hrejected.mpr hr
  exact ⟨x, hx, hledger⟩

/-- The sample tenant has no credits: its processors are rejected last, and the flag is set. -/
theorem sample_rejection_kept : ∃ result,
    (submitTBBatch .positional sampleBatch Reference.service {} (sampleBooks 0)).1 = .ok result ∧
      ((sampleInput.initialState.applyBatchResult result).exceededResources .cpuHours).getD false =
        true := by
  obtain ⟨result, L', hok⟩ := exists_eq_ok (x := submitTBBatch .positional sampleBatch
    Reference.service {} (sampleBooks 0)) (by decide +kernel)
  have hok' := congrArg Prod.fst hok
  exact ⟨result, hok', ((rejection_not_masked_iff .positional sampleBatch Reference.service
    sampleInput.initialState [] {} (sampleBooks 0) result .cpuHours (sampleBooks_wf 0) (.inl rfl)
    (fun a ha => absurd ha List.not_mem_nil) hok').mpr (by decide +kernel)).1 (by decide +kernel)⟩

/-- The flag after the sample tenant's flush with five credits, if it succeeds. -/
def sampleFlag (s : TenantAccountingState) (r : ResourceType) : Option (Option Bool) :=
  match (submitTBBatch .positional (s.batchInput .positional) Reference.service {}
      (sampleBooks 5)).1 with
  | .ok result => some ((s.applyBatchResult result).exceededResources r)
  | .error _ => none

theorem exists_of_sampleFlag {s : TenantAccountingState} {r : ResourceType} {b : Option Bool}
    (hb : sampleFlag s r = some b) : ∃ result,
      (submitTBBatch .positional (s.batchInput .positional) Reference.service {}
        (sampleBooks 5)).1 = .ok result ∧
      (s.applyBatchResult result).exceededResources r = b := by
  unfold sampleFlag at hb
  split at hb
  · exact ⟨_, ‹_›, Option.some.inj hb⟩
  · cases hb

/-- Two heartbeats of the sample cluster, of which only the second is within the credits. -/
def sampleTwice : TenantAccountingState :=
  ((sampleInput.initialState.appendHeartbeat
    { sampleHeartbeat 1 with cpuMillisecondsDelta := 8 }).appendHeartbeat
    { sampleHeartbeat 2 with cpuMillisecondsDelta := 2 }).countFlush

/-- A heartbeat without nodes, while the flag for the nodes is set. -/
def sampleIdle : TenantAccountingState :=
  { sampleInput.initialState.appendHeartbeat { sampleHeartbeat 1 with activeNodes := 0 } with
    exceededResources := Table.empty.set .activeNodes true }

/-- The accepted second heartbeat masks the rejected first one. A cluster without nodes
and without a reservation deletes the flag although no transfer was submitted for it. -/
theorem later_acceptance_masks_rejection :
    ((∃ x ∈ flushAnswers .positional (sampleTwice.batchInput .positional) Reference.service
        [({}, sampleBooks 5)],
        x.1.ledger = ResourceType.cpuHours.ledgerID ∧ x.2 = .exceedsCredits) ∧
      ∃ result, (submitTBBatch .positional (sampleTwice.batchInput .positional) Reference.service {}
          (sampleBooks 5)).1 = .ok result ∧
        (sampleTwice.applyBatchResult result).exceededResources .cpuHours = none) ∧
    ((∀ x ∈ flushAnswers .positional (sampleIdle.batchInput .positional) Reference.service
        [({}, sampleBooks 5)], x.1.ledger ≠ ResourceType.activeNodes.ledgerID) ∧
      sampleIdle.exceededResources .activeNodes = some true ∧
      ∃ result, (submitTBBatch .positional (sampleIdle.batchInput .positional) Reference.service {}
          (sampleBooks 5)).1 = .ok result ∧
        (sampleIdle.applyBatchResult result).exceededResources .activeNodes = none) :=
  ⟨⟨by decide +kernel, exists_of_sampleFlag (by decide +kernel)⟩, by decide +kernel,
    by decide +kernel, exists_of_sampleFlag (by decide +kernel)⟩

end CloudCredit.Accounting
