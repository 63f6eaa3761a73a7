import CloudCredit.Accounting.FlagVerdicts
import CloudCredit.TigerBeetle.OneLedger

/-!
# One resource of a batch beside the others

With the amounts of all other resources set to zero the request keeps the transfers of the
resource and the voids of the gauges, and each of them is decided as before. But one answer
without a case ends the activity for all resources, so a batch that passes only without the
others reports nothing on the resource, and one that stops at the first request does not
come to the gauges.
-/
namespace CloudCredit.Accounting

open Library TigerBeetle Domain Ledger

/-- The transfers that stay when the other amounts are zero: those on the ledger, and the
voids, which carry no amount. -/
def staysOn (l : UInt32) (t : Transfer) : Bool := t.ledger = l || t.flags.voidPendingTransfer

/-- The transfers that go share no identifier with those that stay, and no void names a
transfer of the same request. -/
structure Untangled (ts : List Transfer) (l : UInt32) : Prop where
  ids : ∀ t ∈ ts, staysOn l t = false → ∀ t' ∈ ts, staysOn l t' = true → t'.id ≠ t.id
  names : ∀ v ∈ ts, v.flags.voidPendingTransfer = true → ∀ t ∈ ts, v.pendingID ≠ t.id

/-- The identifiers that the transfers on the ledger and the voids look at. -/
def LookedAt (ts : List Transfer) (l : UInt32) (i : Uint128) : Prop :=
  ∃ t ∈ ts, staysOn l t = true ∧
    (i = t.id ∨ t.flags.voidPendingTransfer = true ∧ i = t.pendingID)

section Run

variable {tb : Service} {ids : Uint128 → Prop} {l : UInt32} {L M : Books} {ts : List Transfer}

theorem validRegular_of_accounts (haccounts : M.accounts = L.accounts) (t : Transfer) :
    M.validRegular t = L.validRegular t := by
  simp only [Books.validRegular, Books.onLedger, Books.account?, haccounts]

theorem createTransfers_alike (h : L.Alike ids l M) (hL : L.Wf) (hM : M.Wf)
    (hstays : ∀ t ∈ ts, staysOn l t = true →
      ids t.id ∧ (t.flags.voidPendingTransfer = true → ids t.pendingID))
    (hgoes : ∀ t ∈ ts, staysOn l t = false → ¬ids t.id)
    (hvalid : ∀ t ∈ ts, t.flags.voidPendingTransfer = false → L.validRegular t = true) :
    (tb.createTransfers L ts).2.Alike ids l (tb.createTransfers M (ts.filter (staysOn l))).2 ∧
      (Classifies tb L ts → Classifies tb M (ts.filter (staysOn l)) ∧
        answered tb M (ts.filter (staysOn l)) = (answered tb L ts).filter (staysOn l ·.1)) := by
  induction ts generalizing L M with
  | nil => exact ⟨h, fun _ => ⟨trivial, rfl⟩⟩
  | cons t ts ih =>
    rw [List.forall_mem_cons] at hstays hgoes hvalid
    have hdoc := tb.transfer_documented L t
    have hvalid' : ∀ s ∈ ts, s.flags.voidPendingTransfer = false →
        (tb.createTransfer L t).2.validRegular s = true := fun s hs hv =>
      (validRegular_of_accounts hdoc.accounts_eq s).trans (hvalid.2 s hs hv)
    cases hstay : staysOn l t with
    | false =>
      obtain ⟨hledger, hv⟩ : t.ledger ≠ l ∧ t.flags.voidPendingTransfer = false := by
        simpa [staysOn] using hstay
      obtain ⟨hbooks, hclass⟩ := ih (h.other hL hdoc hv hledger (hgoes.1 hstay)) (hdoc.wf hL) hM
        hstays.2 hgoes.2 hvalid'
      rw [List.filter_cons_of_neg (by simp [hstay]), answered,
        List.filter_cons_of_neg (by simp [hstay])]
      exact ⟨hbooks, fun hc => hclass hc.2⟩
    | true =>
      obtain ⟨hid, hpending⟩ := hstays.1 hstay
      have hl : t.flags.voidPendingTransfer = false → t.ledger = l := by
        intro hv
        simpa [staysOn, hv] using hstay
      obtain ⟨hsame, halike⟩ := h.createTransfer_valid tb hL hM hid hpending hl hvalid.1
      obtain ⟨hbooks, hclass⟩ := ih halike (hdoc.wf hL) ((tb.transfer_documented M t).wf hM)
        hstays.2 hgoes.2 hvalid'
      rw [List.filter_cons_of_pos hstay]
      refine ⟨hbooks, fun hc => ?_⟩
      -- an answer with a case is decided, so it is the same on both sides
      have hanswer : (tb.createTransfer M t).1 = (tb.createTransfer L t).1 :=
        hsame.resolve_right fun hnot => by
          rw [gaugeClassified_decided hc.1] at hnot
          cases hnot.2
      refine ⟨⟨hanswer ▸ hc.1, (hclass hc.2).1⟩, ?_⟩
      rw [answered, answered, List.filter_cons, if_pos (by exact hstay), hanswer, (hclass hc.2).2]

theorem createTransfers_part (tb : Service) (hL : L.Wf) (hts : Untangled ts l)
    (hvalid : ∀ t ∈ ts, t.flags.voidPendingTransfer = false → L.validRegular t = true) :
    (tb.createTransfers L ts).2.Alike (LookedAt ts l) l
        (tb.createTransfers L (ts.filter (staysOn l))).2 ∧
      (Classifies tb L ts → Classifies tb L (ts.filter (staysOn l)) ∧
        answered tb L (ts.filter (staysOn l)) = (answered tb L ts).filter (staysOn l ·.1)) := by
  refine createTransfers_alike (.refl _ l L) hL hL ?_ ?_ hvalid
  · intro t ht hstay
    exact ⟨⟨t, ht, hstay, .inl rfl⟩, fun hv => ⟨t, ht, hstay, .inr ⟨hv, rfl⟩⟩⟩
  · rintro t ht hgo ⟨t', ht', hstay, hid | ⟨hv, hid⟩⟩
    · exact hts.ids t ht hgo t' ht' hstay hid.symm
    · exact hts.names t' ht' hv t ht hid.symm

theorem Untangled.sublist {us : List Transfer} (hts : Untangled ts l) (hsub : us ⊆ ts) :
    Untangled us l where
  ids t ht hgo t' ht' := hts.ids t (hsub ht) hgo t' (hsub ht')
  names v hv hvoid t ht := hts.names v (hsub hv) hvoid t (hsub ht)

end Run

/-- The heartbeat with the amounts of all other resources set to zero. -/
def HeartbeatSignal.only (r : ResourceType) (hb : HeartbeatSignal) : HeartbeatSignal :=
  { hb with
    cpuMillisecondsDelta := if r = .cpuHours then hb.cpuMillisecondsDelta else 0
    memoryMBSecondsDelta := if r = .memoryGBHours then hb.memoryMBSecondsDelta else 0
    activeNodes := if r = .activeNodes then hb.activeNodes else 0 }

/-- The batch with the amounts of all other resources set to zero. -/
def TBBatchInput.only (input : TBBatchInput) (r : ResourceType) : TBBatchInput :=
  { input with heartbeats := input.heartbeats.map (HeartbeatSignal.only r) }

/-- The update with its amount set to zero, unless it is on the resource. -/
def zeroUnless (r : ResourceType) (u : GaugePendingUpdate) : GaugePendingUpdate :=
  { u with newAmount := if u.resource = r then u.newAmount else 0 }

theorem zeroUnless_self {r : ResourceType} {u : GaugePendingUpdate} (hr : u.resource = r) :
    zeroUnless r u = u := by
  rw [zeroUnless, if_pos hr]

section Only

variable (h : Blake3) (input : TBBatchInput) (r : ResourceType)

theorem heartbeatAmount_only (hb : HeartbeatSignal) (s : ResourceType) :
    heartbeatAmount (hb.only r) s = if s = r then heartbeatAmount hb s else 0 := by
  cases r <;> cases s <;> rfl

theorem usageTransfer?_only (hb : HeartbeatSignal) (s : ResourceType) :
    usageTransfer? h (input.only r) (hb.only r) s =
      if s = r then usageTransfer? h input hb s else none := by
  unfold usageTransfer?
  rw [heartbeatAmount_only]
  by_cases hs : s = r
  · rw [if_pos hs, if_pos hs]
    rfl
  · rw [if_neg hs, if_neg hs, if_pos rfl, ite_self]

theorem usageRequest_flatMap :
    usageRequest h input = input.heartbeats.flatMap fun hb =>
      allResources.filterMap fun s => (usageTransfer? h input hb s).map UsageTransfer.toTransfer := by
  simp [usageRequest, usageTransfers, List.map_flatMap, List.map_filterMap, Function.comp_def]

theorem staysOn_usage {u : UsageTransfer} :
    staysOn r.ledgerID u.toTransfer = decide (u.resource = r) := by
  simp only [staysOn, UsageTransfer.toTransfer, Bool.or_false]
  exact decide_eq_decide.mpr ⟨ResourceType.ledgerID_injective, congrArg _⟩

theorem usageRequest_only :
    usageRequest h (input.only r) = (usageRequest h input).filter (staysOn r.ledgerID) := by
  rw [usageRequest_flatMap, usageRequest_flatMap, List.filter_flatMap]
  show (input.heartbeats.map _).flatMap _ = _
  rw [List.flatMap_map]
  refine List.flatMap_congr fun hb _ => ?_
  rw [List.filter_filterMap]
  refine List.filterMap_congr fun s _ => ?_
  rw [usageTransfer?_only]
  cases hu : usageTransfer? h input hb s with
  | none => simp
  | some u =>
    obtain ⟨-, -, _, _, _, -, -, he⟩ := usageTransfer?_some hu
    have hs : u.resource = s := by rw [he]
    by_cases hr : s = r <;> simp [staysOn_usage, hs, hr, Option.filter]

theorem keepLatest_of_none {latest : Table String HeartbeatSignal} {hb : HeartbeatSignal}
    (hl : latest hb.clusterID = none) : keepLatest latest hb = latest.set hb.clusterID hb := by
  rw [keepLatest, hl]

theorem keepLatest_of_some {latest : Table String HeartbeatSignal} {hb prev : HeartbeatSignal}
    (hl : latest hb.clusterID = some prev) : keepLatest latest hb =
      if prev.sequenceNumber < hb.sequenceNumber then latest.set hb.clusterID hb else latest := by
  rw [keepLatest, hl]

theorem keepLatest_only (latest : Table String HeartbeatSignal) (hb : HeartbeatSignal) :
    keepLatest (fun c => (latest c).map (HeartbeatSignal.only r)) (hb.only r) =
      fun c => (keepLatest latest hb c).map (HeartbeatSignal.only r) := by
  have hset : Table.set (fun c => (latest c).map (HeartbeatSignal.only r)) hb.clusterID (hb.only r) =
      fun c => (latest.set hb.clusterID hb c).map (HeartbeatSignal.only r) := by
    funext c
    by_cases hc : c = hb.clusterID
    · simp [hc]
    · simp [Table.set_other _ hc]
  cases hl : latest hb.clusterID with
  | none =>
    have hl' : (latest hb.clusterID).map (HeartbeatSignal.only r) = none := by rw [hl]; rfl
    rw [keepLatest_of_none hl, keepLatest_of_none (by exact hl')]
    exact hset
  | some prev =>
    have hl' : (latest hb.clusterID).map (HeartbeatSignal.only r) = some (prev.only r) := by
      rw [hl]
      rfl
    rw [keepLatest_of_some hl, keepLatest_of_some (by exact hl')]
    have hseq : (prev.only r).sequenceNumber < (hb.only r).sequenceNumber ↔
      prev.sequenceNumber < hb.sequenceNumber := .rfl
    simp only [hseq]
    split_ifs
    · exact hset
    · rfl

theorem latestByCluster_only (hbs : List HeartbeatSignal) :
    latestByCluster (hbs.map (HeartbeatSignal.only r)) =
      fun c => (latestByCluster hbs c).map (HeartbeatSignal.only r) := by
  induction hbs using List.reverseRecOn with
  | nil => rfl
  | append_singleton hbs x ih =>
    rw [List.map_append, List.map_singleton, latestByCluster_append, latestByCluster_append, ih,
      keepLatest_only]

theorem gaugeUpdate?_only (c : String) (hb : HeartbeatSignal) (s : ResourceType) :
    gaugeUpdate? (input.only r) c (hb.only r) s = (gaugeUpdate? input c hb s).map (zeroUnless r) := by
  have hamount : (heartbeatAmount (hb.only r) s).toUInt64 =
      if s = r then (heartbeatAmount hb s).toUInt64 else 0 := by
    rw [heartbeatAmount_only]
    split_ifs <;> rfl
  unfold gaugeUpdate?
  rw [hamount]
  by_cases hg : s.isGauge = true
  · rw [if_pos hg, if_pos hg]
    cases hq : input.accountMap.tenantQuotaIDs s <;> cases hk : input.globalSinkIDs s <;>
      simp [TBBatchInput.only, HeartbeatSignal.only, zeroUnless, hq, hk]
  · rw [if_neg hg, if_neg hg]
    rfl

theorem gaugeUpdates_only (o : IterationOrder String) :
    gaugeUpdates (input.only r) o =
      (gaugeUpdates input o).map fun x => (x.1, zeroUnless r x.2) := by
  have hkeys : clusterKeys (input.only r).heartbeats = clusterKeys input.heartbeats := by
    unfold clusterKeys TBBatchInput.only
    rw [List.map_map]
    rfl
  unfold gaugeUpdates
  rw [hkeys, List.map_flatMap]
  refine List.flatMap_congr fun c _ => ?_
  unfold clusterUpdates
  rw [show (input.only r).heartbeats = input.heartbeats.map (HeartbeatSignal.only r) from rfl,
    latestByCluster_only]
  dsimp only
  cases latestByCluster input.heartbeats c with
  | none => rfl
  | some hb =>
    dsimp only [Option.map_some]
    rw [List.map_filterMap]
    refine List.filterMap_congr fun s _ => ?_
    rw [gaugeUpdate?_only]
    simp [Function.comp_def]

theorem transfers_zeroUnless (rand : ℕ → Uint128) (n : ℕ) (u : GaugePendingUpdate) :
    ((zeroUnless r u).transfers rand n).map Prod.fst =
      ((u.transfers rand n).map Prod.fst).filter (staysOn r.ledgerID) := by
  have hvoid : ∀ old, staysOn r.ledgerID (u.voidTransfer rand n old) = true := fun old => by
    simp [staysOn, GaugePendingUpdate.voidTransfer]
  have hnew : staysOn r.ledgerID (u.newTransfer rand n) = decide (u.resource = r) := by
    simp only [staysOn, GaugePendingUpdate.newTransfer, Bool.or_false]
    exact decide_eq_decide.mpr ⟨ResourceType.ledgerID_injective, congrArg _⟩
  unfold GaugePendingUpdate.transfers
  rw [List.map_append, List.map_append, List.filter_append]
  congr 1
  · have hold : (zeroUnless r u).oldPendingID = u.oldPendingID := rfl
    rw [hold]
    cases u.oldPendingID with
    | none => rfl
    | some old => exact (List.filter_cons_of_pos (l := []) (hvoid old)).symm
  · by_cases hr : u.resource = r
    · rw [zeroUnless_self hr]
      split_ifs <;> simp [hnew, hr]
    · have hzero : (zeroUnless r u).newAmount = 0 := if_neg hr
      rw [hzero, if_neg (by decide)]
      split_ifs <;> simp [hnew, hr]

theorem gaugeRequest_only (att : BatchAttempt) :
    gaugeRequest (input.only r) att = (gaugeRequest input att).filter (staysOn r.ledgerID) := by
  have hgauges : ∀ (us : List GaugePendingUpdate) (n : ℕ),
      (gaugeTransfers att.rand n (us.map (zeroUnless r))).map Prod.fst =
        ((gaugeTransfers att.rand n us).map Prod.fst).filter (staysOn r.ledgerID) := by
    intro us
    induction us with
    | nil => exact fun _ => rfl
    | cons u us ih =>
      intro n
      rw [List.map_cons, gaugeTransfers, gaugeTransfers, List.map_append, List.map_append,
        List.filter_append, transfers_zeroUnless, ih]
  rw [gaugeRequest, gaugeUpdates_only, List.map_map, gaugeRequest, ← hgauges, List.map_map]
  rfl

theorem batchRequest_only (att : BatchAttempt) :
    batchRequest h (input.only r) att =
      (batchRequest h input att).filter (staysOn r.ledgerID) := by
  rw [batchRequest, batchRequest, usageRequest_only, gaugeRequest_only, List.filter_append]

end Only

section Verdicts

variable {h : Blake3} {input : TBBatchInput} {tb : Service} {att : BatchAttempt} {L M : Books}
  {r : ResourceType} {ts : List Transfer}

theorem map_snd_answered (tb : Service) (L : Books) (ts : List Transfer) :
    (answered tb L ts).map Prod.snd = (tb.createTransfers L ts).1 := by
  induction ts generalizing L with
  | nil => rfl
  | cons t ts ih => simp [answered, Service.createTransfers, ih]

theorem length_answered (tb : Service) (L : Books) (ts : List Transfer) :
    (answered tb L ts).length = ts.length := by
  rw [← List.length_map (f := Prod.fst), map_fst_answered]

theorem length_filter_answered (tb : Service) (L : Books) (ts : List Transfer)
    (p : Transfer → Bool) :
    ((answered tb L ts).filter (p ·.1)).length = (ts.filter p).length := by
  conv_rhs => rw [← map_fst_answered tb L ts, List.filter_map, List.length_map]
  rfl

theorem writtenUsage_filter (h : Blake3) (input : TBBatchInput) (tb : Service) (L : Books)
    (r : ResourceType) :
    (((usageTransfers h input).zip (tb.createTransfers L (usageRequest h input)).1).map fun x =>
      ((x.1.2.resource, ⟨x.2 ≠ .exceedsCredits, x.2 = .exceedsCredits, duplicate x.2⟩) :
        ResourceType × ResourceBatchResult)).filter (·.1 = r) =
      ((answered tb L (usageRequest h input)).filter (staysOn r.ledgerID ·.1)).map fun x =>
        (r, ⟨x.2 ≠ .exceedsCredits, x.2 = .exceedsCredits, duplicate x.2⟩) := by
  rw [usageRequest, answered_map, List.filter_map, List.filter_map, List.map_map]
  have hfilter : ((staysOn r.ledgerID ·.1) ∘ fun p : (HeartbeatSignal × UsageTransfer) ×
      CreateTransferResult => (p.1.2.toTransfer, p.2)) = fun p => decide (p.1.2.resource = r) :=
    funext fun p => staysOn_usage r
  rw [hfilter]
  refine List.map_congr_left fun p hp => ?_
  have hr : p.1.2.resource = r := of_decide_eq_true (List.mem_filter.mp hp).2
  simp only [Function.comp_apply, hr]

theorem answerNew_congr {rand : ℕ → Uint128} {n : ℕ} {u : GaugePendingUpdate}
    (hsame : answered tb M ((u.transfers rand n).map Prod.fst) =
      answered tb L ((u.transfers rand n).map Prod.fst)) :
    (answerNew tb rand n (answerVoid tb rand n M u).2 u).1 =
      (answerNew tb rand n (answerVoid tb rand n L u).2 u).1 := by
  have hanswers := congrArg (List.map Prod.snd) hsame
  rw [map_snd_answered, map_snd_answered, createTransfers_update, createTransfers_update] at hanswers
  have hlength : (answerVoid tb rand n M u).1.toList.length =
      (answerVoid tb rand n L u).1.toList.length := by
    unfold answerVoid
    cases u.oldPendingID <;> rfl
  simpa using congrArg List.head? (List.append_inj hanswers hlength).2

theorem writtenGauges_congr {rand : ℕ → Uint128} {xs : List (String × GaugePendingUpdate)} {n : ℕ}
    (hsame : answered tb M ((gaugeTransfers rand n (xs.map Prod.snd)).map Prod.fst) =
      answered tb L ((gaugeTransfers rand n (xs.map Prod.snd)).map Prod.fst)) :
    writtenGauges tb rand n M xs = writtenGauges tb rand n L xs := by
  induction xs generalizing n L M with
  | nil => rfl
  | cons x xs ih =>
    rw [answered_gauges_cons, answered_gauges_cons] at hsame
    obtain ⟨hhead, htail⟩ := List.append_inj hsame (by rw [length_answered, length_answered])
    rw [writtenGauges_cons, writtenGauges_cons, answerNew_congr hhead, ih htail]

theorem writtenGauges_filter {rand : ℕ → Uint128} {xs : List (String × GaugePendingUpdate)} {n : ℕ}
    (hxs : ∀ x ∈ xs, x.2.resource ≠ r) : (writtenGauges tb rand n L xs).filter (·.1 = r) = [] := by
  rw [List.filter_eq_nil_iff]
  intro p hp
  obtain ⟨y, hy, rfl⟩ := List.mem_map.mp hp
  exact fun hyr => hxs y.1 (List.of_mem_zip hy).1 (of_decide_eq_true hyr)

theorem isGauge_of_mem {o : IterationOrder String} {x : String × GaugePendingUpdate}
    (hx : x ∈ gaugeUpdates input o) : x.2.resource.isGauge = true := by
  obtain ⟨hb, -, hu⟩ := mem_gaugeUpdates.mp hx
  exact (gaugeUpdate?_some hu).1

theorem isGauge_unique {s : ResourceType} (hr : r.isGauge = true) (hs : s.isGauge = true) : s = r := by
  cases r <;> cases s <;> first | rfl | exact absurd hr (by decide) | exact absurd hs (by decide)

theorem gaugeUpdates_only_self (input : TBBatchInput) (o : IterationOrder String)
    (hr : r.isGauge = true) : gaugeUpdates (input.only r) o = gaugeUpdates input o := by
  rw [gaugeUpdates_only]
  conv_rhs => rw [← List.map_id (gaugeUpdates input o)]
  refine List.map_congr_left fun x hx => ?_
  rw [zeroUnless_self (isGauge_unique hr (isGauge_of_mem hx))]
  rfl

theorem written_only (hL : L.Wf) (hts : Untangled (batchRequest h input att) r.ledgerID)
    (hvalid : ∀ t ∈ batchRequest h input att, t.flags.voidPendingTransfer = false →
      L.validRegular t = true)
    (hc : Classifies tb L (batchRequest h input att)) :
    (written h (input.only r) tb att L).filter (·.1 = r) =
      (written h input tb att L).filter (·.1 = r) := by
  obtain ⟨-, hanswers⟩ := (createTransfers_part tb hL hts hvalid).2 hc
  rw [← batchRequest_only, batchRequest, batchRequest, answered_append, answered_append,
    List.filter_append] at hanswers
  obtain ⟨husage, hgauge⟩ := List.append_inj hanswers (by
    rw [length_answered, length_filter_answered, usageRequest_only])
  have hidem : ∀ xs : List (Transfer × CreateTransferResult),
      (xs.filter (staysOn r.ledgerID ·.1)).filter (staysOn r.ledgerID ·.1) =
        xs.filter (staysOn r.ledgerID ·.1) := fun xs => by simp
  rw [written, written, List.filter_append, List.filter_append, writtenUsage_filter,
    writtenUsage_filter, husage, hidem]
  congr 1
  by_cases hr : r.isGauge = true
  · have hsame := gaugeUpdates_only_self input att.clusters hr
    rw [hsame]
    refine congrArg _ (writtenGauges_congr ?_)
    have hrequest : gaugeRequest (input.only r) att = gaugeRequest input att := by
      rw [gaugeRequest, hsame, gaugeRequest]
    rw [hrequest] at hgauge
    refine hgauge.trans (List.Sublist.eq_of_length List.filter_sublist ?_)
    rw [← hgauge, length_answered, length_answered]
    rfl
  · have hne : ∀ (i : TBBatchInput), ∀ x ∈ gaugeUpdates i att.clusters, x.2.resource ≠ r :=
      fun i x hx hxr => hr (hxr ▸ isGauge_of_mem hx)
    rw [writtenGauges_filter (hne _), writtenGauges_filter (hne _)]

end Verdicts

/-- The verdict on a resource, if one is reported. -/
def reportedOn (reply : Except ActivityError TBBatchResult) (r : ResourceType) :
    Option ResourceBatchResult :=
  match reply with
  | .ok result => result.perResource r
  | .error _ => none

/-- The attempt leaves the account with the same balance and the same live reservations, and
reports the same verdict on the resource, as with the other amounts set to zero. -/
def Independent (h : Blake3) (input : TBBatchInput) (tb : Service) (att : BatchAttempt) (L : Books)
    (r : ResourceType) (quota : Uint128) : Prop :=
  (submitTBBatch h (input.only r) tb att L).2.balance quota =
      (submitTBBatch h input tb att L).2.balance quota ∧
    (submitTBBatch h (input.only r) tb att L).2.held quota =
      (submitTBBatch h input tb att L).2.held quota ∧
    reportedOn (submitTBBatch h (input.only r) tb att L).1 r =
      reportedOn (submitTBBatch h input tb att L).1 r

/-- The part of it about the books. -/
def SameBooks (h : Blake3) (input : TBBatchInput) (tb : Service) (att : BatchAttempt) (L : Books)
    (r : ResourceType) (quota : Uint128) : Prop :=
  (submitTBBatch h (input.only r) tb att L).2.balance quota =
      (submitTBBatch h input tb att L).2.balance quota ∧
    (submitTBBatch h (input.only r) tb att L).2.held quota =
      (submitTBBatch h input tb att L).2.held quota

/-- The batch has an entry for the resource. -/
def HasEntry (h : Blake3) (input : TBBatchInput) (att : BatchAttempt) (r : ResourceType) : Prop :=
  ∃ e ∈ entries h input att, e.1 = r

section Independence

variable {h : Blake3} {input : TBBatchInput} {tb : Service} {att : BatchAttempt} {L : Books}
  {r : ResourceType} {quota : Uint128} {a : Account}

theorem writtenGauges_map_fst (rand : ℕ → Uint128) (n : ℕ)
    (xs : List (String × GaugePendingUpdate)) :
    (writtenGauges tb rand n L xs).map Prod.fst =
      (entriesOfGauges rand n (xs.map Prod.snd)).map Prod.fst := by
  induction xs generalizing n L with
  | nil => rfl
  | cons x xs ih =>
    rw [writtenGauges_cons, List.map_cons, ih, List.map_cons, entriesOfGauges, List.map_cons]

theorem written_map_fst (h : Blake3) (input : TBBatchInput) (tb : Service) (att : BatchAttempt)
    (L : Books) : (written h input tb att L).map Prod.fst = (entries h input att).map Prod.fst := by
  have hlen : (usageTransfers h input).length ≤
      (tb.createTransfers L (usageRequest h input)).1.length := by
    rw [tb.createTransfers_length, usageRequest, List.length_map]
  rw [written, entries, List.map_append, List.map_append, writtenGauges_map_fst, List.map_map,
    List.map_map]
  congr 1
  conv_rhs => rw [← List.map_fst_zip hlen, List.map_map]
  rfl

theorem reportedOn_isSome :
    (reportedOn (submitTBBatch h input tb att L).1 r).isSome = true ↔
      BatchPasses h input tb att L ∧ HasEntry h input att r := by
  have hentry : HasEntry h input att r ↔ ∃ p ∈ written h input tb att L, p.1 = r := by
    rw [HasEntry, ← List.mem_map, ← written_map_fst h input tb att L, List.mem_map]
  rw [batchPasses_iff, hentry]
  cases hr : (submitTBBatch h input tb att L).1 with
  | error e => simp [reportedOn]
  | ok result =>
    obtain ⟨-, -, -, rfl⟩ := (submitTBBatch_ok_iff h input tb att L result).mp hr
    rw [reportedOn, batchResult_perResource, Table.setAll_apply]
    simp

theorem hasEntry_iff : HasEntry h input att r ↔
    (∃ t ∈ usageRequest h input, t.ledger = r.ledgerID) ∨
      ∃ x ∈ gaugeUpdates input att.clusters, x.2.resource = r := by
  have hgauges : ∀ (us : List GaugePendingUpdate) (n : ℕ),
      (entriesOfGauges att.rand n us).map Prod.fst = us.map (·.resource) := by
    intro us
    induction us with
    | nil => exact fun _ => rfl
    | cons u us ih => exact fun n => by rw [entriesOfGauges, List.map_cons, ih, List.map_cons]
  have husage : ∀ u : UsageTransfer, u.toTransfer.ledger = r.ledgerID ↔ u.resource = r := fun u =>
    ⟨fun he => ResourceType.ledgerID_injective he, fun he => congrArg ResourceType.ledgerID he⟩
  rw [HasEntry, ← List.mem_map, entries, List.map_append, List.mem_append, hgauges]
  simp [usageRequest, husage]

theorem hasEntry_only : HasEntry h (input.only r) att r ↔ HasEntry h input att r := by
  rw [hasEntry_iff, hasEntry_iff, usageRequest_only, gaugeUpdates_only]
  refine or_congr ?_ ?_
  · simp only [List.mem_filter, staysOn, Bool.or_eq_true, decide_eq_true_eq]
    exact ⟨fun ⟨t, ht, hl⟩ => ⟨t, ht.1, hl⟩, fun ⟨t, ht, hl⟩ => ⟨t, ⟨ht, .inl hl⟩, hl⟩⟩
  · simp [zeroUnless]

theorem usageTransfers_only (hnil : usageTransfers h input = []) :
    usageTransfers h (input.only r) = [] := by
  rw [← usageRequest_eq_nil, usageRequest_only, (usageRequest_eq_nil h input).mpr hnil]
  rfl

theorem reached_of_not_passing (hnot : ¬UsagePasses h input tb att L) :
    reachedTransfers h input tb att L =
      if att.usageFate.reached then usageRequest h input else [] := by
  have hfail : (submitUsage h input tb att L).1.toBool = false := by
    rw [← Bool.not_eq_true, submitUsage_toBool, usageSucceeds_iff]
    exact hnot
  rw [reachedTransfers, hfail, Bool.false_and, if_neg Bool.false_ne_true, List.append_nil]

theorem reached_of_passing (hpasses : UsagePasses h input tb att L) :
    reachedTransfers h input tb att L =
      usageRequest h input ++ if att.gaugeFate.reached then gaugeRequest input att else [] := by
  have hok := (submitUsage_toBool h input tb att L).mpr ((usageSucceeds_iff h input tb att L).mpr
    hpasses)
  have husage : (if att.usageFate.reached then usageRequest h input else []) =
      usageRequest h input := by
    rcases hpasses.1 with hnil | hfate
    · rw [(usageRequest_eq_nil h input).mpr hnil, ite_self]
    · rw [hfate]
      rfl
  rw [reachedTransfers, hok, Bool.true_and, husage]

theorem mem_gaugeRequest {t : Transfer} (ht : t ∈ gaugeRequest input att) :
    t.ledger = ResourceType.activeNodes.ledgerID ∧
      input.accountMap.tenantQuotaIDs .activeNodes = some t.debitAccountID ∧
      (t.flags.voidPendingTransfer = true ∨ t.flags.pending = true) := by
  obtain ⟨u, hu, k, hk⟩ := mem_gaugeTransfers ht
  obtain ⟨x, hx, rfl⟩ := List.mem_map.mp hu
  have hr : x.2.resource = .activeNodes := of_decide_eq_true (isGauge_of_mem hx)
  obtain ⟨hb, -, hup⟩ := mem_gaugeUpdates.mp hx
  obtain ⟨-, quota, sink, hquota, -, he⟩ := gaugeUpdate?_some hup
  rw [hr] at hquota
  have hid : x.2.tenantQuotaID = quota := by rw [he]
  rcases hk with ⟨old, -, rfl⟩ | ⟨-, rfl⟩
  · exact ⟨congrArg ResourceType.ledgerID hr, hquota.trans (congrArg some hid.symm), .inl rfl⟩
  · exact ⟨congrArg ResourceType.ledgerID hr, hquota.trans (congrArg some hid.symm), .inr rfl⟩

section Parts

variable (hL : L.Wf) (hts : Untangled (batchRequest h input att) r.ledgerID)
  (hvalid : ∀ t ∈ batchRequest h input att, t.flags.voidPendingTransfer = false →
    L.validRegular t = true)

include hL hts hvalid

theorem usagePasses_only (hpasses : UsagePasses h input tb att L) :
    UsagePasses h (input.only r) tb att L := by
  obtain ⟨hsent, hanswers⟩ := hpasses
  have hsub : usageRequest h input ⊆ batchRequest h input att := List.subset_append_left _ _
  obtain ⟨-, hclass⟩ := createTransfers_part tb hL (hts.sublist hsub) fun t ht => hvalid t (hsub ht)
  refine ⟨hsent.imp_left usageTransfers_only, ?_⟩
  rw [usageRequest_only]
  exact classifies_iff.mp (hclass (classifies_iff.mpr hanswers)).1

theorem batchPasses_only (hpasses : BatchPasses h input tb att L) :
    BatchPasses h (input.only r) tb att L ∧
      reportedOn (submitTBBatch h (input.only r) tb att L).1 r =
        reportedOn (submitTBBatch h input tb att L).1 r := by
  obtain ⟨husage, hgauge, hanswers⟩ := hpasses
  have hclass := classifies_iff.mpr hanswers
  obtain ⟨hpart, -⟩ := (createTransfers_part tb hL hts hvalid).2 hclass
  rw [← batchRequest_only] at hpart
  have husage' : usageTransfers h (input.only r) = [] ∨ att.usageFate = .answered :=
    husage.imp_left usageTransfers_only
  have hgauge' : gaugeRequest (input.only r) att = [] ∨ att.gaugeFate = .answered := by
    refine hgauge.imp (fun hnil => ?_) id
    rw [gaugeRequest_only, hnil]
    rfl
  have hok := (submitTBBatch_ok_iff h input tb att L _).mpr ⟨husage, hgauge, hclass, rfl⟩
  have hok' := (submitTBBatch_ok_iff h (input.only r) tb att L _).mpr ⟨husage', hgauge', hpart, rfl⟩
  refine ⟨⟨husage', hgauge', classifies_iff.mp hpart⟩, ?_⟩
  rw [hok, hok', reportedOn, reportedOn, batchResult_perResource, batchResult_perResource]
  exact Table.setAll_congr _ (written_only hL hts hvalid hclass)

theorem reportedOn_only_iff :
    reportedOn (submitTBBatch h (input.only r) tb att L).1 r =
        reportedOn (submitTBBatch h input tb att L).1 r ↔
      ¬HasEntry h input att r ∨ BatchPasses h input tb att L ∨ ¬BatchPasses h (input.only r) tb att L := by
  by_cases hfull : BatchPasses h input tb att L
  · exact iff_of_true (batchPasses_only hL hts hvalid hfull).2 (.inr (.inl hfull))
  · have hnone : reportedOn (submitTBBatch h input tb att L).1 r = none := by
      rw [← Option.not_isSome_iff_eq_none, reportedOn_isSome]
      exact fun hboth => hfull hboth.1
    rw [hnone, ← Option.not_isSome_iff_eq_none, reportedOn_isSome, hasEntry_only]
    tauto

theorem same_books (ha : a ∈ L.accounts) (hledger : a.ledger = r.ledgerID)
    (husage : UsagePasses h (input.only r) tb att L ↔ UsagePasses h input tb att L) :
    SameBooks h input tb att L r a.id := by
  have hreached : reachedTransfers h (input.only r) tb att L =
      (reachedTransfers h input tb att L).filter (staysOn r.ledgerID) := by
    have htoBool : (submitUsage h (input.only r) tb att L).1.toBool =
        (submitUsage h input tb att L).1.toBool := by
      rw [Bool.eq_iff_iff, submitUsage_toBool, submitUsage_toBool, usageSucceeds_iff,
        usageSucceeds_iff, husage]
    rw [reachedTransfers, reachedTransfers, htoBool, List.filter_append, usageRequest_only,
      gaugeRequest_only]
    split_ifs <;> rfl
  have hsub := reachedTransfers_subset h input tb att L
  obtain ⟨halike, -⟩ := createTransfers_part tb hL (hts.sublist hsub) fun t ht => hvalid t (hsub ht)
  have hkept : a ∈ (tb.createTransfers L (reachedTransfers h input tb att L)).2.accounts :=
    (tb.createTransfers_grows L _).accounts.subset ha
  rw [SameBooks, submitTBBatch_books, submitTBBatch_books, hreached]
  exact ⟨halike.balance a hkept hledger, halike.held a hkept hledger⟩

theorem same_books_of_cumulative (ha : a ∈ L.accounts) (hledger : a.ledger = r.ledgerID)
    (hr : r.isGauge = false) :
    SameBooks h input tb att L r a.id := by
  by_cases hfull : UsagePasses h input tb att L
  · exact same_books hL hts hvalid ha hledger
      (iff_of_true (usagePasses_only hL hts hvalid hfull) hfull)
  by_cases honly : UsagePasses h (input.only r) tb att L
  · have husage : usageRequest h (input.only r) =
        (if att.usageFate.reached then usageRequest h input else []).filter
          (staysOn r.ledgerID) := by
      rcases honly.1 with hnil | hfate
      · have hempty := (usageRequest_eq_nil h (input.only r)).mpr hnil
        rw [hempty]
        split_ifs
        · rw [← usageRequest_only, hempty]
        · rfl
      · rw [hfate, usageRequest_only]
        rfl
    have hsub : (if att.usageFate.reached then usageRequest h input else []) ⊆
        batchRequest h input att := by
      split_ifs
      · exact List.subset_append_left _ _
      · exact List.nil_subset _
    obtain ⟨halike, -⟩ := createTransfers_part tb hL (hts.sublist hsub) fun t ht =>
      hvalid t (hsub ht)
    have hkept : a ∈ (tb.createTransfers L
        (if att.usageFate.reached then usageRequest h input else [])).2.accounts :=
      (tb.createTransfers_grows L _).accounts.subset ha
    have hbalance := halike.balance a hkept hledger
    have hheld := halike.held a hkept hledger
    rw [SameBooks, submitTBBatch_books, submitTBBatch_books, reached_of_not_passing hfull,
      reached_of_passing honly, Service.createTransfers_append, husage]
    have hoff := createTransfers_off_ledger tb
      (if att.gaugeFate.reached then gaugeRequest (input.only r) att else [])
      (tb.createTransfers_wf hL ((if att.usageFate.reached then usageRequest h input else []).filter
          (staysOn r.ledgerID)))
      ((tb.createTransfers_grows L _).accounts.subset ha) (fun t ht => ?_)
    · exact ⟨hoff.1.trans hbalance, hoff.2.trans hheld⟩
    · obtain ⟨-, ht⟩ := List.mem_ite_nil_right.mp ht
      rw [(mem_gaugeRequest ht).1, hledger]
      refine ⟨ResourceType.ledgerID_ne_zero _, fun he => ?_⟩
      rw [← ResourceType.ledgerID_injective he] at hr
      cases hr
  · exact same_books hL hts hvalid ha hledger (iff_of_false honly hfull)

end Parts

theorem same_books_of_gauge (hL : L.Wf) (hts : Untangled (batchRequest h input att) r.ledgerID)
    (ha : a ∈ L.accounts) (hledger : a.ledger = r.ledgerID)
    (hquota : input.accountMap.tenantQuotaIDs r = some a.id) (hr : r.isGauge = true)
    (hnot : ¬UsagePasses h input tb att L) :
    SameBooks h input tb att L r a.id ↔
      att.gaugeFate.reached = false ∨ Inert tb L (gaugeRequest input att) := by
  obtain rfl : r = .activeNodes := of_decide_eq_true hr
  have husage : usageRequest h (input.only .activeNodes) = [] := by
    rw [usageRequest_only, List.filter_eq_nil_iff]
    intro t ht hstay
    simp only [staysOn, Bool.or_eq_true, decide_eq_true_eq, usage_ledger_ne ht,
      usageRequest_regular h input t ht, Bool.false_eq_true, or_self] at hstay
  have honly : UsagePasses h (input.only .activeNodes) tb att L :=
    ⟨.inl ((usageRequest_eq_nil h _).mp husage), by rw [husage]; trivial⟩
  have hrequest : gaugeRequest (input.only .activeNodes) att = gaugeRequest input att := by
    rw [gaugeRequest, gaugeUpdates_only_self input att.clusters hr, gaugeRequest]
  have hfull := createTransfers_off_ledger tb
    (if att.usageFate.reached then usageRequest h input else []) hL ha fun t ht => by
      obtain ⟨-, ht⟩ := List.mem_ite_nil_right.mp ht
      obtain ⟨-, s, -, hs⟩ := mem_usageRequest ht
      exact ⟨hs ▸ s.ledgerID_ne_zero, hledger ▸ usage_ledger_ne ht⟩
  rw [SameBooks, submitTBBatch_books, submitTBBatch_books, reached_of_not_passing hnot,
    reached_of_passing honly, husage, hrequest, hfull.1, hfull.2, List.nil_append]
  cases hreached : att.gaugeFate.reached with
  | false => exact iff_of_true ⟨rfl, rfl⟩ (.inl rfl)
  | true =>
    rw [if_pos rfl, or_iff_right (by simp)]
    constructor
    · rintro ⟨-, hheld⟩
      refine inert_of_held hL (hL.account_ne_zero ha) (fun t ht => ?_) (fun t ht =>
        (mem_gaugeRequest ht).2.2) (fun v hv hvoid t ht => ?_) hheld
      · exact Option.some.inj ((mem_gaugeRequest ht).2.1.symm.trans hquota)
      · exact hts.names v (List.mem_append_right _ hv) hvoid t (List.mem_append_right _ ht)
    · intro hinert
      obtain ⟨hbalance, hlive⟩ := createTransfers_inert hinert
      exact ⟨congrFun hbalance _, by rw [Books.held, hlive, Books.held]⟩

end Independence

/-- A resource does not depend on the others exactly if the batch has no entry for it, or
passes as a whole, or does not pass even without the others and the gauges that the whole
batch does not come to have no effect on it. -/
theorem resource_independent_iff (h : Blake3) (input : TBBatchInput) (tb : Service)
    (att : BatchAttempt) (L : Books) (r : ResourceType) (a : Account) (hL : L.Wf)
    (ha : a ∈ L.accounts) (hledger : a.ledger = r.ledgerID)
    (hquota : input.accountMap.tenantQuotaIDs r = some a.id)
    (hts : Untangled (batchRequest h input att) r.ledgerID)
    (hvalid : ∀ t ∈ batchRequest h input att, t.flags.voidPendingTransfer = false →
      L.validRegular t = true) :
    Independent h input tb att L r a.id ↔
      ¬HasEntry h input att r ∨ BatchPasses h input tb att L ∨
        ¬BatchPasses h (input.only r) tb att L ∧
          (r.isGauge = false ∨ UsagePasses h input tb att L ∨ att.gaugeFate.reached = false ∨
            Inert tb L (gaugeRequest input att)) := by
  have hbooks : SameBooks h input tb att L r a.id ↔
      r.isGauge = false ∨ UsagePasses h input tb att L ∨ att.gaugeFate.reached = false ∨
        Inert tb L (gaugeRequest input att) := by
    cases hr : r.isGauge with
    | false =>
      exact iff_of_true (same_books_of_cumulative hL hts hvalid ha hledger hr) (.inl rfl)
    | true =>
      by_cases husage : UsagePasses h input tb att L
      · exact iff_of_true (same_books hL hts hvalid ha hledger
          (iff_of_true (usagePasses_only hL hts hvalid husage) husage)) (.inr (.inl husage))
      · rw [same_books_of_gauge hL hts ha hledger hquota hr husage]
        simp [husage]
  have hgauges : ¬HasEntry h input att r → r.isGauge = true → gaugeRequest input att = [] := by
    intro hno hr
    refine gaugeRequest_eq_nil_of_nil input att (List.eq_nil_iff_forall_not_mem.mpr fun x hx => ?_)
    exact hno (hasEntry_iff.mpr (.inr ⟨x, hx, isGauge_unique hr (isGauge_of_mem hx)⟩))
  have hpassing : BatchPasses h input tb att L → UsagePasses h input tb att L := by
    rintro ⟨husage, -, hanswers⟩
    rw [batchRequest, ← classifies_iff, classifies_append, classifies_iff] at hanswers
    exact ⟨husage, hanswers.1⟩
  have hparts : Independent h input tb att L r a.id ↔ SameBooks h input tb att L r a.id ∧
      reportedOn (submitTBBatch h (input.only r) tb att L).1 r =
        reportedOn (submitTBBatch h input tb att L).1 r := and_assoc.symm
  rw [hparts, hbooks, reportedOn_only_iff hL hts hvalid]
  constructor
  · rintro ⟨hb, hno | hfull | honly⟩
    · exact .inl hno
    · exact .inr (.inl hfull)
    · exact .inr (.inr ⟨honly, hb⟩)
  · rintro (hno | hfull | ⟨honly, hb⟩)
    · refine ⟨?_, .inl hno⟩
      cases hr : r.isGauge with
      | false => exact .inl rfl
      | true =>
        rw [hgauges hno hr]
        exact .inr (.inr (.inr trivial))
    · exact ⟨.inr (.inl (hpassing hfull)), .inr (.inl hfull)⟩
    · exact ⟨hb, .inr (.inr honly)⟩

/-- The hours of the sample batch are charged and reported as if the memory and the nodes were
not there. -/
theorem sample_hours_independent :
    Independent .positional sampleBatch Reference.service {} (sampleBooks 6) .cpuHours
      ((sampleIDs 10 .cpuHours).getD 0) :=
  (resource_independent_iff .positional sampleBatch Reference.service {} (sampleBooks 6) .cpuHours
    (quotaAccount (sampleID 1) .cpuHours ((sampleIDs 10 .cpuHours).getD 0)) (sampleBooks_wf 6)
    (by decide +kernel) rfl (by decide +kernel) ⟨by decide +kernel, by decide +kernel⟩
    (by decide +kernel)).mpr (.inr (.inl ⟨.inr rfl, .inr rfl, by decide +kernel⟩))

/-- The books after a first attempt whose request for the gauges got lost. -/
def interruptedBooks : Books :=
  (submitTBBatch .positional sampleBatch Reference.service
    { gaugeFate := .lostRequest "unavailable" } (sampleBooks 6)).2

/-- The second attempt repeats the rejected memory, fails because its identifier is used up,
and does not reserve the nodes. Without the memory it would. -/
theorem rejected_resource_blocks_others :
    interruptedBooks.Wf ∧
      Untangled (batchRequest .positional sampleBatch {}) ResourceType.activeNodes.ledgerID ∧
      (submitTBBatch .positional sampleBatch Reference.service {} interruptedBooks).1.toBool =
        false ∧
      (submitTBBatch .positional sampleBatch Reference.service {} interruptedBooks).2.held
        ((sampleIDs 10 .activeNodes).getD 0) = [] ∧
      (submitTBBatch .positional (sampleBatch.only .activeNodes) Reference.service {}
        interruptedBooks).1.toBool = true ∧
      ((submitTBBatch .positional (sampleBatch.only .activeNodes) Reference.service {}
        interruptedBooks).2.held ((sampleIDs 10 .activeNodes).getD 0)).map (·.amount) = [1] := by
  refine ⟨?_, ⟨by decide +kernel, by decide +kernel⟩, by decide +kernel, by decide +kernel,
    by decide +kernel, by decide +kernel⟩
  rw [interruptedBooks, submitTBBatch_books]
  exact Reference.service.createTransfers_wf (sampleBooks_wf 6) _

end CloudCredit.Accounting
