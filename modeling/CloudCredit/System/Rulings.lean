import CloudCredit.System.BatchAnswers
import CloudCredit.System.Credits

/-!
# What the ledger said last about a resource

The decisions on a resource of a tenant, as the submission paths take them: a transfer
other than a void is accepted or rejected. A batch activity that succeeds reports, for
every resource it touches, the newest of them.
-/
namespace CloudCredit.System

open Library TigerBeetle Domain Ledger Accounting

/-- A void takes nothing from an account, so it is never rejected for a lack of credits. -/
def Source.isVoid : Source → Bool
  | gaugeVoid .. => true
  | _ => false

/-- How a transfer of the tenant on the resource fared: `some true` if it was rejected,
`some false` if the submission paths take the answer as an acceptance. -/
def ruling (u : Uint128) (r : ResourceType) (x : Entry Source) : Option Bool :=
  if x.origin.tenant = u ∧ x.origin.resource = r ∧ x.origin.isVoid = false ∧
      classified x.answer = true then
    some (x.answer = .exceedsCredits)
  else none

/-- The rulings in a journal, newest first. -/
def rulings (u : Uint128) (r : ResourceType) (J : List (Entry Source)) : List Bool :=
  J.filterMap (ruling u r)

/-- The newest ruling. -/
def lastRuling (u : Uint128) (r : ResourceType) (J : List (Entry Source)) : Option Bool :=
  (rulings u r J).head?

/-- The result of a batch says that the newest ruling on the resource is `last`. -/
def Reports (r : ResourceType) (last : Option Bool)
    (per : Table ResourceType ResourceBatchResult) : Prop :=
  ∃ rr, per r = some rr ∧ rr.accepted = !rr.exceedsCredits ∧ last = some rr.exceedsCredits

variable {u : Uint128} {r : ResourceType} {J J' : List (Entry Source)}

theorem rulings_cons (x : Entry Source) :
    rulings u r (x :: J) = (ruling u r x).toList ++ rulings u r J := by
  cases hx : ruling u r x with
  | none => simp [rulings, hx]
  | some b => simp [rulings, hx]

theorem ruling_of_tenant_ne {x : Entry Source} (hx : x.origin.tenant ≠ u) :
    ruling u r x = none := by
  simp [ruling, hx]

theorem ruling_of_resource_ne {x : Entry Source} (hx : x.origin.resource ≠ r) :
    ruling u r x = none := by
  simp [ruling, hx]

theorem record_rulings_of_none {tb : Service} {L : Books} {xs : List (Source × Transfer)}
    (hxs : ∀ x ∈ xs, x.1.tenant ≠ u ∨ x.1.resource ≠ r) :
    rulings u r (tb.record (L, J) xs).2 = rulings u r J := by
  refine tb.record_keeps (P := fun y => rulings u r y.2 = rulings u r J) ?_ rfl
  intro M K x hx hK a L' _
  have hnone : ruling u r ⟨x.1, x.2, a⟩ = none := by
    rcases hxs x hx with htenant | hresource
    · exact ruling_of_tenant_ne htenant
    · exact ruling_of_resource_ne hresource
  rw [rulings_cons, hnone]
  exact hK

/-- What a list of results says about the resource, newest first. -/
def verdictsOn (r : ResourceType) (ps : List (ResourceType × ResourceBatchResult)) : List Bool :=
  (ps.reverse.filter (·.1 = r)).map (·.2.exceedsCredits)

theorem verdictsOn_cons (p : ResourceType × ResourceBatchResult)
    (ps : List (ResourceType × ResourceBatchResult)) :
    verdictsOn r (p :: ps) =
      verdictsOn r ps ++ if p.1 = r then [p.2.exceedsCredits] else [] := by
  by_cases hp : p.1 = r <;> simp [verdictsOn, hp]

theorem reports_setAll {per : Table ResourceType ResourceBatchResult}
    {ps : List (ResourceType × ResourceBatchResult)} (hr : ∃ p ∈ ps, p.1 = r)
    (hdual : ∀ p ∈ ps, p.2.accepted = !p.2.exceedsCredits)
    (hJ : rulings u r J' = verdictsOn r ps ++ rulings u r J) :
    Reports r (lastRuling u r J') (per.setAll ps) := by
  obtain ⟨q, hq, hqr⟩ := hr
  cases hf : ps.reverse.find? (·.1 = r) with
  | none => simpa [hqr] using List.find?_eq_none.mp hf q (List.mem_reverse.mpr hq)
  | some p =>
    have hmem := List.mem_reverse.mp (List.mem_of_find?_eq_some hf)
    refine ⟨p.2, ?_, hdual p hmem, ?_⟩
    · rw [Table.setAll_apply, hf]
      rfl
    · rw [lastRuling, hJ, verdictsOn, List.head?_append, List.head?_map, List.head?_filter, hf]
      rfl

theorem ruling_usage {cluster : Uint128} {seq : UInt64} {r' : ResourceType} {tr : Transfer}
    {a : CreateTransferResult} (ha : classified a = true) :
    (ruling u r ⟨.usage u cluster seq r', tr, a⟩).toList =
      if r' = r then [decide (a = .exceedsCredits)] else [] := by
  by_cases hr : r' = r <;>
    simp [ruling, hr, ha, Source.tenant, Source.resource, Source.isVoid]

theorem record_usage_rulings {tb : Service} (us : List (HeartbeatSignal × UsageTransfer)) {L : Books}
    (hclass : ∀ a ∈ (tb.createTransfers L (us.map (·.2.toTransfer))).1, classified a = true) :
    rulings u r (tb.record (L, J) (us.map fun x =>
        (.usage u x.1.clusterUUID x.1.sequenceNumber x.2.resource, x.2.toTransfer))).2 =
      verdictsOn r ((us.zip (tb.createTransfers L (us.map (·.2.toTransfer))).1).map fun x =>
        (x.1.2.resource, ⟨x.2 ≠ .exceedsCredits, x.2 = .exceedsCredits, duplicate x.2⟩)) ++
      rulings u r J := by
  induction us generalizing L J with
  | nil => rfl
  | cons x us ih =>
    simp only [List.map_cons, Service.createTransfers, List.forall_mem_cons] at hclass
    simp only [List.map_cons, Service.record, Service.createTransfers, List.zip_cons_cons,
      verdictsOn_cons, List.append_assoc]
    rw [ih hclass.2, rulings_cons, ruling_usage hclass.1]

theorem submitUsage_reports {h : Blake3} {input : TBBatchInput} {tb : Service} {att : BatchAttempt}
    {L : Books} {per : Table ResourceType ResourceBatchResult} (hu : input.tenantUUID = u)
    (hper : (submitUsage h input tb att L).1 = .ok per)
    (hr : ∃ x ∈ usageTransfers h input, x.2.resource = r) :
    att.usageFate = .answered ∧
      Reports r (lastRuling u r (tb.record (L, J) (usageEntries h input)).2) per := by
  obtain ⟨hfate, hclass, rfl⟩ := (submitUsage_ok_iff h input tb att L per).mp hper
  obtain ⟨x, hx, hxr⟩ := hr
  have hne : usageTransfers h input ≠ [] := List.ne_nil_of_mem hx
  refine ⟨hfate.resolve_left hne, reports_setAll (J := J) ?_ ?_ ?_⟩
  · have hlen : (tb.createTransfers L (usageRequest h input)).1.length =
        (usageTransfers h input).length := by
      rw [tb.createTransfers_length, usageRequest, List.length_map]
    obtain ⟨p, hp, hpr⟩ := (Table.exists_mem_zip hlen (·.2.resource = r)).mpr ⟨x, hx, hxr⟩
    exact ⟨_, List.mem_map.mpr ⟨p, hp, rfl⟩, hpr⟩
  · intro p hp
    obtain ⟨y, -, rfl⟩ := List.mem_map.mp hp
    simp
  · rw [usageEntries, hu]
    exact record_usage_rulings _ ((classifies_regular tb (usageRequest_regular h input) L).mp hclass)

theorem usageEntries_resource {h : Blake3} {input : TBBatchInput}
    (hr : ¬∃ x ∈ usageTransfers h input, x.2.resource = r) :
    ∀ x ∈ usageEntries h input, x.1.tenant ≠ u ∨ x.1.resource ≠ r := by
  intro x hx
  obtain ⟨y, hy, rfl⟩ := List.mem_map.mp hx
  exact .inr fun hyr => hr ⟨y, hy, hyr⟩

theorem submitUsage_silent {h : Blake3} {input : TBBatchInput} {tb : Service} {att : BatchAttempt}
    {L : Books} {per : Table ResourceType ResourceBatchResult}
    (hper : (submitUsage h input tb att L).1 = .ok per)
    (hr : ¬∃ x ∈ usageTransfers h input, x.2.resource = r) : per r = none := by
  obtain ⟨-, -, rfl⟩ := (submitUsage_ok_iff h input tb att L per).mp hper
  refine Table.setAll_of_notMem _ fun p hp hpr => hr ?_
  obtain ⟨y, hy, rfl⟩ := List.mem_map.mp hp
  exact ⟨y.1, (List.of_mem_zip hy).1, hpr⟩

theorem record_append (tb : Service) (s : Books × List (Entry Source))
    (xs ys : List (Source × Transfer)) :
    tb.record s (xs ++ ys) = tb.record (tb.record s xs) ys := by
  induction xs generalizing s with
  | nil => rfl
  | cons x xs ih => exact ih _

theorem record_update_rulings {tb : Service} {seqNo : UInt64} {input : TBBatchInput}
    {rand : ℕ → Uint128} {n : ℕ} {L : Books} {x : String × GaugePendingUpdate}
    (hu : input.tenantUUID = u) (hpos : x.2.resource = r → 0 < x.2.newAmount)
    (hclass : UpdateAnswer.Classified ⟨(answerVoid tb rand n L x.2).1,
      (answerNew tb rand n (answerVoid tb rand n L x.2).2 x.2).1⟩) :
    rulings u r (tb.record (L, J) ((x.2.transfers rand n).map fun y =>
        (gaugeSource seqNo input x y.2, y.1))).2 =
      (if x.2.resource = r then
        [decide ((answerNew tb rand n (answerVoid tb rand n L x.2).2 x.2).1 = some .exceedsCredits)]
        else []) ++ rulings u r J := by
  have hnew := hclass.2
  unfold GaugePendingUpdate.transfers
  by_cases hr : x.2.resource = r
  · cases hold : x.2.oldPendingID with
    | none =>
      simp only [answerNew, answerVoid, hold, hpos hr, if_true] at hnew ⊢
      simp [Service.record, rulings, ruling, gaugeSource, Source.tenant, Source.resource,
        Source.isVoid, hu, hr, hnew _ rfl]
    | some old =>
      simp only [answerNew, answerVoid, hold, hpos hr, if_true] at hnew ⊢
      simp [Service.record, rulings, ruling, gaugeSource, Source.tenant, Source.resource,
        Source.isVoid, hu, hr, hnew _ rfl]
  · rw [if_neg hr, List.nil_append]
    refine record_rulings_of_none fun y hy => .inr ?_
    obtain ⟨z, -, rfl⟩ := List.mem_map.mp hy
    simp only [gaugeSource]
    split_ifs <;> exact hr

theorem record_gauge_rulings {tb : Service} {seqNo : UInt64} {input : TBBatchInput}
    {rand : ℕ → Uint128} (hu : input.tenantUUID = u) (xs : List (String × GaugePendingUpdate))
    (hpos : ∀ x ∈ xs, x.2.resource = r → 0 < x.2.newAmount) {n : ℕ} {L : Books}
    (hclass : ∀ a ∈ (gaugeAnswers tb rand n L (xs.map Prod.snd)).1, a.Classified) :
    rulings u r (tb.record (L, J) (gaugeEntriesFrom seqNo input rand n xs)).2 =
      verdictsOn r ((xs.zip (gaugeOutcomes rand n (xs.map Prod.snd)
        (gaugeAnswers tb rand n L (xs.map Prod.snd)).1)).map gaugeResult) ++ rulings u r J := by
  induction xs generalizing n L J with
  | nil => rfl
  | cons x xs ih =>
    simp only [List.map_cons, gaugeAnswers, List.forall_mem_cons] at hclass hpos
    simp only [List.map_cons, gaugeAnswers, gaugeEntriesFrom, gaugeOutcomes, List.zip_cons_cons,
      verdictsOn_cons, record_append, List.append_assoc]
    have hbooks : (tb.record (L, J) ((x.2.transfers rand n).map fun y =>
        (gaugeSource seqNo input x y.2, y.1))).1 =
        (answerNew tb rand n (answerVoid tb rand n L x.2).2 x.2).2 := by
      rw [tb.record_books, List.map_map]
      exact congrArg Prod.snd (createTransfers_update tb rand n L x.2)
    rw [← Prod.mk.eta (p := tb.record (L, J) _), hbooks, ih hpos.2 hclass.2,
      record_update_rulings hu hpos.1 hclass.1]
    rfl

theorem gaugeTransfers_ne_nil {rand : ℕ → Uint128} {n : ℕ} {us : List GaugePendingUpdate}
    {x : GaugePendingUpdate} (hx : x ∈ us) (hpos : 0 < x.newAmount) :
    gaugeTransfers rand n us ≠ [] := by
  induction us generalizing n with
  | nil => cases hx
  | cons y us ih =>
    rcases List.mem_cons.mp hx with rfl | hx
    · simp [gaugeTransfers, GaugePendingUpdate.transfers, hpos]
    · simp [gaugeTransfers, ih hx]

theorem submitGauges_reports {seqNo : UInt64} {input : TBBatchInput} {tb : Service}
    {att : BatchAttempt} {L : Books} {per : Table ResourceType ResourceBatchResult}
    {R : TBBatchResult} (hu : input.tenantUUID = u)
    (hok : (submitGauges input tb att per L).1 = .ok R)
    (hr : ∃ x ∈ gaugeUpdates input att.clusters, x.2.resource = r)
    (hpos : ∀ x ∈ gaugeUpdates input att.clusters, x.2.resource = r → 0 < x.2.newAmount) :
    att.gaugeFate = .answered ∧
      Reports r (lastRuling u r (tb.record (L, J) (gaugeEntries seqNo input att)).2)
        R.perResource := by
  obtain ⟨hfate, hclass, rfl⟩ := (submitGauges_ok_iff input tb att L per R).mp hok
  obtain ⟨x, hx, hxr⟩ := hr
  have hanswers := (classifies_gauge tb att.rand 0 L _).mp hclass
  refine ⟨hfate.resolve_left fun hnil => ?_, reports_setAll (J := J) ?_ ?_ ?_⟩
  · exact gaugeTransfers_ne_nil (List.mem_map_of_mem hx) (hpos x hx hxr) (List.map_eq_nil_iff.mp hnil)
  · have hlen : (gaugeOutcomes att.rand 0 ((gaugeUpdates input att.clusters).map Prod.snd)
        (gaugeAnswers tb att.rand 0 L ((gaugeUpdates input att.clusters).map Prod.snd)).1).length =
        (gaugeUpdates input att.clusters).length := by
      rw [gaugeOutcomes_length att.rand (gaugeAnswers_length tb att.rand 0 L _), List.length_map]
    obtain ⟨p, hp, hpr⟩ := (Table.exists_mem_zip hlen (·.2.resource = r)).mpr ⟨x, hx, hxr⟩
    exact ⟨_, List.mem_map.mpr ⟨p, hp, rfl⟩, hpr⟩
  · intro p hp
    obtain ⟨y, hy, rfl⟩ := List.mem_map.mp hp
    exact gaugeOutcomes_dual _ _ (List.of_mem_zip hy).2
  · exact record_gauge_rulings hu _ hpos hanswers

theorem gaugeEntries_resource {seqNo : UInt64} {input : TBBatchInput} {att : BatchAttempt}
    (hr : ¬∃ x ∈ gaugeUpdates input att.clusters, x.2.resource = r) :
    ∀ x ∈ gaugeEntries seqNo input att, x.1.tenant ≠ u ∨ x.1.resource ≠ r := by
  intro x hx
  obtain ⟨k, y, hy, ⟨old, -, rfl⟩ | ⟨-, rfl⟩⟩ := mem_gaugeEntriesFrom hx
  · exact .inr fun hyr => hr ⟨y, hy, hyr⟩
  · exact .inr fun hyr => hr ⟨y, hy, hyr⟩

theorem submitGauges_silent {input : TBBatchInput} {tb : Service} {att : BatchAttempt} {L : Books}
    {per : Table ResourceType ResourceBatchResult} {R : TBBatchResult}
    (hok : (submitGauges input tb att per L).1 = .ok R)
    (hr : ¬∃ x ∈ gaugeUpdates input att.clusters, x.2.resource = r) :
    R.perResource r = per r := by
  obtain ⟨-, -, rfl⟩ := (submitGauges_ok_iff input tb att L per R).mp hok
  refine Table.setAll_of_notMem _ fun p hp hpr => hr ?_
  obtain ⟨y, hy, rfl⟩ := List.mem_map.mp hp
  exact ⟨y.1, (List.of_mem_zip hy).1, hpr⟩

end CloudCredit.System
