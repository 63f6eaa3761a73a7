import CloudCredit.Accounting.Handed
import CloudCredit.System.Model

/-!
# Every transfer belongs to its tenant

The transfers of a request with their sources are the transfers the activity
submits. Each of them is built from the accounts of the tenant it is tagged
with, and its identifier is the one derived from its source.
-/
namespace CloudCredit.System

open Library TigerBeetle Domain Ledger Accounting

theorem usageEntries_transfers (h : Blake3) (input : TBBatchInput) :
    (usageEntries h input).map Prod.snd = usageRequest h input := by
  simp [usageEntries, usageRequest]

theorem gaugeEntriesFrom_transfers (seqNo : UInt64) (input : TBBatchInput) (rand : ℕ → Uint128)
    (n : ℕ) (xs : List (String × GaugePendingUpdate)) :
    (gaugeEntriesFrom seqNo input rand n xs).map Prod.snd =
      (gaugeTransfers rand n (xs.map Prod.snd)).map Prod.fst := by
  induction xs generalizing n with
  | nil => rfl
  | cons x xs ih => simp [gaugeEntriesFrom, gaugeTransfers, ih, Function.comp_def]

theorem gaugeEntries_transfers (seqNo : UInt64) (input : TBBatchInput) (att : BatchAttempt) :
    (gaugeEntries seqNo input att).map Prod.snd = gaugeRequest input att :=
  gaugeEntriesFrom_transfers seqNo input att.rand 0 _

theorem allocationEntriesFrom_transfers (source : ResourceType → Source) (rand : ℕ → Uint128)
    (n : ℕ) (as : List AllocationTransfer) :
    (allocationEntriesFrom source rand n as).map Prod.snd = allocationTransfers rand n as := by
  induction as generalizing n with
  | nil => rfl
  | cons a as ih => simp [allocationEntriesFrom, allocationTransfers, ih]

theorem createTransfers_reached (tb : Service) (L : Books) (fate : Fate)
    (xs : List (Source × Transfer)) :
    (tb.createTransfers L ((reachedEntries fate xs).map Prod.snd)).2 =
      if fate.reached then (tb.createTransfers L (xs.map Prod.snd)).2 else L := by
  unfold reachedEntries
  split_ifs <;> rfl

theorem mem_reachedEntries {fate : Fate} {xs : List (Source × Transfer)} {x : Source × Transfer}
    (hx : x ∈ reachedEntries fate xs) : x ∈ xs ∧ fate.reached = true := by
  unfold reachedEntries at hx
  split_ifs at hx with hr
  · exact ⟨hx, hr⟩
  · simp at hx

theorem submitUsage_sent (h : Blake3) (tb : Service) (input : TBBatchInput) (att : BatchAttempt)
    (L : Books) :
    (submitUsage h input tb att L).2 = (tb.createTransfers L
      ((reachedEntries att.usageFate (usageEntries h input)).map Prod.snd)).2 := by
  rw [createTransfers_reached, usageEntries_transfers, submitUsage_books]

theorem submitGauges_sent (tb : Service) (input : TBBatchInput) (att : BatchAttempt)
    (per : Table ResourceType ResourceBatchResult) (seqNo : UInt64) (L : Books) :
    (submitGauges input tb att per L).2 = (tb.createTransfers L
      ((reachedEntries att.gaugeFate (gaugeEntries seqNo input att)).map Prod.snd)).2 := by
  rw [createTransfers_reached, gaugeEntries_transfers, submitGauges_books]

theorem submitAllocationTransfers_sent (tb : Service) (source : ResourceType → Source)
    (input : SubmitAllocationInput) (att : RequestAttempt) (L : Books) :
    (submitAllocationTransfers tb att input L).2 = (tb.createTransfers L
      ((reachedEntries att.fate (allocationEntries source input att)).map Prod.snd)).2 := by
  rw [createTransfers_reached, allocationEntries, allocationEntriesFrom_transfers,
    submitAllocationTransfers_books, allocationRequest]

/-- The transfers the tenant provisioned as `p` submits for a source. -/
inductive Own (h : Blake3) (p : Provisioning) : Source → Transfer → Prop
  | usage {cluster : Uint128} {seq : UInt64} {r : ResourceType} {quota sink : Uint128} {amount : ℕ}
      {timestamp : UInt64} (hg : r.isGauge = false) (hquota : p.accountIDs r = some quota)
      (hsink : p.input.globalSinkIDs r = some sink) :
      Own h p (.usage p.input.tenantUUID cluster seq r) {
        id := h.derive (.transfer cluster seq r.ledgerID)
        debitAccountID := quota
        creditAccountID := sink
        amount := amount
        ledger := r.ledgerID
        code := codeUsageRecord
        userData128 := cluster
        userData64 := timestamp }
  | gaugeNew {id : Uint128} {seqNo : UInt64} {cluster owner : Uint128} {r : ResourceType}
      {quota sink : Uint128} {amount : ℕ} {timestamp : UInt64}
      (hid : h.derive (.gaugePending p.input.tenantUUID seqNo cluster r.ledgerID) ≠ 0 →
        id = h.derive (.gaugePending p.input.tenantUUID seqNo cluster r.ledgerID))
      (hg : r.isGauge = true) (hquota : p.accountIDs r = some quota)
      (hsink : p.input.globalSinkIDs r = some sink) (hpos : 0 < amount) :
      Own h p (.gaugeNew p.input.tenantUUID seqNo cluster r) {
        id := id
        debitAccountID := quota
        creditAccountID := sink
        amount := amount
        ledger := r.ledgerID
        code := codeGaugeReservation
        flags := { pending := true }
        userData128 := owner
        userData64 := timestamp }
  | gaugeVoid {id old : Uint128} {seqNo : UInt64} {cluster : Uint128} {r : ResourceType}
      {quota sink : Uint128}
      (hid : h.derive (.gaugeVoid p.input.tenantUUID seqNo cluster r.ledgerID) ≠ 0 →
        id = h.derive (.gaugeVoid p.input.tenantUUID seqNo cluster r.ledgerID))
      (hg : r.isGauge = true) (hquota : p.accountIDs r = some quota)
      (hsink : p.input.globalSinkIDs r = some sink) :
      Own h p (.gaugeVoid p.input.tenantUUID seqNo cluster r) {
        id := id
        pendingID := old
        debitAccountID := quota
        creditAccountID := sink
        amount := 0
        ledger := r.ledgerID
        code := codeGaugeReservation
        flags := { voidPendingTransfer := true } }
  | provision {id : Uint128} {r : ResourceType} {quota operator : Uint128} {credits : Int64}
      (hid : h.derive (.allocation p.input.tenantUUID p.input.periodStartNs.toUInt64 r.ledgerID) ≠ 0 →
        id = h.derive (.allocation p.input.tenantUUID p.input.periodStartNs.toUInt64 r.ledgerID))
      (hcredits : p.input.credits r = some credits) (hquota : p.accountIDs r = some quota)
      (hoperator : p.input.globalOperatorIDs r = some operator) :
      Own h p (.provision p.input.tenantUUID p.input.periodStartNs r credits) {
        id := id
        debitAccountID := operator
        creditAccountID := quota
        amount := credits.toUInt64.toNat
        ledger := r.ledgerID
        code := codeQuotaAllocation
        userData128 := p.input.tenantUUID
        userData64 := p.input.periodStartNs.toUInt64 }
  | credit {id : Uint128} {issue : Issue} {quota operator : Uint128}
      (hid : h.derive (.allocation p.input.tenantUUID issue.seqNo issue.resource.ledgerID) ≠ 0 →
        id = h.derive (.allocation p.input.tenantUUID issue.seqNo issue.resource.ledgerID))
      (hquota : p.accountIDs issue.resource = some quota)
      (hoperator : p.input.globalOperatorIDs issue.resource = some operator) :
      Own h p (.credit p.input.tenantUUID issue) {
        id := id
        debitAccountID := operator
        creditAccountID := quota
        amount := issue.amount.toUInt64.toNat
        ledger := issue.resource.ledgerID
        code := codeQuotaAllocation
        userData128 := p.input.tenantUUID }

namespace Own

variable {h : Blake3} {p : Provisioning} {x : Source} {t : Transfer}

theorem tenant (ho : Own h p x t) : x.tenant = p.input.tenantUUID := by
  cases ho <;> rfl

theorem id_eq (ho : Own h p x t) (hne : h.derive x.preimage ≠ 0) : t.id = h.derive x.preimage := by
  cases ho with
  | usage => rfl
  | gaugeNew hid => exact hid hne
  | gaugeVoid hid => exact hid hne
  | provision hid => exact hid hne
  | credit hid => exact hid hne

theorem mono {p' : Provisioning} (ho : Own h p x t) (hinput : p'.input = p.input)
    (hids : ∀ r i, p.accountIDs r = some i → p'.accountIDs r = some i) : Own h p' x t := by
  cases ho with
  | usage hg hquota hsink =>
    rw [← hinput] at hsink ⊢
    exact .usage hg (hids _ _ hquota) hsink
  | gaugeNew hid hg hquota hsink hpos =>
    rw [← hinput] at hid hsink ⊢
    exact .gaugeNew hid hg (hids _ _ hquota) hsink hpos
  | gaugeVoid hid hg hquota hsink =>
    rw [← hinput] at hid hsink ⊢
    exact .gaugeVoid hid hg (hids _ _ hquota) hsink
  | provision hid hcredits hquota hoperator =>
    rw [← hinput] at hid hcredits hoperator ⊢
    exact .provision hid hcredits (hids _ _ hquota) hoperator
  | credit hid hquota hoperator =>
    rw [← hinput] at hid hoperator ⊢
    exact .credit hid (hids _ _ hquota) hoperator

end Own

section Sent

variable {h : Blake3} {p : Provisioning} {seqNo : UInt64} {batch : List HeartbeatSignal}
  {pending : GaugeIDs}

theorem usageEntries_own {x : Source × Transfer}
    (hx : x ∈ usageEntries h (p.accountingInput.flushInput h seqNo batch pending)) :
    Own h p x.1 x.2 := by
  obtain ⟨y, hy, rfl⟩ := List.mem_map.mp hx
  obtain ⟨hg, -, operator, quota, sink, hquota, hsink, hu⟩ :=
    usageTransfer?_some (mem_usageTransfers.mp hy).2
  rw [hu]
  exact .usage hg hquota hsink

/-- A gauge transfer is the void of an old reservation or a new one. -/
theorem mem_gaugeEntriesFrom {input : TBBatchInput} {rand : ℕ → Uint128} {n : ℕ}
    {ys : List (String × GaugePendingUpdate)} {x : Source × Transfer}
    (hx : x ∈ gaugeEntriesFrom seqNo input rand n ys) :
    ∃ k, ∃ y ∈ ys,
      (∃ old, y.2.oldPendingID = some old ∧
        x = (gaugeSource seqNo input y ⟨k, true⟩, y.2.voidTransfer rand k old)) ∨
      (0 < y.2.newAmount ∧
        x = (gaugeSource seqNo input y ⟨k, false⟩, y.2.newTransfer rand k)) := by
  induction ys generalizing n with
  | nil => simp [gaugeEntriesFrom] at hx
  | cons y ys ih =>
    rcases List.mem_append.mp hx with hx | hx
    · obtain ⟨z, hz, rfl⟩ := List.mem_map.mp hx
      refine ⟨n, y, List.mem_cons_self, ?_⟩
      rcases List.mem_append.mp hz with hz | hz
      · left
        cases hold : y.2.oldPendingID with
        | none => simp [hold] at hz
        | some old =>
          simp only [hold, List.mem_singleton] at hz
          exact ⟨old, rfl, by rw [hz]⟩
      · right
        split_ifs at hz with hpos
        · rw [List.mem_singleton.mp hz]
          exact ⟨hpos, rfl⟩
        · simp at hz
    · obtain ⟨k, z, hz, hcase⟩ := ih hx
      exact ⟨k, z, List.mem_cons_of_mem _ hz, hcase⟩

theorem keyCluster_of_latest {hbs : List HeartbeatSignal} {c : String} {hb : HeartbeatSignal}
    (hl : latestByCluster hbs c = some hb) : ∃ cluster, keyCluster hbs c = some cluster := by
  obtain ⟨hmem, hid⟩ := latestByCluster_mem hl
  have hne : (hbs.filter (·.clusterID = c)) ≠ [] :=
    List.ne_nil_of_mem (List.mem_filter.mpr ⟨hmem, by simpa using hid⟩)
  exact ⟨_, by rw [keyCluster, List.getLast?_eq_some_getLast hne]; rfl⟩

/-- A gauge update of a flush: the latest heartbeat of its cluster, the recorded
reservation, and identifiers derived from the counter of the flush. -/
theorem mem_flushUpdates {o : IterationOrder String} {y : String × GaugePendingUpdate}
    (hy : y ∈ gaugeUpdates (p.accountingInput.flushInput h seqNo batch pending) o) :
    ∃ hb cluster quota sink, latestByCluster batch y.1 = some hb ∧
      keyCluster batch y.1 = some cluster ∧ y.2.resource.isGauge = true ∧
      p.accountIDs y.2.resource = some quota ∧ p.input.globalSinkIDs y.2.resource = some sink ∧
      y.2 = {
        resource := y.2.resource
        tenantQuotaID := quota
        sinkID := sink
        oldPendingID := (pending y.1).bind (· y.2.resource)
        newAmount := (heartbeatAmount hb y.2.resource).toUInt64
        clusterUUID := hb.clusterUUID
        heartbeatTsNs := hb.heartbeatTimestampNs.toUInt64
        newPendingID :=
          h.derive (.gaugePending p.input.tenantUUID seqNo cluster y.2.resource.ledgerID)
        voidTransferID :=
          h.derive (.gaugeVoid p.input.tenantUUID seqNo cluster y.2.resource.ledgerID) } := by
  obtain ⟨hb, hl, hu⟩ := mem_gaugeUpdates.mp hy
  obtain ⟨cluster, hcluster⟩ := keyCluster_of_latest hl
  obtain ⟨hg, quota, sink, hquota, hsink, he⟩ := gaugeUpdate?_some hu
  refine ⟨hb, cluster, quota, sink, hl, hcluster, hg, hquota, hsink, ?_⟩
  have hnew := gaugeIDs_apply h.deriveGaugePendingID p.input.tenantUUID seqNo batch y.1 hg
  have hvoid := gaugeIDs_apply h.deriveGaugeVoidID p.input.tenantUUID seqNo batch y.1 hg
  rw [show keyCluster batch y.1 = some cluster from hcluster] at hnew hvoid
  simp only [TenantAccountingInput.flushInput, TenantAccountingState.batchInput,
    TenantAccountingInput.initialState, Provisioning.accountingInput] at he
  rw [hnew, hvoid] at he
  exact he

theorem gaugeEntries_own {att : BatchAttempt} {x : Source × Transfer}
    (hx : x ∈ gaugeEntries seqNo (p.accountingInput.flushInput h seqNo batch pending) att) :
    Own h p x.1 x.2 := by
  obtain ⟨k, y, hy, hcase⟩ := mem_gaugeEntriesFrom hx
  obtain ⟨hb, cluster, quota, sink, -, hcluster, hg, hquota, hsink, he⟩ := mem_flushUpdates hy
  have hkey : keyCluster (p.accountingInput.flushInput h seqNo batch pending).heartbeats y.1 =
      some cluster := hcluster
  rcases hcase with ⟨old, hold, rfl⟩ | ⟨hpos, rfl⟩
  · simp only [gaugeSource, hkey, Option.getD_some, if_true]
    rw [he]
    exact .gaugeVoid (fun hne => if_neg hne) hg hquota hsink
  · simp only [gaugeSource, hkey, Option.getD_some, Bool.false_eq_true, if_false]
    rw [he] at hpos ⊢
    exact .gaugeNew (fun hne => if_pos hne) hg hquota hsink (UInt64.lt_iff_toNat_lt.mp hpos)

theorem usageEntries_not_credit {input : TBBatchInput} {x : Source × Transfer}
    (hx : x ∈ usageEntries h input) {u : Uint128} {issue : Issue} : x.1 ≠ .credit u issue := by
  obtain ⟨y, -, rfl⟩ := List.mem_map.mp hx
  simp

theorem gaugeEntries_not_credit {input : TBBatchInput} {att : BatchAttempt} {x : Source × Transfer}
    (hx : x ∈ gaugeEntries seqNo input att) {u : Uint128} {issue : Issue} :
    x.1 ≠ .credit u issue := by
  obtain ⟨k, y, -, ⟨old, -, rfl⟩ | ⟨-, rfl⟩⟩ := mem_gaugeEntriesFrom hx <;> simp [gaugeSource]

theorem mem_allocationEntriesFrom {source : ResourceType → Source} {rand : ℕ → Uint128} {n : ℕ}
    {as : List AllocationTransfer} {x : Source × Transfer}
    (hx : x ∈ allocationEntriesFrom source rand n as) :
    ∃ k, ∃ a ∈ as, x = (source a.resource, a.toTransfer (rand k)) := by
  induction as generalizing n with
  | nil => simp [allocationEntriesFrom] at hx
  | cons a as ih =>
    rcases List.mem_cons.mp hx with rfl | hx
    · exact ⟨n, a, List.mem_cons_self, rfl⟩
    · obtain ⟨k, b, hb, he⟩ := ih hx
      exact ⟨k, b, List.mem_cons_of_mem _ hb, he⟩

theorem mem_allocations {o : IterationOrder ResourceType} {input : SubmitAllocationInput}
    {a : AllocationTransfer} (ha : a ∈ allocations o input) :
    ∃ credits operator quota, input.credits a.resource = some credits ∧
      input.globalOperatorIDs a.resource = some operator ∧
      input.tenantQuotaIDs a.resource = some quota ∧
      a = {
        resource := a.resource
        operatorID := operator
        tenantQuotaID := quota
        amount := credits.toUInt64
        code := codeQuotaAllocation
        tenantUUID := input.tenantUUID
        periodStartNs := input.periodStartNs.toUInt64
        transferID := (input.transferIDs a.resource).getD 0 } := by
  obtain ⟨r, -, hr⟩ := List.mem_filterMap.mp ha
  unfold allocation? at hr
  split at hr
  · rename_i credits operator quota hc ho hq
    cases hr
    exact ⟨credits, operator, quota, hc, ho, hq, rfl⟩
  · cases hr

theorem provisionEntries_own {att : RequestAttempt} {x : Source × Transfer}
    (hx : x ∈ allocationEntries (fun r => .provision p.input.tenantUUID p.input.periodStartNs r
      ((p.input.credits r).getD 0)) (p.allocationInput h) att) : Own h p x.1 x.2 := by
  obtain ⟨k, a, ha, rfl⟩ := mem_allocationEntriesFrom hx
  obtain ⟨credits, operator, quota, hc, ho, hq, he⟩ := mem_allocations ha
  have hid : ((p.allocationInput h).transferIDs a.resource).getD 0 = h.derive (.allocation
      p.input.tenantUUID p.input.periodStartNs.toUInt64 a.resource.ledgerID) := by
    simp only [Provisioning.allocationInput] at hc ⊢
    simp [hc, Blake3.deriveAllocationTransferID]
  rw [hid] at he
  rw [he, show p.input.credits a.resource = some credits from hc, Option.getD_some]
  exact .provision (fun hne => if_neg hne) hc hq ho

theorem creditEntries_own {issue : Issue} {att : RequestAttempt} {x : Source × Transfer}
    (haccount : (p.accountIDs issue.resource).isSome = true)
    (hoperator : (p.input.globalOperatorIDs issue.resource).isSome = true)
    (hx : x ∈ allocationEntries (fun _ => .credit p.input.tenantUUID issue)
      (p.accountingInput.issueInput h issue) att) : Own h p x.1 x.2 := by
  obtain ⟨k, a, ha, rfl⟩ := mem_allocationEntriesFrom hx
  obtain ⟨credits, operator, quota, hc, ho, hq, he⟩ := mem_allocations ha
  obtain ⟨quota', hquota⟩ := Option.isSome_iff_exists.mp haccount
  obtain ⟨operator', hoper⟩ := Option.isSome_iff_exists.mp hoperator
  simp only [TenantAccountingInput.issueInput, TenantAccountingState.allocationInput,
    TenantAccountingInput.initialState, Provisioning.accountingInput, hquota, hoper,
    Option.getD_some, Table.set_empty_eq_some] at hc ho hq he
  obtain ⟨hr, rfl⟩ := hc
  obtain ⟨-, rfl⟩ := ho
  obtain ⟨-, rfl⟩ := hq
  rw [hr, Table.set_same, Option.getD_some] at he
  rw [he]
  exact .credit (fun hne => if_neg hne) hquota hoper

end Sent
end CloudCredit.System
