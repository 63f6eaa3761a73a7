import CloudCredit.Accounting.BatchOutcome
import CloudCredit.Accounting.Workflow
import CloudCredit.Gateway.ClusterIDs
import CloudCredit.Library.Integers
import CloudCredit.TigerBeetle.Reference

/-!
# From the reported usage to the amount of a transfer

A request reports signed integers, and a transfer has an unsigned amount. Between them the
value passes through the signal, the amount of the heartbeat and the entry of the batch. It
is kept exactly if it is not negative.
-/
namespace CloudCredit.Gateway

open Library TigerBeetle Domain Ledger Accounting

/-- The integer a request reports for a resource. -/
def HeartbeatRequest.reported (req : HeartbeatRequest) : ResourceType → ℤ
  | .cpuHours => req.cpuMillisecondsDelta.toInt
  | .memoryGBHours => req.memoryMbSecondsDelta.toInt
  | .activeNodes => req.activeNodes.toInt

/-- The transfers an attempt builds for the amount a heartbeat has for a resource: the usage
transfer, or the reservation for the latest heartbeat of a cluster. -/
inductive BuiltFor (h : Blake3) (input : TBBatchInput) (att : BatchAttempt) (hb : HeartbeatSignal) :
    ResourceType → Transfer → Prop
  | usage {u : UsageTransfer} (hu : (hb, u) ∈ usageTransfers h input) :
      BuiltFor h input att hb u.resource u.toTransfer
  | reservation {c : String} {u : GaugePendingUpdate} {n : ℕ}
      (hu : (c, u) ∈ gaugeUpdates input att.clusters)
      (hlatest : latestByCluster input.heartbeats c = some hb) (hpos : 0 < u.newAmount) :
      BuiltFor h input att hb u.resource (u.newTransfer att.rand n)

section Built

variable {h : Blake3} {input : TBBatchInput} {att : BatchAttempt} {hb : HeartbeatSignal}
  {r : ResourceType} {t : Transfer}

theorem BuiltFor.amount_eq (hbuilt : BuiltFor h input att hb r t) :
    t.amount = (heartbeatAmount hb r).toUInt64.toNat := by
  cases hbuilt with
  | usage hu =>
    obtain ⟨-, -, _, _, _, -, -, he⟩ := usageTransfer?_some (mem_usageTransfers.mp hu).2
    dsimp only at he
    rw [UsageTransfer.toTransfer, congrArg UsageTransfer.amount he]
  | reservation hu hlatest hpos =>
    obtain ⟨hb', hlatest', hu'⟩ := mem_gaugeUpdates.mp hu
    cases hlatest.symm.trans hlatest'
    obtain ⟨-, _, _, -, -, he⟩ := gaugeUpdate?_some hu'
    dsimp only at he
    rw [GaugePendingUpdate.newTransfer, congrArg GaugePendingUpdate.newAmount he]

end Built

theorem reported_eq (req : HeartbeatRequest) (r : ResourceType) :
    (heartbeatAmount req.toSignal r).toInt = req.reported r := by
  cases r with
  | cpuHours => rfl
  | memoryGBHours => rfl
  | activeNodes => exact Int32.toInt_toInt64 _

/-- The amount of a transfer built for a request that reached a workflow is the reported
integer exactly if that is not negative. -/
theorem amount_eq_reported_iff (g g' : Signals) (w : ServiceReplies) (req : HeartbeatRequest)
    (d : Delivery) (hsent : (g.signalHeartbeat w req).2 = g') (hd : g'.delivered = d :: g.delivered)
    (h : Blake3) (input : TBBatchInput) (att : BatchAttempt) (r : ResourceType) (t : Transfer)
    (hbuilt : BuiltFor h input att d.signal r t) :
    (t.amount : ℤ) = req.reported r ↔ 0 ≤ req.reported r := by
  have hsignal : d.signal = req.toSignal := by
    rcases g.signalHeartbeat_cases w req with ⟨-, hsame⟩ | ⟨workflowID, hnew⟩
    · rw [hsent, hd] at hsame
      exact absurd hsame (List.cons_ne_self _ _)
    · rw [hsent, hd] at hnew
      rw [(List.cons.inj hnew).1]
  rw [hbuilt.amount_eq, hsignal, ← reported_eq]
  exact toUInt64_eq_iff _

/-- A request that reports milliseconds of CPU time only. -/
def sampleReport (cpu : Int64) : HeartbeatRequest where
  clusterId := "0000000a-0000-4000-8000-000000000001"
  sequenceNumber := 1
  cpuMillisecondsDelta := cpu

/-- The batch with the signal of that request, for a tenant with a CPU account. -/
def sampleReportInput (cpu : Int64) : TBBatchInput where
  tenantUUID := sampleID 1
  accountMap := ⟨Table.empty.set .cpuHours (sampleID 3)⟩
  heartbeats := [(sampleReport cpu).toSignal]
  globalOperatorIDs := Table.empty.set .cpuHours (sampleID 4)
  globalSinkIDs := Table.empty.set .cpuHours (sampleID 5)
  pendingGaugeIDs := Table.empty
  newGaugePendingIDs := Table.empty
  gaugeVoidIDs := Table.empty

theorem sampleReport_delivered (cpu : Int64) : ∃ d,
    (({} : Signals).signalHeartbeat sampleReplies (sampleReport cpu)).1 = .ok () ∧
      (({} : Signals).signalHeartbeat sampleReplies (sampleReport cpu)).2.delivered = [d] ∧
      d.signal = (sampleReport cpu).toSignal :=
  ⟨_, rfl, rfl, rfl⟩

theorem sampleReport_built (cpu : Int64) (hne : cpu ≠ 0) : ∃ t,
    BuiltFor .positional (sampleReportInput cpu) {} (sampleReport cpu).toSignal .cpuHours t ∧
      t.amount = cpu.toUInt64.toNat := by
  obtain ⟨u, hu, hr⟩ : ∃ u, usageTransfer? .positional (sampleReportInput cpu)
      (sampleReport cpu).toSignal .cpuHours = some u ∧ u.resource = .cpuHours :=
    ⟨_, if_neg (show heartbeatAmount (sampleReport cpu).toSignal .cpuHours ≠ 0 from hne), rfl⟩
  have hmem : ((sampleReport cpu).toSignal, u) ∈ usageTransfers .positional (sampleReportInput cpu) :=
    mem_usageTransfers.mpr ⟨List.mem_singleton_self _, hr ▸ hu⟩
  have hbuilt : BuiltFor .positional (sampleReportInput cpu) {} _ u.resource u.toTransfer := .usage hmem
  rw [hr] at hbuilt
  exact ⟨_, hbuilt, hbuilt.amount_eq⟩

/-- Five milliseconds are a transfer of five. -/
theorem five_reported : ∃ t,
    BuiltFor .positional (sampleReportInput 5) {} (sampleReport 5).toSignal .cpuHours t ∧
      (t.amount : ℤ) = 5 := by
  obtain ⟨d, -, hd, hsignal⟩ := sampleReport_delivered 5
  obtain ⟨t, hbuilt, -⟩ := sampleReport_built 5 (by decide)
  exact ⟨t, hbuilt, (amount_eq_reported_iff {} _ sampleReplies (sampleReport 5) d rfl hd .positional
    (sampleReportInput 5) {} .cpuHours t (hsignal ▸ hbuilt)).mpr (by decide)⟩

/-- A request that reports minus one is accepted and becomes a debit of nearly `2 ^ 64`. -/
theorem negative_report_wraps :
    (sampleReport (-1)).reported .cpuHours = -1 ∧
      (({} : Signals).signalHeartbeat sampleReplies (sampleReport (-1))).1 = .ok () ∧
      ∃ t, BuiltFor .positional (sampleReportInput (-1)) {} (sampleReport (-1)).toSignal .cpuHours t ∧
        t.amount = 2 ^ 64 - 1 := by
  obtain ⟨t, hbuilt, hamount⟩ := sampleReport_built (-1) (by decide)
  exact ⟨by decide, rfl, t, hbuilt, hamount.trans (by decide)⟩

end CloudCredit.Gateway
