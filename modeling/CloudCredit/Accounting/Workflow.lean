import CloudCredit.Accounting.ActivitiesTB

/-!
# The state of the accounting workflow and its sequential parts

Each definition is one stretch of the workflow code between two blocking
points: starting and restoring the state, receiving a signal, `flushBatch` up to
its ledger activity, what `flushBatch` does with the result, and `flushAdjustment`
up to its allocation.
-/
namespace CloudCredit.Accounting

open Library TigerBeetle Domain Ledger

/-- Durations are in nanoseconds. -/
def baseFlushInterval : ℕ := 2 * 10 ^ 9

def maxFlushInterval : ℕ := 60 * 10 ^ 9

def batchSizeThreshold : ℕ := 150

/-- `MaximumAttempts` of the retry policies. -/
def maximumAttempts : ℕ := 5

/-- Reservations by cluster and gauge resource. -/
abbrev GaugeIDs := Table String (Table ResourceType Uint128)

structure TenantAccountingState where
  tenantUUID : Uint128
  processedSeqs : Table String UInt64
  accountMap : Table ResourceType Uint128
  globalOperatorIDs : Table ResourceType Uint128
  globalSinkIDs : Table ResourceType Uint128
  curBatch : List HeartbeatSignal
  lastAck : UInt64
  currentFlushInterval : ℕ
  pendingGaugeIDs : GaugeIDs
  exceededResources : Table ResourceType Bool
  flushSeqNo : UInt64

/-- The start parameter; the `carry` fields are empty on a first start. -/
structure TenantAccountingInput where
  tenantUUID : Uint128
  accountMap : Table ResourceType Uint128
  globalOperatorIDs : Table ResourceType Uint128
  globalSinkIDs : Table ResourceType Uint128
  carryProcessedSeqs : Table String UInt64 := Table.empty
  carryPendingGaugeIDs : GaugeIDs := Table.empty
  carryExceededResources : Table ResourceType Bool := Table.empty
  carryLastAck : UInt64 := 0
  carryFlushSeqNo : UInt64 := 0

/-- The state in which an execution starts. -/
def TenantAccountingInput.initialState (input : TenantAccountingInput) : TenantAccountingState where
  tenantUUID := input.tenantUUID
  accountMap := input.accountMap
  globalOperatorIDs := input.globalOperatorIDs
  globalSinkIDs := input.globalSinkIDs
  processedSeqs := input.carryProcessedSeqs
  pendingGaugeIDs := input.carryPendingGaugeIDs
  exceededResources := input.carryExceededResources
  lastAck := input.carryLastAck
  flushSeqNo := input.carryFlushSeqNo
  currentFlushInterval := baseFlushInterval
  curBatch := []

namespace TenantAccountingState

variable (s : TenantAccountingState)

/-- The parameter of the execution that continues this one. -/
def carry : TenantAccountingInput where
  tenantUUID := s.tenantUUID
  accountMap := s.accountMap
  globalOperatorIDs := s.globalOperatorIDs
  globalSinkIDs := s.globalSinkIDs
  carryProcessedSeqs := s.processedSeqs
  carryPendingGaugeIDs := s.pendingGaugeIDs
  carryExceededResources := s.exceededResources
  carryLastAck := s.lastAck
  carryFlushSeqNo := s.flushSeqNo

/-- The sequence number is not above the one recorded for the cluster. -/
def alreadyProcessed (sig : HeartbeatSignal) : Bool :=
  match s.processedSeqs sig.clusterID with
  | some prev => sig.sequenceNumber ≤ prev
  | none => false

def appendHeartbeat (sig : HeartbeatSignal) : TenantAccountingState :=
  { s with curBatch := s.curBatch ++ [sig] }

def registerCluster (sig : RegisterClusterSignal) : TenantAccountingState :=
  match s.processedSeqs sig.clusterID with
  | some _ => s
  | none => { s with processedSeqs := s.processedSeqs.set sig.clusterID 0 }

theorem registerCluster_curBatch (sig : RegisterClusterSignal) :
    (s.registerCluster sig).curBatch = s.curBatch := by
  unfold registerCluster
  split <;> rfl

theorem registerCluster_pendingGaugeIDs (sig : RegisterClusterSignal) :
    (s.registerCluster sig).pendingGaugeIDs = s.pendingGaugeIDs := by
  unfold registerCluster
  split <;> rfl

theorem registerCluster_processedSeqs (sig : RegisterClusterSignal) :
    (s.registerCluster sig).processedSeqs = s.processedSeqs ∨
      s.processedSeqs sig.clusterID = none ∧
        (s.registerCluster sig).processedSeqs = s.processedSeqs.set sig.clusterID 0 := by
  unfold registerCluster
  split
  · exact .inl rfl
  · rename_i hnone
    exact .inr ⟨hnone, rfl⟩

theorem registerCluster_flushSeqNo (sig : RegisterClusterSignal) :
    (s.registerCluster sig).flushSeqNo = s.flushSeqNo := by
  unfold registerCluster
  split <;> rfl

/-- The next interval after a cycle without heartbeats. -/
def idleInterval : ℕ :=
  if maxFlushInterval < s.currentFlushInterval * 2 then maxFlushInterval
  else s.currentFlushInterval * 2

end TenantAccountingState

/-- The identifiers of one flush for every cluster of the batch. -/
def gaugeIDs (derive : Uint128 → UInt64 → Uint128 → UInt32 → Uint128) (tenantUUID : Uint128)
    (seqNo : UInt64) (hbs : List HeartbeatSignal) : GaugeIDs :=
  hbs.foldl (fun m hb =>
    (allResources.filter ResourceType.isGauge).foldl (fun m r =>
      m.set hb.clusterID (((m hb.clusterID).getD Table.empty).set r
        (derive tenantUUID seqNo hb.clusterUUID r.ledgerID))) m) Table.empty

/-- The cluster from which the identifiers for a key of the batch are derived:
that of the last heartbeat with the key. -/
def keyCluster (hbs : List HeartbeatSignal) (clusterID : String) : Option Uint128 :=
  (hbs.filter (·.clusterID = clusterID)).getLast?.map (·.clusterUUID)

theorem gaugeIDs_append (derive : Uint128 → UInt64 → Uint128 → UInt32 → Uint128)
    (tenantUUID : Uint128) (seqNo : UInt64) (hbs : List HeartbeatSignal) (hb : HeartbeatSignal) :
    gaugeIDs derive tenantUUID seqNo (hbs ++ [hb]) =
      (gaugeIDs derive tenantUUID seqNo hbs).set hb.clusterID
        (((gaugeIDs derive tenantUUID seqNo hbs hb.clusterID).getD Table.empty).set .activeNodes
          (derive tenantUUID seqNo hb.clusterUUID ResourceType.activeNodes.ledgerID)) := by
  simp only [gaugeIDs, List.foldl_append]
  rfl

theorem gaugeIDs_apply (derive : Uint128 → UInt64 → Uint128 → UInt32 → Uint128)
    (tenantUUID : Uint128) (seqNo : UInt64) (hbs : List HeartbeatSignal) (clusterID : String)
    {r : ResourceType} (hr : r.isGauge = true) :
    (gaugeIDs derive tenantUUID seqNo hbs clusterID).bind (· r) =
      (keyCluster hbs clusterID).map fun cluster => derive tenantUUID seqNo cluster r.ledgerID := by
  obtain rfl : r = .activeNodes := by simpa [ResourceType.isGauge] using hr
  induction hbs using List.reverseRecOn with
  | nil => rfl
  | append_singleton hbs hb ih =>
    rw [gaugeIDs_append]
    by_cases hc : clusterID = hb.clusterID
    · subst hc
      simp [keyCluster]
    · rw [Table.set_other _ hc, ih]
      simp [keyCluster, Ne.symm hc]

namespace TenantAccountingState

variable (h : Blake3) (s : TenantAccountingState)

/-- `flushBatch` up to its ledger activity: the counter is increased first. -/
def countFlush : TenantAccountingState := { s with flushSeqNo := s.flushSeqNo + 1 }

/-- The input of the ledger activity, built after the counter was increased. -/
def batchInput : TBBatchInput where
  tenantUUID := s.tenantUUID
  accountMap := ⟨s.accountMap⟩
  heartbeats := s.curBatch
  globalOperatorIDs := s.globalOperatorIDs
  globalSinkIDs := s.globalSinkIDs
  pendingGaugeIDs := s.pendingGaugeIDs
  newGaugePendingIDs := gaugeIDs h.deriveGaugePendingID s.tenantUUID s.flushSeqNo s.curBatch
  gaugeVoidIDs := gaugeIDs h.deriveGaugeVoidID s.tenantUUID s.flushSeqNo s.curBatch

end TenantAccountingState

/-- The flags after a batch: a rejection sets the flag, an acceptance deletes it. -/
def applyExceeded (exceeded : Table ResourceType Bool)
    (perResource : Table ResourceType ResourceBatchResult) : Table ResourceType Bool := fun r =>
  match perResource r with
  | some rr => if rr.exceedsCredits then some true else if rr.accepted then none else exceeded r
  | none => exceeded r

/-- The reservations after a batch; a zero identifier is a released gauge. -/
def applyGaugeUpdates (pending updates : GaugeIDs) : GaugeIDs := fun clusterID =>
  match updates clusterID with
  | some resources => some fun r =>
      match resources r with
      | some id => if id = 0 then none else some id
      | none => (pending clusterID).bind (· r)
  | none => pending clusterID

def markProcessed (seqs : Table String UInt64) (hb : HeartbeatSignal) : Table String UInt64 :=
  match seqs hb.clusterID with
  | some prev => if prev < hb.sequenceNumber then seqs.set hb.clusterID hb.sequenceNumber else seqs
  | none => seqs.set hb.clusterID hb.sequenceNumber

def ackHeartbeat (ack : UInt64) (hb : HeartbeatSignal) : UInt64 :=
  if ack < hb.sequenceNumber then hb.sequenceNumber else ack

namespace TenantAccountingState

variable (h : Blake3) (s : TenantAccountingState)

/-- What `flushBatch` does with the result of its ledger activity. -/
def applyBatchResult (result : TBBatchResult) : TenantAccountingState :=
  { s with
    exceededResources := applyExceeded s.exceededResources result.perResource
    pendingGaugeIDs := applyGaugeUpdates s.pendingGaugeIDs result.gaugeUpdates
    processedSeqs := s.curBatch.foldl markProcessed s.processedSeqs
    lastAck := s.curBatch.foldl ackHeartbeat s.lastAck
    curBatch := [] }

/-- The check before an update is accepted: a positive amount for a resource
with an account. -/
def validateAdjustment (sig : QuotaAdjustmentSignal) : Option ResourceType :=
  if sig.amount ≤ 0 then none
  else (ResourceType.ofName? sig.resourceType).filter fun r => (s.accountMap r).isSome

/-- The allocation of `flushAdjustment`, built after the counter was increased. -/
def allocationInput (r : ResourceType) (amount : Int64) : SubmitAllocationInput where
  tenantUUID := s.tenantUUID
  tenantQuotaIDs := Table.empty.set r ((s.accountMap r).getD 0)
  globalOperatorIDs := Table.empty.set r ((s.globalOperatorIDs r).getD 0)
  credits := Table.empty.set r amount
  transferIDs :=
    Table.empty.set r (h.deriveAllocationTransferID s.tenantUUID s.flushSeqNo r.ledgerID)

/-- A confirmed allocation deletes the flag of its resource. -/
def clearExceeded (r : ResourceType) : TenantAccountingState :=
  { s with exceededResources := s.exceededResources.erase r }

end TenantAccountingState

def sampleID (n : UInt8) : Uint128 := ⟨n :: List.replicate 15 0, by simp⟩

/-- An identifier for each resource, counted from `n`. -/
def sampleIDs (n : UInt8) : Table ResourceType Uint128
  | .cpuHours => some (sampleID n)
  | .memoryGBHours => some (sampleID (n + 1))
  | .activeNodes => some (sampleID (n + 2))

def sampleInput : TenantAccountingInput where
  tenantUUID := sampleID 1
  accountMap := sampleIDs 10
  globalOperatorIDs := sampleIDs 20
  globalSinkIDs := sampleIDs 30

def sampleHeartbeat (seq : UInt64) : HeartbeatSignal where
  clusterID := "c"
  clusterUUID := sampleID 2
  sequenceNumber := seq
  cpuMillisecondsDelta := 5
  memoryMBSecondsDelta := 7
  activeNodes := 1
  heartbeatTimestampNs := 1

def sampleCredit : QuotaAdjustmentSignal where
  resourceType := "cpu_hours"
  amount := 100
  reason := "top up"
  code := 101

end CloudCredit.Accounting
