import CloudCredit.Accounting.Signals
import CloudCredit.Ledger.Accounts
import CloudCredit.Ledger.Ids
import CloudCredit.Ledger.Transfers

/-!
# Activities that write to the ledger

`submitTBBatch` makes two requests: one posted transfer for each heartbeat and
cumulative resource, then one void and one reservation for each cluster with a
gauge. Every attempt of an activity has its own conditions: what becomes of its
requests, the order in which it walks over its maps, and the random
identifiers it falls back to.
-/
namespace CloudCredit.Accounting

open Library TigerBeetle Domain Ledger

/-- The quota accounts of one tenant. -/
structure TBAccountMap where
  tenantQuotaIDs : Table ResourceType Uint128

structure TBBatchInput where
  tenantUUID : Uint128
  accountMap : TBAccountMap
  heartbeats : List HeartbeatSignal
  globalOperatorIDs : Table ResourceType Uint128
  globalSinkIDs : Table ResourceType Uint128
  pendingGaugeIDs : Table String (Table ResourceType Uint128)
  newGaugePendingIDs : Table String (Table ResourceType Uint128)
  gaugeVoidIDs : Table String (Table ResourceType Uint128)

structure ResourceBatchResult where
  accepted : Bool
  exceedsCredits : Bool
  exists_ : Bool := false
  deriving DecidableEq

structure TBBatchResult where
  perResource : Table ResourceType ResourceBatchResult := Table.empty
  gaugeUpdates : Table String (Table ResourceType Uint128) := Table.empty

structure SubmitAllocationInput where
  tenantUUID : Uint128
  tenantQuotaIDs : Table ResourceType Uint128
  globalOperatorIDs : Table ResourceType Uint128
  credits : Table ResourceType Int64
  periodStartNs : Int64 := 0
  transferIDs : Table ResourceType Uint128

/-- How an activity can fail: by what it returns, or by not being heard of. -/
inductive ActivityError
  | submitUsageBatch (cause : LedgerError)
  | submitGaugePendingUpdates (cause : LedgerError)
  | submitAllocations (cause : LedgerError)
  | createTenantQuotaAccounts (cause : AccountError)
  | lookupBalances (cause : String)
  | postgres (cause : String)
  | timeout
  deriving DecidableEq

/-- The conditions of one attempt of `submitTBBatch`. -/
structure BatchAttempt where
  usageFate : Fate := .answered
  gaugeFate : Fate := .answered
  clusters : IterationOrder String := .listed String
  rand : ℕ → Uint128 := fun _ => 0

section Batch

variable (h : Blake3) (input : TBBatchInput)

/-- The usage transfer of one heartbeat and one resource, unless it is skipped. -/
def usageTransfer? (hb : HeartbeatSignal) (r : ResourceType) : Option UsageTransfer :=
  if r.isGauge then none
  else if heartbeatAmount hb r = 0 then none
  else
    match input.globalOperatorIDs r, input.accountMap.tenantQuotaIDs r, input.globalSinkIDs r with
    | some operatorID, some tenantQuotaID, some sinkID => some {
        resource := r
        operatorID
        tenantQuotaID
        sinkID
        amount := (heartbeatAmount hb r).toUInt64
        transferID := h.deriveTransferID hb.clusterUUID hb.sequenceNumber r.ledgerID
        clusterUUID := hb.clusterUUID
        heartbeatTsNs := hb.heartbeatTimestampNs.toUInt64 }
    | _, _, _ => none

/-- The usage transfers of the batch, each with its heartbeat. -/
def usageTransfers : List (HeartbeatSignal × UsageTransfer) :=
  input.heartbeats.flatMap fun hb =>
    allResources.filterMap fun r => (usageTransfer? h input hb r).map fun u => (hb, u)

/-- Keep a heartbeat that is the first of its cluster or has a higher number. -/
def keepLatest (latest : Table String HeartbeatSignal) (hb : HeartbeatSignal) :
    Table String HeartbeatSignal :=
  match latest hb.clusterID with
  | some prev =>
    if prev.sequenceNumber < hb.sequenceNumber then latest.set hb.clusterID hb else latest
  | none => latest.set hb.clusterID hb

/-- The heartbeat with the highest sequence number of each cluster; the first
of several with one number. -/
def latestByCluster (hbs : List HeartbeatSignal) : Table String HeartbeatSignal :=
  hbs.foldl keepLatest Table.empty

/-- The keys of `latestByCluster`. -/
def clusterKeys (hbs : List HeartbeatSignal) : List String := (hbs.map (·.clusterID)).dedup

/-- The change of one gauge on one cluster, unless an account is missing. -/
def gaugeUpdate? (clusterID : String) (hb : HeartbeatSignal) (r : ResourceType) :
    Option GaugePendingUpdate :=
  if r.isGauge then
    match input.accountMap.tenantQuotaIDs r, input.globalSinkIDs r with
    | some tenantQuotaID, some sinkID => some {
        resource := r
        tenantQuotaID
        sinkID
        oldPendingID := (input.pendingGaugeIDs clusterID).bind (· r)
        newAmount := (heartbeatAmount hb r).toUInt64
        clusterUUID := hb.clusterUUID
        heartbeatTsNs := hb.heartbeatTimestampNs.toUInt64
        newPendingID := ((input.newGaugePendingIDs clusterID).bind (· r)).getD 0
        voidTransferID := ((input.gaugeVoidIDs clusterID).bind (· r)).getD 0 }
    | _, _ => none
  else none

/-- The gauge updates of one cluster, each under its key. -/
def clusterUpdates (clusterID : String) : List (String × GaugePendingUpdate) :=
  match latestByCluster input.heartbeats clusterID with
  | some hb => allResources.filterMap fun r =>
      (gaugeUpdate? input clusterID hb r).map fun u => (clusterID, u)
  | none => []

/-- The gauge updates of the batch in the order of the visit. -/
def gaugeUpdates (clusters : IterationOrder String) : List (String × GaugePendingUpdate) :=
  (clusters.order (clusterKeys input.heartbeats)).flatMap (clusterUpdates input)

def usageResult (x : (HeartbeatSignal × UsageTransfer) × TransferResult) :
    ResourceType × ResourceBatchResult :=
  (x.1.2.resource, ⟨x.2.accepted, x.2.exceedsCredits, x.2.exists_⟩)

def gaugeResult (x : (String × GaugePendingUpdate) × GaugePendingResult) :
    ResourceType × ResourceBatchResult :=
  (x.1.2.resource, { accepted := x.2.accepted, exceedsCredits := x.2.exceedsCredits })

/-- The new reservation of one update, under its cluster and resource. -/
def gaugeID (x : (String × GaugePendingUpdate) × GaugePendingResult) :
    (String × ResourceType) × Uint128 :=
  ((x.1.1, x.1.2.resource), x.2.newPendingID)

/-- The first request of an attempt: the verdicts for the usage transfers. -/
def submitUsage (tb : Service) (att : BatchAttempt) (L : Books) :
    Except ActivityError (Table ResourceType ResourceBatchResult) × Books :=
  let transfers := usageTransfers h input
  if transfers = [] then (.ok Table.empty, L)
  else
    match submitUsageBatch tb att.usageFate L (transfers.map Prod.snd) with
    | (.error e, L') => (.error (.submitUsageBatch e), L')
    | (.ok tbResults, L') => (.ok (Table.empty.setAll ((transfers.zip tbResults).map usageResult)), L')

/-- The second request: void and renew the reservations. -/
def submitGauges (tb : Service) (att : BatchAttempt)
    (perResource : Table ResourceType ResourceBatchResult) (L : Books) :
    Except ActivityError TBBatchResult × Books :=
  let updates := gaugeUpdates input att.clusters
  if updates = [] then (.ok { perResource }, L)
  else
    match submitGaugePendingUpdates tb att.gaugeFate att.rand L (updates.map Prod.snd) with
    | (.error e, L') => (.error (.submitGaugePendingUpdates e), L')
    | (.ok gaugeResults, L') =>
      let pairs := updates.zip gaugeResults
      (.ok {
        perResource := perResource.setAll (pairs.map gaugeResult)
        gaugeUpdates := Table.empty.setInAll (pairs.map gaugeID) }, L')

/-- One attempt of the batch activity. -/
def submitTBBatch (tb : Service) (att : BatchAttempt) (L : Books) :
    Except ActivityError TBBatchResult × Books :=
  match submitUsage h input tb att L with
  | (.error e, L') => (.error e, L')
  | (.ok perResource, L') => submitGauges input tb att perResource L'

end Batch

/-- The conditions of one attempt of an activity with a single request. -/
structure RequestAttempt where
  fate : Fate := .answered
  resources : IterationOrder ResourceType := .listed ResourceType
  rand : ℕ → Uint128 := fun _ => 0

/-- The allocation of one resource of the input, unless an account is missing. -/
def allocation? (input : SubmitAllocationInput) (r : ResourceType) : Option AllocationTransfer :=
  match input.credits r, input.globalOperatorIDs r, input.tenantQuotaIDs r with
  | some credits, some operatorID, some tenantQuotaID => some {
      resource := r
      operatorID
      tenantQuotaID
      amount := credits.toUInt64
      code := codeQuotaAllocation
      tenantUUID := input.tenantUUID
      periodStartNs := input.periodStartNs.toUInt64
      transferID := (input.transferIDs r).getD 0 }
  | _, _, _ => none

/-- The allocations in the order of the visit. -/
def allocations (resources : IterationOrder ResourceType) (input : SubmitAllocationInput) :
    List AllocationTransfer :=
  (resources.order (allResources.filter fun r => (input.credits r).isSome)).filterMap
    (allocation? input)

def submitAllocationTransfers (tb : Service) (att : RequestAttempt)
    (input : SubmitAllocationInput) (L : Books) : Except ActivityError Unit × Books :=
  let entries := allocations att.resources input
  if entries.isEmpty then (.ok (), L)
  else
    match submitAllocations tb att.fate att.rand L entries with
    | (.error e, L') => (.error (.submitAllocations e), L')
    | (.ok _, L') => (.ok (), L')

def createTenantTBAccounts (tb : Service) (att : RequestAttempt) (tenantUUID : Uint128)
    (L : Books) : Except ActivityError (Table ResourceType Uint128) × Books :=
  match createTenantQuotaAccounts tb att.fate att.rand tenantUUID (fun _ => none) L with
  | (.error e, L') => (.error (.createTenantQuotaAccounts e), L')
  | (.ok ids, L') => (.ok ids, L')

/-- The conditions of one attempt to read balances. -/
structure LookupAttempt where
  lost : Option String := none
  resources : IterationOrder ResourceType := .listed ResourceType
  reply : IterationOrder (Account × Balance) := .listed (Account × Balance)

/-- Live balances of the given accounts; accounts that are not found are left out. -/
def lookupAccountBalances (att : LookupAttempt) (tenantQuotaIDs : Table ResourceType Uint128)
    (L : Books) : Except ActivityError (Table ResourceType QuotaSnapshotData) :=
  match att.lost with
  | some cause => .error (.lookupBalances cause)
  | none =>
    let ids := (att.resources.order allResources).filterMap tenantQuotaIDs
    let accounts := att.reply.order (lookupAccounts L ids)
    .ok fun r => (lookupBalances accounts tenantQuotaIDs r).map fun b =>
      ⟨b.creditsPosted.toInt64, b.debitsPosted.toInt64, b.debitsPending.toInt64⟩

end CloudCredit.Accounting
