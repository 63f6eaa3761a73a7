import CloudCredit.Accounting.Handlers
import CloudCredit.Gateway.HeartbeatHandler

/-!
# Issuing a credit by hand

The admin call checks the amount, sends the update to the workflow of the tenant
and waits for its result. An update ends when its handler returns, and it ends
with an error if the execution it was sent to is over before that.
-/
namespace CloudCredit.Gateway

open Library TigerBeetle Domain Accounting

structure IssueTenantCreditRequest where
  resourceType : String
  amount : Int64
  reason : String

/-- Why an update has no result. -/
inductive UpdateError
  | rejected (cause : String)
  | failed (cause : ActivityError)
  | aborted

inductive AdminError
  | invalidArgument (cause : String)
  | updateWorkflow (cause : String)
  | updateResult (cause : UpdateError)

/-- The quota of one returned balance. -/
def creditQuotaInfo (r : ResourceType) (snap : QuotaSnapshotData) : QuotaInfo :=
  let available := snap.creditsTotal - snap.debitsPosted - snap.debitsPending
  let used := if r.isGauge then snap.debitsPending else snap.debitsPosted
  { resourceType := r.name
    used := used
    limit := snap.creditsTotal
    available := available
    status :=
      if available ≤ 0 then .quotaExceeded
      else if nearLimit used snap.creditsTotal then .quotaWarning
      else .ok }

def IssueTenantCreditRequest.signal (req : IssueTenantCreditRequest) : QuotaAdjustmentSignal where
  resourceType := req.resourceType
  amount := req.amount
  reason := req.reason
  code := codeQuotaAdjustment

/-- `update` sends an update and waits for its result; the call itself may fail. -/
def issueTenantCredit (order : IterationOrder ResourceType)
    (update : QuotaAdjustmentSignal → Except String (Except UpdateError IssueCreditResult))
    (req : IssueTenantCreditRequest) : Except AdminError (List QuotaInfo) :=
  if req.amount ≤ 0 then .error (.invalidArgument "amount must be positive")
  else
    match update req.signal with
    | .error cause => .error (.updateWorkflow cause)
    | .ok (.error cause) => .error (.updateResult cause)
    | .ok (.ok result) =>
      .ok ((order.order (allResources.filter fun r => (result.balances r).isSome)).filterMap
        fun r => (result.balances r).map (creditQuotaInfo r))

/-- The quotas of a tenant as the snapshot rows show them; no flags are asked for. -/
def listTenantQuotas (parseTenantID : Except String Uint128)
    (getQuotaSnapshots : Uint128 → Except String (List QuotaSnapshot)) :
    Except String (List QuotaInfo) :=
  match parseTenantID with
  | .error cause => .error ("invalid tenant ID: " ++ cause)
  | .ok tenantUUID =>
    match getQuotaSnapshots tenantUUID with
    | .error cause => .error ("GetQuotaSnapshots: " ++ cause)
    | .ok snapshots => .ok (snapshots.map (·.toQuotaInfo Table.empty))

theorem issueTenantCredit_fails_iff (order : IterationOrder ResourceType)
    (result : Except UpdateError IssueCreditResult) (req : IssueTenantCreditRequest) :
    (∃ err, issueTenantCredit order (fun _ => .ok result) req = .error err) ↔
      req.amount ≤ 0 ∨ ∃ err, result = .error err := by
  unfold issueTenantCredit
  split_ifs with hamount
  · simp [hamount]
  · cases result <;> simp [hamount]

/-- The result of an accepted update, once it has ended. -/
def updateResult (e : Execution) (issue : Issue) :
    Option (Except UpdateError IssueCreditResult) :=
  if issue ∈ e.handlers then none
  else
    match e.history.returned.find? (·.1 = issue) with
    | some (_, .ok result) => some (.ok result)
    | some (_, .error err) => some (.error (.failed err))
    | none => some (.error .aborted)

end CloudCredit.Gateway
