import CloudCredit.Accounting.Execution

/-!
# Provisioning a tenant

The gateway turns a registration into the parameter of a provisioning workflow,
which inserts the tenant, creates its quota accounts, records them, loads the
wallet and starts the accounting workflow, one activity after the other. An
activity that fails for good ends the workflow.
-/
namespace CloudCredit.Accounting

open Library TigerBeetle Domain Ledger

/-- The initial credits of a billing tier. -/
def defaultCredits (tier : String) : ResourceType → Int64 :=
  if tier = "pro" then fun
    | .cpuHours => 1000000
    | .memoryGBHours => 1000000
    | .activeNodes => 20
  else if tier = "starter" then fun
    | .cpuHours => 200000
    | .memoryGBHours => 200000
    | .activeNodes => 5
  else fun
    | .cpuHours => 10000
    | .memoryGBHours => 10000
    | .activeNodes => 2

structure RegisterTenantRequest where
  billingTier : String := ""
  cpuHoursCredits : Int64 := 0
  memoryGBHoursCredits : Int64 := 0
  activeNodesLimit : Int64 := 0

/-- The amount a request asks for; only a positive one replaces the default. -/
def RegisterTenantRequest.requested (req : RegisterTenantRequest) : ResourceType → Int64
  | .cpuHours => req.cpuHoursCredits
  | .memoryGBHours => req.memoryGBHoursCredits
  | .activeNodes => req.activeNodesLimit

def RegisterTenantRequest.credits (req : RegisterTenantRequest) (r : ResourceType) : Int64 :=
  if 0 < req.requested r then req.requested r else defaultCredits req.billingTier r

theorem RegisterTenantRequest.credits_pos (req : RegisterTenantRequest) (r : ResourceType) :
    0 < req.credits r := by
  unfold credits
  split_ifs with hpos
  · exact hpos
  · unfold defaultCredits
    split_ifs <;> cases r <;> decide

structure TenantProvisioningInput where
  tenantUUID : Uint128
  billingTier : String
  credits : Table ResourceType Int64
  globalOperatorIDs : Table ResourceType Uint128
  globalSinkIDs : Table ResourceType Uint128
  periodStartNs : Int64

/-- The workflow parameter for a registration at time `now`. -/
def registerTenant (req : RegisterTenantRequest) (tenantID : Uint128) (globals : GlobalAccounts)
    (now : Int64) : TenantProvisioningInput where
  tenantUUID := tenantID
  billingTier := req.billingTier
  credits := fun r => some (req.credits r)
  globalOperatorIDs := fun r => globals r .operator
  globalSinkIDs := fun r => globals r .sink
  periodStartNs := now

/-- Where the provisioning workflow is blocked, or how it ended. -/
inductive ProvisioningPhase
  | insertingTenant (run : Run Unit)
  | creatingAccounts (run : Run (Table ResourceType Uint128))
  | insertingMapping (run : Run Unit)
  | allocating (run : Run Unit)
  | startingAccounting
  | completed
  | failed (error : ActivityError)

/-- The accounts of the tenant are still to be created. -/
def ProvisioningPhase.early : ProvisioningPhase → Bool
  | .insertingTenant _ | .creatingAccounts _ => true
  | _ => false

/-- The accounts of the tenant are created. -/
def ProvisioningPhase.late : ProvisioningPhase → Bool
  | .insertingMapping _ | .allocating _ | .startingAccounting | .completed => true
  | _ => false

structure Provisioning where
  input : TenantProvisioningInput
  accountIDs : Table ResourceType Uint128 := Table.empty
  phase : ProvisioningPhase := .insertingTenant {}

namespace Provisioning

variable (h : Blake3) (p : Provisioning)

/-- The wallet's first load, with identifiers derived from the period start. -/
def allocationInput : SubmitAllocationInput where
  tenantUUID := p.input.tenantUUID
  tenantQuotaIDs := p.accountIDs
  globalOperatorIDs := p.input.globalOperatorIDs
  credits := p.input.credits
  periodStartNs := p.input.periodStartNs
  transferIDs := fun r => (p.input.credits r).map fun _ =>
    h.deriveAllocationTransferID p.input.tenantUUID p.input.periodStartNs.toUInt64 r.ledgerID

def accountingInput : TenantAccountingInput where
  tenantUUID := p.input.tenantUUID
  accountMap := p.accountIDs
  globalOperatorIDs := p.input.globalOperatorIDs
  globalSinkIDs := p.input.globalSinkIDs

/-- One attempt to insert a row. -/
def rowAttempt (reply : Except ActivityError Unit) : Option Provisioning :=
  match p.phase with
  | .insertingTenant run => (run.attempt maximumAttempts false reply).map fun run =>
      { p with phase := .insertingTenant run }
  | .insertingMapping run => (run.attempt maximumAttempts false reply).map fun run =>
      { p with phase := .insertingMapping run }
  | _ => none

def accountsAttempt (reached : Bool) (reply : Except ActivityError (Table ResourceType Uint128)) :
    Option Provisioning :=
  match p.phase with
  | .creatingAccounts run => (run.attempt maximumAttempts reached reply).map fun run =>
      { p with phase := .creatingAccounts run }
  | _ => none

def allocationAttempt (reached : Bool) (reply : Except ActivityError Unit) : Option Provisioning :=
  match p.phase with
  | .allocating run => (run.attempt maximumAttempts reached reply).map fun run =>
      { p with phase := .allocating run }
  | _ => none

/-- Go on with the next phase, or fail with the error of this one. -/
def proceed (next : ProvisioningPhase) : Except ActivityError Unit → Provisioning
  | .ok _ => { p with phase := next }
  | .error error => { p with phase := .failed error }

/-- The workflow gets the outcome of the activity it waits for. -/
def deliver : Option Provisioning :=
  match p.phase with
  | .insertingTenant run => run.outcome.map (p.proceed (.creatingAccounts {}))
  | .creatingAccounts run => run.outcome.map fun
      | .ok ids => { p with accountIDs := ids, phase := .insertingMapping {} }
      | .error error => { p with phase := .failed error }
  | .insertingMapping run => run.outcome.map (p.proceed (.allocating {}))
  | .allocating run => run.outcome.map (p.proceed .startingAccounting)
  | _ => none

/-- The accounting workflow was started, or could not be. -/
def accountingStarted (reply : Except ActivityError Unit) : Option Provisioning :=
  match p.phase with
  | .startingAccounting => some (p.proceed .completed reply)
  | _ => none

end Provisioning
end CloudCredit.Accounting
