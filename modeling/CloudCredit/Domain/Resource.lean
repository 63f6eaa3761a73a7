import Mathlib.Tactic

/-!
# Resources, account roles and transfer codes

The constants of the domain package. A resource type is the key of every map in
the accounting code and names one ledger; the unknown names for which the code
panics have no value here and are refused where a name is read from a request.
-/
namespace CloudCredit.Domain

inductive ResourceType
  | cpuHours
  | memoryGBHours
  | activeNodes
  deriving DecidableEq, Repr

/-- The account types that are created; their names are stored in PostgreSQL. -/
inductive AccountType
  | operator
  | tenantQuota
  | sink
  deriving DecidableEq, Repr

namespace ResourceType

/-- The string form used as map key and in requests. -/
def name : ResourceType → String
  | cpuHours => "cpu_hours"
  | memoryGBHours => "memory_gb_hours"
  | activeNodes => "active_nodes"

def ofName? (s : String) : Option ResourceType :=
  if s = "cpu_hours" then some cpuHours
  else if s = "memory_gb_hours" then some memoryGBHours
  else if s = "active_nodes" then some activeNodes
  else none

def ledgerID : ResourceType → UInt32
  | cpuHours => 1
  | memoryGBHours => 2
  | activeNodes => 3

/-- Point-in-time resources, tracked with pending transfers. -/
def isGauge (r : ResourceType) : Bool := r = activeNodes

theorem ofName?_name (r : ResourceType) : ofName? r.name = some r := by
  cases r <;> decide

theorem ledgerID_injective {r s : ResourceType} (h : r.ledgerID = s.ledgerID) : r = s := by
  cases r <;> cases s <;> first | rfl | exact absurd h (by decide)

theorem ledgerID_ne_zero (r : ResourceType) : r.ledgerID ≠ 0 := by
  cases r <;> decide

end ResourceType

def allResources : List ResourceType := [.cpuHours, .memoryGBHours, .activeNodes]

@[simp] theorem mem_allResources (r : ResourceType) : r ∈ allResources := by
  cases r <;> simp [allResources]

theorem allResources_nodup : allResources.Nodup := by decide

def accountCodeFromType : AccountType → UInt16
  | .operator => 1
  | .tenantQuota => 2
  | .sink => 3

theorem accountCodeFromType_injective {a b : AccountType}
    (h : accountCodeFromType a = accountCodeFromType b) : a = b := by
  cases a <;> cases b <;> first | rfl | exact absurd h (by decide)

def codeQuotaAllocation : UInt16 := 100
def codeQuotaAdjustment : UInt16 := 101
def codeUsageRecord : UInt16 := 200
def codeGaugeReservation : UInt16 := 202

end CloudCredit.Domain
