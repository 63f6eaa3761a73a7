import CloudCredit.TigerBeetle.Books
import CloudCredit.Domain.Resource
import CloudCredit.Library.Maps

/-!
# Messages of the accounting workflow

Signals, updates and the balances handed to their callers. Maps keyed by a
resource name are keyed by the resource itself.
-/
namespace CloudCredit.Accounting

open Library TigerBeetle Domain

/-- The data of one parsed heartbeat. -/
structure HeartbeatSignal where
  clusterID : String
  clusterUUID : Uint128
  sequenceNumber : UInt64
  cpuMillisecondsDelta : Int64
  memoryMBSecondsDelta : Int64
  activeNodes : Int32
  heartbeatTimestampNs : Int64
  deriving DecidableEq

/-- A manual credit issuance. -/
structure QuotaAdjustmentSignal where
  resourceType : String
  amount : Int64
  reason : String
  code : UInt16
  deriving DecidableEq

structure RegisterClusterSignal where
  clusterID : String
  deriving DecidableEq

/-- A balance as the workflow hands it on, in signed 64-bit columns. -/
structure QuotaSnapshotData where
  creditsTotal : Int64
  debitsPosted : Int64
  debitsPending : Int64
  deriving DecidableEq

/-- The returned balances of an issued credit; empty when they could not be read. -/
structure IssueCreditResult where
  balances : Table ResourceType QuotaSnapshotData := Table.empty

/-- The usage of a resource reported by a heartbeat. -/
def heartbeatAmount (hb : HeartbeatSignal) : ResourceType → Int64
  | .cpuHours => hb.cpuMillisecondsDelta
  | .memoryGBHours => hb.memoryMBSecondsDelta
  | .activeNodes => hb.activeNodes.toInt64

end CloudCredit.Accounting
