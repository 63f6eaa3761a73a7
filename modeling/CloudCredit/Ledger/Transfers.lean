import CloudCredit.TigerBeetle.Requests
import CloudCredit.Domain.Resource

/-!
# Building and submitting transfers

Usage transfers debit a tenant's quota account towards the sink, allocations
credit it from the operator account, and a gauge update voids the old
reservation of a cluster and makes a new one in a single request. The service
reports failures only, by position; both submission paths turn them back into
one verdict for each entry, and treat every answer they do not list as an error
of the whole request.
-/
namespace CloudCredit.Ledger

open TigerBeetle Domain

/-- The outcome of one transfer of a request. -/
structure TransferResult where
  resource : ResourceType
  accepted : Bool := false
  exceedsCredits : Bool := false
  exists_ : Bool := false
  deriving DecidableEq

structure UsageTransfer where
  resource : ResourceType
  operatorID : Uint128
  tenantQuotaID : Uint128
  sinkID : Uint128
  amount : UInt64
  transferID : Uint128
  clusterUUID : Uint128
  heartbeatTsNs : UInt64

structure AllocationTransfer where
  resource : ResourceType
  operatorID : Uint128
  tenantQuotaID : Uint128
  amount : UInt64
  code : UInt16
  tenantUUID : Uint128
  periodStartNs : UInt64
  transferID : Uint128 := 0

/-- The errors of the submission paths, each with the values its text shows. -/
inductive LedgerError
  | createTransfers (cause : String)
  | unexpectedResult (index : ℕ) (resource : ResourceType) (result : CreateTransferResult)
  | gaugeCreateTransfers (cause : String)
  | gaugeUnexpectedOnCreate (index : ℕ) (result : CreateTransferResult)
  | gaugeUnexpectedResult (index : ℕ) (result : CreateTransferResult)
  deriving DecidableEq

/-- The switch of `submitBatch` on the failure reported for one position. -/
def transferVerdict (index : ℕ) (resource : ResourceType) :
    Option CreateTransferResult → Except LedgerError TransferResult
  | none => .ok { resource, accepted := true }
  | some .exceedsCredits => .ok { resource, exceedsCredits := true }
  | some .exists | some .existsWithDifferentDebitAccountID
  | some .existsWithDifferentCreditAccountID | some .existsWithDifferentAmount =>
    .ok { resource, accepted := true, exists_ := true }
  | some result => .error (.unexpectedResult index resource result)

/-- The common submission path of usage and allocation transfers. -/
def submitBatch (tb : Service) (fate : Fate) (L : Books) (transfers : List Transfer)
    (resourceAt : ℕ → ResourceType) : Except LedgerError (List TransferResult) × Books :=
  match tb.request fate L transfers with
  | (.error cause, L') => (.error (.createTransfers cause), L')
  | (.ok tbResults, L') =>
    let failed := failureMap (fun _ => none) tbResults
    ((List.range transfers.length).mapM fun i => transferVerdict i (resourceAt i) (failed i), L')

def UsageTransfer.toTransfer (t : UsageTransfer) : Transfer where
  id := t.transferID
  debitAccountID := t.tenantQuotaID
  creditAccountID := t.sinkID
  amount := t.amount.toNat
  ledger := t.resource.ledgerID
  code := codeUsageRecord
  userData128 := t.clusterUUID
  userData64 := t.heartbeatTsNs

/-- `rand` supplies the identifiers of `RandomID`, the fallback for a zero identifier. -/
def AllocationTransfer.toTransfer (a : AllocationTransfer) (rand : Uint128) : Transfer where
  id := if a.transferID = 0 then rand else a.transferID
  debitAccountID := a.operatorID
  creditAccountID := a.tenantQuotaID
  amount := a.amount.toNat
  ledger := a.resource.ledgerID
  code := a.code
  userData128 := a.tenantUUID
  userData64 := a.periodStartNs

def submitUsageBatch (tb : Service) (fate : Fate) (L : Books) (transfers : List UsageTransfer) :
    Except LedgerError (List TransferResult) × Books :=
  submitBatch tb fate L (transfers.map UsageTransfer.toTransfer)
    fun i => (transfers[i]?.map (·.resource)).getD .cpuHours

/-- The transfers of an allocation request, numbered from `n`. -/
def allocationTransfers (rand : ℕ → Uint128) : ℕ → List AllocationTransfer → List Transfer
  | _, [] => []
  | n, a :: as => a.toTransfer (rand n) :: allocationTransfers rand (n + 1) as

def submitAllocations (tb : Service) (fate : Fate) (rand : ℕ → Uint128) (L : Books)
    (allocations : List AllocationTransfer) : Except LedgerError (List TransferResult) × Books :=
  submitBatch tb fate L (allocationTransfers rand 0 allocations)
    fun i => (allocations[i]?.map (·.resource)).getD .cpuHours

/-- A change of one gauge on one cluster. -/
structure GaugePendingUpdate where
  resource : ResourceType
  tenantQuotaID : Uint128
  sinkID : Uint128
  oldPendingID : Option Uint128
  newAmount : UInt64
  clusterUUID : Uint128
  heartbeatTsNs : UInt64
  newPendingID : Uint128 := 0
  voidTransferID : Uint128 := 0

structure GaugePendingResult where
  newPendingID : Uint128 := 0
  accepted : Bool := false
  exceedsCredits : Bool := false
  deriving DecidableEq

/-- Which update a transfer of the request belongs to, and whether it is its void. -/
structure GaugeMeta where
  updateIdx : ℕ
  isVoid : Bool
  deriving DecidableEq

namespace GaugePendingUpdate

variable (u : GaugePendingUpdate) (rand : ℕ → Uint128) (i : ℕ)

/-- The identifier of the new reservation, `RandomID` when none was given. -/
def newID : Uint128 := if u.newPendingID ≠ 0 then u.newPendingID else rand (2 * i)

def voidID : Uint128 := if u.voidTransferID = 0 then rand (2 * i + 1) else u.voidTransferID

def voidTransfer (old : Uint128) : Transfer where
  id := u.voidID rand i
  pendingID := old
  debitAccountID := u.tenantQuotaID
  creditAccountID := u.sinkID
  amount := 0
  ledger := u.resource.ledgerID
  code := codeGaugeReservation
  flags := { voidPendingTransfer := true }

def newTransfer : Transfer where
  id := u.newID rand i
  debitAccountID := u.tenantQuotaID
  creditAccountID := u.sinkID
  amount := u.newAmount.toNat
  ledger := u.resource.ledgerID
  code := codeGaugeReservation
  flags := { pending := true }
  userData128 := u.clusterUUID
  userData64 := u.heartbeatTsNs

/-- The void of the old reservation, if there is one, then the new one, if the
gauge is not zero. -/
def transfers : List (Transfer × GaugeMeta) :=
  (match u.oldPendingID with
    | some old => [(u.voidTransfer rand i old, ⟨i, true⟩)]
    | none => []) ++
  if 0 < u.newAmount then [(u.newTransfer rand i, ⟨i, false⟩)] else []

end GaugePendingUpdate

/-- The request for a list of updates, numbered from `n`. -/
def gaugeTransfers (rand : ℕ → Uint128) :
    ℕ → List GaugePendingUpdate → List (Transfer × GaugeMeta)
  | _, [] => []
  | n, u :: us => u.transfers rand n ++ gaugeTransfers rand (n + 1) us

/-- A transfer of the request gives back an old reservation or asks for a new one. -/
theorem mem_gaugeTransfers {rand : ℕ → Uint128} {n : ℕ} {us : List GaugePendingUpdate}
    {t : Transfer} (ht : t ∈ (gaugeTransfers rand n us).map Prod.fst) :
    ∃ u ∈ us, ∃ k, (∃ old, u.oldPendingID = some old ∧ t = u.voidTransfer rand k old) ∨
      0 < u.newAmount ∧ t = u.newTransfer rand k := by
  induction us generalizing n with
  | nil => cases ht
  | cons u us ih =>
    rw [gaugeTransfers, List.map_append, List.mem_append] at ht
    rcases ht with ht | ht
    · refine ⟨u, List.mem_cons_self, n, ?_⟩
      rw [GaugePendingUpdate.transfers, List.map_append, List.mem_append] at ht
      rcases ht with ht | ht
      · cases hold : u.oldPendingID with
        | none => simp [hold] at ht
        | some old => exact .inl ⟨old, rfl, by simpa [hold] using ht⟩
      · split_ifs at ht with hpos
        · exact .inr ⟨hpos, List.mem_singleton.mp ht⟩
        · cases ht
    · obtain ⟨v, hv, hk⟩ := ih ht
      exact ⟨v, List.mem_cons_of_mem _ hv, hk⟩

def GaugePendingResult.reject (r : GaugePendingResult) : GaugePendingResult :=
  { r with accepted := false, exceedsCredits := true }

/-- The switch of `SubmitGaugePendingUpdates` on one reported failure. -/
def gaugeVerdict (index : ℕ) (m : GaugeMeta) (result : CreateTransferResult)
    (results : List GaugePendingResult) : Except LedgerError (List GaugePendingResult) :=
  match result with
  | .exceedsCredits =>
    .ok (if m.isVoid then results else results.modify m.updateIdx GaugePendingResult.reject)
  | .exists | .existsWithDifferentDebitAccountID | .existsWithDifferentCreditAccountID
  | .existsWithDifferentAmount => .ok results
  | .pendingTransferNotFound | .pendingTransferAlreadyVoided | .pendingTransferAlreadyPosted =>
    if m.isVoid then .ok results else .error (.gaugeUnexpectedOnCreate index result)
  | _ => .error (.gaugeUnexpectedResult index result)

/-- One reported failure, read against the entry it stands for. -/
def gaugeFailure (metas : List GaugeMeta) (results : List GaugePendingResult)
    (r : ℕ × CreateTransferResult) : Except LedgerError (List GaugePendingResult) :=
  atPosition gaugeVerdict (fun r => .gaugeUnexpectedResult r.1 r.2) metas results r

/-- Hand out the identifiers of the reservations that were made. -/
def assignNewPending (newID : ℕ → Uint128) (results : List GaugePendingResult) (m : GaugeMeta) :
    List GaugePendingResult :=
  if m.isVoid then results
  else results.modify m.updateIdx fun r =>
    if r.accepted then { r with newPendingID := newID m.updateIdx } else r

/-- Void the old reservations and make the new ones, in one request. -/
def submitGaugePendingUpdates (tb : Service) (fate : Fate) (rand : ℕ → Uint128) (L : Books)
    (updates : List GaugePendingUpdate) : Except LedgerError (List GaugePendingResult) × Books :=
  let results := updates.map fun _ => ({ accepted := true } : GaugePendingResult)
  let entries := gaugeTransfers rand 0 updates
  let newID := fun i => (updates[i]?.map fun u => u.newID rand i).getD 0
  if entries = [] then (.ok results, L)
  else
    match tb.request fate L (entries.map Prod.fst) with
    | (.error cause, L') => (.error (.gaugeCreateTransfers cause), L')
    | (.ok tbResults, L') =>
      let metas := entries.map Prod.snd
      ((tbResults.foldlM (gaugeFailure metas) results).map
        fun results => metas.foldl (assignNewPending newID) results, L')

end CloudCredit.Ledger
