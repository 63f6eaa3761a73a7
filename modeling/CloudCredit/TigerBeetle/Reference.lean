import CloudCredit.TigerBeetle.Requests

/-!
# A service that can be run

An executable service with the documented answers. It shows that the laws of
`Service` can be met together, and concrete runs are evaluated on it.
-/
namespace CloudCredit.TigerBeetle.Reference

variable (L : Books) (t p : Transfer)

/-- The first check on the two accounts that fails. -/
def accountsCode : Option Account → Option Account → CreateTransferResult
  | none, _ => .debitAccountNotFound
  | some _, none => .creditAccountNotFound
  | some d, some c =>
    if d.ledger ≠ c.ledger then .accountsMustHaveTheSameLedger
    else .transferMustHaveTheSameLedgerAsAccounts

/-- The first check a regular transfer fails, in documented order. -/
def invalidCode : CreateTransferResult :=
  if t.id = 0 then .idMustNotBeZero
  else if t.id = Uint128.intMax then .idMustNotBeIntMax
  else if t.debitAccountID = 0 then .debitAccountIDMustNotBeZero
  else if t.debitAccountID = Uint128.intMax then .debitAccountIDMustNotBeIntMax
  else if t.creditAccountID = 0 then .creditAccountIDMustNotBeZero
  else if t.creditAccountID = Uint128.intMax then .creditAccountIDMustNotBeIntMax
  else if t.debitAccountID = t.creditAccountID then .accountsMustBeDifferent
  else if t.pendingID ≠ 0 then .pendingIDMustBeZero
  else if t.ledger = 0 then .ledgerMustNotBeZero
  else if t.code = 0 then .codeMustNotBeZero
  else accountsCode (L.account? t.debitAccountID) (L.account? t.creditAccountID)

/-- A missing account may be opened later, so its failure is a transient one. -/
def invalidBooks : Books :=
  match invalidCode L t with
  | .debitAccountNotFound | .creditAccountNotFound => L.fail t.id
  | _ => L

def voidInvalidCode : CreateTransferResult :=
  if t.id = 0 then .idMustNotBeZero
  else if t.id = Uint128.intMax then .idMustNotBeIntMax
  else if t.flags.pending then .flagsAreMutuallyExclusive
  else if t.pendingID = 0 then .pendingIDMustNotBeZero
  else if t.pendingID = Uint128.intMax then .pendingIDMustNotBeIntMax
  else .pendingIDMustBeDifferent

def mismatchCode : CreateTransferResult :=
  if !p.flags.pending then .pendingTransferNotPending
  else if t.debitAccountID ≠ 0 ∧ t.debitAccountID ≠ p.debitAccountID then
    .pendingTransferHasDifferentDebitAccountID
  else if t.creditAccountID ≠ 0 ∧ t.creditAccountID ≠ p.creditAccountID then
    .pendingTransferHasDifferentCreditAccountID
  else if t.ledger ≠ 0 ∧ t.ledger ≠ p.ledger then .pendingTransferHasDifferentLedger
  else if t.code ≠ 0 ∧ t.code ≠ p.code then .pendingTransferHasDifferentCode
  else if p.amount < t.amount then .exceedsPendingTransferAmount
  else .pendingTransferHasDifferentAmount

def overflowCode : CreateTransferResult :=
  if 2 ^ 128 ≤ (L.balance t.debitAccountID).debitsPending +
      (L.balance t.debitAccountID).debitsPosted + t.amount then .overflowsDebits
  else .overflowsCredits

def createTransfer : CreateTransferResult × Books :=
  match L.transfer? t.id with
  | some e => (existsResult (L.stored t) e, L)
  | none =>
    if t.id ∈ L.failed then (.idAlreadyFailed, L)
    else if t.flags.voidPendingTransfer then
      if t.validVoid then
        match L.transfer? t.pendingID with
        | none => (.pendingTransferNotFound, L.fail t.id)
        | some p =>
          if t.fits p then
            if L.isVoided p.id then (.pendingTransferAlreadyVoided, L)
            else (.ok, L.release (t.fill p) p)
          else (mismatchCode t p, L)
      else (voidInvalidCode t, L)
    else if L.validRegular t then
      if L.overflows t then (overflowCode L t, L)
      else if L.exceeds t then (.exceedsCredits, L.fail t.id)
      else if t.flags.pending then (.ok, L.reserve t)
      else (.ok, L.post t)
    else (invalidCode L t, invalidBooks L t)

def accountInvalidCode (a : Account) : CreateAccountResult :=
  if a.id = 0 then .idMustNotBeZero
  else if a.id = Uint128.intMax then .idMustNotBeIntMax
  else if a.ledger = 0 then .ledgerMustNotBeZero
  else .codeMustNotBeZero

def createAccount (a : Account) : CreateAccountResult × Books :=
  match L.account? a.id with
  | some e => (accountExistsResult a e, L)
  | none => if a.valid then (.ok, L.openAccount a) else (accountInvalidCode a, L)

theorem accountsCode_invalid (d c : Option Account) : (accountsCode d c).invalid = true := by
  cases d with
  | none => rfl
  | some d =>
    cases c with
    | none => rfl
    | some c => by_cases h : d.ledger = c.ledger <;> simp [accountsCode, h, CreateTransferResult.invalid]

theorem invalidCode_invalid : (invalidCode L t).invalid = true := by
  unfold invalidCode
  iterate 10
    split
    · rfl
  exact accountsCode_invalid _ _

theorem invalidBooks_eq : invalidBooks L t = L ∨ invalidBooks L t = L.fail t.id := by
  unfold invalidBooks
  split <;> simp

theorem voidInvalidCode_invalid : (voidInvalidCode t).invalid = true := by
  unfold voidInvalidCode
  split_ifs <;> rfl

theorem mismatchCode_mismatch : (mismatchCode t p).mismatch = true := by
  unfold mismatchCode
  split_ifs <;> rfl

theorem overflowCode_overflow : (overflowCode L t).overflow = true := by
  unfold overflowCode
  split_ifs <;> rfl

theorem createTransfer_documented : Answers L t (createTransfer L t).1 (createTransfer L t).2 := by
  unfold createTransfer
  cases he : L.transfer? t.id with
  | some e => exact .repeated he
  | none =>
    dsimp only
    split_ifs with hf hv hvoid hvalid ho hx hp
    · exact .alreadyFailed he hf
    · cases hq : L.transfer? t.pendingID with
      | none => exact .pendingNotFound ⟨he, hf⟩ hv hvoid hq
      | some q =>
        dsimp only
        split_ifs with hm hd
        · exact .alreadyVoided ⟨he, hf⟩ hv hvoid hq hm hd
        · exact .voided ⟨he, hf⟩ hv hvoid hq hm (by simpa using hd)
        · exact .pendingMismatch ⟨he, hf⟩ hv hvoid hq (by simpa using hm) (mismatchCode_mismatch t q)
    · exact .voidInvalid ⟨he, hf⟩ hv (by simpa using hvoid) (voidInvalidCode_invalid t)
    · exact .overflow ⟨he, hf⟩ (by simpa using hv) hvalid ho (overflowCode_overflow L t)
    · exact .exceedsCredits ⟨he, hf⟩ (by simpa using hv) hvalid (by simpa using ho) hx
    · exact .reserved ⟨he, hf⟩ (by simpa using hv) hvalid (by simpa using ho) (by simpa using hx) hp
    · exact .posted ⟨he, hf⟩ (by simpa using hv) hvalid (by simpa using ho) (by simpa using hx)
        (by simpa using hp)
    · exact .invalid ⟨he, hf⟩ (by simpa using hv) (by simpa using hvalid) (invalidCode_invalid L t)
        (invalidBooks_eq L t)

theorem createAccount_documented (a : Account) :
    AccountAnswers L a (createAccount L a).1 (createAccount L a).2 := by
  unfold createAccount
  cases he : L.account? a.id with
  | some e => exact .repeated he
  | none =>
    dsimp only
    split_ifs with hv
    · exact .opened he hv
    · refine .invalid he (by simpa using hv) ?_
      unfold accountInvalidCode
      split_ifs <;> rfl

/-- The executable service. -/
def service : Service where
  createAccount := createAccount
  createTransfer := createTransfer
  account_documented := createAccount_documented
  transfer_documented := createTransfer_documented

end CloudCredit.TigerBeetle.Reference
