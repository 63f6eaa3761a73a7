import CloudCredit.TigerBeetle.Books

/-!
# The documented answers of the ledger service

The service itself is a parameter: a `Service` is any pair of functions
that answer account and transfer events as the reference manual describes. The
two relations below list those answers, one constructor for each documented
case, with the precedence the manual gives to them: a known identifier is
compared field by field before anything else is looked at, then come the
checks that need no balance, then overflow, then the hard limit.

Events of one request are answered one after the other and independently, and
the client gets back only the failures, with their positions.
-/
namespace CloudCredit.TigerBeetle

inductive CreateAccountResult
  | ok
  | exists
  | existsWithDifferentFlags
  | existsWithDifferentUserData128
  | existsWithDifferentLedger
  | existsWithDifferentCode
  | idMustNotBeZero
  | idMustNotBeIntMax
  | ledgerMustNotBeZero
  | codeMustNotBeZero
  deriving DecidableEq, Repr

inductive CreateTransferResult
  | ok
  | idMustNotBeZero
  | idMustNotBeIntMax
  | existsWithDifferentFlags
  | existsWithDifferentPendingID
  | existsWithDifferentDebitAccountID
  | existsWithDifferentCreditAccountID
  | existsWithDifferentAmount
  | existsWithDifferentUserData128
  | existsWithDifferentUserData64
  | existsWithDifferentLedger
  | existsWithDifferentCode
  | exists
  | idAlreadyFailed
  | flagsAreMutuallyExclusive
  | debitAccountIDMustNotBeZero
  | debitAccountIDMustNotBeIntMax
  | creditAccountIDMustNotBeZero
  | creditAccountIDMustNotBeIntMax
  | accountsMustBeDifferent
  | pendingIDMustBeZero
  | pendingIDMustNotBeZero
  | pendingIDMustNotBeIntMax
  | pendingIDMustBeDifferent
  | ledgerMustNotBeZero
  | codeMustNotBeZero
  | debitAccountNotFound
  | creditAccountNotFound
  | accountsMustHaveTheSameLedger
  | transferMustHaveTheSameLedgerAsAccounts
  | pendingTransferNotFound
  | pendingTransferNotPending
  | pendingTransferHasDifferentDebitAccountID
  | pendingTransferHasDifferentCreditAccountID
  | pendingTransferHasDifferentLedger
  | pendingTransferHasDifferentCode
  | exceedsPendingTransferAmount
  | pendingTransferHasDifferentAmount
  | pendingTransferAlreadyPosted
  | pendingTransferAlreadyVoided
  | overflowsDebits
  | overflowsCredits
  | exceedsCredits
  deriving DecidableEq, Repr

/-- Answers to an event whose fields are wrong whatever the balances are. -/
def CreateTransferResult.invalid : CreateTransferResult → Bool
  | .idMustNotBeZero | .idMustNotBeIntMax | .flagsAreMutuallyExclusive
  | .debitAccountIDMustNotBeZero | .debitAccountIDMustNotBeIntMax
  | .creditAccountIDMustNotBeZero | .creditAccountIDMustNotBeIntMax
  | .accountsMustBeDifferent | .pendingIDMustBeZero | .pendingIDMustNotBeZero
  | .pendingIDMustNotBeIntMax | .pendingIDMustBeDifferent | .ledgerMustNotBeZero
  | .codeMustNotBeZero | .debitAccountNotFound | .creditAccountNotFound
  | .accountsMustHaveTheSameLedger | .transferMustHaveTheSameLedgerAsAccounts => true
  | _ => false

/-- Answers to a void that does not fit the transfer it names. -/
def CreateTransferResult.mismatch : CreateTransferResult → Bool
  | .pendingTransferNotPending | .pendingTransferHasDifferentDebitAccountID
  | .pendingTransferHasDifferentCreditAccountID | .pendingTransferHasDifferentLedger
  | .pendingTransferHasDifferentCode | .exceedsPendingTransferAmount
  | .pendingTransferHasDifferentAmount => true
  | _ => false

def CreateTransferResult.overflow : CreateTransferResult → Bool
  | .overflowsDebits | .overflowsCredits => true
  | _ => false

/-- The answers that carry out a transfer, find it in the books, or reject it for what
they hold at the time. -/
def CreateTransferResult.decided (r : CreateTransferResult) : Bool :=
  !r.invalid && !r.overflow && !r.mismatch && r ≠ .idAlreadyFailed

/-- The answer to an event whose identifier belongs to the committed transfer
`e`: the first field that differs, in documented order. -/
def existsResult (t e : Transfer) : CreateTransferResult :=
  if t.flags ≠ e.flags then .existsWithDifferentFlags
  else if t.pendingID ≠ e.pendingID then .existsWithDifferentPendingID
  else if t.debitAccountID ≠ e.debitAccountID then .existsWithDifferentDebitAccountID
  else if t.creditAccountID ≠ e.creditAccountID then .existsWithDifferentCreditAccountID
  else if t.amount ≠ e.amount then .existsWithDifferentAmount
  else if t.userData128 ≠ e.userData128 then .existsWithDifferentUserData128
  else if t.userData64 ≠ e.userData64 then .existsWithDifferentUserData64
  else if t.ledger ≠ e.ledger then .existsWithDifferentLedger
  else if t.code ≠ e.code then .existsWithDifferentCode
  else .exists

@[simp] theorem existsResult_self (t : Transfer) : existsResult t t = .exists := by
  simp [existsResult]

/-- The answers to an identifier that is in the books. -/
def CreateTransferResult.found : CreateTransferResult → Bool
  | .existsWithDifferentFlags | .existsWithDifferentPendingID | .existsWithDifferentDebitAccountID
  | .existsWithDifferentCreditAccountID | .existsWithDifferentAmount
  | .existsWithDifferentUserData128 | .existsWithDifferentUserData64 | .existsWithDifferentLedger
  | .existsWithDifferentCode | .exists => true
  | _ => false

theorem existsResult_found (t e : Transfer) : (existsResult t e).found = true := by
  unfold existsResult
  iterate 9
    split
    · rfl
  rfl

/-- Unless they are reported, flags and reservation agree. -/
theorem existsResult_agrees {t e : Transfer} (hf : existsResult t e ≠ .existsWithDifferentFlags)
    (hp : existsResult t e ≠ .existsWithDifferentPendingID) :
    t.flags = e.flags ∧ t.pendingID = e.pendingID := by
  unfold existsResult at hf hp
  by_cases h1 : t.flags = e.flags
  · by_cases h2 : t.pendingID = e.pendingID
    · exact ⟨h1, h2⟩
    · simp [h1, h2] at hp
  · simp [h1] at hf

def accountExistsResult (a e : Account) : CreateAccountResult :=
  if a.flags ≠ e.flags then .existsWithDifferentFlags
  else if a.userData128 ≠ e.userData128 then .existsWithDifferentUserData128
  else if a.ledger ≠ e.ledger then .existsWithDifferentLedger
  else if a.code ≠ e.code then .existsWithDifferentCode
  else .exists

theorem accountExistsResult_exists {a e : Account} (hid : a.id = e.id)
    (h : accountExistsResult a e = .exists) : a = e := by
  unfold accountExistsResult at h
  split_ifs at h with h1 h2 h3 h4
  cases a
  cases e
  simp_all

/-- What is kept of a void: fields left zero are taken from its reservation. -/
def Transfer.fill (t p : Transfer) : Transfer :=
  { t with
    debitAccountID := if t.debitAccountID = 0 then p.debitAccountID else t.debitAccountID
    creditAccountID := if t.creditAccountID = 0 then p.creditAccountID else t.creditAccountID
    amount := if t.amount = 0 then p.amount else t.amount
    userData128 := if t.userData128 = 0 then p.userData128 else t.userData128
    userData64 := if t.userData64 = 0 then p.userData64 else t.userData64
    ledger := if t.ledger = 0 then p.ledger else t.ledger
    code := if t.code = 0 then p.code else t.code }

namespace Books

variable (L : Books) (t : Transfer)

/-- The record the service would store for an event. -/
def stored : Transfer :=
  if t.flags.voidPendingTransfer then
    match L.transfer? t.pendingID with
    | some p => t.fill p
    | none => t
  else t

/-- The identifier was neither committed nor used up by a transient failure. -/
def Fresh (i : Uint128) : Prop := L.transfer? i = none ∧ i ∉ L.failed

def onLedger (i : Uint128) (l : UInt32) : Bool :=
  match L.account? i with
  | some a => a.ledger = l
  | none => false

/-- A regular or pending transfer passes the checks that need no balance. -/
def validRegular : Bool :=
  t.id.usable && t.debitAccountID.usable && t.creditAccountID.usable &&
    t.debitAccountID ≠ t.creditAccountID && t.pendingID = 0 && t.ledger ≠ 0 && t.code ≠ 0 &&
    L.onLedger t.debitAccountID t.ledger && L.onLedger t.creditAccountID t.ledger

/-- Balance columns are 128-bit unsigned integers. -/
def overflows : Bool :=
  2 ^ 128 ≤ (L.balance t.debitAccountID).debitsPending +
      (L.balance t.debitAccountID).debitsPosted + t.amount ||
    2 ^ 128 ≤ (L.balance t.creditAccountID).creditsPending +
      (L.balance t.creditAccountID).creditsPosted + t.amount

/-- The debit would take a limited account beyond its posted credits. -/
def exceeds : Bool :=
  match L.account? t.debitAccountID with
  | some a => a.flags.debitsMustNotExceedCredits &&
      (L.balance a.id).creditsPosted <
        (L.balance a.id).debitsPending + (L.balance a.id).debitsPosted + t.amount
  | none => false

end Books

/-- A void passes the checks that do not look at its reservation. -/
def Transfer.validVoid (t : Transfer) : Bool :=
  t.id.usable && t.pendingID.usable && t.pendingID ≠ t.id && !t.flags.pending

/-- The fields a void gives agree with the reservation it names. -/
def Transfer.fits (t p : Transfer) : Bool :=
  p.flags.pending && (t.debitAccountID = 0 || t.debitAccountID = p.debitAccountID) &&
    (t.creditAccountID = 0 || t.creditAccountID = p.creditAccountID) &&
    (t.ledger = 0 || t.ledger = p.ledger) && (t.code = 0 || t.code = p.code) &&
    (t.amount = 0 || t.amount = p.amount)

theorem Transfer.validVoid_pending {t : Transfer} (hi : t.validVoid = true) :
    t.flags.pending = false := by
  simp only [validVoid, Bool.and_eq_true, Bool.not_eq_true'] at hi
  exact hi.2

theorem Transfer.fits_pending {t p : Transfer} (hm : t.fits p = true) : p.flags.pending = true := by
  simp only [fits, Bool.and_eq_true] at hm
  exact hm.1.1.1.1.1

/-- The documented answers to one transfer event, and what they leave behind. -/
inductive Answers (L : Books) (t : Transfer) : CreateTransferResult → Books → Prop
  | repeated {e : Transfer} (he : L.transfer? t.id = some e) :
      Answers L t (existsResult (L.stored t) e) L
  | alreadyFailed (hn : L.transfer? t.id = none) (hf : t.id ∈ L.failed) :
      Answers L t .idAlreadyFailed L
  | invalid {r : CreateTransferResult} {L' : Books} (hf : L.Fresh t.id)
      (hv : t.flags.voidPendingTransfer = false) (hi : L.validRegular t = false)
      (hr : r.invalid = true) (hL : L' = L ∨ L' = L.fail t.id) : Answers L t r L'
  | overflow {r : CreateTransferResult} (hf : L.Fresh t.id)
      (hv : t.flags.voidPendingTransfer = false) (hi : L.validRegular t = true)
      (ho : L.overflows t = true) (hr : r.overflow = true) : Answers L t r L
  | exceedsCredits (hf : L.Fresh t.id)
      (hv : t.flags.voidPendingTransfer = false) (hi : L.validRegular t = true)
      (ho : L.overflows t = false) (hx : L.exceeds t = true) :
      Answers L t .exceedsCredits (L.fail t.id)
  | posted (hf : L.Fresh t.id)
      (hv : t.flags.voidPendingTransfer = false) (hi : L.validRegular t = true)
      (ho : L.overflows t = false) (hx : L.exceeds t = false) (hp : t.flags.pending = false) :
      Answers L t .ok (L.post t)
  | reserved (hf : L.Fresh t.id)
      (hv : t.flags.voidPendingTransfer = false) (hi : L.validRegular t = true)
      (ho : L.overflows t = false) (hx : L.exceeds t = false) (hp : t.flags.pending = true) :
      Answers L t .ok (L.reserve t)
  | voidInvalid {r : CreateTransferResult} (hf : L.Fresh t.id)
      (hv : t.flags.voidPendingTransfer = true) (hi : t.validVoid = false)
      (hr : r.invalid = true) : Answers L t r L
  | pendingNotFound (hf : L.Fresh t.id)
      (hv : t.flags.voidPendingTransfer = true) (hi : t.validVoid = true)
      (hp : L.transfer? t.pendingID = none) :
      Answers L t .pendingTransferNotFound (L.fail t.id)
  | pendingMismatch {p : Transfer} {r : CreateTransferResult} (hf : L.Fresh t.id)
      (hv : t.flags.voidPendingTransfer = true) (hi : t.validVoid = true)
      (hp : L.transfer? t.pendingID = some p) (hm : t.fits p = false)
      (hr : r.mismatch = true) : Answers L t r L
  | alreadyVoided {p : Transfer} (hf : L.Fresh t.id)
      (hv : t.flags.voidPendingTransfer = true) (hi : t.validVoid = true)
      (hp : L.transfer? t.pendingID = some p) (hm : t.fits p = true)
      (hd : L.isVoided p.id = true) : Answers L t .pendingTransferAlreadyVoided L
  | voided {p : Transfer} (hf : L.Fresh t.id)
      (hv : t.flags.voidPendingTransfer = true) (hi : t.validVoid = true)
      (hp : L.transfer? t.pendingID = some p) (hm : t.fits p = true)
      (hd : L.isVoided p.id = false) : Answers L t .ok (L.release (t.fill p) p)

def Account.valid (a : Account) : Bool := a.id.usable && a.ledger ≠ 0 && a.code ≠ 0

def CreateAccountResult.invalid : CreateAccountResult → Bool
  | .idMustNotBeZero | .idMustNotBeIntMax | .ledgerMustNotBeZero | .codeMustNotBeZero => true
  | _ => false

/-- The documented answers to one account event. -/
inductive AccountAnswers (L : Books) (a : Account) : CreateAccountResult → Books → Prop
  | repeated {e : Account} (he : L.account? a.id = some e) :
      AccountAnswers L a (accountExistsResult a e) L
  | invalid {r : CreateAccountResult} (hn : L.account? a.id = none) (hi : a.valid = false)
      (hr : r.invalid = true) : AccountAnswers L a r L
  | opened (hn : L.account? a.id = none) (hi : a.valid = true) :
      AccountAnswers L a .ok (L.openAccount a)

/-- The ledger service, known only through its documented answers. -/
structure Service where
  createAccount : Books → Account → CreateAccountResult × Books
  createTransfer : Books → Transfer → CreateTransferResult × Books
  account_documented : ∀ L a, AccountAnswers L a (createAccount L a).1 (createAccount L a).2
  transfer_documented : ∀ L t, Answers L t (createTransfer L t).1 (createTransfer L t).2

/-- Later books: nothing that was written is ever taken back. -/
structure Books.Grows (L L' : Books) : Prop where
  accounts : L.accounts <+: L'.accounts
  transfers : L.transfers <:+ L'.transfers
  failed : L.failed <:+ L'.failed

namespace Books.Grows

variable {L M N : Books}

theorem refl (L : Books) : L.Grows L :=
  ⟨List.prefix_rfl, List.suffix_rfl, List.suffix_rfl⟩

theorem trans (h : L.Grows M) (h' : M.Grows N) : L.Grows N :=
  ⟨h.accounts.trans h'.accounts, h.transfers.trans h'.transfers, h.failed.trans h'.failed⟩

theorem account? (h : L.Grows M) {i : Uint128} {a : Account} (ha : L.account? i = some a) :
    M.account? i = some a := by
  obtain ⟨rest, hrest⟩ := h.accounts
  unfold Books.account? at ha ⊢
  rw [← hrest, List.find?_append, ha, Option.some_or]

theorem transfer? (h : L.Grows M) (hM : M.Wf) {i : Uint128} {t : Transfer}
    (ht : L.transfer? i = some t) : M.transfer? i = some t := by
  obtain ⟨hmem, rfl⟩ := transfer?_some ht
  exact hM.transfer?_eq (h.transfers.subset hmem)

theorem isSome_transfer? (h : L.Grows M) {i : Uint128} (hi : (L.transfer? i).isSome = true) :
    (M.transfer? i).isSome = true := by
  unfold Books.transfer? at hi ⊢
  rw [List.find?_isSome] at hi ⊢
  obtain ⟨t, ht, hid⟩ := hi
  exact ⟨t, h.transfers.subset ht, hid⟩

theorem isVoided (h : L.Grows M) {i : Uint128} (hi : L.isVoided i = true) :
    M.isVoided i = true := by
  unfold Books.isVoided at hi ⊢
  obtain ⟨v, hv, hc⟩ := List.any_eq_true.mp hi
  exact List.any_eq_true.mpr ⟨v, h.transfers.subset hv, hc⟩

theorem creditsPosted_le (h : L.Grows M) (hL : L.Wf) (hM : M.Wf) (i : Uint128) :
    (L.balance i).creditsPosted ≤ (M.balance i).creditsPosted := by
  obtain ⟨ts, hts⟩ := h.transfers
  rw [hL.creditsPosted_eq, hM.creditsPosted_eq, ← hts]
  simp [total]

end Books.Grows

namespace Answers

variable {L L' : Books} {t : Transfer} {r : CreateTransferResult}

theorem grows (h : Answers L t r L') : L.Grows L' := by
  have hfail : L.Grows (L.fail t.id) :=
    ⟨List.prefix_rfl, List.suffix_rfl, List.suffix_cons _ _⟩
  cases h with
  | invalid hf hv hi hr hL =>
    rcases hL with rfl | rfl
    · exact Books.Grows.refl _
    · exact hfail
  | exceedsCredits | pendingNotFound => exact hfail
  | posted | reserved | voided => exact ⟨List.prefix_rfl, List.suffix_cons _ _, List.suffix_rfl⟩
  | _ => exact Books.Grows.refl _

/-- An accepted transfer is stored on top, any other answer stores nothing. -/
theorem transfers_eq (h : Answers L t r L') :
    L'.transfers = if r = .ok then L.stored t :: L.transfers else L.transfers := by
  cases h with
  | posted hf hv => simp [Books.post, Books.stored, hv]
  | reserved hf hv => simp [Books.reserve, Books.stored, hv]
  | voided hf hv hi hp => simp [Books.release, Books.stored, hv, hp]
  | @repeated e he =>
    have hfound := existsResult_found (L.stored t) e
    rw [if_neg]
    intro hok
    rw [hok] at hfound
    cases hfound
  | invalid hf hv hi hr hL =>
    rw [if_neg (by rintro rfl; cases hr)]
    rcases hL with rfl | rfl <;> rfl
  | overflow hf hv hi ho hr => rw [if_neg (by rintro rfl; cases hr)]
  | exceedsCredits => rfl
  | voidInvalid hf hv hi hr => rw [if_neg (by rintro rfl; cases hr)]
  | pendingNotFound => rfl
  | pendingMismatch hf hv hi hp hm hr => rw [if_neg (by rintro rfl; cases hr)]
  | alreadyVoided => rfl
  | alreadyFailed => rfl

theorem accounts_eq (h : Answers L t r L') : L'.accounts = L.accounts := by
  cases h with
  | invalid hf hv hi hr hL => rcases hL with rfl | rfl <;> rfl
  | _ => rfl

theorem onLedger_iff {i : Uint128} {l : UInt32} :
    L.onLedger i l = true ↔ ∃ a, L.account? i = some a ∧ a.ledger = l := by
  unfold Books.onLedger
  cases h : L.account? i <;> simp

theorem ends_of_valid (hi : L.validRegular t = true) : L.Ends t := by
  simp only [Books.validRegular, Bool.and_eq_true, decide_eq_true_eq, onLedger_iff] at hi
  obtain ⟨⟨⟨⟨⟨⟨⟨⟨_, _⟩, _⟩, hne⟩, _⟩, _⟩, _⟩, ⟨d, hd, hdl⟩⟩, ⟨c, hc, hcl⟩⟩ := hi
  obtain ⟨hdm, hdi⟩ := Books.account?_some hd
  obtain ⟨hcm, hci⟩ := Books.account?_some hc
  exact ⟨hne, ⟨d, hdm, hdi, hdl⟩, c, hcm, hci, hcl⟩

theorem withinLimit_of_not_exceeds (h : L.Wf) (hx : L.exceeds t = false) : L.WithinLimit t := by
  intro a ha hid hflag
  have hf := h.account?_eq ha
  rw [hid] at hf
  simp only [Books.exceeds, hf, hflag, Bool.true_and, decide_eq_false_iff_not] at hx
  omega

theorem fill_of_fits {p : Transfer} (hm : t.fits p = true) :
    (t.fill p).debitAccountID = p.debitAccountID ∧ (t.fill p).creditAccountID = p.creditAccountID ∧
      (t.fill p).ledger = p.ledger ∧ (t.fill p).amount = p.amount := by
  simp only [Transfer.fits, Bool.and_eq_true, Bool.or_eq_true, decide_eq_true_eq] at hm
  obtain ⟨⟨⟨⟨⟨_, hd⟩, hc⟩, hl⟩, _⟩, ha⟩ := hm
  simp only [Transfer.fill]
  refine ⟨?_, ?_, ?_, ?_⟩
  · rcases hd with h | h <;> simp [h]
  · rcases hc with h | h <;> simp [h]
  · rcases hl with h | h <;> simp [h]
  · rcases ha with h | h <;> simp [h]

theorem wf (h : L.Wf) (ha : Answers L t r L') : L'.Wf := by
  cases ha with
  | invalid hf hv hi hr hL =>
    rcases hL with rfl | rfl
    · exact h
    · exact h.fail hf.1
  | exceedsCredits hf | pendingNotFound hf => exact h.fail hf.1
  | posted hf hv hi ho hx hp =>
    exact h.post hf.1 hf.2 (ends_of_valid hi) (by simp [Transfer.posts, hp, hv])
      (withinLimit_of_not_exceeds h hx)
  | reserved hf hv hi ho hx hp =>
    exact h.reserve hf.1 hf.2 (ends_of_valid hi) hp hv (withinLimit_of_not_exceeds h hx)
  | @voided p hf hv hi hp hm hd =>
    obtain ⟨hmem, hid⟩ := Books.transfer?_some hp
    obtain ⟨hde, hce, hle, -⟩ := fill_of_fits hm
    have hends := h.ends p hmem
    have hpend := Transfer.fits_pending hm
    have hnp := Transfer.validVoid_pending hi
    refine h.release hf.1 hf.2 ?_ hv hnp hid.symm (Books.mem_live.mpr ⟨hmem, hpend, hd⟩)
    unfold Books.Ends
    rw [hde, hce, hle]
    exact hends
  | _ => exact h

end Answers

theorem AccountAnswers.books {L L' : Books} {a : Account} {r : CreateAccountResult}
    (h : AccountAnswers L a r L') : L' = L ∨ L' = L.openAccount a := by
  cases h with
  | repeated he => exact .inl rfl
  | invalid hn hi hr => exact .inl rfl
  | opened hn hi => exact .inr rfl

theorem AccountAnswers.wf {L L' : Books} {a : Account} {r : CreateAccountResult} (h : L.Wf)
    (ha : AccountAnswers L a r L') : L'.Wf := by
  cases ha with
  | opened hn hi =>
    simp only [Account.valid, Bool.and_eq_true] at hi
    exact h.openAccount hn hi.1.1
  | _ => exact h

theorem AccountAnswers.grows {L L' : Books} {a : Account} {r : CreateAccountResult}
    (ha : AccountAnswers L a r L') : L.Grows L' := by
  cases ha with
  | opened => exact ⟨List.prefix_append _ _, List.suffix_rfl, List.suffix_rfl⟩
  | _ => exact Books.Grows.refl _

/-- An account event that is answered `ok` or `exists` leaves exactly that
account in the books. -/
theorem AccountAnswers.account? {L L' : Books} {a : Account} {r : CreateAccountResult}
    (ha : AccountAnswers L a r L') (hr : r = .ok ∨ r = .exists) : L'.account? a.id = some a := by
  cases ha with
  | @repeated e he =>
    have hid := (Books.account?_some he).2
    have hex : accountExistsResult a e = .exists := by
      rcases hr with hr | hr
      · unfold accountExistsResult at hr
        split_ifs at hr
      · exact hr
    rw [he, accountExistsResult_exists hid.symm hex]
  | invalid hn hi hinv => rcases hr with rfl | rfl <;> simp [CreateAccountResult.invalid] at hinv
  | opened hn hi =>
    have hnone : L.accounts.find? (·.id = a.id) = none := hn
    simp [Books.account?, Books.openAccount, List.find?_append, hnone]

end CloudCredit.TigerBeetle
