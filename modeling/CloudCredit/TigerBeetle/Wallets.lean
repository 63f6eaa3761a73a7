import CloudCredit.Library.Wallets
import CloudCredit.TigerBeetle.Requests
import CloudCredit.TigerBeetle.Reservations

/-!
# A limited account is a wallet

The columns of an account whose debits must not exceed its credits, read as a wallet:
posted credits are what was granted, posted debits what was spent, and its live
reservations what is put aside. Every answer of the service to a transfer on the account
is the answer of the wallet.
-/
namespace CloudCredit.TigerBeetle

open Library

/-- What a transfer asks of the wallet of an account. -/
def Transfer.request (t : Transfer) (i : Uint128) : Option (Wallet.Request Uint128) :=
  if t.debitAccountID = i then
    if t.flags.voidPendingTransfer then some (.release t.pendingID)
    else if t.flags.pending then some (.hold t.id t.amount)
    else some (.spend t.amount)
  else if t.creditAccountID = i ∧ t.posts = true then some (.grant t.amount)
  else none

/-- The answers that grant or refuse what was asked. The others find the transfer in the
books or say that it is not one. -/
def CreateTransferResult.ruling : CreateTransferResult → Option Bool
  | .ok => some true
  | .exceedsCredits | .pendingTransferNotFound | .pendingTransferAlreadyVoided => some false
  | _ => none

/-- The request to an account that was ruled on in a decision, with the ruling. -/
def Entry.ruled {α : Type} (i : Uint128) (x : Entry α) :
    Option (Wallet.Request Uint128 × Bool) :=
  (x.transfer.request i).bind fun q => x.answer.ruling.map (q, ·)

/-- The account shows the contents of the wallet. -/
structure Books.Shows (L : Books) (i : Uint128) (w : Wallet Uint128) : Prop where
  granted : w.granted = (L.balance i).creditsPosted
  spent : w.spent = (L.balance i).debitsPosted
  holds : w.holds = (L.held i).map fun p => (p.id, p.amount)

namespace Books

variable {L L' : Books} {t : Transfer} {r : CreateTransferResult} {i : Uint128}
  {w : Wallet Uint128}

theorem Shows.reserved (hw : L.Shows i w) (hL : L.Wf) :
    (w.holds.map Prod.snd).sum = (L.balance i).debitsPending := by
  rw [hw.holds, hL.debitsPending_eq, List.map_map]
  rfl

theorem Shows.mem_keys (hw : L.Shows i w) {k : Uint128} :
    k ∈ w.holds.map Prod.fst ↔ ∃ p ∈ L.held i, p.id = k := by
  simp [hw.holds]

theorem Shows.le_available (hw : L.Shows i w) (hL : L.Wf) {n : ℕ} :
    n ≤ w.available ↔
      (L.balance i).debitsPending + (L.balance i).debitsPosted + n ≤
        (L.balance i).creditsPosted := by
  rw [Wallet.le_available, hw.reserved hL, hw.spent, hw.granted]
  omega

theorem exceeds_iff {a : Account} (ha : L.account? t.debitAccountID = some a)
    (hlimit : a.flags.debitsMustNotExceedCredits = true) (hw : L.Shows t.debitAccountID w)
    (hL : L.Wf) : L.exceeds t = true ↔ ¬ t.amount ≤ w.available := by
  rw [hw.le_available hL]
  simp only [exceeds, ha, hlimit, (account?_some ha).2, Bool.true_and, decide_eq_true_eq]
  omega

theorem Shows.fail (hw : L.Shows i w) (j : Uint128) : (L.fail j).Shows i w :=
  ⟨hw.granted, hw.spent, hw.holds⟩

theorem Shows.post_debit (hw : L.Shows i w) (hp : t.posts = true) (hd : t.debitAccountID = i)
    (hc : t.creditAccountID ≠ i) (hn : t.amount ≤ w.available) :
    (L.post t).Shows i (w.spend t.amount hn) where
  granted := by simp [Wallet.spend, post, hc, hw.granted]
  spent := by simp [Wallet.spend, post, hd, hw.spent]
  holds := by simp [Wallet.spend, held, live_post hp, hw.holds]

theorem Shows.post_credit (hw : L.Shows i w) (hp : t.posts = true) (hd : t.debitAccountID ≠ i)
    (hc : t.creditAccountID = i) : (L.post t).Shows i (w.grant t.amount) where
  granted := by simp [Wallet.grant, post, hc, hw.granted]
  spent := by simp [Wallet.grant, post, hd, hw.spent]
  holds := by simp [Wallet.grant, held, live_post hp, hw.holds]

theorem Shows.reserve_debit (hw : L.Shows i w) (hL : L.Wf) (hf : L.transfer? t.id = none)
    (hp : t.flags.pending = true) (hv : t.flags.voidPendingTransfer = false)
    (hd : t.debitAccountID = i) (hk : t.id ∉ w.holds.map Prod.fst) (hn : t.amount ≤ w.available) :
    (L.reserve t).Shows i (w.hold t.id t.amount hk hn) where
  granted := hw.granted
  spent := hw.spent
  holds := by simp [Wallet.hold, held, live_reserve hL hf hp hv, hd, hw.holds]

theorem Shows.release_debit {v p : Transfer} (hw : L.Shows i w)
    (hv : v.flags.voidPendingTransfer = true) (hn : v.flags.pending = false)
    (hid : v.pendingID = p.id) : (L.release v p).Shows i (w.release v.pendingID) where
  granted := hw.granted
  spent := hw.spent
  holds := by
    simp only [Wallet.release, held, live_release hv hn hid, hw.holds, hid, List.filter_map,
      List.filter_filter]
    congr 1
    exact List.filter_congr fun q _ => Bool.and_comm _ _

end Books

namespace Answers

variable {L L' : Books} {t : Transfer} {r : CreateTransferResult} {i : Uint128}
  {w : Wallet Uint128}

theorem shows_of_not_ok (ha : Answers L t r L') (hr : r ≠ .ok) (hw : L.Shows i w) :
    L'.Shows i w := by
  cases ha with
  | invalid hf hv hi hinv hL =>
    rcases hL with rfl | rfl
    · exact hw
    · exact hw.fail _
  | exceedsCredits | pendingNotFound => exact hw.fail _
  | posted | reserved | voided => exact absurd rfl hr
  | _ => exact hw

theorem request_eq_none : t.request i = none ↔
    t.debitAccountID ≠ i ∧ ¬ (t.creditAccountID = i ∧ t.posts = true) := by
  unfold Transfer.request
  split_ifs <;> simp_all

theorem request_void {q : Wallet.Request Uint128} (hv : t.flags.voidPendingTransfer = true)
    (hq : t.request i = some q) : t.debitAccountID = i ∧ q = .release t.pendingID := by
  unfold Transfer.request at hq
  split_ifs at hq with hd hc
  · exact ⟨hd, (Option.some.inj hq).symm⟩
  · simp [Transfer.posts, hv] at hc

theorem request_regular {q : Wallet.Request Uint128} (hv : t.flags.voidPendingTransfer = false)
    (hq : t.request i = some q) :
    (t.debitAccountID = i ∧
      q = if t.flags.pending then .hold t.id t.amount else .spend t.amount) ∨
    (t.debitAccountID ≠ i ∧ t.creditAccountID = i ∧ t.flags.pending = false ∧
      q = .grant t.amount) := by
  unfold Transfer.request at hq
  split_ifs at hq with hd hvoid hp hc
  · rw [hv] at hvoid
    cases hvoid
  · exact .inl ⟨hd, by rw [if_pos hp]; exact (Option.some.inj hq).symm⟩
  · exact .inl ⟨hd, by rw [if_neg hp]; exact (Option.some.inj hq).symm⟩
  · exact .inr ⟨hd, hc.1, by simpa [Transfer.posts, hv] using hc.2, (Option.some.inj hq).symm⟩

theorem shows_of_elsewhere (ha : Answers L t r L') (hL : L.Wf) (hzero : t.debitAccountID ≠ 0)
    (hq : t.request i = none) (hw : L.Shows i w) : L'.Shows i w := by
  obtain ⟨hd, hc⟩ := request_eq_none.mp hq
  have hheld := ha.held_of_ne hL hd hzero
  cases ha with
  | posted hf hv hi ho hx hp =>
    have hne : t.creditAccountID ≠ i := fun h => hc ⟨h, by simp [Transfer.posts, hp, hv]⟩
    exact ⟨by simp [Books.post, hne, hw.granted], by simp [Books.post, hd, hw.spent],
      hheld ▸ hw.holds⟩
  | reserved | voided => exact ⟨hw.granted, hw.spent, hheld ▸ hw.holds⟩
  | invalid hf hv hi hinv hL =>
    rcases hL with rfl | rfl
    · exact hw
    · exact hw.fail _
  | exceedsCredits | pendingNotFound => exact hw.fail _
  | _ => exact hw

variable (hL : L.Wf) (hw : L.Shows i w)
  (hlimit : ∀ a, L.account? i = some a → a.flags.debitsMustNotExceedCredits = true)

include hL hw hlimit

theorem within_available (hd : t.debitAccountID = i) (hi : L.validRegular t = true) :
    L.exceeds t = false ↔ t.amount ≤ w.available := by
  subst hd
  obtain ⟨-, ⟨a, ha, hid, -⟩, -⟩ := ends_of_valid hi
  have hacc := hid ▸ hL.account?_eq ha
  rw [← Bool.not_eq_true, Books.exceeds_iff hacc (hlimit a hacc) hw hL, not_not]

theorem serve_exceeding (hv : t.flags.voidPendingTransfer = false)
    (hi : L.validRegular t = true) (hx : L.exceeds t = true) (hc : t.creditAccountID ≠ i)
    {q : Wallet.Request Uint128} (hq : t.request i = some q) : w.serve q = (false, w) := by
  obtain ⟨hd, rfl⟩ | ⟨-, hc', -⟩ := request_regular hv hq
  · have hn : ¬ t.amount ≤ w.available := by
      rw [← within_available hL hw hlimit hd hi, hx]
      simp
    split_ifs <;> simp [Wallet.serve, hn]
  · exact absurd hc' hc

theorem serve_posted (hv : t.flags.voidPendingTransfer = false) (hi : L.validRegular t = true)
    (hx : L.exceeds t = false) (hp : t.flags.pending = false)
    {q : Wallet.Request Uint128} (hq : t.request i = some q) :
    (w.serve q).1 = true ∧ (L.post t).Shows i (w.serve q).2 := by
  have hposts : t.posts = true := by simp [Transfer.posts, hp, hv]
  obtain ⟨hd, rfl⟩ | ⟨hd, hc, -, rfl⟩ := request_regular hv hq
  · have hn := (within_available hL hw hlimit hd hi).mp hx
    have hc : t.creditAccountID ≠ i := fun hc => (ends_of_valid hi).1 (hd.trans hc.symm)
    rw [hp, if_neg Bool.false_ne_true, Wallet.serve, dif_pos hn]
    exact ⟨rfl, hw.post_debit hposts hd hc hn⟩
  · exact ⟨rfl, hw.post_credit hposts hd hc⟩

theorem serve_reserved (hf : L.transfer? t.id = none)
    (hv : t.flags.voidPendingTransfer = false) (hi : L.validRegular t = true)
    (hx : L.exceeds t = false) (hp : t.flags.pending = true)
    {q : Wallet.Request Uint128} (hq : t.request i = some q) :
    (w.serve q).1 = true ∧ (L.reserve t).Shows i (w.serve q).2 := by
  obtain ⟨hd, rfl⟩ | ⟨-, -, hn, -⟩ := request_regular hv hq
  · have hn := (within_available hL hw hlimit hd hi).mp hx
    have hk : t.id ∉ w.holds.map Prod.fst := by
      rw [hw.mem_keys]
      rintro ⟨p, hp, hid⟩
      exact Books.transfer?_none.mp hf p (Books.mem_held.mp hp).1 hid
    rw [hp, if_pos rfl, Wallet.serve, dif_pos ⟨hk, hn⟩]
    exact ⟨rfl, hw.reserve_debit hL hf hp hv hd hk hn⟩
  · rw [hp] at hn
    cases hn

omit hL hlimit in
theorem serve_unheld (hv : t.flags.voidPendingTransfer = true)
    (hp : ∀ p ∈ L.live, p.id ≠ t.pendingID) {q : Wallet.Request Uint128}
    (hq : t.request i = some q) : w.serve q = (false, w) := by
  obtain ⟨-, rfl⟩ := request_void hv hq
  have hk : t.pendingID ∉ w.holds.map Prod.fst := by
    rw [hw.mem_keys]
    rintro ⟨p, hheld, hid⟩
    exact hp p (List.mem_filter.mp hheld).1 hid
  rw [Wallet.serve, if_neg hk]

omit hL hlimit in
theorem serve_voided {p : Transfer} (hzero : t.debitAccountID ≠ 0)
    (hv : t.flags.voidPendingTransfer = true) (hi : t.validVoid = true)
    (hp : L.transfer? t.pendingID = some p) (hm : t.fits p = true)
    (hd : L.isVoided p.id = false) {q : Wallet.Request Uint128} (hq : t.request i = some q) :
    (w.serve q).1 = true ∧ (L.release (t.fill p) p).Shows i (w.serve q).2 := by
  obtain ⟨hdebit, rfl⟩ := request_void hv hq
  obtain ⟨hmem, hid⟩ := Books.transfer?_some hp
  have hpend := Transfer.fits_pending hm
  have hnp := Transfer.validVoid_pending hi
  have hk : t.pendingID ∈ w.holds.map Prod.fst :=
    hw.mem_keys.mpr ⟨p, Books.mem_held.mpr ⟨hmem, hpend, hd, (fits_debit hm hzero).trans hdebit⟩, hid⟩
  rw [Wallet.serve, if_pos hk]
  exact ⟨rfl, hw.release_debit (v := t.fill p) hv hnp hid.symm⟩

/-- The service grants and refuses what an account is asked for exactly as its wallet does. -/
theorem serves (ha : Answers L t r L') (hzero : t.debitAccountID ≠ 0)
    (hpaid : t.creditAccountID = i → r ≠ .exceedsCredits)
    {q : Wallet.Request Uint128} {b : Bool} (hq : t.request i = some q)
    (hr : r.ruling = some b) : (w.serve q).1 = b ∧ L'.Shows i (w.serve q).2 := by
  cases ha with
  | @repeated e he =>
    have hfound := existsResult_found (L.stored t) e
    generalize existsResult (L.stored t) e = r at hfound hr
    cases r <;> cases hfound <;> cases hr
  | alreadyFailed => cases hr
  | invalid hf hv hi hinv => cases r <;> cases hinv <;> cases hr
  | overflow hf hv hi ho hov => cases r <;> cases hov <;> cases hr
  | voidInvalid hf hv hi hinv => cases r <;> cases hinv <;> cases hr
  | pendingMismatch hf hv hi hp hm hmis => cases r <;> cases hmis <;> cases hr
  | exceedsCredits hf hv hi ho hx =>
    cases hr
    rw [serve_exceeding hL hw hlimit hv hi hx (fun hc => hpaid hc rfl) hq]
    exact ⟨rfl, hw.fail _⟩
  | posted hf hv hi ho hx hp =>
    cases hr
    exact serve_posted hL hw hlimit hv hi hx hp hq
  | reserved hf hv hi ho hx hp =>
    cases hr
    exact serve_reserved hL hw hlimit hf.1 hv hi hx hp hq
  | pendingNotFound hf hv hi hp =>
    cases hr
    have hgone : ∀ p ∈ L.live, p.id ≠ t.pendingID := fun p hlive =>
      Books.transfer?_none.mp hp p (Books.mem_live.mp hlive).1
    rw [serve_unheld hw hv hgone hq]
    exact ⟨rfl, hw.fail _⟩
  | @alreadyVoided p hf hv hi hp hm hd =>
    cases hr
    have hgone : ∀ q ∈ L.live, q.id ≠ t.pendingID := fun q hlive hid => by
      rw [(Books.transfer?_some hp).2, ← hid, (Books.mem_live.mp hlive).2.2] at hd
      cases hd
    rw [serve_unheld hw hv hgone hq]
    exact ⟨rfl, hw⟩
  | voided hf hv hi hp hm hd =>
    cases hr
    exact serve_voided hw hzero hv hi hp hm hd hq

end Answers
end CloudCredit.TigerBeetle
