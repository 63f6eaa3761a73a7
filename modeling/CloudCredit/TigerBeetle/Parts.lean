import CloudCredit.TigerBeetle.Reference
import CloudCredit.TigerBeetle.Resubmission

/-!
# A part of the books

The part of some books that was written under a set of identifiers, with a selection of
their accounts. As long as no other identifier voids a reservation of the part, the part
looks the same from inside: the transfers, the reservations and the balances of the accounts
that only the part touches. A transfer of the part that passes the checks is then answered
on the part as it is on the whole books, by every service.
-/
namespace CloudCredit.TigerBeetle

/-- `M` has the accounts of `L` that are kept, and what was decided under the identifiers
that are `mine`. -/
structure Books.Part (keep : Account → Bool) (mine : Uint128 → Bool) (L M : Books) : Prop where
  accounts : M.accounts = L.accounts.filter keep
  transfers : M.transfers = L.transfers.filter fun t => mine t.id
  failed : M.failed = L.failed.filter mine

/-- Only the part voids its reservations. -/
def Books.Closed (mine : Uint128 → Bool) (L : Books) : Prop :=
  ∀ v ∈ L.transfers, v.flags.voidPendingTransfer = true → mine v.pendingID = true →
    mine v.id = true

theorem total_filter_of_imp {p q : Transfer → Bool} {ts : List Transfer}
    (h : ∀ t ∈ ts, p t = true → q t = true) : total p (ts.filter q) = total p ts := by
  rw [total, total, List.filter_filter]
  congr 2
  refine List.filter_congr fun t ht => ?_
  cases hp : p t with
  | false => rfl
  | true => rw [h t ht hp, Bool.and_self]

theorem total_filter_le (p q : Transfer → Bool) (ts : List Transfer) :
    total p (ts.filter q) ≤ total p ts := by
  induction ts with
  | nil => exact Nat.le_refl _
  | cons t ts ih =>
    by_cases hq : q t = true
    · rw [List.filter_cons_of_pos hq, total_cons, total_cons]
      omega
    · rw [List.filter_cons_of_neg hq, total_cons]
      omega

namespace Books.Part

variable {keep : Account → Bool} {mine : Uint128 → Bool} {L M : Books} {t : Transfer}
  {i : Uint128}

theorem transfer? (hp : Part keep mine L M) (hi : mine i = true) :
    M.transfer? i = L.transfer? i := by
  unfold Books.transfer?
  rw [hp.transfers, List.find?_filter]
  congr 1
  funext t
  by_cases ht : t.id = i
  · simp [ht, hi]
  · simp [ht]

theorem mem_failed (hp : Part keep mine L M) (hi : mine i = true) :
    i ∈ M.failed ↔ i ∈ L.failed := by
  simp [hp.failed, hi]

theorem account? (hp : Part keep mine L M) (hM : M.Wf) {a : Account}
    (ha : L.account? i = some a) (hk : keep a = true) : M.account? i = some a := by
  obtain ⟨hmem, rfl⟩ := Books.account?_some ha
  refine hM.account?_eq ?_
  rw [hp.accounts]
  exact List.mem_filter.mpr ⟨hmem, hk⟩

theorem account?_none (hp : Part keep mine L M) (hi : L.account? i = none) : M.account? i = none := by
  rw [Books.account?, List.find?_eq_none] at hi ⊢
  intro a ha
  rw [hp.accounts] at ha
  exact hi a (List.mem_filter.mp ha).1

/-- Accounts of the part are opened in both. -/
theorem openAccounts (hp : Part keep mine L M) {as : List Account}
    (has : ∀ a ∈ as, keep a = true) :
    Part keep mine { L with accounts := L.accounts ++ as }
      { M with accounts := M.accounts ++ as } := by
  refine ⟨?_, hp.transfers, hp.failed⟩
  rw [List.filter_append, List.filter_eq_self.mpr has, ← hp.accounts]

theorem otherAccounts (hp : Part keep mine L M) (tb : Service) {as : List Account}
    (has : ∀ a ∈ as, keep a = false) : Part keep mine (tb.createAccounts L as).2 M := by
  induction as generalizing L with
  | nil => exact hp
  | cons a as ih =>
    simp only [List.forall_mem_cons] at has
    refine ih ?_ has.2
    have hdoc := tb.account_documented L a
    generalize (tb.createAccount L a).1 = r at hdoc
    generalize (tb.createAccount L a).2 = L' at hdoc ⊢
    cases hdoc with
    | repeated he => exact hp
    | invalid hn hi hr => exact hp
    | opened hn hi =>
      refine ⟨?_, hp.transfers, hp.failed⟩
      simp [Books.openAccount, hp.accounts, has.1]

theorem isVoided (hp : Part keep mine L M) (hc : L.Closed mine) (hi : mine i = true) :
    M.isVoided i = L.isVoided i := by
  unfold Books.isVoided
  rw [hp.transfers, List.any_filter, Bool.eq_iff_iff, List.any_eq_true, List.any_eq_true]
  refine ⟨fun ⟨v, hv, hcond⟩ => ⟨v, hv, (Bool.and_eq_true_iff.mp hcond).2⟩,
    fun ⟨v, hv, hcond⟩ => ⟨v, hv, Bool.and_eq_true_iff.mpr ⟨?_, hcond⟩⟩⟩
  obtain ⟨hvoid, hpending⟩ := Bool.and_eq_true_iff.mp hcond
  exact hc v hv hvoid (by rw [of_decide_eq_true hpending]; exact hi)

theorem live (hp : Part keep mine L M) (hc : L.Closed mine) :
    M.live = L.live.filter fun t => mine t.id := by
  unfold Books.live
  rw [hp.transfers, List.filter_filter, List.filter_filter]
  refine List.filter_congr fun t _ => ?_
  cases ht : mine t.id with
  | false => simp
  | true => simp [hp.isVoided hc ht]

/-- An account that only the part touches has the same balance. -/
theorem balance (hp : Part keep mine L M) (hc : L.Closed mine) (hL : L.Wf) (hM : M.Wf)
    (hi : ∀ t ∈ L.transfers, t.debitAccountID = i ∨ t.creditAccountID = i → mine t.id = true) :
    M.balance i = L.balance i := by
  have hlive : ∀ t ∈ L.live, t.debitAccountID = i ∨ t.creditAccountID = i → mine t.id = true :=
    fun t ht => hi t (Books.mem_live.mp ht).1
  have hdp : (M.balance i).debitsPending = (L.balance i).debitsPending := by
    rw [hM.debitsPending_eq, hL.debitsPending_eq, hp.live hc]
    exact total_filter_of_imp fun t ht hd => hlive t ht (.inl (of_decide_eq_true hd))
  have hdq : (M.balance i).debitsPosted = (L.balance i).debitsPosted := by
    rw [hM.debitsPosted_eq, hL.debitsPosted_eq, hp.transfers]
    exact total_filter_of_imp fun t ht hd =>
      hi t ht (.inl (of_decide_eq_true (Bool.and_eq_true_iff.mp hd).2))
  have hcp : (M.balance i).creditsPending = (L.balance i).creditsPending := by
    rw [hM.creditsPending_eq, hL.creditsPending_eq, hp.live hc]
    exact total_filter_of_imp fun t ht hd => hlive t ht (.inr (of_decide_eq_true hd))
  have hcq : (M.balance i).creditsPosted = (L.balance i).creditsPosted := by
    rw [hM.creditsPosted_eq, hL.creditsPosted_eq, hp.transfers]
    exact total_filter_of_imp fun t ht hd =>
      hi t ht (.inr (of_decide_eq_true (Bool.and_eq_true_iff.mp hd).2))
  calc M.balance i = ⟨(M.balance i).debitsPending, (M.balance i).debitsPosted,
        (M.balance i).creditsPending, (M.balance i).creditsPosted⟩ := rfl
    _ = L.balance i := by rw [hdp, hdq, hcp, hcq]

/-- What fits into the balances of the whole fits into those of the part. -/
theorem overflows (hp : Part keep mine L M) (hc : L.Closed mine) (hL : L.Wf) (hM : M.Wf)
    (ho : L.overflows t = false) : M.overflows t = false := by
  have hd : (M.balance t.debitAccountID).debitsPending ≤
      (L.balance t.debitAccountID).debitsPending := by
    rw [hM.debitsPending_eq, hL.debitsPending_eq, hp.live hc]
    exact total_filter_le _ _ _
  have hd' : (M.balance t.debitAccountID).debitsPosted ≤
      (L.balance t.debitAccountID).debitsPosted := by
    rw [hM.debitsPosted_eq, hL.debitsPosted_eq, hp.transfers]
    exact total_filter_le _ _ _
  have hk : (M.balance t.creditAccountID).creditsPending ≤
      (L.balance t.creditAccountID).creditsPending := by
    rw [hM.creditsPending_eq, hL.creditsPending_eq, hp.live hc]
    exact total_filter_le _ _ _
  have hk' : (M.balance t.creditAccountID).creditsPosted ≤
      (L.balance t.creditAccountID).creditsPosted := by
    rw [hM.creditsPosted_eq, hL.creditsPosted_eq, hp.transfers]
    exact total_filter_le _ _ _
  simp only [Books.overflows, Bool.or_eq_false_iff, decide_eq_false_iff_not, not_le] at ho ⊢
  omega

end Books.Part

/-- The transfer passes every check but the one of the limit: a regular transfer is valid
and fits into the balances, a void is valid and fits the reservation it names. -/
structure Books.Passes (L : Books) (t : Transfer) : Prop where
  regular : t.flags.voidPendingTransfer = false →
    L.validRegular t = true ∧ (L.Fresh t.id → L.overflows t = false)
  void : t.flags.voidPendingTransfer = true →
    t.validVoid = true ∧ ∃ p, L.transfer? t.pendingID = some p ∧ t.fits p = true

section Answer

variable {keep : Account → Bool} {mine : Uint128 → Bool} {L L' M : Books} {t : Transfer}
  {r : CreateTransferResult}

theorem Answers.eq_reference (ha : Answers L t r L') (hp : L.Passes t) :
    Reference.createTransfer L t = (r, L') := by
  cases ha with
  | repeated he => simp [Reference.createTransfer, he]
  | alreadyFailed hn hf => simp [Reference.createTransfer, hn, hf]
  | invalid hf hv hi => simp [(hp.regular hv).1] at hi
  | overflow hf hv hi ho => simp [(hp.regular hv).2 hf] at ho
  | exceedsCredits hf hv hi ho hx =>
    simp [Reference.createTransfer, hf.1, hf.2, hv, hi, ho, hx]
  | posted hf hv hi ho hx hpend =>
    simp [Reference.createTransfer, hf.1, hf.2, hv, hi, ho, hx, hpend]
  | reserved hf hv hi ho hx hpend =>
    simp [Reference.createTransfer, hf.1, hf.2, hv, hi, ho, hx, hpend]
  | voidInvalid hf hv hi => simp [(hp.void hv).1] at hi
  | pendingNotFound hf hv hi hn =>
    obtain ⟨-, p, hfound, -⟩ := hp.void hv
    cases hn.symm.trans hfound
  | pendingMismatch hf hv hi hfound hm =>
    obtain ⟨-, p, hfound', hfits⟩ := hp.void hv
    cases hfound.symm.trans hfound'
    simp [hfits] at hm
  | alreadyVoided hf hv hi hfound hm hd =>
    simp [Reference.createTransfer, hf.1, hf.2, hv, hi, hfound, hm, hd]
  | voided hf hv hi hfound hm hd =>
    simp [Reference.createTransfer, hf.1, hf.2, hv, hi, hfound, hm, hd]

theorem Answers.overflow_of (ha : Answers L t r L') (hf : L.Fresh t.id)
    (hv : t.flags.voidPendingTransfer = false) (hi : L.validRegular t = true)
    (ho : L.overflows t = true) : r.overflow = true := by
  cases ha with
  | repeated he => cases hf.1.symm.trans he
  | alreadyFailed hn hfailed => exact absurd hfailed hf.2
  | overflow hf' hv' hi' ho' hr => exact hr
  | _ => simp_all

theorem Books.Part.fail (hp : Part keep mine L M) {i : Uint128} (hi : mine i = true) :
    Part keep mine (L.fail i) (M.fail i) :=
  ⟨hp.accounts, hp.transfers, by simp [Books.fail, hp.failed, hi]⟩

theorem Books.Part.commit (hp : Part keep mine L M) {v : Transfer} (hv : mine v.id = true)
    {b b' : Uint128 → Balance} :
    Part keep mine { L with transfers := v :: L.transfers, balance := b }
      { M with transfers := v :: M.transfers, balance := b' } :=
  ⟨hp.accounts, by simp [hp.transfers, hv], hp.failed⟩

/-- A transfer of the part is answered on the part as on the whole. -/
theorem Books.Part.answers (hp : Part keep mine L M) (hc : L.Closed mine) (hid : mine t.id = true)
    (hpending : t.flags.voidPendingTransfer = true → mine t.pendingID = true) (hL : L.Passes t)
    (hM : M.Passes t) (hx : t.flags.voidPendingTransfer = false → M.exceeds t = L.exceeds t)
    (ha : Answers L t r L') : ∃ M', Answers M t r M' ∧ Part keep mine L' M' := by
  have hfresh : L.Fresh t.id → M.Fresh t.id := fun hf =>
    ⟨(hp.transfer? hid).trans hf.1, fun hmem => hf.2 ((hp.mem_failed hid).mp hmem)⟩
  cases ha with
  | @repeated e he =>
    have hstored : L.stored t = M.stored t := by
      unfold Books.stored
      cases hv : t.flags.voidPendingTransfer with
      | false => rfl
      | true => simp only [hp.transfer? (hpending hv)]
    rw [hstored]
    exact ⟨M, .repeated ((hp.transfer? hid).trans he), hp⟩
  | alreadyFailed hn hf =>
    exact ⟨M, .alreadyFailed ((hp.transfer? hid).trans hn) ((hp.mem_failed hid).mpr hf), hp⟩
  | invalid hf hv hi => simp [(hL.regular hv).1] at hi
  | overflow hf hv hi ho => simp [(hL.regular hv).2 hf] at ho
  | exceedsCredits hf hv hi ho hex =>
    obtain ⟨hvalid, hfits⟩ := hM.regular hv
    exact ⟨_, .exceedsCredits (hfresh hf) hv hvalid (hfits (hfresh hf)) ((hx hv).trans hex),
      hp.fail hid⟩
  | posted hf hv hi ho hex hpend =>
    obtain ⟨hvalid, hfits⟩ := hM.regular hv
    exact ⟨_, .posted (hfresh hf) hv hvalid (hfits (hfresh hf)) ((hx hv).trans hex) hpend,
      hp.commit hid⟩
  | reserved hf hv hi ho hex hpend =>
    obtain ⟨hvalid, hfits⟩ := hM.regular hv
    exact ⟨_, .reserved (hfresh hf) hv hvalid (hfits (hfresh hf)) ((hx hv).trans hex) hpend,
      hp.commit hid⟩
  | voidInvalid hf hv hi => simp [(hL.void hv).1] at hi
  | pendingNotFound hf hv hi hn =>
    obtain ⟨-, p, hfound, -⟩ := hL.void hv
    cases hn.symm.trans hfound
  | pendingMismatch hf hv hi hfound hm =>
    obtain ⟨-, p, hfound', hfits⟩ := hL.void hv
    cases hfound.symm.trans hfound'
    simp [hfits] at hm
  | @alreadyVoided p hf hv hi hfound hm hd =>
    have hmine : mine p.id = true := by rw [(Books.transfer?_some hfound).2]; exact hpending hv
    exact ⟨M, .alreadyVoided (hfresh hf) hv hi ((hp.transfer? (hpending hv)).trans hfound) hm
      ((hp.isVoided hc hmine).trans hd), hp⟩
  | @voided p hf hv hi hfound hm hd =>
    have hmine : mine p.id = true := by rw [(Books.transfer?_some hfound).2]; exact hpending hv
    exact ⟨_, .voided (hfresh hf) hv hi ((hp.transfer? (hpending hv)).trans hfound) hm
      ((hp.isVoided hc hmine).trans hd), hp.commit (v := t.fill p) hid⟩

/-- So is it by every service. -/
theorem Books.Part.createTransfer (hp : Part keep mine L M) (tb : Service) (hc : L.Closed mine)
    (hid : mine t.id = true)
    (hpending : t.flags.voidPendingTransfer = true → mine t.pendingID = true) (hL : L.Passes t)
    (hM : M.Passes t) (hx : t.flags.voidPendingTransfer = false → M.exceeds t = L.exceeds t) :
    (tb.createTransfer M t).1 = (tb.createTransfer L t).1 ∧
      Part keep mine (tb.createTransfer L t).2 (tb.createTransfer M t).2 := by
  obtain ⟨M', ha, hpart⟩ := hp.answers hc hid hpending hL hM hx (tb.transfer_documented L t)
  have hsame := (ha.eq_reference hM).symm.trans ((tb.transfer_documented M t).eq_reference hM)
  rw [Prod.mk.injEq] at hsame
  rw [← hsame.1, ← hsame.2]
  exact ⟨rfl, hpart⟩

theorem Answers.failed_cases (ha : Answers L t r L') :
    L'.failed = L.failed ∨ L'.failed = t.id :: L.failed := by
  cases ha with
  | invalid hf hv hi hr hL => rcases hL with rfl | rfl <;> simp [Books.fail]
  | exceedsCredits | pendingNotFound => exact .inr rfl
  | _ => exact .inl rfl

/-- A transfer under another identifier does not touch the part. -/
theorem Books.Part.other (hp : Part keep mine L M) (hid : mine t.id = false)
    (ha : Answers L t r L') : Part keep mine L' M := by
  refine ⟨by rw [ha.accounts_eq]; exact hp.accounts, ?_, ?_⟩
  · rw [hp.transfers, ha.transfers_eq]
    split_ifs
    · rw [List.filter_cons_of_neg (by simp [stored_id, hid])]
    · rfl
  · rcases ha.failed_cases with hsame | hfail
    · rw [hsame]
      exact hp.failed
    · rw [hfail, List.filter_cons_of_neg (by simp [hid])]
      exact hp.failed

end Answer

end CloudCredit.TigerBeetle
