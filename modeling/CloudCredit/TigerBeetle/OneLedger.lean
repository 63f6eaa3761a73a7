import CloudCredit.TigerBeetle.Reservations

/-!
# Books that agree on one ledger

Two books with the same accounts that agree on a set of identifiers and on the accounts of
one ledger. A transfer on another ledger keeps them in agreement, on whichever side it is
made. A transfer under one of the identifiers that is decided, rather than refused for its
fields or its identifier, is decided alike on both. A request leaves an account and its
reservations as they are when it is on another ledger, or when none of its transfers takes
effect.
-/
namespace CloudCredit.TigerBeetle

section Unique

variable {L L' L'' : Books} {t : Transfer} {r r' : CreateTransferResult}

/-- Where one service decides, every service answers so. -/
theorem Answers.unique (ha : Answers L t r L') (hr : r.decided = true) (ha' : Answers L t r' L'') :
    r' = r ∧ L'' = L' := by
  cases ha with
  | repeated he => exact ha'.of_committed he
  | alreadyFailed hn hf => cases hr
  | invalid _ _ _ hnot | overflow _ _ _ _ hnot | voidInvalid _ _ _ hnot
  | pendingMismatch _ _ _ _ _ hnot => simp [CreateTransferResult.decided, hnot] at hr
  | exceedsCredits hf hv hi ho hx =>
    cases ha' with
    | exceedsCredits => exact ⟨rfl, rfl⟩
    | _ => simp_all [Books.Fresh]
  | posted hf hv hi ho hx hp =>
    cases ha' with
    | posted => exact ⟨rfl, rfl⟩
    | _ => simp_all [Books.Fresh]
  | reserved hf hv hi ho hx hp =>
    cases ha' with
    | reserved => exact ⟨rfl, rfl⟩
    | _ => simp_all [Books.Fresh]
  | pendingNotFound hf hv hi hp =>
    cases ha' with
    | pendingNotFound => exact ⟨rfl, rfl⟩
    | _ => simp_all [Books.Fresh]
  | alreadyVoided hf hv hi hp hm hd =>
    cases ha' with
    | alreadyVoided => exact ⟨rfl, rfl⟩
    | _ => simp_all [Books.Fresh]
  | voided hf hv hi hp hm hd =>
    cases ha' with
    | voided => simp_all
    | _ => simp_all [Books.Fresh]

theorem Answers.unchanged (ha : Answers L t r L') (hr : r.decided = false)
    (hvalid : t.flags.voidPendingTransfer = false → L.validRegular t = true) : L' = L := by
  cases ha with
  | invalid hf hv hi => simp [hvalid hv] at hi
  | exceedsCredits | posted | reserved | pendingNotFound | voided => cases hr
  | _ => rfl

end Unique

/-- `L` and `M` have the same accounts and agree on the identifiers `ids` and on the
accounts of the ledger `l`. -/
structure Books.Alike (ids : Uint128 → Prop) (l : UInt32) (L M : Books) : Prop where
  accounts : M.accounts = L.accounts
  transfer? : ∀ i, ids i → M.transfer? i = L.transfer? i
  failed : ∀ i, ids i → (i ∈ M.failed ↔ i ∈ L.failed)
  isVoided : ∀ i, ids i → M.isVoided i = L.isVoided i
  balance : ∀ a ∈ L.accounts, a.ledger = l → M.balance a.id = L.balance a.id
  held : ∀ a ∈ L.accounts, a.ledger = l → M.held a.id = L.held a.id

section OffLedger

variable {L : Books} {t : Transfer}

theorem Books.ends_ne_of_ledger_ne (hL : L.Wf) (hi : L.validRegular t = true) {a : Account}
    (ha : a ∈ L.accounts) (hledger : t.ledger ≠ a.ledger) :
    t.debitAccountID ≠ a.id ∧ t.creditAccountID ≠ a.id := by
  simp only [Books.validRegular, Books.onLedger, Bool.and_eq_true] at hi
  have hfound := hL.account?_eq ha
  refine ⟨fun he => ?_, fun he => ?_⟩
  · have hon := hi.1.2
    rw [he, hfound] at hon
    exact hledger (of_decide_eq_true hon).symm
  · have hon := hi.2
    rw [he, hfound] at hon
    exact hledger (of_decide_eq_true hon).symm

theorem Books.exists_ends (hi : L.validRegular t = true) :
    ∃ d k, L.account? t.debitAccountID = some d ∧ L.account? t.creditAccountID = some k ∧
      d.ledger = t.ledger ∧ k.ledger = t.ledger := by
  simp only [Books.validRegular, Books.onLedger, Bool.and_eq_true] at hi
  cases hd : L.account? t.debitAccountID with
  | none => simp [hd] at hi
  | some d =>
    cases hk : L.account? t.creditAccountID with
    | none => simp [hk] at hi
    | some k =>
      have hdl := hi.1.2
      have hkl := hi.2
      rw [hd] at hdl
      rw [hk] at hkl
      exact ⟨d, k, rfl, rfl, of_decide_eq_true hdl, of_decide_eq_true hkl⟩

end OffLedger

namespace Books.Alike

variable {ids : Uint128 → Prop} {l : UInt32} {L L' M M' : Books} {t v p : Transfer}
  {r r' : CreateTransferResult} {i : Uint128}

theorem refl (ids : Uint128 → Prop) (l : UInt32) (L : Books) : Alike ids l L L :=
  ⟨rfl, fun _ _ => rfl, fun _ _ => .rfl, fun _ _ => rfl, fun _ _ _ => rfl, fun _ _ _ => rfl⟩

theorem symm (h : Alike ids l L M) : Alike ids l M L where
  accounts := h.accounts.symm
  transfer? i hi := (h.transfer? i hi).symm
  failed i hi := (h.failed i hi).symm
  isVoided i hi := (h.isVoided i hi).symm
  balance a ha hl := (h.balance a (h.accounts ▸ ha) hl).symm
  held a ha hl := (h.held a (h.accounts ▸ ha) hl).symm

theorem fail_other (h : Alike ids l L M) (hi : ¬ids i) : Alike ids l (L.fail i) M :=
  { h with
    failed := fun j hj => by
      have hne : j ≠ i := fun he => hi (he ▸ hj)
      simp [Books.fail, hne, h.failed j hj] }

theorem fail_both (h : Alike ids l L M) : Alike ids l (L.fail i) (M.fail i) :=
  { h with failed := fun j hj => by simp [Books.fail, h.failed j hj] }

/-- A transfer on another ledger, made on one side. -/
theorem other (h : Alike ids l L M) (hL : L.Wf) (ha : Answers L t r L')
    (hv : t.flags.voidPendingTransfer = false) (hledger : t.ledger ≠ l) (hid : ¬ids t.id) :
    Alike ids l L' M := by
  have hfind : ∀ j, ids j → List.find? (fun x : Transfer => x.id = j) (t :: L.transfers) =
      L.transfer? j := fun j hj => by
    have hne : t.id ≠ j := fun he => hid (he ▸ hj)
    simp [Books.transfer?, hne]
  cases ha with
  | repeated he => exact h
  | alreadyFailed hn hf => exact h
  | overflow hf hv hi ho hr => exact h
  | invalid hf hv hi hr hbooks =>
    rcases hbooks with rfl | rfl
    · exact h
    · exact h.fail_other hid
  | exceedsCredits hf hv hi ho hx => exact h.fail_other hid
  | posted hf hv hi ho hx hp =>
    refine ⟨h.accounts, fun j hj => ?_, h.failed, fun j hj => ?_, fun a ha hl => ?_,
      fun a ha hl => ?_⟩
    · exact (h.transfer? j hj).trans (hfind j hj).symm
    · simpa [Books.isVoided, Books.post, hv] using h.isVoided j hj
    · obtain ⟨hd, hk⟩ := ends_ne_of_ledger_ne hL hi ha (hl ▸ hledger)
      simpa [Books.post, hd, hk] using h.balance a ha hl
    · rw [h.held a ha hl, Books.held, Books.held, live_post (by simp [Transfer.posts, hp, hv])]
  | reserved hf hv hi ho hx hp =>
    refine ⟨h.accounts, fun j hj => ?_, h.failed, fun j hj => ?_, fun a ha hl => ?_,
      fun a ha hl => ?_⟩
    · exact (h.transfer? j hj).trans (hfind j hj).symm
    · simpa [Books.isVoided, Books.reserve, hv] using h.isVoided j hj
    · obtain ⟨hd, hk⟩ := ends_ne_of_ledger_ne hL hi ha (hl ▸ hledger)
      simpa [Books.reserve, hd, hk] using h.balance a ha hl
    · obtain ⟨hd, -⟩ := ends_ne_of_ledger_ne hL hi ha (hl ▸ hledger)
      rw [h.held a ha hl, Books.held, Books.held, live_reserve hL hf.1 hp hv,
        List.filter_cons_of_neg (by simpa using hd)]
  | _ => simp_all

theorem find?_both (h : Alike ids l L M) (hi : ids i) :
    (v :: M.transfers).find? (·.id = i) = (v :: L.transfers).find? (·.id = i) := by
  rw [List.find?_cons, List.find?_cons]
  split
  · rfl
  · exact h.transfer? i hi

theorem any_both (h : Alike ids l L M) (hi : ids i) :
    ((v :: M.transfers).any fun x => x.flags.voidPendingTransfer && x.pendingID = i) =
      (v :: L.transfers).any fun x => x.flags.voidPendingTransfer && x.pendingID = i := by
  rw [List.any_cons, List.any_cons]
  congr 1
  exact h.isVoided i hi

theorem post_both (h : Alike ids l L M) (ht : t.posts = true) :
    Alike ids l (L.post t) (M.post t) where
  accounts := h.accounts
  transfer? _ hi := h.find?_both hi
  failed := h.failed
  isVoided _ hi := h.any_both hi
  balance a ha hl := by simp only [Books.post, h.balance a ha hl]
  held a ha hl := by
    rw [Books.held, Books.held, live_post ht, live_post ht]
    exact h.held a ha hl

theorem reserve_both (h : Alike ids l L M) (hL : L.Wf) (hM : M.Wf)
    (hf : L.transfer? t.id = none) (hf' : M.transfer? t.id = none) (hp : t.flags.pending = true)
    (hv : t.flags.voidPendingTransfer = false) : Alike ids l (L.reserve t) (M.reserve t) where
  accounts := h.accounts
  transfer? _ hi := h.find?_both hi
  failed := h.failed
  isVoided _ hi := h.any_both hi
  balance a ha hl := by simp only [Books.reserve, h.balance a ha hl]
  held a ha hl := by
    have hheld := h.held a ha hl
    unfold Books.held at hheld ⊢
    rw [live_reserve hL hf hp hv, live_reserve hM hf' hp hv, List.filter_cons, List.filter_cons,
      hheld]

theorem release_both (h : Alike ids l L M) (hv : v.flags.voidPendingTransfer = true)
    (hn : v.flags.pending = false) (hid : v.pendingID = p.id) :
    Alike ids l (L.release v p) (M.release v p) where
  accounts := h.accounts
  transfer? _ hi := h.find?_both hi
  failed := h.failed
  isVoided _ hi := h.any_both hi
  balance a ha hl := by simp only [Books.release, h.balance a ha hl]
  held a ha hl := by
    have hheld := h.held a ha hl
    unfold Books.held at hheld ⊢
    rw [live_release hv hn hid, live_release hv hn hid, List.filter_comm, hheld, List.filter_comm]

theorem account? (h : Alike ids l L M) (i : Uint128) : M.account? i = L.account? i := by
  unfold Books.account?
  rw [h.accounts]

theorem stored (h : Alike ids l L M)
    (hpending : t.flags.voidPendingTransfer = true → ids t.pendingID) : M.stored t = L.stored t := by
  unfold Books.stored
  split_ifs with hv
  · rw [h.transfer? _ (hpending hv)]
  · rfl

theorem fresh (h : Alike ids l L M) (hi : ids i) (hf : L.Fresh i) : M.Fresh i :=
  ⟨(h.transfer? i hi).trans hf.1, fun hmem => hf.2 ((h.failed i hi).mp hmem)⟩

theorem validRegular (h : Alike ids l L M) : M.validRegular t = L.validRegular t := by
  simp only [Books.validRegular, Books.onLedger, h.account?]

/-- A valid transfer of the ledger meets the same balances on both sides. -/
theorem balances (h : Alike ids l L M) (hi : L.validRegular t = true) (hl : t.ledger = l) :
    M.overflows t = L.overflows t ∧ M.exceeds t = L.exceeds t := by
  obtain ⟨d, k, hd, hk, hdl, hkl⟩ := exists_ends hi
  have hdb : M.balance t.debitAccountID = L.balance t.debitAccountID := by
    obtain ⟨hmem, hid⟩ := account?_some hd
    rw [← hid]
    exact h.balance d hmem (hdl.trans hl)
  have hkb : M.balance t.creditAccountID = L.balance t.creditAccountID := by
    obtain ⟨hmem, hid⟩ := account?_some hk
    rw [← hid]
    exact h.balance k hmem (hkl.trans hl)
  refine ⟨by simp only [Books.overflows, hdb, hkb], ?_⟩
  have hdid := (account?_some hd).2
  simp only [Books.exceeds, h.account?, hd, hdid, hdb]

/-- A decision on one side is one on the other. -/
theorem answers (h : Alike ids l L M) (hL : L.Wf) (hM : M.Wf) (hid : ids t.id)
    (hpending : t.flags.voidPendingTransfer = true → ids t.pendingID)
    (hl : t.flags.voidPendingTransfer = false → t.ledger = l) (hr : r.decided = true)
    (ha : Answers L t r L') : ∃ M', Answers M t r M' ∧ Alike ids l L' M' := by
  cases ha with
  | @repeated e he =>
    rw [← h.stored hpending]
    exact ⟨M, .repeated ((h.transfer? _ hid).trans he), h⟩
  | alreadyFailed hn hf => cases hr
  | invalid _ _ _ hnot | overflow _ _ _ _ hnot | voidInvalid _ _ _ hnot
  | pendingMismatch _ _ _ _ _ hnot => simp [CreateTransferResult.decided, hnot] at hr
  | exceedsCredits hf hv hi ho hx =>
    obtain ⟨hos, hxs⟩ := h.balances hi (hl hv)
    exact ⟨_, .exceedsCredits (h.fresh hid hf) hv (h.validRegular.trans hi) (hos.trans ho)
      (hxs.trans hx), h.fail_both⟩
  | posted hf hv hi ho hx hp =>
    obtain ⟨hos, hxs⟩ := h.balances hi (hl hv)
    exact ⟨_, .posted (h.fresh hid hf) hv (h.validRegular.trans hi) (hos.trans ho)
      (hxs.trans hx) hp, h.post_both (by simp [Transfer.posts, hp, hv])⟩
  | reserved hf hv hi ho hx hp =>
    obtain ⟨hos, hxs⟩ := h.balances hi (hl hv)
    have hf' := h.fresh hid hf
    exact ⟨_, .reserved hf' hv (h.validRegular.trans hi) (hos.trans ho) (hxs.trans hx) hp,
      h.reserve_both hL hM hf.1 hf'.1 hp hv⟩
  | pendingNotFound hf hv hi hp =>
    exact ⟨_, .pendingNotFound (h.fresh hid hf) hv hi ((h.transfer? _ (hpending hv)).trans hp),
      h.fail_both⟩
  | @alreadyVoided p hf hv hi hp hm hd =>
    have hpid := (transfer?_some hp).2
    exact ⟨M, .alreadyVoided (h.fresh hid hf) hv hi ((h.transfer? _ (hpending hv)).trans hp) hm
      ((h.isVoided _ (hpid ▸ hpending hv)).trans hd), h⟩
  | @voided p hf hv hi hp hm hd =>
    have hpid := (transfer?_some hp).2
    have hn := Transfer.validVoid_pending hi
    exact ⟨_, .voided (h.fresh hid hf) hv hi ((h.transfer? _ (hpending hv)).trans hp) hm
      ((h.isVoided _ (hpid ▸ hpending hv)).trans hd),
      h.release_both (v := t.fill p) hv hn hpid.symm⟩

/-- So every service decides alike on both sides. -/
theorem createTransfer (h : Alike ids l L M) (tb : Service) (hL : L.Wf) (hM : M.Wf)
    (hid : ids t.id) (hpending : t.flags.voidPendingTransfer = true → ids t.pendingID)
    (hl : t.flags.voidPendingTransfer = false → t.ledger = l)
    (hr : (tb.createTransfer L t).1.decided = true) :
    (tb.createTransfer M t).1 = (tb.createTransfer L t).1 ∧
      Alike ids l (tb.createTransfer L t).2 (tb.createTransfer M t).2 := by
  obtain ⟨M', ha, halike⟩ := h.answers hL hM hid hpending hl hr (tb.transfer_documented L t)
  obtain ⟨hanswer, hbooks⟩ := ha.unique hr (tb.transfer_documented M t)
  rw [hbooks]
  exact ⟨hanswer, halike⟩

theorem createTransfer_valid (h : Alike ids l L M) (tb : Service) (hL : L.Wf) (hM : M.Wf)
    (hid : ids t.id) (hpending : t.flags.voidPendingTransfer = true → ids t.pendingID)
    (hl : t.flags.voidPendingTransfer = false → t.ledger = l)
    (hvalid : t.flags.voidPendingTransfer = false → L.validRegular t = true) :
    ((tb.createTransfer M t).1 = (tb.createTransfer L t).1 ∨
        (tb.createTransfer M t).1.decided = false ∧ (tb.createTransfer L t).1.decided = false) ∧
      Alike ids l (tb.createTransfer L t).2 (tb.createTransfer M t).2 := by
  cases hr : (tb.createTransfer L t).1.decided with
  | true =>
    obtain ⟨hsame, halike⟩ := h.createTransfer tb hL hM hid hpending hl hr
    exact ⟨.inl hsame, halike⟩
  | false =>
    cases hr' : (tb.createTransfer M t).1.decided with
    | true =>
      obtain ⟨hsame, halike⟩ := h.symm.createTransfer tb hM hL hid hpending hl hr'
      rw [hsame, hr'] at hr
      cases hr
    | false =>
      rw [(tb.transfer_documented L t).unchanged hr hvalid,
        (tb.transfer_documented M t).unchanged hr' fun hv => h.validRegular.trans (hvalid hv)]
      exact ⟨.inr ⟨rfl, rfl⟩, h⟩

end Books.Alike

section Effect

variable {tb : Service} {L L' : Books} {t p : Transfer} {ts : List Transfer} {a : Account}
  {r : CreateTransferResult}

/-- The transfer is new, passes every check, and is within the limit; a void finds its
reservation live. -/
def Books.takesEffect (L : Books) (t : Transfer) : Bool :=
  L.transfer? t.id = none && t.id ∉ L.failed &&
    if t.flags.voidPendingTransfer then
      t.validVoid && (L.transfer? t.pendingID).any fun p => t.fits p && !L.isVoided p.id
    else L.validRegular t && !L.overflows t && !L.exceeds t

theorem existsResult_ne_ok (t e : Transfer) : existsResult t e ≠ .ok := fun hok => by
  have hfound := existsResult_found t e
  rw [hok] at hfound
  cases hfound

theorem Answers.ok_iff (ha : Answers L t r L') : r = .ok ↔ L.takesEffect t = true := by
  unfold Books.takesEffect
  cases ha with
  | repeated he => simp [he, existsResult_ne_ok]
  | alreadyFailed hn hf => simp [hf]
  | invalid hf hv hi hr =>
    have hne : r ≠ .ok := by
      rintro rfl
      cases hr
    simp [hv, hi, hne]
  | overflow hf hv hi ho hr =>
    have hne : r ≠ .ok := by
      rintro rfl
      cases hr
    simp [hv, ho, hne]
  | exceedsCredits hf hv hi ho hx => simp [hv, hx]
  | posted hf hv hi ho hx hp => simp [hf.1, hf.2, hv, hi, ho, hx]
  | reserved hf hv hi ho hx hp => simp [hf.1, hf.2, hv, hi, ho, hx]
  | voidInvalid hf hv hi hr =>
    have hne : r ≠ .ok := by
      rintro rfl
      cases hr
    simp [hv, hi, hne]
  | pendingNotFound hf hv hi hp => simp [hv, hp]
  | pendingMismatch hf hv hi hp hm hr =>
    have hne : r ≠ .ok := by
      rintro rfl
      cases hr
    simp [hv, hp, hm, hne]
  | alreadyVoided hf hv hi hp hm hd => simp [hv, hp, hd]
  | voided hf hv hi hp hm hd => simp [hf.1, hf.2, hv, hi, hp, hm, hd]

theorem Answers.frame_of_ne_ok (ha : Answers L t r L') (hr : r ≠ .ok) :
    L'.balance = L.balance ∧ L'.live = L.live := by
  cases ha with
  | invalid hf hv hi hinv hbooks => rcases hbooks with rfl | rfl <;> exact ⟨rfl, rfl⟩
  | exceedsCredits => exact ⟨rfl, rfl⟩
  | pendingNotFound => exact ⟨rfl, rfl⟩
  | posted | reserved | voided => exact absurd rfl hr
  | _ => exact ⟨rfl, rfl⟩

/-- No transfer of a request takes effect at its turn. -/
def Inert (tb : Service) : Books → List Transfer → Prop
  | _, [] => True
  | L, t :: ts => L.takesEffect t = false ∧ Inert tb (tb.createTransfer L t).2 ts

theorem createTransfers_inert (hi : Inert tb L ts) :
    (tb.createTransfers L ts).2.balance = L.balance ∧
      (tb.createTransfers L ts).2.live = L.live := by
  induction ts generalizing L with
  | nil => exact ⟨rfl, rfl⟩
  | cons t ts ih =>
    have hdoc := tb.transfer_documented L t
    have hne : (tb.createTransfer L t).1 ≠ .ok := fun hok => by
      rw [hdoc.ok_iff, hi.1] at hok
      cases hok
    obtain ⟨hb, hl⟩ := hdoc.frame_of_ne_ok hne
    exact ⟨(ih hi.2).1.trans hb, (ih hi.2).2.trans hl⟩

theorem exists_effect (hi : ¬Inert tb L ts) :
    ∃ xs t ys, ts = xs ++ t :: ys ∧ (tb.createTransfers L xs).2.takesEffect t = true := by
  induction ts generalizing L with
  | nil => exact absurd trivial hi
  | cons t ts ih =>
    by_cases ht : L.takesEffect t = true
    · exact ⟨[], t, ts, rfl, ht⟩
    · have hrest : ¬Inert tb (tb.createTransfer L t).2 ts := fun hrest =>
        hi ⟨Bool.eq_false_iff.mpr ht, hrest⟩
      obtain ⟨xs, s, ys, rfl, hs⟩ := ih hrest
      exact ⟨t :: xs, s, ys, rfl, hs⟩

theorem mem_transfers_after (hp : p ∈ (tb.createTransfers L ts).2.transfers) :
    p ∈ L.transfers ∨ ∃ t ∈ ts, p.id = t.id ∧ p.flags = t.flags ∧ p.pendingID = t.pendingID := by
  induction ts generalizing L with
  | nil => exact .inl hp
  | cons t ts ih =>
    rcases ih hp with hp | ⟨s, hs, heq⟩
    · rw [(tb.transfer_documented L t).transfers_eq] at hp
      split_ifs at hp
      · rcases List.mem_cons.mp hp with rfl | hp
        · exact .inr ⟨t, List.mem_cons_self, stored_id L t, stored_flags L t, stored_pendingID L t⟩
        · exact .inl hp
      · exact .inl hp
    · exact .inr ⟨s, List.mem_cons_of_mem _ hs, heq⟩

theorem inert_of_held (hL : L.Wf) (hzero : a.id ≠ 0) (hdebit : ∀ t ∈ ts, t.debitAccountID = a.id)
    (hkind : ∀ t ∈ ts, t.flags.voidPendingTransfer = true ∨ t.flags.pending = true)
    (hnames : ∀ v ∈ ts, v.flags.voidPendingTransfer = true → ∀ t ∈ ts, v.pendingID ≠ t.id)
    (hheld : (tb.createTransfers L ts).2.held a.id = L.held a.id) : Inert tb L ts := by
  by_contra hnot
  obtain ⟨xs, t, ys, rfl, heffect⟩ := exists_effect hnot
  have hmem : t ∈ xs ++ t :: ys := by simp
  have hwf := tb.createTransfers_wf hL xs
  have hbefore := tb.createTransfers_grows L xs
  have hafter : (tb.createTransfer (tb.createTransfers L xs).2 t).2.Grows
      (tb.createTransfers L (xs ++ t :: ys)).2 := by
    rw [Service.createTransfers_append]
    exact tb.createTransfers_grows _ ys
  have hdoc := tb.transfer_documented (tb.createTransfers L xs).2 t
  have hok := hdoc.ok_iff.mpr heffect
  generalize (tb.createTransfer (tb.createTransfers L xs).2 t).1 = r at hdoc hok
  generalize (tb.createTransfer (tb.createTransfers L xs).2 t).2 = N at hdoc hafter
  subst hok
  generalize hr : CreateTransferResult.ok = r at hdoc
  cases hdoc with
  | repeated he => exact absurd hr.symm (existsResult_ne_ok _ _)
  | posted hf hv hi ho hx hp => simpa [hv, hp] using hkind t hmem
  | reserved hf hv hi ho hx hp =>
    have hnew : t ∈ (tb.createTransfers L (xs ++ t :: ys)).2.held a.id := by
      refine Books.mem_held.mpr ⟨hafter.transfers.subset List.mem_cons_self, hp, ?_, hdebit t hmem⟩
      rw [← Bool.not_eq_true]
      intro hvoided
      obtain ⟨v, hvmem, hvt⟩ := List.any_eq_true.mp hvoided
      rw [Bool.and_eq_true, decide_eq_true_eq] at hvt
      rcases mem_transfers_after hvmem with hold | ⟨s, hs, -, hflags, hpending⟩
      · have hnone := hwf.isVoided_fresh hf.1
        rw [hbefore.isVoided (List.any_eq_true.mpr ⟨v, hold, by simp [hvt]⟩)] at hnone
        cases hnone
      · exact hnames s hs (hflags ▸ hvt.1) t hmem (hpending.symm.trans hvt.2)
    rw [hheld] at hnew
    exact Books.transfer?_none.mp hf.1 t (hbefore.transfers.subset (Books.mem_held.mp hnew).1) rfl
  | @voided p hf hv hi hp hm hd =>
    obtain ⟨hpmem, hpid⟩ := Books.transfer?_some hp
    have hold : p ∈ L.held a.id := by
      simp only [Transfer.fits, Bool.and_eq_true, Bool.or_eq_true, decide_eq_true_eq] at hm
      refine Books.mem_held.mpr ⟨?_, hm.1.1.1.1.1, ?_, ?_⟩
      · refine (mem_transfers_after hpmem).resolve_right ?_
        rintro ⟨s, hs, hid, -⟩
        exact hnames t hmem hv s (List.mem_append_left _ hs) (hpid.symm.trans hid)
      · rw [← Bool.not_eq_true]
        intro hvoided
        rw [hbefore.isVoided hvoided] at hd
        cases hd
      · rw [← hm.1.1.1.1.2.resolve_left (by rw [hdebit t hmem]; exact hzero), hdebit t hmem]
    have hgone : (tb.createTransfers L (xs ++ t :: ys)).2.isVoided p.id = true :=
      hafter.isVoided (by simp [Books.isVoided, Books.release, Transfer.fill, hv, hpid])
    rw [← hheld] at hold
    rw [(Books.mem_held.mp hold).2.2.1] at hgone
    cases hgone
  | invalid hf hv hi hinv => simp [← hr, CreateTransferResult.invalid] at hinv
  | overflow hf hv hi ho hov => simp [← hr, CreateTransferResult.overflow] at hov
  | voidInvalid hf hv hi hinv => simp [← hr, CreateTransferResult.invalid] at hinv
  | pendingMismatch hf hv hi hp hm hmis => simp [← hr, CreateTransferResult.mismatch] at hmis
  | _ => cases hr

theorem Answers.off_ledger (ha : Answers L t r L') (hL : L.Wf) (hmem : a ∈ L.accounts)
    (hzero : t.ledger ≠ 0) (hledger : t.ledger ≠ a.ledger) :
    L'.balance a.id = L.balance a.id ∧ L'.held a.id = L.held a.id := by
  cases ha with
  | invalid hf hv hi hr hbooks => rcases hbooks with rfl | rfl <;> exact ⟨rfl, rfl⟩
  | exceedsCredits | pendingNotFound => exact ⟨rfl, rfl⟩
  | posted hf hv hi ho hx hp =>
    obtain ⟨hd, hk⟩ := Books.ends_ne_of_ledger_ne hL hi hmem hledger
    refine ⟨by simp [Books.post, hd, hk], ?_⟩
    rw [Books.held, Books.held, Books.live_post (by simp [Transfer.posts, hp, hv])]
  | reserved hf hv hi ho hx hp =>
    obtain ⟨hd, hk⟩ := Books.ends_ne_of_ledger_ne hL hi hmem hledger
    refine ⟨by simp [Books.reserve, hd, hk], ?_⟩
    rw [Books.held, Books.held, Books.live_reserve hL hf.1 hp hv,
      List.filter_cons_of_neg (by simpa using hd)]
  | @voided p hf hv hi hp hm hd =>
    obtain ⟨hpmem, hpid⟩ := Books.transfer?_some hp
    obtain ⟨-, ⟨d, hdmem, hdid, hdl⟩, k, hkmem, hkid, hkl⟩ := hL.ends p hpmem
    have hfits := hm
    simp only [Transfer.fits, Bool.and_eq_true, Bool.or_eq_true, decide_eq_true_eq] at hfits
    have hpl : p.ledger = t.ledger := (hfits.1.1.2.resolve_left hzero).symm
    have hnp := Transfer.validVoid_pending hi
    have hother : ∀ b ∈ L.accounts, b.ledger = p.ledger → b.id ≠ a.id := by
      intro b hb hbl hba
      have hsame := hL.account?_eq hb
      rw [hba, hL.account?_eq hmem, Option.some.injEq] at hsame
      exact hledger (by rw [hsame, hbl, hpl])
    have hpd : p.debitAccountID ≠ a.id := hdid ▸ hother d hdmem hdl
    have hpk : p.creditAccountID ≠ a.id := hkid ▸ hother k hkmem hkl
    refine ⟨by simp [Books.release, hpd, hpk], ?_⟩
    rw [Books.held, Books.held, Books.live_release (v := t.fill p) hv hnp hpid.symm,
      List.filter_filter]
    refine List.filter_congr fun q hq => ?_
    by_cases hqa : q.debitAccountID = a.id
    · have hne : q.id ≠ p.id := fun hid => hpd (by
        rw [← hqa, List.inj_on_of_nodup_map hL.transfers_nodup (Books.mem_live.mp hq).1 hpmem hid])
      simp [hqa, hne]
    · simp [hqa]
  | _ => exact ⟨rfl, rfl⟩

theorem createTransfers_off_ledger (tb : Service) (ts : List Transfer) (hL : L.Wf)
    (hmem : a ∈ L.accounts) (hledger : ∀ t ∈ ts, t.ledger ≠ 0 ∧ t.ledger ≠ a.ledger) :
    (tb.createTransfers L ts).2.balance a.id = L.balance a.id ∧
      (tb.createTransfers L ts).2.held a.id = L.held a.id := by
  induction ts generalizing L with
  | nil => exact ⟨rfl, rfl⟩
  | cons t ts ih =>
    rw [List.forall_mem_cons] at hledger
    have hdoc := tb.transfer_documented L t
    obtain ⟨hb, hh⟩ := hdoc.off_ledger hL hmem hledger.1.1 hledger.1.2
    obtain ⟨hb', hh'⟩ := ih (hdoc.wf hL) (hdoc.accounts_eq ▸ hmem) hledger.2
    exact ⟨hb'.trans hb, hh'.trans hh⟩

end Effect
end CloudCredit.TigerBeetle
