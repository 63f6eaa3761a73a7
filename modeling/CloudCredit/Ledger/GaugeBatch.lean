import CloudCredit.Ledger.Accounts
import CloudCredit.Ledger.Verdicts
import CloudCredit.TigerBeetle.Reference
import CloudCredit.TigerBeetle.Reservations

/-!
# A batch of gauge updates on one account

The updates are answered one after the other, the void of the old reservation before the
new one. When the old reservations are live and the identifiers are new, every void is
carried out and every new reservation is made or refused for want of credits. The live
reservations afterwards are those that were made and those nobody gave back.
-/
namespace CloudCredit.Ledger

open TigerBeetle Domain

section Transfers

variable {L L' : Books} {t p : Transfer} {r : CreateTransferResult}

theorem void_of_live (ha : Answers L t r L') (hL : L.Wf) (hf : L.Fresh t.id)
    (hv : t.flags.voidPendingTransfer = true) (hp : p ∈ L.live) (hid : p.id = t.pendingID)
    (hr : gaugeClassified true r = true) :
    r = .ok ∧ t.flags.pending = false ∧ t.fits p = true ∧ L' = L.release (t.fill p) p := by
  obtain ⟨hmem, -, hnot⟩ := Books.mem_live.mp hp
  have hfound : L.transfer? t.pendingID = some p := hid ▸ hL.transfer?_eq hmem
  have hd := gaugeClassified_decided hr
  cases ha with
  | repeated he => simp [hf.1] at he
  | alreadyFailed hn hfailed => exact absurd hfailed hf.2
  | voidInvalid hf hv hi hinvalid => simp [CreateTransferResult.decided, hinvalid] at hd
  | pendingNotFound hf hv hi hnone => simp [hfound] at hnone
  | pendingMismatch hf hv hi hsome hm hmismatch =>
    simp [CreateTransferResult.decided, hmismatch] at hd
  | alreadyVoided hf hv hi hsome hm hvoided =>
    cases hfound.symm.trans hsome
    simp [hnot] at hvoided
  | voided hf hv hi hsome hm hvoided =>
    cases hfound.symm.trans hsome
    exact ⟨rfl, Transfer.validVoid_pending hi, hm, rfl⟩
  | _ => simp_all

theorem reservation_cases (ha : Answers L t r L') (hf : L.Fresh t.id)
    (hv : t.flags.voidPendingTransfer = false) (hp : t.flags.pending = true)
    (hr : classified r = true) :
    r = .ok ∧ L.exceeds t = false ∧ L' = L.reserve t ∨
      r = .exceedsCredits ∧ L.exceeds t = true ∧ L' = L.fail t.id := by
  have hd := classified_decided hr
  cases ha with
  | repeated he => simp [hf.1] at he
  | alreadyFailed hn hfailed => exact absurd hfailed hf.2
  | invalid hf hv hi hinvalid => simp [CreateTransferResult.decided, hinvalid] at hd
  | overflow hf hv hi ho hover => simp [CreateTransferResult.decided, hover] at hd
  | exceedsCredits hf hv hi ho hx => exact .inr ⟨rfl, hx, rfl⟩
  | reserved hf hv hi ho hx hp => exact .inl ⟨rfl, hx, rfl⟩
  | _ => simp_all

end Transfers

namespace GaugePendingUpdate

/-- The reservation an update with a given identifier asks for. -/
def reservation (u : GaugePendingUpdate) : Transfer := u.newTransfer (fun _ => 0) 0

theorem newTransfer_eq {u : GaugePendingUpdate} (hid : u.newPendingID ≠ 0) (rand : ℕ → Uint128)
    (n : ℕ) : u.newTransfer rand n = u.reservation := by
  simp [reservation, newTransfer, newID, hid]

theorem reservation_id {u : GaugePendingUpdate} (hid : u.newPendingID ≠ 0) :
    u.reservation.id = u.newPendingID := by
  simp [reservation, newTransfer, newID, hid]

theorem voidID_eq {u : GaugePendingUpdate} (hid : u.voidTransferID ≠ 0) (rand : ℕ → Uint128)
    (n : ℕ) : u.voidID rand n = u.voidTransferID := by
  simp [voidID, hid]

end GaugePendingUpdate

/-- The reservations a list of updates gives back. -/
def oldIDs (us : List GaugePendingUpdate) : List Uint128 := us.filterMap (·.oldPendingID)

/-- Updates on one account: the reservations they give back are live and different, and
the identifiers they use are given, different and new. -/
structure Prepared (L : Books) (account : Uint128) (us : List GaugePendingUpdate) : Prop where
  account : ∀ u ∈ us, u.tenantQuotaID = account
  live : ∀ i ∈ oldIDs us, ∃ p ∈ L.live, p.id = i
  olds : (oldIDs us).Nodup
  ids : (us.flatMap fun u => [u.newPendingID, u.voidTransferID]).Nodup
  given : ∀ u ∈ us, u.newPendingID ≠ 0 ∧ u.voidTransferID ≠ 0
  fresh : ∀ u ∈ us, L.Fresh u.newPendingID ∧ L.Fresh u.voidTransferID

/-- The books `L'` follow on `L`: the reservation `old` was given back, those of `made` were
made, and the identifiers `used` were used. -/
structure Settles (L : Books) (old : Option Uint128) (made : List Transfer) (used : List Uint128)
    (L' : Books) : Prop where
  wf : L'.Wf
  accounts : L'.accounts = L.accounts
  live : L'.live = made ++ L.live.filter (fun p => old ≠ some p.id)
  posted : ∀ a, (L'.balance a).creditsPosted = (L.balance a).creditsPosted ∧
    (L'.balance a).debitsPosted = (L.balance a).debitsPosted
  fresh : ∀ i, L.Fresh i → i ∉ used → L'.Fresh i

namespace Settles

variable {L L' L'' : Books} {old : Option Uint128} {made : List Transfer} {used used' : List Uint128}

theorem refl (hL : L.Wf) : Settles L none [] used L :=
  ⟨hL, rfl, by simp, fun _ => ⟨rfl, rfl⟩, fun _ hi _ => hi⟩

theorem trans (h : Settles L old [] used L') (h' : Settles L' none made used' L'') :
    Settles L old made (used ++ used') L'' where
  wf := h'.wf
  accounts := h'.accounts.trans h.accounts
  live := by simp [h'.live, h.live]
  posted := fun a => ⟨(h'.posted a).1.trans (h.posted a).1, (h'.posted a).2.trans (h.posted a).2⟩
  fresh := fun i hi hnot => by
    rw [List.mem_append, not_or] at hnot
    exact h'.fresh i (h.fresh i hi hnot.1) hnot.2

end Settles

section Updates

variable {tb : Service} {rand : ℕ → Uint128} {L L' : Books} {account : Uint128} {n : ℕ}
  {u : GaugePendingUpdate} {us : List GaugePendingUpdate}

theorem fresh_cons {i : Uint128} {t : Transfer} {M : Books} (hi : L.Fresh i) (hne : i ≠ t.id)
    (htransfers : M.transfers = t :: L.transfers) (hfailed : M.failed = L.failed) : M.Fresh i := by
  refine ⟨Books.transfer?_none.mpr fun x hx => ?_, by rw [hfailed]; exact hi.2⟩
  rw [htransfers] at hx
  rcases List.mem_cons.mp hx with rfl | hx
  · exact hne.symm
  · exact Books.transfer?_none.mp hi.1 x hx

theorem fresh_fail {i j : Uint128} (hi : L.Fresh i) (hne : i ≠ j) : (L.fail j).Fresh i := by
  refine ⟨hi.1, ?_⟩
  simp only [Books.fail, List.mem_cons, not_or]
  exact ⟨hne, hi.2⟩

theorem answerVoid_settles (hL : L.Wf)
    (hlive : ∀ i, u.oldPendingID = some i → ∃ p ∈ L.live, p.id = i) (hid : u.voidTransferID ≠ 0)
    (hfresh : L.Fresh u.voidTransferID)
    (hclass : ∀ r, (answerVoid tb rand n L u).1 = some r → gaugeClassified true r = true) :
    Settles L u.oldPendingID [] [u.voidTransferID] (answerVoid tb rand n L u).2 ∧
      ∀ p ∈ L.live, u.oldPendingID = some p.id → u.tenantQuotaID ≠ 0 →
        p.debitAccountID = u.tenantQuotaID := by
  unfold answerVoid at hclass ⊢
  cases hold : u.oldPendingID with
  | none => exact ⟨.refl hL, by simp⟩
  | some old =>
    simp only [hold] at hclass ⊢
    obtain ⟨p, hp, rfl⟩ := hlive old hold
    have hvid : (u.voidTransfer rand n p.id).id = u.voidTransferID :=
      GaugePendingUpdate.voidID_eq hid rand n
    have hdoc := tb.transfer_documented L (u.voidTransfer rand n p.id)
    obtain ⟨-, hnp, hfits, hbooks⟩ := void_of_live hdoc hL (hvid ▸ hfresh) rfl hp rfl
      (hclass _ rfl)
    refine ⟨⟨hdoc.wf hL, hdoc.accounts_eq, ?_, ?_, ?_⟩, ?_⟩
    · rw [hbooks, Books.live_release (v := (u.voidTransfer rand n p.id).fill p) rfl hnp rfl]
      simp only [List.nil_append, Option.some.injEq, ne_eq, ne_comm]
    · rw [hbooks]
      exact fun a => ⟨rfl, rfl⟩
    · intro i hi hnot
      rw [hbooks]
      refine fresh_cons (t := (u.voidTransfer rand n p.id).fill p) hi ?_ rfl rfl
      rw [List.mem_singleton] at hnot
      exact fun he => hnot (he.trans hvid)
    · intro q hq hqid hne
      have hqp := List.inj_on_of_nodup_map hL.live_nodup hq hp (Option.some.inj hqid).symm
      rw [hqp]
      exact fits_debit (t := u.voidTransfer rand n p.id) hfits hne

theorem answerNew_of_pos (hid : u.newPendingID ≠ 0) (hpos : 0 < u.newAmount) :
    answerNew tb rand n L u =
      (some (tb.createTransfer L u.reservation).1, (tb.createTransfer L u.reservation).2) := by
  simp [answerNew, hpos, GaugePendingUpdate.newTransfer_eq hid]

theorem answerNew_of_zero (hpos : ¬0 < u.newAmount) : answerNew tb rand n L u = (none, L) := by
  simp [answerNew, hpos]

theorem answerNew_settles (hL : L.Wf) (hid : u.newPendingID ≠ 0) (hfresh : L.Fresh u.newPendingID)
    (hclass : ∀ r, (answerNew tb rand n L u).1 = some r → classified r = true) :
    (answerNew tb rand n L u).1 = (if 0 < u.newAmount then
        some (if L.exceeds u.reservation then .exceedsCredits else .ok) else none) ∧
      Settles L none (if (answerNew tb rand n L u).1 = some .ok then [u.reservation] else [])
        [u.newPendingID] (answerNew tb rand n L u).2 := by
  by_cases hpos : 0 < u.newAmount
  · rw [answerNew_of_pos hid hpos] at hclass ⊢
    have hrid := GaugePendingUpdate.reservation_id hid
    have hdoc := tb.transfer_documented L u.reservation
    rcases reservation_cases hdoc (hrid ▸ hfresh) rfl rfl (hclass _ rfl) with
      ⟨hr, hx, hbooks⟩ | ⟨hr, hx, hbooks⟩
    · refine ⟨by simp [hr, hx, hpos], hdoc.wf hL, hdoc.accounts_eq, ?_, ?_, ?_⟩
      · rw [hr, hbooks, Books.live_reserve hL (hrid ▸ hfresh.1) rfl rfl]
        simp
      · rw [hbooks]
        exact fun a => ⟨rfl, rfl⟩
      · intro i hi hnot
        rw [hbooks]
        refine fresh_cons (t := u.reservation) hi ?_ rfl rfl
        rw [hrid]
        simpa using hnot
    · refine ⟨by simp [hr, hx, hpos], hdoc.wf hL, hdoc.accounts_eq, ?_, ?_, ?_⟩
      · rw [hr, hbooks, Books.live_fail]
        simp
      · rw [hbooks]
        exact fun a => ⟨rfl, rfl⟩
      · intro i hi hnot
        rw [hbooks]
        refine fresh_fail hi ?_
        rw [hrid]
        simpa using hnot
  · rw [answerNew_of_zero hpos, if_neg hpos]
    exact ⟨rfl, by simpa using Settles.refl hL⟩

theorem oldIDs_cons (u : GaugePendingUpdate) (us : List GaugePendingUpdate) :
    oldIDs (u :: us) = u.oldPendingID.toList ++ oldIDs us := by
  cases h : u.oldPendingID <;> simp [oldIDs, h]

theorem Prepared.tail (hp : Prepared L account (u :: us)) {made : List Transfer}
    (hs : Settles L u.oldPendingID made ([u.voidTransferID] ++ [u.newPendingID]) L') :
    Prepared L' account us := by
  have holds := hp.olds
  have hids := hp.ids
  rw [oldIDs_cons] at holds
  simp only [List.flatMap_cons, List.nodup_append] at holds hids
  refine ⟨fun v hv => hp.account v (List.mem_cons_of_mem _ hv), fun i hi => ?_, holds.2.1, hids.2.1,
    fun v hv => hp.given v (List.mem_cons_of_mem _ hv), fun v hv => ?_⟩
  · obtain ⟨p, hpl, rfl⟩ := hp.live i (by rw [oldIDs_cons]; exact List.mem_append_right _ hi)
    refine ⟨p, ?_, rfl⟩
    rw [hs.live, List.mem_append, List.mem_filter]
    refine .inr ⟨hpl, ?_⟩
    have hne : u.oldPendingID ≠ some p.id := fun he =>
      holds.2.2 p.id (by simp [he]) p.id hi rfl
    simpa using hne
  · have hfresh := hp.fresh v (List.mem_cons_of_mem _ hv)
    have hmem : ∀ i ∈ [v.newPendingID, v.voidTransferID],
        i ∉ [u.voidTransferID] ++ [u.newPendingID] := by
      intro i hi hcon
      refine hids.2.2 i ?_ i (List.mem_flatMap.mpr ⟨v, hv, hi⟩) rfl
      simp only [List.cons_append, List.nil_append, List.mem_cons, List.not_mem_nil,
        or_false] at hcon ⊢
      exact hcon.symm
    exact ⟨hs.fresh _ hfresh.1 (hmem _ (by simp)), hs.fresh _ hfresh.2 (hmem _ (by simp))⟩

/-- The reservations that were made. -/
def madeReservations (us : List GaugePendingUpdate) (as : List UpdateAnswer) : List Transfer :=
  ((us.zip as).filter (·.2.new = some .ok)).map (·.1.reservation)

theorem madeReservations_cons (u : GaugePendingUpdate) (us : List GaugePendingUpdate)
    (a : UpdateAnswer) (as : List UpdateAnswer) :
    madeReservations (u :: us) (a :: as) =
      (if a.new = some .ok then [u.reservation] else []) ++ madeReservations us as := by
  by_cases h : a.new = some .ok <;> simp [madeReservations, h]

/-- The answers `as` to prepared updates, and the books after them. -/
structure BatchSettles (L : Books) (account : Uint128) (us : List GaugePendingUpdate)
    (as : List UpdateAnswer) (L' : Books) : Prop where
  wf : L'.Wf
  live : L'.live.Perm (madeReservations us as ++ L.live.filter (·.id ∉ oldIDs us))
  posted : ∀ a, (L'.balance a).creditsPosted = (L.balance a).creditsPosted ∧
    (L'.balance a).debitsPosted = (L.balance a).debitsPosted
  verdicts : ∀ x ∈ us.zip as, ¬0 < x.1.newAmount ∧ x.2.new = none ∨
    0 < x.1.newAmount ∧ (x.2.new = some .ok ∨ x.2.new = some .exceedsCredits)
  debits : account ≠ 0 → ∀ p ∈ L.live, p.id ∈ oldIDs us → p.debitAccountID = account

theorem Prepared.head (hp : Prepared L account (u :: us)) (hL : L.Wf)
    (hvoid : ∀ r, (answerVoid tb rand n L u).1 = some r → gaugeClassified true r = true)
    (hnew : ∀ r, (answerNew tb rand n (answerVoid tb rand n L u).2 u).1 = some r →
      classified r = true) :
    Settles L u.oldPendingID [] [u.voidTransferID] (answerVoid tb rand n L u).2 ∧
      (answerNew tb rand n (answerVoid tb rand n L u).2 u).1 = (if 0 < u.newAmount then
        some (if (answerVoid tb rand n L u).2.exceeds u.reservation then .exceedsCredits else .ok)
        else none) ∧
      Settles L u.oldPendingID
        (if (answerNew tb rand n (answerVoid tb rand n L u).2 u).1 = some .ok
          then [u.reservation] else [])
        ([u.voidTransferID] ++ [u.newPendingID])
        (answerNew tb rand n (answerVoid tb rand n L u).2 u).2 ∧
      (account ≠ 0 → ∀ p ∈ L.live, u.oldPendingID = some p.id → p.debitAccountID = account) := by
  have hgiven := hp.given u List.mem_cons_self
  have hfresh := hp.fresh u List.mem_cons_self
  have hne : u.newPendingID ∉ [u.voidTransferID] := by
    have hids := hp.ids
    simp only [List.flatMap_cons, List.nodup_append, List.nodup_cons] at hids
    exact hids.1.1
  obtain ⟨hs, hdebit⟩ := answerVoid_settles hL
    (fun i hi => hp.live i (by rw [oldIDs_cons, hi]; exact List.mem_cons_self)) hgiven.2 hfresh.2
    hvoid
  obtain ⟨hanswer, hs'⟩ := answerNew_settles hs.wf hgiven.1 (hs.fresh _ hfresh.1 hne) hnew
  refine ⟨hs, hanswer, hs.trans hs', fun hzero p hpl hold => ?_⟩
  have haccount := hp.account u List.mem_cons_self
  rw [← haccount] at hzero ⊢
  exact hdebit p hpl hold hzero

/-- Every void of the batch is carried out, and the reservations afterwards are those that
were made and those nobody gave back. -/
theorem gaugeAnswers_settles (hL : L.Wf) (hp : Prepared L account us)
    (hclass : ∀ a ∈ (gaugeAnswers tb rand n L us).1, a.Classified) :
    BatchSettles L account us (gaugeAnswers tb rand n L us).1 (gaugeAnswers tb rand n L us).2 := by
  induction us generalizing n L with
  | nil => exact ⟨hL, by simp [gaugeAnswers, madeReservations, oldIDs], fun _ => ⟨rfl, rfl⟩,
      by simp, by simp [oldIDs]⟩
  | cons u us ih =>
    simp only [gaugeAnswers, List.forall_mem_cons] at hclass ⊢
    obtain ⟨-, hanswer, hs, hdebit⟩ := hp.head hL hclass.1.1 hclass.1.2
    have hrest := ih hs.wf (hp.tail hs) hclass.2
    refine ⟨hrest.wf, ?_, fun a => ⟨(hrest.posted a).1.trans (hs.posted a).1,
      (hrest.posted a).2.trans (hs.posted a).2⟩, ?_, fun hzero p hpl hold => ?_⟩
    · refine hrest.live.trans ?_
      rw [madeReservations_cons, hs.live, List.filter_append]
      have hkept : (if (answerNew tb rand n (answerVoid tb rand n L u).2 u).1 = some .ok then
          [u.reservation] else []).filter (·.id ∉ oldIDs us) =
          if (answerNew tb rand n (answerVoid tb rand n L u).2 u).1 = some .ok then
            [u.reservation] else [] := by
        refine List.filter_eq_self.mpr fun p hpm => ?_
        split_ifs at hpm
        · rw [List.mem_singleton.mp hpm]
          have hfresh := (hp.fresh u List.mem_cons_self).1
          have hnot : u.reservation.id ∉ oldIDs us := by
            rw [GaugePendingUpdate.reservation_id (hp.given u List.mem_cons_self).1]
            intro hold
            obtain ⟨q, hq, hqid⟩ := hp.live _ (by rw [oldIDs_cons]; exact List.mem_append_right _ hold)
            exact Books.transfer?_none.mp hfresh.1 q (Books.mem_live.mp hq).1 hqid
          simpa using hnot
        · cases hpm
      have hrest' : (L.live.filter (fun p => u.oldPendingID ≠ some p.id)).filter
          (·.id ∉ oldIDs us) = L.live.filter (·.id ∉ oldIDs (u :: us)) := by
        rw [List.filter_filter]
        refine List.filter_congr fun p _ => ?_
        by_cases hhead : u.oldPendingID = some p.id
        · simp [oldIDs_cons, hhead]
        · simp [oldIDs_cons, hhead]
      rw [hkept, hrest', List.append_assoc]
      exact List.perm_append_comm_assoc _ _ _
    · rw [List.zip_cons_cons, List.forall_mem_cons]
      refine ⟨?_, hrest.verdicts⟩
      by_cases hpos : 0 < u.newAmount
      · right
        rw [if_pos hpos] at hanswer
        refine ⟨hpos, ?_⟩
        cases hx : (answerVoid tb rand n L u).2.exceeds u.reservation <;> simp [hanswer, hx]
      · rw [if_neg hpos] at hanswer
        exact .inl ⟨hpos, hanswer⟩
    · rw [oldIDs_cons, List.mem_append, Option.mem_toList] at hold
      by_cases hhead : u.oldPendingID = some p.id
      · exact hdebit hzero p hpl hhead
      · refine hrest.debits hzero p ?_ (hold.resolve_left hhead)
        rw [hs.live, List.mem_append, List.mem_filter]
        exact .inr ⟨hpl, by simpa using hhead⟩

end Updates

section Reports

variable {tb : Service} {rand : ℕ → Uint128} {fate : Fate} {L L' : Books} {account : Uint128}
  {us : List GaugePendingUpdate} {as : List UpdateAnswer} {results : List GaugePendingResult}

theorem submitGaugePendingUpdates_settled
    (hok : submitGaugePendingUpdates tb fate rand L us = (.ok results, L')) :
    (∀ a ∈ (gaugeAnswers tb rand 0 L us).1, a.Classified) ∧
      results = gaugeOutcomes rand 0 us (gaugeAnswers tb rand 0 L us).1 ∧
      L' = (gaugeAnswers tb rand 0 L us).2 := by
  obtain ⟨hsent, hclass, hresults⟩ := (submitGaugePendingUpdates_ok_iff tb rand L us fate results).mp
    (congrArg Prod.fst hok)
  refine ⟨hclass, hresults, ?_⟩
  have hbooks := submitGaugePendingUpdates_books tb rand L us fate
  rw [hok] at hbooks
  rcases hsent with hnil | hfate
  · rw [gaugeAnswers_nil tb rand L us hnil, ite_self] at hbooks
    rw [gaugeAnswers_nil tb rand L us hnil]
    exact hbooks
  · rw [hfate] at hbooks
    exact hbooks

theorem gaugeOutcomes_getElem? (rand : ℕ → Uint128) (n : ℕ) (us : List GaugePendingUpdate)
    (as : List UpdateAnswer) (i : ℕ) :
    (gaugeOutcomes rand n us as)[i]? =
      (us.zip as)[i]?.map fun x => gaugeOutcome rand x.1 (n + i) x.2.new := by
  induction us generalizing n as i with
  | nil => simp [gaugeOutcomes]
  | cons u us ih =>
    cases as with
    | nil => simp [gaugeOutcomes]
    | cons a as =>
      cases i with
      | zero => simp [gaugeOutcomes]
      | succ i => simp [gaugeOutcomes, ih, Nat.add_assoc, Nat.add_comm 1 i]

theorem Prepared.newIDs_nodup (hp : Prepared L account us) : (us.map (·.newPendingID)).Nodup := by
  refine hp.ids.sublist ?_
  clear hp
  induction us with
  | nil => exact List.Sublist.slnil
  | cons u us ih =>
    simp only [List.map_cons, List.flatMap_cons, List.cons_append, List.nil_append]
    exact (ih.cons _).cons_cons _

theorem BatchSettles.live_iff (hb : BatchSettles L account us as L') (hp : Prepared L account us)
    (hlen : as.length = us.length) {x : GaugePendingUpdate × UpdateAnswer} (hx : x ∈ us.zip as)
    {p : Transfer} : p ∈ L'.live ∧ p.id = x.1.newPendingID ↔
      x.2.new = some .ok ∧ p = x.1.reservation := by
  have hgiven := fun v hv => (hp.given v hv).1
  have hu : x.1 ∈ us := (List.of_mem_zip hx).1
  rw [hb.live.mem_iff, List.mem_append]
  constructor
  · rintro ⟨hmade | hold, hid⟩
    · obtain ⟨y, hy, rfl⟩ := List.mem_map.mp hmade
      obtain ⟨hy, hok⟩ := List.mem_filter.mp hy
      have hnodup : ((us.zip as).map fun y => y.1.newPendingID).Nodup := by
        have hfst : (us.zip as).map (fun y => y.1.newPendingID) = us.map (·.newPendingID) := by
          have hzip : (us.zip as).map Prod.fst = us := List.map_fst_zip hlen.ge
          rw [← congrArg (List.map (·.newPendingID)) hzip, List.map_map]
          rfl
        rw [hfst]
        exact hp.newIDs_nodup
      rw [GaugePendingUpdate.reservation_id (hgiven _ (List.of_mem_zip hy).1)] at hid
      have hyx := List.inj_on_of_nodup_map hnodup hy hx hid
      rw [hyx] at hok ⊢
      exact ⟨of_decide_eq_true hok, rfl⟩
    · have hnone := Books.transfer?_none.mp (hp.fresh x.1 hu).1.1
      exact absurd hid (hnone p (Books.mem_live.mp (List.mem_filter.mp hold).1).1)
  · rintro ⟨hok, rfl⟩
    refine ⟨.inl (List.mem_map.mpr ⟨x, List.mem_filter.mpr ⟨hx, by simpa using hok⟩, rfl⟩), ?_⟩
    exact GaugePendingUpdate.reservation_id (hgiven _ hu)

theorem BatchSettles.old_gone (hb : BatchSettles L account us as L') (hp : Prepared L account us)
    {p : Transfer} (hold : p.id ∈ oldIDs us) : p ∉ L'.live := by
  intro hpl
  rw [hb.live.mem_iff, List.mem_append] at hpl
  rcases hpl with hmade | hkept
  · obtain ⟨x, hx, rfl⟩ := List.mem_map.mp hmade
    have hu := (List.of_mem_zip (List.mem_filter.mp hx).1).1
    rw [GaugePendingUpdate.reservation_id (hp.given _ hu).1] at hold
    obtain ⟨q, hq, hqid⟩ := hp.live _ hold
    exact Books.transfer?_none.mp (hp.fresh _ hu).1.1 q (Books.mem_live.mp hq).1 hqid
  · have hnot := (List.mem_filter.mp hkept).2
    simp [hold] at hnot

/-- What is held against the account afterwards: what was given back is gone, and what was
made has come in. -/
theorem BatchSettles.debitsPending (hb : BatchSettles L account us as L')
    (hp : Prepared L account us) (hL : L.Wf) (hzero : account ≠ 0) :
    (L'.balance account).debitsPending +
        ((L.live.filter (·.id ∈ oldIDs us)).map (·.amount)).sum =
      (L.balance account).debitsPending + ((madeReservations us as).map (·.amount)).sum := by
  have hall : ∀ ts : List Transfer, (∀ p ∈ ts, p.debitAccountID = account) →
      total (fun p => p.debitAccountID = account) ts = (ts.map (·.amount)).sum := by
    intro ts hts
    rw [total, List.filter_eq_self.mpr fun p hpm => by simpa using hts p hpm]
  have hmade := hall (madeReservations us as) (by
    intro p hpm
    obtain ⟨x, hx, rfl⟩ := List.mem_map.mp hpm
    exact hp.account x.1 (List.of_mem_zip (List.mem_filter.mp hx).1).1)
  have hback := hall (L.live.filter (·.id ∈ oldIDs us)) (by
    intro p hpm
    obtain ⟨hpl, hold⟩ := List.mem_filter.mp hpm
    exact hb.debits hzero p hpl (of_decide_eq_true hold))
  have hsplit := total_perm (fun p => p.debitAccountID = account)
    (List.filter_append_perm (fun p => decide (p.id ∈ oldIDs us)) L.live)
  have hlive := total_perm (fun p => p.debitAccountID = account) hb.live
  rw [total_append] at hsplit hlive
  rw [hb.wf.debitsPending_eq, hL.debitsPending_eq, ← hmade, ← hback, hlive, ← hsplit]
  simp only [decide_not]
  omega

theorem accepted_amounts (hb : BatchSettles L account us as L') (n : ℕ)
    (hlen : as.length = us.length) :
    (((us.zip (gaugeOutcomes rand n us as)).filter (·.2.accepted)).map
        (·.1.newAmount.toNat)).sum = ((madeReservations us as).map (·.amount)).sum := by
  have hverdicts := hb.verdicts
  clear hb
  induction us generalizing n as with
  | nil => simp [madeReservations]
  | cons u us ih =>
    cases as with
    | nil => simp at hlen
    | cons a as =>
      simp only [List.zip_cons_cons, List.forall_mem_cons] at hverdicts
      have hrest := ih (n + 1) (by simpa using hlen) hverdicts.2
      rw [madeReservations_cons, gaugeOutcomes, List.zip_cons_cons]
      have hzero : ¬0 < u.newAmount → u.newAmount.toNat = 0 := by
        intro hnot
        rw [UInt64.lt_iff_toNat_lt] at hnot
        simpa using hnot
      rcases hverdicts.1 with ⟨hnot, hnone⟩ | ⟨hpos, hok | hrefused⟩
      · simp [gaugeOutcome, hnone, hrest, hzero hnot]
      · simp [gaugeOutcome, hok, hrest, GaugePendingUpdate.reservation,
          GaugePendingUpdate.newTransfer]
      · simp [gaugeOutcome, hrefused, hrest]

/-- The result of an update says what became of its new reservation. -/
theorem BatchSettles.outcome (hb : BatchSettles L account us as L') (hp : Prepared L account us)
    (hlen : as.length = us.length) {x : GaugePendingUpdate × UpdateAnswer} (hx : x ∈ us.zip as)
    (n : ℕ) :
    ((gaugeOutcome rand x.1 n x.2.new).newPendingID ≠ 0 ↔
        0 < x.1.newAmount ∧ (gaugeOutcome rand x.1 n x.2.new).accepted = true) ∧
      (0 < x.1.newAmount ∧ (gaugeOutcome rand x.1 n x.2.new).accepted = true ↔
        ∃ p ∈ L'.live, p.id = x.1.newPendingID ∧ p.amount = x.1.newAmount.toNat) ∧
      ((gaugeOutcome rand x.1 n x.2.new).newPendingID ≠ 0 →
        (gaugeOutcome rand x.1 n x.2.new).newPendingID = x.1.newPendingID) ∧
      ((gaugeOutcome rand x.1 n x.2.new).exceedsCredits = true ↔
        0 < x.1.newAmount ∧ ∀ p ∈ L'.live, p.id ≠ x.1.newPendingID) := by
  have hid := (hp.given x.1 (List.of_mem_zip hx).1).1
  have hnewID : x.1.newID rand n = x.1.newPendingID := by simp [GaugePendingUpdate.newID, hid]
  have hlive := fun p => hb.live_iff hp hlen hx (p := p)
  have hnone : x.2.new ≠ some .ok → ∀ p ∈ L'.live, p.id ≠ x.1.newPendingID :=
    fun hne p hpl hpid => hne ((hlive p).mp ⟨hpl, hpid⟩).1
  rcases hb.verdicts x hx with ⟨hnot, hnew⟩ | ⟨hpos, hnew | hnew⟩
  · have habsent := hnone (by simp [hnew])
    refine ⟨by simp [gaugeOutcome, hnew, hnot], ?_, by simp [gaugeOutcome, hnew],
      by simp [gaugeOutcome, hnew, hnot]⟩
    simp only [hnot, false_and, false_iff, not_exists, not_and]
    exact fun p hpl hpid => absurd hpid (habsent p hpl)
  · obtain ⟨hpl, hpid⟩ := (hlive _).mpr ⟨hnew, rfl⟩
    refine ⟨by simp [gaugeOutcome, hnew, hpos, hnewID, hid], ?_, by simp [gaugeOutcome, hnew, hnewID],
      ?_⟩
    · simp only [gaugeOutcome, hnew, hpos, true_and]
      exact ⟨fun _ => ⟨_, hpl, hpid, rfl⟩, fun _ => by simp⟩
    · simp only [gaugeOutcome, hnew, hpos, true_and]
      exact ⟨fun hcon => by simp at hcon, fun hcon => absurd hpid (hcon _ hpl)⟩
  · have habsent := hnone (by simp [hnew])
    refine ⟨by simp [gaugeOutcome, hnew], ?_, by simp [gaugeOutcome, hnew], ?_⟩
    · simp only [gaugeOutcome, hnew, hpos, true_and, ne_eq, not_true_eq_false, decide_false,
        Bool.false_eq_true, false_iff, not_exists, not_and]
      exact fun p hpl hpid => absurd hpid (habsent p hpl)
    · simpa [gaugeOutcome, hnew, hpos] using habsent

/-- A call without an error does what it reports: no old reservation is left, a new one is
live exactly if it was asked for and accepted, the credits held against the account change
by just that, and no other reservation changes. -/
theorem submitGaugePendingUpdates_reports (tb : Service) (fate : Fate) (rand : ℕ → Uint128)
    (L L' : Books) (a : Account) (us : List GaugePendingUpdate) (results : List GaugePendingResult)
    (hL : L.Wf) (ha : a ∈ L.accounts) (hp : Prepared L a.id us)
    (hok : submitGaugePendingUpdates tb fate rand L us = (.ok results, L')) :
    results.length = us.length ∧
      (∀ i ∈ oldIDs us, ∀ p ∈ L'.live, p.id ≠ i) ∧
      (∀ (i : ℕ) (u : GaugePendingUpdate) (r : GaugePendingResult), us[i]? = some u →
        results[i]? = some r →
        (r.newPendingID ≠ 0 ↔ 0 < u.newAmount ∧ r.accepted = true) ∧
          (0 < u.newAmount ∧ r.accepted = true ↔
            ∃ p ∈ L'.live, p.id = u.newPendingID ∧ p.amount = u.newAmount.toNat) ∧
          (r.newPendingID ≠ 0 → r.newPendingID = u.newPendingID) ∧
          (r.exceedsCredits = true ↔
            0 < u.newAmount ∧ ∀ p ∈ L'.live, p.id ≠ u.newPendingID)) ∧
      (L'.balance a.id).debitsPending + ((L.live.filter (·.id ∈ oldIDs us)).map (·.amount)).sum =
        (L.balance a.id).debitsPending +
          (((us.zip results).filter (·.2.accepted)).map (·.1.newAmount.toNat)).sum ∧
      ∀ p, p.id ∉ oldIDs us → p.id ∉ us.map (·.newPendingID) → (p ∈ L'.live ↔ p ∈ L.live) := by
  obtain ⟨hclass, rfl, rfl⟩ := submitGaugePendingUpdates_settled hok
  have hb := gaugeAnswers_settles hL hp hclass
  have hlen := gaugeAnswers_length tb rand 0 L us
  refine ⟨?_, ?_, ?_, ?_, ?_⟩
  · exact gaugeOutcomes_length rand hlen
  · intro i hi p hpl hpid
    exact hb.old_gone hp (hpid ▸ hi) hpl
  · intro i u r hu hr
    rw [gaugeOutcomes_getElem?] at hr
    obtain ⟨x, hx, rfl⟩ := Option.map_eq_some_iff.mp hr
    obtain ⟨hxu, -⟩ := List.getElem?_zip_eq_some.mp hx
    cases hu.symm.trans hxu
    exact hb.outcome hp hlen (List.mem_of_getElem? hx) (0 + i)
  · rw [accepted_amounts hb 0 hlen]
    exact hb.debitsPending hp hL (hL.account_ne_zero ha)
  · intro p hold hnew
    rw [hb.live.mem_iff, List.mem_append, List.mem_filter]
    refine ⟨fun hpl => ?_, fun hpl => .inr ⟨hpl, by simpa using hold⟩⟩
    rcases hpl with hmade | hpl
    · obtain ⟨x, hx, rfl⟩ := List.mem_map.mp hmade
      have hu := (List.of_mem_zip (List.mem_filter.mp hx).1).1
      rw [GaugePendingUpdate.reservation_id (hp.given _ hu).1] at hnew
      exact absurd (List.mem_map_of_mem hu) hnew
    · exact hpl.1

end Reports

/-- The identifier with all bytes equal. -/
def sameBytes (n : UInt8) : Uint128 := ⟨List.replicate 16 n, by simp⟩

def sampleQuota : Account := quotaAccount (sameBytes 9) .activeNodes (sameBytes 1)

/-- An update of a cluster of the sample account. -/
def sampleUpdate (old : Option UInt8) (new : UInt64) (newID voidID : UInt8) :
    GaugePendingUpdate where
  resource := .activeNodes
  tenantQuotaID := sampleQuota.id
  sinkID := sameBytes 2
  oldPendingID := old.map sameBytes
  newAmount := new
  clusterUUID := sameBytes newID
  heartbeatTsNs := 1
  newPendingID := sameBytes newID
  voidTransferID := sameBytes voidID

/-- Ten nodes were granted, and two clusters hold three and seven of them. -/
def sampleNodes : Books :=
  let L := (Reference.service.createAccounts {} [sampleQuota,
    globalAccount (.activeNodes, .sink) (sameBytes 2),
    globalAccount (.activeNodes, .operator) (sameBytes 3)]).2
  let grant : AllocationTransfer := {
    resource := .activeNodes
    operatorID := sameBytes 3
    tenantQuotaID := sampleQuota.id
    amount := 10
    code := codeQuotaAllocation
    tenantUUID := sameBytes 9
    periodStartNs := 1
    transferID := sameBytes 4 }
  (Reference.service.createTransfers L [grant.toTransfer 0,
    (sampleUpdate none 3 11 21).reservation, (sampleUpdate none 7 12 22).reservation]).2

theorem sampleNodes_wf : sampleNodes.Wf :=
  Reference.service.createTransfers_wf (Reference.service.createAccounts_wf Books.Wf.empty _) _

instance (L : Books) (i : Uint128) : Decidable (L.Fresh i) := inferInstanceAs (Decidable (_ ∧ _))

/-- The first cluster asks for one node more while the second keeps its seven. -/
def sampleBatch : List GaugePendingUpdate :=
  [sampleUpdate (some 11) 4 31 41, sampleUpdate (some 12) 7 32 42]

/-- The call reports the refusal, and the three nodes of the first cluster are given back. -/
theorem sampleBatch_reported : ∃ results L',
    submitGaugePendingUpdates Reference.service .answered (fun _ => 0) sampleNodes sampleBatch =
        (.ok results, L') ∧
      results.map (·.exceedsCredits) = [true, false] ∧ ∀ p ∈ L'.live, p.id ≠ sameBytes 11 := by
  have hok : submitGaugePendingUpdates Reference.service .answered (fun _ => 0) sampleNodes
      sampleBatch = (.ok [{ exceedsCredits := true },
        { newPendingID := sameBytes 32, accepted := true }], _) :=
    Prod.ext (by decide +kernel) rfl
  have hp : Prepared sampleNodes sampleQuota.id sampleBatch :=
    ⟨by decide +kernel, by decide +kernel, by decide +kernel, by decide +kernel, by decide +kernel,
      by decide +kernel⟩
  have hreports := submitGaugePendingUpdates_reports Reference.service .answered (fun _ => 0)
    sampleNodes _ sampleQuota sampleBatch _ sampleNodes_wf (by decide +kernel) hp hok
  exact ⟨_, _, hok, by decide, hreports.2.1 (sameBytes 11) (by decide +kernel)⟩

end CloudCredit.Ledger
