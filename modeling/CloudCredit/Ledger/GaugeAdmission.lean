import CloudCredit.Ledger.GaugeBatch
import CloudCredit.Library.Admission

/-!
# Which gauge updates are granted

Prepared updates between two open accounts of one ledger are all answered with a case, and
their new reservations are granted as changes that are admitted one after the other against
the posted credits of the account.
-/
namespace CloudCredit.Ledger

open Library TigerBeetle Domain

/-- All that a list of updates asks for. -/
def demand (us : List GaugePendingUpdate) : ℕ := (us.map (·.newAmount.toNat)).sum

/-- Updates the ledger can take: they go from the account `a` to the account `b` of the same
ledger, as do the reservations they give back, their identifiers are usable, and the balance
columns have room for them. -/
structure Serviceable (L : Books) (a b : Account) (us : List GaugePendingUpdate) : Prop where
  quota : a ∈ L.accounts
  sink : b ∈ L.accounts
  differ : a.id ≠ b.id
  ends : ∀ u ∈ us, u.tenantQuotaID = a.id ∧ u.sinkID = b.id ∧
    a.ledger = u.resource.ledgerID ∧ b.ledger = u.resource.ledgerID
  usable : ∀ u ∈ us, u.newPendingID.usable = true ∧ u.voidTransferID.usable = true
  olds : ∀ p ∈ L.live, p.id ∈ oldIDs us → p.id.usable = true ∧ p.debitAccountID = a.id ∧
    p.creditAccountID = b.id ∧ p.ledger = a.ledger ∧ p.code = codeGaugeReservation
  room : (L.balance a.id).debitsPending + (L.balance a.id).debitsPosted + demand us < 2 ^ 128 ∧
    (L.balance b.id).creditsPending + (L.balance b.id).creditsPosted + demand us < 2 ^ 128

section Answered

variable {tb : Service} {rand : ℕ → Uint128} {n : ℕ} {L L' : Books} {a b : Account}
  {t p : Transfer} {r : CreateTransferResult} {u : GaugePendingUpdate}
  {us us' : List GaugePendingUpdate}

theorem void_carried_out (ha : Answers L t r L') (hL : L.Wf) (hf : L.Fresh t.id)
    (hv : t.flags.voidPendingTransfer = true) (hp : p ∈ L.live) (hid : p.id = t.pendingID)
    (hvalid : t.validVoid = true) (hfits : t.fits p = true) : r = .ok := by
  obtain ⟨hmem, -, hnot⟩ := Books.mem_live.mp hp
  have hfound : L.transfer? t.pendingID = some p := hid ▸ hL.transfer?_eq hmem
  cases ha with
  | repeated he => simp [hf.1] at he
  | voided => rfl
  | pendingMismatch hf hv hi hsome hm hmismatch =>
    cases hfound.symm.trans hsome
    simp [hfits] at hm
  | alreadyVoided hf hv hi hsome hm hd =>
    cases hfound.symm.trans hsome
    simp [hnot] at hd
  | _ => simp_all [Books.Fresh]

theorem reservation_answered (ha : Answers L t r L') (hf : L.Fresh t.id)
    (hv : t.flags.voidPendingTransfer = false) (hvalid : L.validRegular t = true)
    (hroom : L.overflows t = false) : classified r = true := by
  cases ha with
  | repeated he => simp [hf.1] at he
  | exceedsCredits => rfl
  | posted => rfl
  | reserved => rfl
  | _ => simp_all [Books.Fresh]

theorem onLedger_of_mem (hL : L.Wf) (ha : a ∈ L.accounts) : L.onLedger a.id a.ledger = true := by
  simp [Books.onLedger, hL.account?_eq ha]

theorem demand_cons (u : GaugePendingUpdate) (us : List GaugePendingUpdate) :
    demand (u :: us) = u.newAmount.toNat + demand us := by
  simp [demand]

theorem Serviceable.void_classified (tb : Service) (rand : ℕ → Uint128) (n : ℕ)
    (hs : Serviceable L a b (u :: us))
    (hp : Prepared L a.id (u :: us)) (hL : L.Wf) :
    ∀ r, (answerVoid tb rand n L u).1 = some r → gaugeClassified true r = true := by
  intro r hr
  unfold answerVoid at hr
  cases hold : u.oldPendingID with
  | none => simp [hold] at hr
  | some old =>
    have hmem : old ∈ oldIDs (u :: us) := by
      rw [oldIDs_cons, hold]
      exact List.mem_cons_self
    obtain ⟨p, hpl, rfl⟩ := hp.live old hmem
    simp only [hold, Option.some.injEq] at hr
    obtain ⟨husable, hdebit, hcredit, hledger, hcode⟩ := hs.olds p hpl hmem
    obtain ⟨hquota, hsink, ha, -⟩ := hs.ends u List.mem_cons_self
    have hvid : (u.voidTransfer rand n p.id).id = u.voidTransferID :=
      GaugePendingUpdate.voidID_eq (hp.given u List.mem_cons_self).2 rand n
    have hfresh := (hp.fresh u List.mem_cons_self).2
    have hne : p.id ≠ u.voidTransferID := Books.transfer?_none.mp hfresh.1 p (Books.mem_live.mp hpl).1
    have hvalid : (u.voidTransfer rand n p.id).validVoid = true := by
      simp only [Transfer.validVoid, hvid, (hs.usable u List.mem_cons_self).2]
      simp [GaugePendingUpdate.voidTransfer, husable, hne]
    have hfits : (u.voidTransfer rand n p.id).fits p = true := by
      simp [Transfer.fits, GaugePendingUpdate.voidTransfer, (Books.mem_live.mp hpl).2.1, hquota, hsink,
        hdebit, hcredit, hledger, hcode, ha]
    have hok := void_carried_out (tb.transfer_documented L (u.voidTransfer rand n p.id)) hL
      (hvid ▸ hfresh) rfl hpl rfl hvalid hfits
    rw [← hr, hok]
    rfl

theorem Settles.pending_le {old : Option Uint128} {made : List Transfer} {used : List Uint128}
    (hs : Settles L old made used L') (hL : L.Wf) (i : Uint128) :
    (L'.balance i).debitsPending ≤ (L.balance i).debitsPending + (made.map (·.amount)).sum ∧
      (L'.balance i).creditsPending ≤ (L.balance i).creditsPending + (made.map (·.amount)).sum := by
  have hle : ∀ q : Transfer → Bool, total q L'.live ≤ total q L.live + (made.map (·.amount)).sum := by
    intro q
    have hmade : total q made ≤ (made.map (·.amount)).sum :=
      (List.filter_sublist.map _).sum_le_sum (by simp)
    have hkept : total q (L.live.filter fun p => old ≠ some p.id) ≤ total q L.live :=
      ((List.filter_sublist.filter q).map _).sum_le_sum (by simp)
    have happend : total q L'.live =
        total q made + total q (L.live.filter fun p => old ≠ some p.id) := by
      rw [hs.live, total_append]
    omega
  rw [hs.wf.debitsPending_eq, hs.wf.creditsPending_eq, hL.debitsPending_eq, hL.creditsPending_eq]
  exact ⟨hle _, hle _⟩

theorem Serviceable.new_classified (tb : Service) (rand : ℕ → Uint128) (n : ℕ)
    (hs : Serviceable L a b (u :: us))
    (hp : Prepared L a.id (u :: us)) (hL : L.Wf)
    (hvoid : Settles L u.oldPendingID [] [u.voidTransferID] L') :
    ∀ r, (answerNew tb rand n L' u).1 = some r → classified r = true := by
  intro r hr
  have hgiven := (hp.given u List.mem_cons_self).1
  by_cases hpos : 0 < u.newAmount
  · rw [answerNew_of_pos hgiven hpos, Option.some.injEq] at hr
    have hrid := GaugePendingUpdate.reservation_id hgiven
    have hne : u.newPendingID ∉ [u.voidTransferID] := by
      have hids := hp.ids
      simp only [List.flatMap_cons, List.nodup_append, List.nodup_cons] at hids
      exact hids.1.1
    have hfresh := hvoid.fresh _ (hp.fresh u List.mem_cons_self).1 hne
    obtain ⟨hquota, hsink, ha, hb⟩ := hs.ends u List.mem_cons_self
    have hona := onLedger_of_mem hvoid.wf (hvoid.accounts ▸ hs.quota)
    have honb := onLedger_of_mem hvoid.wf (hvoid.accounts ▸ hs.sink)
    rw [ha] at hona
    rw [hb] at honb
    have hvalid : L'.validRegular u.reservation = true := by
      simp only [Books.validRegular, hrid, (hs.usable u List.mem_cons_self).1]
      simp [GaugePendingUpdate.reservation, GaugePendingUpdate.newTransfer, hquota, hsink, hona, honb,
        hs.differ, hL.accounts_usable a hs.quota, hL.accounts_usable b hs.sink,
        ResourceType.ledgerID_ne_zero, codeGaugeReservation]
    have hroom : L'.overflows u.reservation = false := by
      have hda := (hvoid.pending_le hL a.id).1
      have hcb := (hvoid.pending_le hL b.id).2
      have hpa := (hvoid.posted a.id).2
      have hpb := (hvoid.posted b.id).1
      have hroom := hs.room
      rw [demand_cons] at hroom
      simp only [List.map_nil, List.sum_nil, Nat.add_zero] at hda hcb
      simp only [Books.overflows, GaugePendingUpdate.reservation, GaugePendingUpdate.newTransfer,
        hquota, hsink, Bool.or_eq_false_iff, decide_eq_false_iff_not, not_le]
      omega
    rw [← hr]
    exact reservation_answered (tb.transfer_documented L' u.reservation) (hrid ▸ hfresh) rfl hvalid
      hroom
  · rw [answerNew_of_zero hpos] at hr
    cases hr

theorem Serviceable.tail (hs : Serviceable L a b (u :: us)) (hp : Prepared L a.id (u :: us))
    (hL : L.Wf) {made : List Transfer} {used : List Uint128}
    (hsettles : Settles L u.oldPendingID made used L')
    (hmade : made = [] ∨ made = [u.reservation]) : Serviceable L' a b us := by
  have hamount : (made.map (·.amount)).sum ≤ u.newAmount.toNat := by
    rcases hmade with rfl | rfl
    · simp
    · simp [GaugePendingUpdate.reservation, GaugePendingUpdate.newTransfer]
  refine ⟨hsettles.accounts ▸ hs.quota, hsettles.accounts ▸ hs.sink, hs.differ,
    fun v hv => hs.ends v (List.mem_cons_of_mem _ hv),
    fun v hv => hs.usable v (List.mem_cons_of_mem _ hv), fun p hpl hold => ?_, ?_⟩
  · have hold' : p.id ∈ oldIDs (u :: us) := by
      rw [oldIDs_cons]
      exact List.mem_append_right _ hold
    rw [hsettles.live, List.mem_append, List.mem_filter] at hpl
    rcases hpl with hmem | hmem
    · obtain ⟨q, hq, hqid⟩ := hp.live _ hold'
      rcases hmade with rfl | rfl
      · cases hmem
      · rw [List.mem_singleton.mp hmem,
          GaugePendingUpdate.reservation_id (hp.given u List.mem_cons_self).1] at hqid
        exact absurd hqid (Books.transfer?_none.mp (hp.fresh u List.mem_cons_self).1.1 q
          (Books.mem_live.mp hq).1)
    · exact hs.olds p hmem.1 hold'
  · have hda := (hsettles.pending_le hL a.id).1
    have hcb := (hsettles.pending_le hL b.id).2
    have hpa := (hsettles.posted a.id).2
    have hpb := (hsettles.posted b.id).1
    have hroom := hs.room
    rw [demand_cons] at hroom
    omega

theorem Serviceable.head (tb : Service) (rand : ℕ → Uint128) (n : ℕ)
    (hs : Serviceable L a b (u :: us)) (hp : Prepared L a.id (u :: us)) (hL : L.Wf) :
    UpdateAnswer.Classified ⟨(answerVoid tb rand n L u).1,
        (answerNew tb rand n (answerVoid tb rand n L u).2 u).1⟩ ∧
      Prepared (answerNew tb rand n (answerVoid tb rand n L u).2 u).2 a.id us ∧
      Serviceable (answerNew tb rand n (answerVoid tb rand n L u).2 u).2 a b us := by
  have hvoid := hs.void_classified tb rand n hp hL
  have hsettles := (answerVoid_settles hL
    (fun i hi => hp.live i (by rw [oldIDs_cons, hi]; exact List.mem_cons_self))
    (hp.given u List.mem_cons_self).2 (hp.fresh u List.mem_cons_self).2 hvoid).1
  have hnew := hs.new_classified tb rand n hp hL hsettles
  obtain ⟨-, -, hall, -⟩ := hp.head hL hvoid hnew
  refine ⟨⟨hvoid, hnew⟩, hp.tail hall, hs.tail hp hL hall ?_⟩
  split_ifs
  · exact .inr rfl
  · exact .inl rfl

theorem gaugeAnswers_classified (hL : L.Wf) (hp : Prepared L a.id us) (hs : Serviceable L a b us) :
    ∀ x ∈ (gaugeAnswers tb rand n L us).1, x.Classified := by
  induction us generalizing n L with
  | nil => simp [gaugeAnswers]
  | cons u us ih =>
    obtain ⟨hclass, hp', hs'⟩ := hs.head tb rand n hp hL
    have hwf := (hp.head hL hclass.1 hclass.2).2.2.1.wf
    simp only [gaugeAnswers, List.forall_mem_cons]
    exact ⟨hclass, ih hwf hp' hs'⟩

theorem Prepared.perm {account : Uint128} (hp : Prepared L account us) (hperm : us.Perm us') :
    Prepared L account us' where
  account u hu := hp.account u (hperm.mem_iff.mpr hu)
  live i hi := hp.live i ((hperm.filterMap _).mem_iff.mpr hi)
  olds := (hperm.filterMap _).nodup_iff.mp hp.olds
  ids := (hperm.flatMap_right _).nodup_iff.mp hp.ids
  given u hu := hp.given u (hperm.mem_iff.mpr hu)
  fresh u hu := hp.fresh u (hperm.mem_iff.mpr hu)

theorem demand_perm (hperm : us.Perm us') : demand us = demand us' := (hperm.map _).sum_eq

theorem Serviceable.perm (hs : Serviceable L a b us) (hperm : us.Perm us') :
    Serviceable L a b us' where
  quota := hs.quota
  sink := hs.sink
  differ := hs.differ
  ends u hu := hs.ends u (hperm.mem_iff.mpr hu)
  usable u hu := hs.usable u (hperm.mem_iff.mpr hu)
  olds p hpl hold := hs.olds p hpl ((hperm.filterMap _).mem_iff.mpr hold)
  room := demand_perm hperm ▸ hs.room

end Answered

section Verdicts

variable {tb : Service} {rand : ℕ → Uint128} {n : ℕ} {L L' : Books} {a b : Account}
  {u : GaugePendingUpdate} {us : List GaugePendingUpdate}

/-- What an update gives back and what it asks for. -/
def GaugePendingUpdate.change (L : Books) (u : GaugePendingUpdate) : Change where
  old := ((u.oldPendingID.bind L.transfer?).map (·.amount)).getD 0
  new := u.newAmount.toNat

/-- The credits of an account that are spent or reserved. -/
def usedCredits (L : Books) (i : Uint128) : ℕ :=
  (L.balance i).debitsPosted + (L.balance i).debitsPending

/-- A settled update takes what it gave back off the account and adds what was made. -/
theorem Settles.used {made : List Transfer} {used : List Uint128}
    (hs : Settles L u.oldPendingID made used L') (hL : L.Wf)
    (hlive : ∀ i, u.oldPendingID = some i → ∃ p ∈ L.live, p.id = i)
    (hdebit : ∀ p ∈ L.live, u.oldPendingID = some p.id → p.debitAccountID = a.id)
    (hmade : ∀ p ∈ made, p.debitAccountID = a.id) :
    usedCredits L' a.id + (u.change L).old =
      usedCredits L a.id + (made.map (·.amount)).sum := by
  have hnew : total (fun t => t.debitAccountID = a.id) made = (made.map (·.amount)).sum := by
    rw [total, List.filter_eq_self.mpr fun p hp => by simpa using hmade p hp]
  have hsplit : total (fun t => t.debitAccountID = a.id) L'.live =
      total (fun t => t.debitAccountID = a.id) made +
        total (fun t => t.debitAccountID = a.id)
          (L.live.filter fun p => u.oldPendingID ≠ some p.id) := by
    rw [hs.live, total_append]
  simp only [usedCredits, (hs.posted a.id).2, hs.wf.debitsPending_eq, hL.debitsPending_eq, hsplit,
    hnew, GaugePendingUpdate.change]
  cases hold : u.oldPendingID with
  | none =>
    simp only [ne_eq, reduceCtorEq, not_false_eq_true, decide_true, List.filter_true,
      Option.bind_none, Option.map_none, Option.getD_none]
    omega
  | some i =>
    obtain ⟨p, hpl, rfl⟩ := hlive i hold
    have hkept : (L.live.filter fun q => some p.id ≠ some q.id) = L.live.filter (·.id ≠ p.id) := by
      simp only [Option.some.injEq, ne_eq, ne_comm]
    have htotal := total_filter_ne hL.live_nodup hpl (fun t => t.debitAccountID = a.id)
    simp only [hdebit p hpl hold, decide_true, if_true] at htotal
    simp only [hkept, Option.bind_some, hL.transfer?_eq (Books.mem_live.mp hpl).1, Option.map_some,
      Option.getD_some]
    omega

theorem exceeds_iff (hL : L.Wf) (ha : a ∈ L.accounts)
    (hlimited : a.flags.debitsMustNotExceedCredits = true) (hquota : u.tenantQuotaID = a.id) :
    L.exceeds u.reservation = true ↔
      (L.balance a.id).creditsPosted < usedCredits L a.id + u.newAmount.toNat := by
  have hfound : L.account? u.reservation.debitAccountID = some a := by
    rw [← hL.account?_eq ha]
    exact congrArg L.account? hquota
  simp only [Books.exceeds, hfound, hlimited, Bool.true_and, decide_eq_true_eq, usedCredits]
  simp only [GaugePendingUpdate.reservation, GaugePendingUpdate.newTransfer]
  omega

/-- What the other updates give back and ask for stays the same. -/
theorem Prepared.changes (hp : Prepared L a.id (u :: us)) (hL : L.Wf) {made : List Transfer}
    {used : List Uint128} (hs : Settles L u.oldPendingID made used L') :
    us.map (·.change L') = us.map (·.change L) := by
  refine List.map_congr_left fun v hv => ?_
  cases hold : v.oldPendingID with
  | none => simp [GaugePendingUpdate.change, hold]
  | some i =>
    have hmem : i ∈ oldIDs us := List.mem_filterMap.mpr ⟨v, hv, hold⟩
    have holds := hp.olds
    rw [oldIDs_cons, List.nodup_append] at holds
    obtain ⟨p, hpl, rfl⟩ := hp.live i (by rw [oldIDs_cons]; exact List.mem_append_right _ hmem)
    have hne : u.oldPendingID ≠ some p.id := fun he =>
      holds.2.2 p.id (by simp [he]) p.id hmem rfl
    have hpl' : p ∈ L'.live := by
      rw [hs.live, List.mem_append, List.mem_filter]
      exact .inr ⟨hpl, by simpa using hne⟩
    simp [GaugePendingUpdate.change, hold, hL.transfer?_eq (Books.mem_live.mp hpl).1,
      hs.wf.transfer?_eq (Books.mem_live.mp hpl').1]

/-- The new reservations are granted as the changes are admitted. -/
theorem gaugeAnswers_grants (hL : L.Wf) (ha : a ∈ L.accounts) (hp : Prepared L a.id us)
    (hlimited : a.flags.debitsMustNotExceedCredits = true)
    (hclass : ∀ x ∈ (gaugeAnswers tb rand n L us).1, x.Classified) :
    (gaugeAnswers tb rand n L us).1.map (fun x => decide (x.new ≠ some .exceedsCredits)) =
      grants (L.balance a.id).creditsPosted (usedCredits L a.id) (us.map (·.change L)) := by
  induction us generalizing n L with
  | nil => rfl
  | cons u us ih =>
    simp only [gaugeAnswers, List.forall_mem_cons] at hclass
    obtain ⟨hvoid, hanswer, hall, hdebit⟩ := hp.head hL hclass.1.1 hclass.1.2
    set M := (answerVoid tb rand n L u).2 with hM
    set N := (answerNew tb rand n M u).2 with hN
    have hquota := hp.account u List.mem_cons_self
    have hlive : ∀ i, u.oldPendingID = some i → ∃ p ∈ L.live, p.id = i := by
      intro i hi
      refine hp.live i ?_
      rw [oldIDs_cons, hi]
      exact List.mem_cons_self
    replace hdebit := hdebit (hL.account_ne_zero ha)
    have hback := hvoid.used hL hlive hdebit (by simp)
    have hafter := hall.used (a := a) hL hlive hdebit (by
      intro p hpm
      split_ifs at hpm
      · rw [List.mem_singleton.mp hpm]
        exact hquota
      · cases hpm)
    have hexceeds := exceeds_iff (u := u) hvoid.wf (hvoid.accounts ▸ ha) hlimited hquota
    rw [(hvoid.posted a.id).1] at hexceeds
    have hlimit : usedCredits L a.id ≤ _ := hL.limit a ha hlimited
    simp only [List.map_nil, List.sum_nil, Nat.add_zero] at hback
    have hnew : (u.change L).new = u.newAmount.toNat := rfl
    have hamount : u.reservation.amount = u.newAmount.toNat := rfl
    have hstep : decide ((answerNew tb rand n M u).1 ≠ some .exceedsCredits) =
          (u.change L).fits (L.balance a.id).creditsPosted (usedCredits L a.id) ∧
        usedCredits N a.id =
          (u.change L).settle (L.balance a.id).creditsPosted (usedCredits L a.id) := by
      simp only [Change.settle, Change.fits, hnew, decide_eq_true_eq]
      by_cases hpos : 0 < u.newAmount
      · cases hx : M.exceeds u.reservation with
        | true =>
          have hover := hexceeds.mp hx
          rw [if_pos hpos, hx, if_pos rfl] at hanswer
          rw [hanswer] at hafter ⊢
          rw [if_neg (by simp), List.map_nil, List.sum_nil] at hafter
          rw [if_neg (by omega)]
          exact ⟨decide_eq_decide.mpr ⟨fun hne => absurd rfl hne, fun _ => by omega⟩, by omega⟩
        | false =>
          have hunder : ¬_ := fun hover => Bool.eq_false_iff.mp hx (hexceeds.mpr hover)
          rw [if_pos hpos, hx, if_neg Bool.false_ne_true] at hanswer
          rw [hanswer] at hafter ⊢
          rw [if_pos rfl, List.map_singleton, List.sum_singleton, hamount] at hafter
          rw [if_pos (by omega)]
          exact ⟨decide_eq_decide.mpr ⟨fun _ => by omega, fun _ => by simp⟩, by omega⟩
      · have hzero : u.newAmount.toNat = 0 := by
          rw [UInt64.lt_iff_toNat_lt] at hpos
          simpa using hpos
        rw [if_neg hpos] at hanswer
        rw [hanswer] at hafter ⊢
        rw [if_neg (by simp), List.map_nil, List.sum_nil] at hafter
        rw [if_pos (by omega)]
        exact ⟨decide_eq_decide.mpr ⟨fun _ => by omega, fun _ => by simp⟩, by omega⟩
    simp only [gaugeAnswers, List.map_cons, grants]
    rw [hstep.1, ih hall.wf (hall.accounts ▸ ha) (hp.tail hall) hclass.2, hstep.2,
      (hall.posted a.id).1, hp.changes hL hall]

theorem sum_le_total {q : Transfer → Bool} {ps ts : List Transfer} (hnodup : ps.Nodup)
    (hsub : ∀ p ∈ ps, p ∈ ts ∧ q p = true) : (ps.map (·.amount)).sum ≤ total q ts := by
  have hsub' : ps ⊆ ts.filter q := fun p hp => List.mem_filter.mpr (hsub p hp)
  obtain ⟨xs, hperm, hsublist⟩ := hnodup.subperm hsub'
  rw [← (hperm.map _).sum_eq]
  exact (hsublist.map _).sum_le_sum (by simp)

/-- The reservations a list of updates gives back. -/
def givenBack (L : Books) (us : List GaugePendingUpdate) : List Transfer :=
  (oldIDs us).filterMap L.transfer?

theorem sum_change_old (L : Books) (us : List GaugePendingUpdate) :
    ((us.map (·.change L)).map Change.old).sum = ((givenBack L us).map (·.amount)).sum := by
  induction us with
  | nil => rfl
  | cons u us ih =>
    have hcons : givenBack L (u :: us) = (u.oldPendingID.bind L.transfer?).toList ++ givenBack L us := by
      rw [givenBack, oldIDs_cons, List.filterMap_append]
      cases u.oldPendingID with
      | none => rfl
      | some i => cases hi : L.transfer? i <;> simp [hi, givenBack]
    rw [List.map_cons, List.map_cons, List.sum_cons, ih, hcons]
    simp only [GaugePendingUpdate.change]
    cases u.oldPendingID.bind L.transfer? <;> simp

theorem Prepared.held_le (hp : Prepared L a.id us) (hL : L.Wf)
    (hdebit : ∀ p ∈ L.live, p.id ∈ oldIDs us → p.debitAccountID = a.id) :
    ((us.map (·.change L)).map Change.old).sum ≤ usedCredits L a.id := by
  have hmem : ∀ p ∈ givenBack L us, p ∈ L.live ∧ p.id ∈ oldIDs us := by
    intro p hpm
    obtain ⟨i, hi, hfound⟩ := List.mem_filterMap.mp hpm
    obtain ⟨q, hq, rfl⟩ := hp.live i hi
    rw [hL.transfer?_eq (Books.mem_live.mp hq).1, Option.some.injEq] at hfound
    exact hfound ▸ ⟨hq, hi⟩
  have hnodup : (givenBack L us).Nodup := by
    refine hp.olds.filterMap fun i j p hi hj => ?_
    rw [← (Books.transfer?_some hi).2, ← (Books.transfer?_some hj).2]
  rw [sum_change_old, usedCredits, hL.debitsPending_eq]
  exact (sum_le_total hnodup fun p hpm => ⟨(hmem p hpm).1,
    by simpa using hdebit p (hmem p hpm).1 (hmem p hpm).2⟩).trans (Nat.le_add_left _ _)

end Verdicts

end CloudCredit.Ledger
