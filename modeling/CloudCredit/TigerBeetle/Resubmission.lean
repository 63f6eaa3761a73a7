import CloudCredit.TigerBeetle.Requests

/-!
# Submitting a transfer again

What the service answers to a transfer it has decided before. A committed
transfer is compared with what was stored, a void of a reservation that is gone
stays without effect, and an identifier used up by a transient failure is
refused for ever.
-/
namespace CloudCredit.TigerBeetle

namespace Books

variable (L : Books) (t : Transfer)

/-- A rejection for a reason that may go away: the debit would exceed the
credits, or the reservation to void is unknown. -/
def Transient : Prop :=
  L.Fresh t.id ∧
    (t.flags.voidPendingTransfer = false ∧ L.validRegular t = true ∧ L.overflows t = false ∧
        L.exceeds t = true ∨
      t.flags.voidPendingTransfer = true ∧ t.validVoid = true ∧ L.transfer? t.pendingID = none)

/-- A void of a reservation that another void has released. -/
def VoidsNothing : Prop :=
  L.Fresh t.id ∧ t.flags.voidPendingTransfer = true ∧ t.validVoid = true ∧
    ∃ p, L.transfer? t.pendingID = some p ∧ t.fits p = true ∧ L.isVoided p.id = true

/-- The identifier is used up: by a transient failure, or by a committed
transfer of another kind or for another reservation. -/
def Blocked : Prop :=
  t.id ∈ L.failed ∨
    ∃ e, L.transfer? t.id = some e ∧ (t.flags ≠ e.flags ∨ t.pendingID ≠ e.pendingID)

end Books

section Answer

variable {L L' : Books} {t : Transfer} {r : CreateTransferResult}

theorem Answers.exceeds_transient (h : Answers L t r L') (hr : r = .exceedsCredits) :
    L.Transient t ∧ L' = L.fail t.id := by
  cases h with
  | exceedsCredits hf hv hi ho hx => exact ⟨⟨hf, .inl ⟨hv, hi, ho, hx⟩⟩, rfl⟩
  | @repeated e he =>
    have hfound := existsResult_found (L.stored t) e
    rw [hr] at hfound
    cases hfound
  | invalid hf hv hi hinv => simp [hr, CreateTransferResult.invalid] at hinv
  | overflow hf hv hi ho hov => simp [hr, CreateTransferResult.overflow] at hov
  | voidInvalid hf hv hi hinv => simp [hr, CreateTransferResult.invalid] at hinv
  | pendingMismatch hf hv hi hp hm hmis => simp [hr, CreateTransferResult.mismatch] at hmis
  | _ => cases hr

theorem Answers.of_transient (h : Answers L t r L') (ht : L.Transient t) :
    r ≠ .ok ∧ t.id ∈ L'.failed := by
  obtain ⟨⟨hnone, hfresh⟩, hcase⟩ := ht
  cases h with
  | exceedsCredits => exact ⟨by simp, List.mem_cons_self⟩
  | pendingNotFound => exact ⟨by simp, List.mem_cons_self⟩
  | repeated he =>
    rw [hnone] at he
    cases he
  | alreadyFailed hn hf => exact absurd hf hfresh
  | _ => simp_all

theorem Answers.of_voidsNothing (h : Answers L t r L') (ht : L.VoidsNothing t) :
    r = .pendingTransferAlreadyVoided ∧ L' = L := by
  obtain ⟨⟨hnone, hfresh⟩, hv, hi, p, hp, hm, hd⟩ := ht
  cases h with
  | alreadyVoided => exact ⟨rfl, rfl⟩
  | repeated he =>
    rw [hnone] at he
    cases he
  | alreadyFailed hn hf => exact absurd hf hfresh
  | _ => simp_all

theorem Answers.of_committed (h : Answers L t r L') {e : Transfer} (he : L.transfer? t.id = some e) :
    r = existsResult (L.stored t) e ∧ L' = L := by
  cases h with
  | repeated he' =>
    cases he.symm.trans he'
    exact ⟨rfl, rfl⟩
  | alreadyFailed hn hf =>
    rw [hn] at he
    cases he
  | _ hf =>
    rw [hf.1] at he
    cases he

theorem Answers.of_failed (hL : L.Wf) (h : Answers L t r L') (hf : t.id ∈ L.failed) :
    r = .idAlreadyFailed ∧ L' = L := by
  cases h with
  | alreadyFailed => exact ⟨rfl, rfl⟩
  | repeated he =>
    obtain ⟨hmem, hid⟩ := Books.transfer?_some he
    exact absurd (hid ▸ hf) (hL.failed_fresh _ hmem)
  | _ hf' => exact absurd hf hf'.2

theorem stored_id (L : Books) (t : Transfer) : (L.stored t).id = t.id := by
  unfold Books.stored
  split_ifs
  · split <;> rfl
  · rfl

theorem stored_flags (L : Books) (t : Transfer) : (L.stored t).flags = t.flags := by
  unfold Books.stored
  split_ifs
  · split <;> rfl
  · rfl

theorem stored_pendingID (L : Books) (t : Transfer) : (L.stored t).pendingID = t.pendingID := by
  unfold Books.stored
  split_ifs
  · split <;> rfl
  · rfl

theorem stored_regular {L : Books} {t : Transfer} (ht : t.flags.voidPendingTransfer = false) :
    L.stored t = t := by
  simp [Books.stored, ht]

theorem stored_void {L : Books} {t p : Transfer} (ht : t.flags.voidPendingTransfer = true)
    (hp : L.transfer? t.pendingID = some p) : L.stored t = t.fill p := by
  simp [Books.stored, ht, hp]

/-- An identifier that failed once never gets into the books. -/
theorem Answers.refused {i : Uint128} (ha : Answers L t r L') (hf : i ∈ L.failed)
    (hn : L.transfer? i = none) : i ∈ L'.failed ∧ L'.transfer? i = none := by
  constructor
  · exact ha.grows.failed.subset hf
  · have htransfers := ha.transfers_eq
    split_ifs at htransfers with hok
    · have hne : (L.stored t).id ≠ i := by
        rw [stored_id]
        intro hid
        subst hid
        cases ha with
        | repeated he => simp [hn] at he
        | alreadyFailed => cases hok
        | _ hfresh => exact hfresh.2 hf
      unfold Books.transfer?
      rw [htransfers, List.find?_cons_of_neg (by simpa using hne)]
      exact hn
    · unfold Books.transfer?
      rw [htransfers]
      exact hn

theorem Answers.of_blocked (hL : L.Wf) (h : Answers L t r L') (hb : L.Blocked t) :
    r = .idAlreadyFailed ∨ r = .existsWithDifferentFlags ∨ r = .existsWithDifferentPendingID := by
  rcases hb with hf | ⟨e, he, hne⟩
  · exact .inl (h.of_failed hL hf).1
  · right
    rw [(h.of_committed he).1]
    by_contra hcon
    obtain ⟨hf, hp⟩ := existsResult_agrees (fun h1 => hcon (.inl h1)) (fun h2 => hcon (.inr h2))
    rw [stored_flags] at hf
    rw [stored_pendingID] at hp
    rcases hne with hne | hne
    · exact hne hf
    · exact hne hp

end Answer

theorem Service.createTransfers_refused (tb : Service) {L : Books} {ts : List Transfer}
    {id : Uint128} (hf : id ∈ L.failed) (hn : L.transfer? id = none) :
    (tb.createTransfers L ts).2.transfer? id = none := by
  have hrun : id ∈ (tb.createTransfers L ts).2.failed ∧
      (tb.createTransfers L ts).2.transfer? id = none :=
    tb.createTransfers_keeps (P := fun M => id ∈ M.failed ∧ M.transfer? id = none)
      (fun M s _ hM => (tb.transfer_documented M s).refused hM.1 hM.2) ⟨hf, hn⟩
  exact hrun.2

theorem Books.Blocked.grows {L M : Books} {t : Transfer} (hb : L.Blocked t) (hg : L.Grows M)
    (hM : M.Wf) : M.Blocked t := by
  rcases hb with hf | ⟨e, he, hne⟩
  · exact .inl (hg.failed.subset hf)
  · exact .inr ⟨e, hg.transfer? hM he, hne⟩

theorem Books.VoidsNothing.grows {L M : Books} {t : Transfer} (hv : L.VoidsNothing t)
    (hg : L.Grows M) (hM : M.Wf) (hnone : M.transfer? t.id = none) (hfailed : M.failed = L.failed) :
    M.VoidsNothing t := by
  obtain ⟨hf, hvoid, hi, p, hp, hm, hd⟩ := hv
  exact ⟨⟨hnone, hfailed ▸ hf.2⟩, hvoid, hi, p, hg.transfer? hM hp, hm, hg.isVoided hd⟩

/-- A transfer committed after a void of the same identifier found its
reservation gone is of another kind or for another reservation. -/
theorem Books.VoidsNothing.blocked {L M : Books} {t e : Transfer} (hv : L.VoidsNothing t)
    (hg : L.Grows M) (hM : M.Wf) (he : M.transfer? t.id = some e) : M.Blocked t := by
  refine .inr ⟨e, he, ?_⟩
  by_contra hcon
  push Not at hcon
  obtain ⟨⟨hnone, -⟩, hvoid, -, p, hp, -, hd⟩ := hv
  obtain ⟨v, hvmem, hvc⟩ := List.any_eq_true.mp hd
  simp only [Bool.and_eq_true, decide_eq_true_eq] at hvc
  obtain ⟨hemem, heid⟩ := transfer?_some he
  have hpid := (transfer?_some hp).2
  have hsame := hM.voids_once v (hg.transfers.subset hvmem) e hemem hvc.1 (hcon.1 ▸ hvoid)
    (hvc.2.trans (hpid.trans hcon.2))
  exact transfer?_none.mp hnone v hvmem (hsame.trans heid)

end CloudCredit.TigerBeetle
