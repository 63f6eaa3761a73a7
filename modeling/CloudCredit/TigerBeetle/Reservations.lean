import CloudCredit.TigerBeetle.Resubmission

/-!
# Reservations held against an account

The live reservations of an account. A transfer that debits another account
leaves them as they are: a void takes effect only if it fits its reservation.
-/
namespace CloudCredit.TigerBeetle

namespace Books

/-- The live reservations that debit an account. -/
def held (L : Books) (i : Uint128) : List Transfer := L.live.filter (·.debitAccountID = i)

theorem mem_held {L : Books} {i : Uint128} {p : Transfer} :
    p ∈ L.held i ↔ p ∈ L.transfers ∧ p.flags.pending = true ∧ L.isVoided p.id = false ∧
      p.debitAccountID = i := by
  simp [held, mem_live, and_assoc]

theorem live_fail (L : Books) (j : Uint128) : (L.fail j).live = L.live := rfl

end Books

section Decision

variable {L L' : Books} {t : Transfer} {r : CreateTransferResult} {i : Uint128}

theorem fits_debit {p : Transfer} (hm : t.fits p = true) (hne : t.debitAccountID ≠ 0) :
    p.debitAccountID = t.debitAccountID := by
  simp only [Transfer.fits, Bool.and_eq_true, Bool.or_eq_true, decide_eq_true_eq] at hm
  exact (hm.1.1.1.1.2.resolve_left hne).symm

/-- A transfer that debits another account leaves the reservations as they are. -/
theorem Answers.held_of_ne (ha : Answers L t r L') (hL : L.Wf) (hne : t.debitAccountID ≠ i)
    (hzero : t.debitAccountID ≠ 0) : L'.held i = L.held i := by
  unfold Books.held
  cases ha with
  | invalid hf hv hi hr hL' => rcases hL' with rfl | rfl <;> rfl
  | posted hf hv hi ho hx hp => rw [Books.live_post (by simp [Transfer.posts, hp, hv])]
  | reserved hf hv hi ho hx hp =>
    rw [Books.live_reserve hL hf.1 hp hv, List.filter_cons_of_neg (by simpa using hne)]
  | @voided p hf hv hi hp hm hd =>
    obtain ⟨hmem, hid⟩ := Books.transfer?_some hp
    have hnp := Transfer.validVoid_pending hi
    rw [Books.live_release (v := t.fill p) hv hnp hid.symm, List.filter_filter]
    refine List.filter_congr fun q hq => ?_
    by_cases hqi : q.debitAccountID = i
    · have hqp : q.id ≠ p.id := by
        intro hsame
        have hq' := List.inj_on_of_nodup_map hL.transfers_nodup (Books.mem_live.mp hq).1 hmem hsame
        rw [hq', fits_debit hm hzero] at hqi
        exact hne hqi
      simp [hqi, hqp]
    · simp [hqi]
  | _ => rfl

end Decision

end CloudCredit.TigerBeetle
