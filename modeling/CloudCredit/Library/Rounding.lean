import Mathlib.Tactic

/-!
# Rounding to a fixed number of significant bits

A natural number is rounded to the nearest multiple of the unit of its last
significant bit, a tie to the even multiple. Rounding keeps the order of the
numbers, but it may identify neighbours.
-/
namespace CloudCredit.Library

/-- The nearest multiple of `u`; of two equally near ones the even multiple. -/
def roundToMultiple (u n : ℕ) : ℕ :=
  if 2 * (n % u) < u ∨ 2 * (n % u) = u ∧ n / u % 2 = 0 then n / u * u else (n / u + 1) * u

/-- The nearest number with at most `p` significant bits. -/
def roundSignificand (p n : ℕ) : ℕ := roundToMultiple (2 ^ (n.log2 + 1 - p)) n

theorem roundToMultiple_bounds (u n : ℕ) :
    n / u * u ≤ roundToMultiple u n ∧ roundToMultiple u n ≤ (n / u + 1) * u := by
  have hle : n / u * u ≤ (n / u + 1) * u := Nat.mul_le_mul_right u (Nat.le_succ _)
  unfold roundToMultiple
  split_ifs
  · exact ⟨le_refl _, hle⟩
  · exact ⟨hle, le_refl _⟩

theorem roundToMultiple_mono (u : ℕ) : Monotone (roundToMultiple u) := by
  intro m n hmn
  rcases Nat.eq_or_lt_of_le (Nat.div_le_div_right (c := u) hmn) with hq | hq
  · have hm := Nat.div_add_mod m u
    have hn := Nat.div_add_mod n u
    rw [hq] at hm
    unfold roundToMultiple
    rw [hq]
    split_ifs
    · exact le_refl _
    · exact Nat.mul_le_mul_right u (Nat.le_succ _)
    · omega
    · exact le_refl _
  · calc roundToMultiple u m ≤ (m / u + 1) * u := (roundToMultiple_bounds u m).2
      _ ≤ n / u * u := Nat.mul_le_mul_right u hq
      _ ≤ roundToMultiple u n := (roundToMultiple_bounds u n).1

theorem roundSignificand_le (p n : ℕ) : roundSignificand p n ≤ 2 ^ (n.log2 + 1) := by
  obtain ⟨k, hk⟩ : 2 ^ (n.log2 + 1 - p) ∣ 2 ^ (n.log2 + 1) := Nat.pow_dvd_pow 2 (Nat.sub_le _ _)
  have hlt : n / 2 ^ (n.log2 + 1 - p) < k := by
    refine Nat.div_lt_of_lt_mul ?_
    rw [← hk]
    exact Nat.lt_log2_self
  calc roundSignificand p n ≤ (n / 2 ^ (n.log2 + 1 - p) + 1) * 2 ^ (n.log2 + 1 - p) :=
        (roundToMultiple_bounds _ n).2
    _ ≤ k * 2 ^ (n.log2 + 1 - p) := Nat.mul_le_mul_right _ hlt
    _ = 2 ^ (n.log2 + 1) := by rw [hk, Nat.mul_comm]

theorem le_roundSignificand {p n : ℕ} (hp : 0 < p) (hn : n ≠ 0) :
    2 ^ n.log2 ≤ roundSignificand p n := by
  obtain ⟨k, hk⟩ : 2 ^ (n.log2 + 1 - p) ∣ 2 ^ n.log2 := Nat.pow_dvd_pow 2 (by omega)
  have hle : k ≤ n / 2 ^ (n.log2 + 1 - p) := by
    refine (Nat.le_div_iff_mul_le (by positivity)).mpr ?_
    rw [Nat.mul_comm, ← hk]
    exact Nat.log2_self_le hn
  calc 2 ^ n.log2 = k * 2 ^ (n.log2 + 1 - p) := by rw [hk, Nat.mul_comm]
    _ ≤ n / 2 ^ (n.log2 + 1 - p) * 2 ^ (n.log2 + 1 - p) := Nat.mul_le_mul_right _ hle
    _ ≤ roundSignificand p n := (roundToMultiple_bounds _ n).1

theorem roundSignificand_mono {p : ℕ} (hp : 0 < p) : Monotone (roundSignificand p) := by
  intro m n hmn
  have hlog : m.log2 ≤ n.log2 := by
    rw [Nat.log2_eq_log_two, Nat.log2_eq_log_two]
    exact Nat.log_mono_right hmn
  rcases Nat.eq_or_lt_of_le hlog with hl | hl
  · unfold roundSignificand
    rw [hl]
    exact roundToMultiple_mono _ hmn
  · have hn : n ≠ 0 := by
      rintro rfl
      simp at hl
    calc roundSignificand p m ≤ 2 ^ (m.log2 + 1) := roundSignificand_le p m
      _ ≤ 2 ^ n.log2 := Nat.pow_le_pow_right (by decide) hl
      _ ≤ roundSignificand p n := le_roundSignificand hp hn

end CloudCredit.Library
