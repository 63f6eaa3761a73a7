import Mathlib.Tactic

/-!
# Machine integers

Where the arithmetic of signed 64-bit integers is that of the integers, and what their
conversion to unsigned ones keeps.
-/
namespace CloudCredit.Library

theorem toInt_sub_of_le {a b : Int64} (h0 : 0 ≤ b.toInt) (hle : b.toInt ≤ a.toInt) :
    (a - b).toInt = a.toInt - b.toInt := by
  have hlt := a.toInt_lt
  rw [Int64.toInt_sub, Int.bmod_eq_of_le] <;> omega

theorem toUInt64_toNat (a : Int64) : (a.toUInt64.toNat : ℤ) = a.toInt % 2 ^ 64 := by
  have hbits : a.toInt = a.toBitVec.toInt := rfl
  have hnat : a.toUInt64.toNat = a.toBitVec.toNat := rfl
  have hlt := a.toBitVec.isLt
  rw [hbits, hnat, BitVec.toInt_eq_toNat_cond]
  split_ifs <;> omega

theorem toUInt64_eq_iff (a : Int64) : (a.toUInt64.toNat : ℤ) = a.toInt ↔ 0 ≤ a.toInt := by
  have hlt := a.toInt_lt
  rw [toUInt64_toNat]
  omega

end CloudCredit.Library
