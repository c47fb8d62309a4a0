import Assay.Data.Order
import Mathlib.Algebra.Order.Field.Power
import Mathlib.Tactic.Ring
import Mathlib.Data.Rat.Cast.Order

/-! # Places on the number line

Places are compared by exact value: those of two finite numbers as the rational
numbers that they stand for, and so those of whole numbers as the whole numbers.
-/

namespace Assay

namespace Extent

theorem cast_twoTo (n : Nat) : (twoTo n : ℚ) = 2 ^ n := Nat.cast_pow 2 n

theorem mul_twoTo (m : Int) {e low : Int} (h : low ≤ e) :
    ((m * twoTo (e - low).toNat : Int) : ℚ) * 2 ^ low = m * 2 ^ e := by
  have hpow : (twoTo (e - low).toNat : ℚ) = 2 ^ (e - low) := by
    rw [cast_twoTo, ← zpow_natCast, Int.toNat_of_nonneg (Int.sub_nonneg_of_le h)]
  push_cast
  rw [hpow, mul_assoc, ← zpow_add₀ two_ne_zero, Int.sub_add_cancel]

theorem aligned_eq (m e m' e' : Int) : ∃ low : Int,
    ((aligned m e m' e').1 : ℚ) * 2 ^ low = m * 2 ^ e ∧
      ((aligned m e m' e').2 : ℚ) * 2 ^ low = m' * 2 ^ e' :=
  ⟨min e e', mul_twoTo m (min_le_left e e'), mul_twoTo m' (min_le_right e e')⟩

theorem lt_at (m e m' e' : Int) :
    (Extent.at m e).lt (.at m' e') = decide ((m : ℚ) * 2 ^ e < m' * 2 ^ e') := by
  obtain ⟨low, hm, hm'⟩ := aligned_eq m e m' e'
  have hpow : (0 : ℚ) < 2 ^ low := zpow_pos two_pos low
  rw [← hm, ← hm', lt, decide_eq_decide, mul_lt_mul_iff_left₀ hpow, Int.cast_lt]

theorem eq_at (m e m' e' : Int) :
    (Extent.at m e).eq (.at m' e') = decide ((m : ℚ) * 2 ^ e = m' * 2 ^ e') := by
  obtain ⟨low, hm, hm'⟩ := aligned_eq m e m' e'
  have hpow : (2 : ℚ) ^ low ≠ 0 := zpow_ne_zero low two_ne_zero
  have heq : (Extent.at m e).eq (.at m' e') =
      ((aligned m e m' e').1 == (aligned m e m' e').2) := rfl
  rw [← hm, ← hm', heq, Bool.beq_eq_decide_eq, decide_eq_decide, mul_left_inj' hpow, Int.cast_inj]

theorem le_at (m e m' e' : Int) :
    (Extent.at m e).le (.at m' e') = decide ((m : ℚ) * 2 ^ e ≤ m' * 2 ^ e') := by
  rw [le, lt_at, eq_at, ← Bool.decide_or, decide_eq_decide, le_iff_lt_or_eq]

theorem lt_ofInt (m n : Int) : (ofInt m).lt (.ofInt n) = decide (m < n) := by
  rw [ofInt, ofInt, lt_at, decide_eq_decide, zpow_zero, mul_one, mul_one, Int.cast_lt]

end Extent

theorem Data.compare_less_int (m n : Int) :
    (Data.int m).compare .less (.int n) = .ok (decide (m < n)) :=
  congrArg Except.ok (Extent.lt_ofInt m n)

end Assay
