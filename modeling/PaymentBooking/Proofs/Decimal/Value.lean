import Mathlib.Tactic
import PaymentBooking.Money

/-! # The value of a decimal

The exact value is a rational number; signs, order and sums of decimals are those of their values.
-/

namespace PaymentBooking.Decimal

theorem pow_ten_pos (n : ℕ) : (0 : ℚ) < 10 ^ n := by positivity

theorem toRat_negate (d : Decimal) : d.negate.toRat = -d.toRat := by
  have hscale : d.negate.scale = d.scale := rfl
  rw [toRat, toRat, coefficient_negate, hscale]
  push_cast
  ring

theorem isPositive_iff (d : Decimal) : d.isPositive ↔ 0 < d.toRat := by
  rw [isPositive, decide_eq_true_iff, toRat, div_pos_iff_of_pos_right (pow_ten_pos d.scale)]
  exact Int.cast_pos.symm

theorem isZero_iff_toRat (d : Decimal) : d.isZero ↔ d.toRat = 0 := by
  rw [isZero_iff, toRat, div_eq_zero_iff]
  simp

theorem isLess_iff (a b : Decimal) : a.isLess b ↔ a.toRat < b.toRat := by
  rw [isLess, decide_eq_true_iff, toRat, toRat, div_lt_div_iff₀ (pow_ten_pos _) (pow_ten_pos _)]
  exact_mod_cast Iff.rfl

/-- Digits added to the scale do not change the value. -/
theorem coefficientAt_div (d : Decimal) {scale : ℕ} (h : d.scale ≤ scale) :
    (d.coefficientAt scale : ℚ) / 10 ^ scale = d.toRat := by
  have hsplit : (10 : ℚ) ^ scale = 10 ^ (scale - d.scale) * 10 ^ d.scale := by
    rw [← pow_add, Nat.sub_add_cancel h]
  rw [coefficientAt, toRat, hsplit]
  push_cast
  field_simp

theorem exactSum_div (a b : Decimal) :
    ((exactSum a b).1 : ℚ) / 10 ^ (exactSum a b).2 = a.toRat + b.toRat := by
  simp only [exactSum]
  push_cast
  rw [add_div, coefficientAt_div a (le_max_left _ _), coefficientAt_div b (le_max_right _ _)]

theorem exactSum_scale_le (a b : Decimal) : (exactSum a b).2 ≤ 28 := max_le a.scale_le b.scale_le

theorem abs_toRat (d : Decimal) : |d.toRat| = d.magnitude / 10 ^ d.scale := by
  rw [toRat, abs_div, abs_of_pos (pow_ten_pos d.scale), ← natAbs_coefficient, Nat.cast_natAbs]
  push_cast
  rfl

end PaymentBooking.Decimal
