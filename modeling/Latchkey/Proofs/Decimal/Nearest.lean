/-
Rounding to whole numbers, said on the rational numbers for which magnitudes stand: the
nearest whole number, and of two that are equally near the greater.
-/

import Mathlib.Algebra.Order.Field.Basic
import Mathlib.Data.Rat.Cast.Order
import Mathlib.Tactic.FieldSimp
import Mathlib.Tactic.Linarith
import Latchkey.Decimal.Binary64

namespace Latchkey.Decimal.Binary64

def toRat (number : Binary64) : ℚ := number.significand * 2 ^ number.exponent

theorem fraction_pos (number : Binary64) : 0 < number.fraction.2 := by
  unfold fraction
  split
  · exact Nat.one_pos
  · exact Nat.pow_pos (by decide)

theorem toRat_eq_fraction (number : Binary64) :
    number.toRat = number.fraction.1 / number.fraction.2 := by
  unfold toRat fraction
  split
  case isTrue positive =>
    obtain ⟨places, same⟩ := Int.eq_ofNat_of_zero_le positive
    rw [same]
    simp
  case isFalse negative =>
    obtain ⟨places, same⟩ := Int.eq_ofNat_of_zero_le (show 0 ≤ -number.exponent by omega)
    have exponent : number.exponent = -(places : Int) := by omega
    rw [exponent]
    simp [zpow_neg, div_eq_mul_inv]

theorem isZero_iff {number : Binary64} : number.isZero = true ↔ number.toRat = 0 := by
  have power : (2 : ℚ) ^ number.exponent ≠ 0 := zpow_ne_zero _ (by norm_num)
  simp [isZero, toRat, power]

theorem round_eq_iff {number : Binary64} {whole : Nat} :
    number.round = whole ↔
      number.toRat - 1 / 2 < whole ∧ (whole : ℚ) ≤ number.toRat + 1 / 2 := by
  rw [toRat_eq_fraction]
  have positive := number.fraction_pos
  have rounded : number.round =
      (2 * number.fraction.1 + number.fraction.2) / (2 * number.fraction.2) := rfl
  rw [rounded]
  generalize number.fraction.1 = top
  generalize number.fraction.2 = bottom at positive ⊢
  have quotient : (2 * top + bottom) / (2 * bottom) = whole ↔
      whole * (2 * bottom) ≤ 2 * top + bottom ∧
        2 * top + bottom < whole * (2 * bottom) + 2 * bottom := by
    rw [Nat.div_eq_iff (by omega)]
    omega
  have positiveRat : (0 : ℚ) < 2 * bottom := by
    have bound : (0 : ℚ) < bottom := Nat.cast_pos.mpr positive
    linarith
  have middle : (top : ℚ) / bottom + 1 / 2 = (2 * top + bottom) / (2 * bottom) := by
    field_simp
  have lower : (whole : ℚ) ≤ top / bottom + 1 / 2 ↔
      whole * (2 * bottom) ≤ 2 * top + bottom := by
    rw [middle, le_div_iff₀ positiveRat]
    norm_cast
  have upper : (top : ℚ) / bottom - 1 / 2 < whole ↔
      2 * top + bottom < whole * (2 * bottom) + 2 * bottom := by
    have shifted : (top : ℚ) / bottom - 1 / 2 < whole ↔
        (2 * top + bottom : ℚ) / (2 * bottom) < whole + 1 := by
      rw [← middle]
      constructor <;> intro <;> linarith
    rw [shifted, div_lt_iff₀ positiveRat, add_one_mul]
    norm_cast
  rw [quotient, upper, lower, and_comm]

end Latchkey.Decimal.Binary64
