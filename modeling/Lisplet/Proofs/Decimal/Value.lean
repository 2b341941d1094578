import Lisplet.Decimal.Basic
import Mathlib.Algebra.Order.Round
import Mathlib.Data.Rat.Floor
import Mathlib.Tactic.FieldSimp
import Mathlib.Tactic.Linarith
import Mathlib.Tactic.Positivity
import Mathlib.Tactic.Ring

/-!
# The value of decimal numbers

Every decimal stands for a rational number, and one rational number may have many
decimals. Sums, differences and products are those of the rational numbers;
comparison is their order. Quotients and remainders are rounded, but what they
give still depends on the rational numbers alone.
-/

namespace Lisplet.Decimal

/-- The rational number a decimal stands for. -/
def value (a : Decimal) : ℚ := a.coefficient * (10 : ℚ) ^ a.exponent

theorem tenTo_eq (n : Nat) : tenTo n = 10 ^ n := rfl

theorem shifted_cast (coefficient : Int) (shift : Nat) :
    (shifted coefficient shift : ℚ) = coefficient * 10 ^ shift := by
  rw [shifted_eq, tenTo_eq]
  push_cast
  ring

/-- A power of ten with an integer exponent, from the two natural numbers a
decimal is computed with. -/
theorem zpow_eq_div (n : Int) : (10 : ℚ) ^ n = 10 ^ n.toNat / 10 ^ (-n).toNat := by
  rcases Int.le_total 0 n with hn | hn
  · rw [Int.toNat_of_nonpos (by omega : -n ≤ 0), pow_zero, div_one]
    nth_rewrite 1 [← Int.toNat_of_nonneg hn]
    exact zpow_natCast 10 n.toNat
  · rw [Int.toNat_of_nonpos hn, pow_zero, one_div, ← zpow_natCast, Int.toNat_of_nonneg (by omega)]
    rw [zpow_neg, inv_inv]

/-- A coefficient at a smaller exponent stands for the same number. -/
theorem coefficientAt_mul (a : Decimal) {exponent : Int} (hle : exponent ≤ a.exponent) :
    (a.coefficientAt exponent : ℚ) * 10 ^ exponent = a.value := by
  rw [coefficientAt, shifted_cast, value, mul_assoc]
  congr 1
  rw [← zpow_natCast, Int.toNat_of_nonneg (by omega), ← zpow_add₀ (by norm_num)]
  congr 1
  omega

@[simp]
theorem value_add (a b : Decimal) : (a.add b).value = a.value + b.value := by
  rw [← a.coefficientAt_mul (min_le_left a.exponent b.exponent),
    ← b.coefficientAt_mul (min_le_right a.exponent b.exponent)]
  simp only [value, add]
  push_cast
  ring

@[simp]
theorem value_sub (a b : Decimal) : (a.sub b).value = a.value - b.value := by
  rw [← a.coefficientAt_mul (min_le_left a.exponent b.exponent),
    ← b.coefficientAt_mul (min_le_right a.exponent b.exponent)]
  simp only [value, sub]
  push_cast
  ring

theorem value_of_mul_eq_ok {a b c : Decimal} (hmul : a.mul b = .ok c) :
    c.value = a.value * b.value := by
  simp only [mul] at hmul
  split at hmul
  next hbounded =>
    cases hmul
    simp only [value]
    push_cast
    rw [zpow_add₀ (by norm_num)]
    ring
  next => cases hmul

@[simp]
theorem value_scale (a : Decimal) (k : Int) : (a.scale k).value = a.value * k := by
  simp only [value, scale]
  push_cast
  ring

theorem value_eq_zero_iff (a : Decimal) : a.value = 0 ↔ a.coefficient = 0 := by
  simp [value, zpow_ne_zero]

theorem value_neg_iff (a : Decimal) : a.value < 0 ↔ a.coefficient < 0 := by
  have hpos : (0 : ℚ) < 10 ^ a.exponent := zpow_pos (by norm_num) _
  simp only [value, mul_neg_iff, hpos, hpos.not_gt, and_false, and_true, false_or]
  exact_mod_cast Iff.rfl

@[simp]
theorem isZero_iff (a : Decimal) : a.isZero = true ↔ a.value = 0 := by
  simp [isZero, value_eq_zero_iff]

/-- Comparison of decimals is the order of their values. -/
theorem compare_eq_cmp (a b : Decimal) : a.compare b = cmp a.value b.value := by
  have hpos : (0 : ℚ) < 10 ^ min a.exponent b.exponent := zpow_pos (by norm_num) _
  rw [← a.coefficientAt_mul (min_le_left a.exponent b.exponent),
    ← b.coefficientAt_mul (min_le_right a.exponent b.exponent), cmp_mul_pos_right hpos,
    (Int.cast_strictMono (R := ℚ)).cmp_map_eq, cmp_eq_compare]
  rfl

/-- Two decimals are equal when they stand for one number. -/
theorem equal_iff (a b : Decimal) : a.equal b = true ↔ a.value = b.value := by
  rw [equal, compare_eq_cmp, beq_iff_eq, cmp_eq_eq_iff]

/-- Rounding a quotient of natural numbers is rounding the rational quotient. -/
theorem roundedQuotient_eq_round (n d : Nat) (hd : 0 < d) :
    (roundedQuotient n d : Int) = round ((n : ℚ) / d) := by
  have hquotient : (n : ℚ) / d + 1 / 2 = ((2 * n + d : Nat) : ℚ) / ((2 * d : Nat) : ℚ) := by
    push_cast
    field_simp
  rw [round_eq, hquotient, Rat.floor_natCast_div_natCast, roundedQuotient]
  push_cast
  rfl

/-- The size of the coefficient of a quotient, before it gets its sign. -/
theorem quotient_magnitude (a b : Decimal) (hb : b.value ≠ 0) :
    (roundedQuotient
        (shifted a.coefficient (a.exponent - b.exponent + quotientPlaces).toNat).natAbs
        (shifted b.coefficient (-(a.exponent - b.exponent + quotientPlaces)).toNat).natAbs : Int) =
      round (|a.value / b.value| * 10 ^ quotientPlaces) := by
  have hcoefficient : b.coefficient ≠ 0 := fun h => hb ((value_eq_zero_iff b).2 h)
  have hdenominator :
      0 < (shifted b.coefficient (-(a.exponent - b.exponent + quotientPlaces)).toNat).natAbs := by
    rw [shifted_eq, tenTo_eq]
    exact Int.natAbs_pos.2 (mul_ne_zero hcoefficient (by positivity))
  rw [roundedQuotient_eq_round _ _ hdenominator]
  -- both sides round one number: the shift goes into the numerator or the denominator
  congr 1
  rw [Nat.cast_natAbs, Nat.cast_natAbs, Int.cast_abs, Int.cast_abs, shifted_cast, shifted_cast,
    ← abs_div, value, value]
  have hplaces : (0 : ℚ) ≤ 10 ^ quotientPlaces := by positivity
  rw [← abs_of_nonneg hplaces, ← abs_mul]
  congr 1
  have hscale : (10 : ℚ) ^ (a.exponent - b.exponent + quotientPlaces) =
      10 ^ a.exponent / 10 ^ b.exponent * 10 ^ quotientPlaces := by
    rw [zpow_add₀ (by norm_num), zpow_sub₀ (by norm_num), zpow_natCast]
  rw [zpow_eq_div] at hscale
  calc (a.coefficient : ℚ) * 10 ^ (a.exponent - b.exponent + quotientPlaces).toNat /
        (b.coefficient * 10 ^ (-(a.exponent - b.exponent + quotientPlaces)).toNat)
      = a.coefficient / b.coefficient *
        (10 ^ (a.exponent - b.exponent + quotientPlaces).toNat /
          10 ^ (-(a.exponent - b.exponent + quotientPlaces)).toNat) := by
        rw [div_mul_div_comm]
    _ = a.coefficient / b.coefficient *
        (10 ^ a.exponent / 10 ^ b.exponent * 10 ^ quotientPlaces) := by rw [hscale]
    _ = a.coefficient * 10 ^ a.exponent / (b.coefficient * 10 ^ b.exponent) *
        10 ^ quotientPlaces := by rw [← mul_assoc, div_mul_div_comm]

/-- The coefficient of a quotient is the rational quotient, rounded at the last
place with a half going away from zero. -/
theorem div_coefficient (a b : Decimal) (hb : b.value ≠ 0) :
    (a.div b).coefficient =
      if (a.value < 0) = (b.value < 0) then round (|a.value / b.value| * 10 ^ quotientPlaces)
      else -round (|a.value / b.value| * 10 ^ quotientPlaces) := by
  rw [← quotient_magnitude a b hb]
  simp only [div, value_neg_iff]

/-- A quotient depends on the values of its operands only. -/
theorem div_congr {a b c d : Decimal} (hac : a.value = c.value) (hbd : b.value = d.value)
    (hb : b.value ≠ 0) : a.div b = c.div d := by
  have hcoefficient : (a.div b).coefficient = (c.div d).coefficient := by
    rw [div_coefficient a b hb, div_coefficient c d (hbd ▸ hb), hac, hbd]
  simp only [div] at hcoefficient ⊢
  simp only [hcoefficient]

/-- The remainder in terms of the rounded quotient. -/
theorem value_mod (a b : Decimal) :
    (a.mod b).value = a.value - b.value * (a.div b).truncate := by
  rw [mod, value_sub, value_scale]

end Lisplet.Decimal
