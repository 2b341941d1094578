import Lisplet.Proofs.PrimitiveResults
import Mathlib.Data.Sign.Basic

/-!
# Remainders

A remainder takes the divisor away as often as the quotient says, and the quotient is
rounded to sixteen places before its fraction is dropped. If the exact quotient is just below
an integer it is rounded up to it, and the divisor is taken away once too often. Otherwise
this is the remainder of division towards zero.
-/

namespace Lisplet

open SignType (sign)

/-! ## Division towards zero -/

/-- A rational number without its fraction. -/
def integerPart (q : ℚ) : ℤ := if q < 0 then ⌈q⌉ else ⌊q⌋

/-- What is left of a number after taking away another one as often as it goes into it. -/
def truncatedRemainder (x y : ℚ) : ℚ := x - y * integerPart (x / y)

/-- The sign of a quotient. -/
def direction (x y : ℚ) : ℤ := if (x < 0) = (y < 0) then 1 else -1

/-- The size of a divisor with the sign of the dividend. -/
def signedSize (x y : ℚ) : ℚ := if x < 0 then -|y| else |y|

section

variable {x y : ℚ}

theorem direction_cases (hy : y ≠ 0) :
    (direction x y = 1 ∧ 0 ≤ x / y ∧ y = signedSize x y) ∨
      (direction x y = -1 ∧ x / y ≤ 0 ∧ -y = signedSize x y) := by
  unfold direction signedSize
  rcases lt_or_ge x 0 with hx | hx <;> rcases lt_or_gt_of_ne hy with hneg | hpos
  · simp [hx, hneg, abs_of_neg hneg, div_nonneg_of_nonpos hx.le hneg.le]
  · simp [hx, hpos.not_gt, abs_of_pos hpos, div_nonpos_of_nonpos_of_nonneg hx.le hpos.le]
  · simp [hx.not_gt, hneg, abs_of_neg hneg, div_nonpos_of_nonneg_of_nonpos hx hneg.le]
  · simp [hx.not_gt, hpos.not_gt, abs_of_pos hpos, div_nonneg hx hpos.le]

/-- Taking a number away some times, towards zero, in terms of sizes. -/
theorem sub_direction_mul (hy : y ≠ 0) (count : ℤ) :
    x - y * (direction x y * count : ℤ) = signedSize x y * (|x / y| - count) := by
  obtain ⟨hdirection, hquotient, hsize⟩ | ⟨hdirection, hquotient, hsize⟩ :=
    direction_cases (x := x) hy
  · rw [hdirection, ← hsize, abs_of_nonneg hquotient]
    push_cast
    field_simp
  · rw [hdirection, ← hsize, abs_of_nonpos hquotient]
    push_cast
    field_simp
    ring

theorem integerPart_div (hy : y ≠ 0) : integerPart (x / y) = direction x y * ⌊|x / y|⌋ := by
  unfold integerPart
  obtain ⟨hdirection, hquotient, -⟩ | ⟨hdirection, hquotient, -⟩ := direction_cases (x := x) hy
  · rw [hdirection, abs_of_nonneg hquotient, if_neg hquotient.not_gt, one_mul]
  · rw [hdirection, abs_of_nonpos hquotient, Int.floor_neg]
    rcases hquotient.lt_or_eq with hlt | heq
    · simp [hlt]
    · simp [heq]

/-- The remainder of division towards zero is a fraction of the divisor. -/
theorem truncatedRemainder_eq (hy : y ≠ 0) :
    truncatedRemainder x y = signedSize x y * Int.fract |x / y| := by
  rw [truncatedRemainder, integerPart_div hy, sub_direction_mul hy]
  rfl

theorem abs_signedSize (x y : ℚ) : |signedSize x y| = |y| := by
  unfold signedSize
  split_ifs <;> simp

theorem signedSize_eq (hx : x ≠ 0) : signedSize x y = sign x * |y| := by
  unfold signedSize
  rcases lt_or_gt_of_ne hx with hneg | hpos
  · simp [hneg]
  · simp [hpos, hpos.not_gt]

theorem sign_signedSize (hx : x ≠ 0) (hy : y ≠ 0) : sign (signedSize x y) = sign x := by
  have hsize : 0 < |y| := abs_pos.2 hy
  unfold signedSize
  rcases lt_or_gt_of_ne hx with hneg | hpos
  · rw [if_pos hneg, sign_neg hneg, sign_neg (neg_lt_zero.2 hsize)]
  · rw [if_neg hpos.not_gt, sign_pos hpos, sign_pos hsize]

/-- The remainder of division towards zero is zero or has the sign of the dividend. -/
theorem sign_truncatedRemainder (hy : y ≠ 0) :
    truncatedRemainder x y = 0 ∨ sign (truncatedRemainder x y) = sign x := by
  rw [truncatedRemainder_eq hy]
  rcases (Int.fract_nonneg |x / y|).eq_or_lt with hzero | hpos
  · exact .inl (by rw [← hzero, mul_zero])
  · have hx : x ≠ 0 := by
      rintro rfl
      simp at hpos
    right
    rw [sign_mul, sign_pos hpos, mul_one, sign_signedSize hx hy]

end

/-! ## Integers -/

theorem fract_abs_div (m n : ℤ) :
    Int.fract |(m : ℚ) / n| = ((m.natAbs % n.natAbs : ℕ) : ℚ) / n.natAbs := by
  rw [abs_div, ← Int.cast_abs, ← Int.cast_abs, ← Nat.cast_natAbs, ← Nat.cast_natAbs]
  exact Int.fract_div_natCast_eq_div_natCast_mod

theorem tmod_eq_natAbs_mod (m n : ℤ) :
    m.tmod n = if m < 0 then -((m.natAbs % n.natAbs : ℕ) : ℤ) else (m.natAbs % n.natAbs : ℕ) := by
  cases m with
  | ofNat m =>
      rw [if_neg (by simp)]
      cases n <;> rfl
  | negSucc m =>
      rw [if_pos (Int.negSucc_lt_zero m)]
      cases n <;> rfl

theorem truncatedRemainder_intCast {m n : ℤ} (hn : n ≠ 0) :
    truncatedRemainder m n = m.tmod n := by
  have hsize : (n.natAbs : ℚ) ≠ 0 := by simpa using hn
  rw [truncatedRemainder_eq (by exact_mod_cast hn), fract_abs_div, signedSize,
    ← Int.cast_abs, ← Nat.cast_natAbs, tmod_eq_natAbs_mod]
  simp only [Int.cast_lt_zero]
  split_ifs
  · rw [Int.cast_neg, Int.cast_natCast, neg_mul, mul_div_cancel₀ _ hsize]
  · rw [Int.cast_natCast, mul_div_cancel₀ _ hsize]

/-- Integers are far from the border unless the divisor is very large. -/
theorem fract_abs_div_lt {m n : ℤ} (hn : n ≠ 0) (hsize : |n| < 2 * 10 ^ 16) :
    Int.fract |(m : ℚ) / n| < 1 - 5 / 10 ^ 17 := by
  have hpos : 0 < n.natAbs := Int.natAbs_pos.2 hn
  have hmod : m.natAbs % n.natAbs + 1 ≤ n.natAbs := Nat.mod_lt _ hpos
  have hnat : n.natAbs < 2 * 10 ^ 16 := by
    rw [Int.abs_eq_natAbs] at hsize
    exact_mod_cast hsize
  have hpos' : (0 : ℚ) < n.natAbs := by exact_mod_cast hpos
  have hmod' : ((m.natAbs % n.natAbs : ℕ) : ℚ) + 1 ≤ n.natAbs := by exact_mod_cast hmod
  have hnat' : (n.natAbs : ℚ) < 2 * 10 ^ 16 := by exact_mod_cast hnat
  rw [fract_abs_div, div_lt_iff₀ hpos']
  linarith

/-! ## The rounded quotient -/

namespace Decimal

/-- Rounding a number at the last place of a quotient, before the fraction is dropped. -/
theorem round_ediv (q : ℚ) :
    round (q * 10 ^ quotientPlaces) / 10 ^ quotientPlaces = ⌊q + 5 / 10 ^ 17⌋ := by
  have hplaces : (10 : ℤ) ^ quotientPlaces = ((10 ^ quotientPlaces : ℕ) : ℤ) := by
    push_cast
    rfl
  rw [round_eq, hplaces, ← Int.floor_div_natCast]
  congr 1
  rw [quotientPlaces]
  push_cast
  ring

theorem truncate_div (a b : Decimal) (hb : b.value ≠ 0) :
    (a.div b).truncate = direction a.value b.value * ⌊|a.value / b.value| + 5 / 10 ^ 17⌋ := by
  have htruncate : (a.div b).truncate = (a.div b).coefficient.tdiv (10 ^ quotientPlaces) := by
    rw [truncate, shifted_eq]
    simp [div, tenTo_eq, quotientPlaces]
  have hnonneg : 0 ≤ round (|a.value / b.value| * 10 ^ quotientPlaces) := by
    rw [round_eq]
    positivity
  rw [htruncate, div_coefficient a b hb, ← round_ediv, direction]
  split_ifs
  · rw [Int.tdiv_eq_ediv_of_nonneg hnonneg, one_mul]
  · rw [Int.neg_tdiv, Int.tdiv_eq_ediv_of_nonneg hnonneg, neg_one_mul]

/-- The value of a remainder: the divisor is taken away as often as the rounded quotient says. -/
theorem value_mod_eq (a b : Decimal) (hb : b.value ≠ 0) :
    (a.mod b).value = signedSize a.value b.value *
      (|a.value / b.value| - ⌊|a.value / b.value| + 5 / 10 ^ 17⌋) := by
  rw [value_mod, truncate_div a b hb, sub_direction_mul hb]

theorem floor_add_of_lt {q : ℚ} (hfract : Int.fract q < 1 - 5 / 10 ^ 17) :
    ⌊q + 5 / 10 ^ 17⌋ = ⌊q⌋ := by
  have hsplit := Int.floor_add_fract q
  have hnonneg := Int.fract_nonneg q
  rw [Int.floor_eq_iff]
  constructor <;> linarith

theorem floor_add_of_le {q : ℚ} (hfract : 1 - 5 / 10 ^ 17 ≤ Int.fract q) :
    ⌊q + 5 / 10 ^ 17⌋ = ⌊q⌋ + 1 := by
  have hsplit := Int.floor_add_fract q
  have hlt := Int.fract_lt_one q
  rw [Int.floor_eq_iff]
  push_cast
  constructor <;> linarith

section

variable {a b : Decimal}

/-- Below the border, the remainder is that of division towards zero. -/
theorem value_mod_of_lt (hb : b.value ≠ 0)
    (hfract : Int.fract |a.value / b.value| < 1 - 5 / 10 ^ 17) :
    (a.mod b).value = truncatedRemainder a.value b.value := by
  rw [value_mod_eq a b hb, floor_add_of_lt hfract, truncatedRemainder_eq hb]
  rfl

/-- From the border on, the divisor is taken away once more. -/
theorem value_mod_of_le (hb : b.value ≠ 0)
    (hfract : 1 - 5 / 10 ^ 17 ≤ Int.fract |a.value / b.value|) :
    (a.mod b).value = signedSize a.value b.value * (Int.fract |a.value / b.value| - 1) := by
  rw [value_mod_eq a b hb, floor_add_of_le hfract, Int.fract]
  push_cast
  ring

theorem abs_value_mod_of_le (hb : b.value ≠ 0)
    (hfract : 1 - 5 / 10 ^ 17 ≤ Int.fract |a.value / b.value|) :
    |(a.mod b).value| = |b.value| * (1 - Int.fract |a.value / b.value|) := by
  have hnegative : Int.fract |a.value / b.value| - 1 < 0 := sub_neg.2 (Int.fract_lt_one _)
  rw [value_mod_of_le hb hfract, abs_mul, abs_signedSize, abs_of_neg hnegative, neg_sub]

/-- A remainder is smaller than the divisor. -/
theorem abs_value_mod_lt (hb : b.value ≠ 0) : |(a.mod b).value| < |b.value| := by
  have hsize : 0 < |b.value| := abs_pos.2 hb
  have hnonneg := Int.fract_nonneg |a.value / b.value|
  rcases lt_or_ge (Int.fract |a.value / b.value|) (1 - 5 / 10 ^ 17) with hlt | hle
  · rw [value_mod_of_lt hb hlt, truncatedRemainder_eq hb, abs_mul, abs_signedSize,
      abs_of_nonneg hnonneg]
    exact mul_lt_of_lt_one_right hsize (Int.fract_lt_one _)
  · rw [abs_value_mod_of_le hb hle]
    exact mul_lt_of_lt_one_right hsize (by linarith)

/-- From the border on, the remainder is small and on the other side of zero. -/
theorem value_mod_overshoot (hb : b.value ≠ 0)
    (hfract : 1 - 5 / 10 ^ 17 ≤ Int.fract |a.value / b.value|) :
    (a.mod b).value = truncatedRemainder a.value b.value - sign a.value * |b.value| ∧
      (a.mod b).value ≠ 0 ∧ sign (a.mod b).value = -sign a.value ∧
      |(a.mod b).value| ≤ 5 / 10 ^ 17 * |b.value| := by
  have hsize : 0 < |b.value| := abs_pos.2 hb
  have hnegative : Int.fract |a.value / b.value| - 1 < 0 := sub_neg.2 (Int.fract_lt_one _)
  have ha : a.value ≠ 0 := by
    intro hzero
    rw [hzero] at hfract
    norm_num at hfract
  refine ⟨?_, ?_, ?_, ?_⟩
  · rw [value_mod_of_le hb hfract, truncatedRemainder_eq hb, ← signedSize_eq ha]
    ring
  · rw [← abs_pos, abs_value_mod_of_le hb hfract]
    exact mul_pos hsize (by linarith)
  · rw [value_mod_of_le hb hfract, sign_mul, sign_signedSize ha hb, sign_neg hnegative]
    simp
  · rw [abs_value_mod_of_le hb hfract, mul_comm]
    exact mul_le_mul_of_nonneg_right (by linarith) hsize.le

theorem value_mod_eq_truncatedRemainder_iff (hb : b.value ≠ 0) :
    (a.mod b).value = truncatedRemainder a.value b.value ↔
      Int.fract |a.value / b.value| < 1 - 5 / 10 ^ 17 := by
  refine ⟨fun heq => ?_, value_mod_of_lt hb⟩
  by_contra hfract
  -- the two remainders would be on different sides of zero
  obtain ⟨-, hne, hsign, -⟩ := value_mod_overshoot hb (not_lt.1 hfract)
  rw [heq] at hne hsign
  have hsame := (sign_truncatedRemainder hb).resolve_left hne
  rw [← hsame, SignType.self_eq_neg_iff, sign_eq_zero_iff] at hsign
  exact hne hsign

end

end Decimal

/-- The remainder of two numbers, the divisor not being zero, in full. With `f` the fraction of
the size of the exact quotient, it is that of division towards zero below the border for `f`,
and from there on it is too far by one divisor. Integers stay below the border. -/
theorem remainder_exact (s t : Option Token) {a b : Decimal} (hb : b.value ≠ 0) :
    ∃ r : Decimal,
      (Builtin.arithmetic .remainder).Gives [.atom s (.number a), .atom t (.number b)]
        (.number r) ∧
      let x := a.value
      let y := b.value
      let f := Int.fract |x / y|
      (∃ k : ℤ, r.value = x - k * y) ∧ |r.value| < |y| ∧
      (r.value = truncatedRemainder x y ↔ f < 1 - 5 / 10 ^ 17) ∧
      (truncatedRemainder x y = 0 ∨ sign (truncatedRemainder x y) = sign x) ∧
      (1 - 5 / 10 ^ 17 ≤ f →
        r.value = truncatedRemainder x y - sign x * |y| ∧ r.value ≠ 0 ∧
          sign r.value = -sign x ∧ |r.value| ≤ 5 / 10 ^ 17 * |y|) ∧
      ∀ m n : ℤ, x = m → y = n → |n| < 2 * 10 ^ 16 → r.value = m.tmod n := by
  have hcompute : Arithmetic.remainder.compute a b = .ok (a.mod b) := by
    rw [Arithmetic.compute, if_neg (by simpa using hb)]
  refine ⟨a.mod b, Builtin.arithmetic_gives_numbers s t hcompute, ⟨(a.div b).truncate, ?_⟩,
    Decimal.abs_value_mod_lt hb, Decimal.value_mod_eq_truncatedRemainder_iff hb,
    sign_truncatedRemainder hb, Decimal.value_mod_overshoot hb, fun m n ha hn hsize => ?_⟩
  · rw [Decimal.value_mod, mul_comm]
  · have hne : n ≠ 0 := by
      rintro rfl
      exact hb (by simpa using hn)
    have hfract := fract_abs_div_lt (m := m) hne hsize
    rw [← ha, ← hn] at hfract
    rw [Decimal.value_mod_of_lt hb hfract, ha, hn, truncatedRemainder_intCast hne]

/-- The number 2.99999999999999999, which has one place more than a quotient. -/
def Decimal.nearlyThree : Decimal := ⟨299999999999999999, -17, by decide⟩

/-- Divided by 3, it leaves a negative remainder; 10 divided by 4 leaves 2. -/
theorem nearlyThree_remainder :
    (∃ r : Decimal,
      (Builtin.arithmetic .remainder).Gives [.number .nearlyThree, .number (.ofInt 3)]
        (.number r) ∧ sign r.value = -1) ∧
    ∃ r : Decimal,
      (Builtin.arithmetic .remainder).Gives [.number (.ofInt 10), .number (.ofInt 4)]
        (.number r) ∧ r.value = 2 := by
  have hvalue (n : ℤ) : (Decimal.ofInt n).value = n := by simp [Decimal.value, Decimal.ofInt]
  have hnearly : Decimal.nearlyThree.value = 299999999999999999 / 10 ^ 17 := by
    norm_num [Decimal.value, Decimal.nearlyThree]
  constructor
  · obtain ⟨r, hgives, -, -, -, -, hmoved, -⟩ :=
      remainder_exact none none (a := .nearlyThree) (b := .ofInt 3) (by norm_num [hvalue])
    have hquotient : |Decimal.nearlyThree.value / (Decimal.ofInt 3).value| =
        299999999999999999 / (3 * 10 ^ 17) := by
      rw [hnearly, hvalue]
      norm_num
    have hfract : 1 - 5 / 10 ^ 17 ≤
        Int.fract |Decimal.nearlyThree.value / (Decimal.ofInt 3).value| := by
      rw [hquotient, Int.fract_eq_self.2 (by norm_num)]
      norm_num
    obtain ⟨-, -, hsign, -⟩ := hmoved hfract
    refine ⟨r, hgives, ?_⟩
    rw [hsign, hnearly]
    norm_num
  · obtain ⟨r, hgives, -, -, -, -, -, hinteger⟩ :=
      remainder_exact none none (a := .ofInt 10) (b := .ofInt 4) (by norm_num [hvalue])
    refine ⟨r, hgives, ?_⟩
    rw [hinteger 10 4 (hvalue 10) (hvalue 4) (by norm_num)]
    rfl

end Lisplet
