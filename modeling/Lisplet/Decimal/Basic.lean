/-!
# Decimal numbers

A decimal is an integer coefficient times a power of ten. One value has many
forms, such as 1, 1.0 and 1.00; comparison and printing see only the value.
Sums, differences and products are exact. Quotients are rounded to sixteen
places, a half going away from zero.

The exponent of ten is bounded. Only a product can leave the bounds, and then it
has no result.
-/

namespace Lisplet

/-- `coefficient * 10 ^ exponent`. -/
structure Decimal where
  /-- The digits, as an integer. -/
  coefficient : Int
  /-- The power of ten. -/
  exponent : Int
  /-- The exponent is a signed number of 32 bits. -/
  bounded : -2147483648 ≤ exponent ∧ exponent ≤ 2147483647 := by decide
  deriving DecidableEq, Repr

namespace Decimal

/-- An integer as a decimal. -/
def ofInt (n : Int) : Decimal := { coefficient := n, exponent := 0 }

instance : Inhabited Decimal := ⟨ofInt 0⟩

/-- Whether the value is zero. -/
def isZero (a : Decimal) : Bool := a.coefficient == 0

/-- A power of ten. -/
def tenTo (n : Nat) : Nat := Nat.pow 10 n

/-- `coefficient * 10 ^ shift`. Zero is left alone, so that no power of ten is
computed only to be multiplied away. -/
def shifted (coefficient : Int) (shift : Nat) : Int :=
  if coefficient = 0 then 0 else coefficient * tenTo shift

theorem shifted_eq (coefficient : Int) (shift : Nat) :
    shifted coefficient shift = coefficient * tenTo shift := by
  unfold shifted
  split
  · rename_i h
    simp [h]
  · rfl

/-- The coefficient the number has at an exponent not above its own. -/
def coefficientAt (a : Decimal) (exponent : Int) : Int :=
  shifted a.coefficient (a.exponent - exponent).toNat

/-- The exact sum. -/
def add (a b : Decimal) : Decimal where
  coefficient :=
    a.coefficientAt (min a.exponent b.exponent) + b.coefficientAt (min a.exponent b.exponent)
  exponent := min a.exponent b.exponent
  bounded := by
    have ha := a.bounded
    have hb := b.bounded
    omega

/-- The exact difference. -/
def sub (a b : Decimal) : Decimal where
  coefficient :=
    a.coefficientAt (min a.exponent b.exponent) - b.coefficientAt (min a.exponent b.exponent)
  exponent := min a.exponent b.exponent
  bounded := by
    have ha := a.bounded
    have hb := b.bounded
    omega

/-- The exact product, or the exponent it would need. -/
def mul (a b : Decimal) : Except Int Decimal :=
  let exponent := a.exponent + b.exponent
  if h : -2147483648 ≤ exponent ∧ exponent ≤ 2147483647 then
    .ok { coefficient := a.coefficient * b.coefficient, exponent, bounded := h }
  else .error exponent

/-- An integer multiple. -/
def scale (a : Decimal) (k : Int) : Decimal := { a with coefficient := a.coefficient * k }

/-- `numerator / denominator` rounded to the nearest integer, a half going up. -/
def roundedQuotient (numerator denominator : Nat) : Nat :=
  (2 * numerator + denominator) / (2 * denominator)

/-- How many places a quotient is rounded to. -/
def quotientPlaces : Nat := 16

/-- The quotient rounded to sixteen places, a half going away from zero. -/
def div (a b : Decimal) : Decimal :=
  let shift := a.exponent - b.exponent + quotientPlaces
  let numerator := (shifted a.coefficient shift.toNat).natAbs
  let denominator := (shifted b.coefficient (-shift).toNat).natAbs
  let magnitude : Int := roundedQuotient numerator denominator
  { coefficient := if (a.coefficient < 0) = (b.coefficient < 0) then magnitude else -magnitude
    exponent := -quotientPlaces }

/-- The number without its fraction. -/
def truncate (a : Decimal) : Int :=
  (shifted a.coefficient a.exponent.toNat).tdiv (tenTo (-a.exponent).toNat)

/-- What is left of `a` after taking away as many `b` as the rounded quotient
says. The quotient is rounded before its fraction is dropped. -/
def mod (a b : Decimal) : Decimal := a.sub (b.scale (a.div b).truncate)

/-- The order of the two values. -/
def compare (a b : Decimal) : Ordering :=
  let exponent := min a.exponent b.exponent
  Ord.compare (a.coefficientAt exponent) (b.coefficientAt exponent)

/-- Whether the two values are equal. -/
def equal (a b : Decimal) : Bool := a.compare b == .eq

/-- Every value equals itself. -/
@[simp]
theorem equal_self (a : Decimal) : a.equal a = true := by
  simp [equal, compare]

end Decimal

end Lisplet
