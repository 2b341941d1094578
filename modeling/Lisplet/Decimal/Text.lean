import Lisplet.Decimal.Basic

/-!
# The text of decimal numbers

A number is written in plain notation: a sign if it is negative, the digits of
its whole part, and a point with the digits of its fraction up to the last that
is not zero. More texts can be read than are written: a plus sign, an exponent
after `e` or `E`, and a point at either end are allowed as well.
-/

namespace Lisplet.Decimal

/-- The decimal digits of a number. -/
def digits (n : Nat) : List Char := Nat.toDigits 10 n

/-- The decimal digits of a number, with leading zeros up to the given width. -/
def paddedDigits (width n : Nat) : List Char :=
  List.replicate (width - (digits n).length) '0' ++ digits n

/-- The characters up to the last that is not a zero digit. -/
def dropTrailingZeros (text : List Char) : List Char :=
  (text.reverse.dropWhile (· == '0')).reverse

/-- A number in plain notation, as characters. -/
def chars (a : Decimal) : List Char :=
  let places := (-a.exponent).toNat
  let magnitude := (shifted a.coefficient a.exponent.toNat).natAbs
  let whole := digits (magnitude / tenTo places)
  let fraction := dropTrailingZeros (paddedDigits places (magnitude % tenTo places))
  (if a.coefficient < 0 then ['-'] else []) ++ whole ++
    (if fraction.isEmpty then [] else '.' :: fraction)

/-- A number in plain notation. -/
def text (a : Decimal) : String := String.ofList a.chars

/-- The value of a sequence of decimal digits. -/
def digitsValue (text : List Char) : Nat := Nat.ofDigitChars 10 text 0

/-- The value of one or more decimal digits, and of nothing else. -/
def natural? (text : List Char) : Option Nat :=
  if text.isEmpty || !text.all Char.isDigit then none else some (digitsValue text)

/-- The value of one or more decimal digits after an optional sign. -/
def integer? : List Char → Option Int
  | '-' :: text => (natural? text).map fun n => -(n : Int)
  | '+' :: text => (natural? text).map fun n => (n : Int)
  | text => (natural? text).map fun n => (n : Int)

/-- A decimal with the given exponent, if the exponent is within bounds. -/
def ofParts? (coefficient exponent : Int) : Option Decimal :=
  if h : -2147483648 ≤ exponent ∧ exponent ≤ 2147483647 then
    some { coefficient, exponent, bounded := h }
  else none

/-- A character that announces an exponent. -/
def isExponentMark (c : Char) : Bool := c == 'e' || c == 'E'

/-- The exponent a text ends in, given from its mark on. It has to be within
bounds by itself. -/
def exponent? : List Char → Option Int
  | [] => some 0
  | _ :: text => (integer? text).bind fun n => (ofParts? 0 n).map (·.exponent)

/-- The coefficient of a text without exponent, and how many places it has after
the point. There is at most one point, and it counts for nothing else. -/
def coefficient? (text : List Char) : Option (Int × Nat) :=
  let whole := text.takeWhile (· != '.')
  match text.dropWhile (· != '.') with
  | [] => (integer? whole).map fun n => (n, 0)
  | _ :: fraction =>
    if fraction.contains '.' then none
    else (integer? (whole ++ fraction)).map fun n => (n, fraction.length)

/-- Read a number. -/
def ofChars? (text : List Char) : Option Decimal := do
  let exponent ← exponent? (text.dropWhile (!isExponentMark ·))
  let (coefficient, places) ← coefficient? (text.takeWhile (!isExponentMark ·))
  ofParts? coefficient (exponent - places)

/-- Read a number. -/
def ofText? (text : String) : Option Decimal := ofChars? text.toList

end Lisplet.Decimal
