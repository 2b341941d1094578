/-!
# Ranges of characters

Character classes are given as lists of inclusive ranges of code points, so that
a class is data that can be compared with another class range by range.
-/

namespace Lisplet.Text

/-- The code points from `first` to `last`, both included. -/
structure CharRange where
  /-- The least code point of the range. -/
  first : Nat
  /-- The greatest code point of the range. -/
  last : Nat
  deriving DecidableEq, Repr

/-- Whether a character lies in the range. -/
def CharRange.holds (range : CharRange) (c : Char) : Bool :=
  range.first ≤ c.toNat && c.toNat ≤ range.last

end Lisplet.Text
