import Lisplet.Text.CharRange

/-!
# Blank characters

The characters that separate lexemes: those with the Unicode property
`White_Space`. The newline is one of them; only positions treat it specially.
-/

namespace Lisplet.Text

/-- The code points with the property `White_Space`. -/
def blankRanges : List CharRange := [
  ⟨0x9, 0xD⟩, ⟨0x20, 0x20⟩, ⟨0x85, 0x85⟩, ⟨0xA0, 0xA0⟩, ⟨0x1680, 0x1680⟩, ⟨0x2000, 0x200A⟩,
  ⟨0x2028, 0x2029⟩, ⟨0x202F, 0x202F⟩, ⟨0x205F, 0x205F⟩, ⟨0x3000, 0x3000⟩]

/-- A character that separates lexemes and belongs to none, except inside quotes. -/
def isBlank (c : Char) : Bool :=
  blankRanges.any (·.holds c)

end Lisplet.Text
