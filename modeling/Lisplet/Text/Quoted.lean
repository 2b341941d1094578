import Lisplet.Text.Graphic

/-!
# Quoted text

Text between double quotes with every character that cannot be shown replaced by
an escape: the short escapes for the usual controls, two hexadecimal digits for
the other ASCII controls, and four or eight for the rest.
-/

namespace Lisplet.Text

/-- A number in lower-case hexadecimal, with leading zeros up to the given width. -/
def hexadecimal (width n : Nat) : List Char :=
  let digits := Nat.toDigits 16 n
  List.replicate (width - digits.length) '0' ++ digits

/-- How one character appears inside quotes. -/
def escape (c : Char) : List Char :=
  if c == '"' || c == '\\' then ['\\', c]
  else if isGraphic c then [c]
  else match c.toNat with
    | 7 => ['\\', 'a']
    | 8 => ['\\', 'b']
    | 12 => ['\\', 'f']
    | 10 => ['\\', 'n']
    | 13 => ['\\', 'r']
    | 9 => ['\\', 't']
    | 11 => ['\\', 'v']
    | n =>
      if n < 32 || n == 127 then ['\\', 'x'] ++ hexadecimal 2 n
      else if n < 65536 then ['\\', 'u'] ++ hexadecimal 4 n
      else ['\\', 'U'] ++ hexadecimal 8 n

/-- The text between double quotes, escaped. -/
def quote (text : String) : String :=
  "\"" ++ String.ofList (text.toList.flatMap escape) ++ "\""

end Lisplet.Text
