/-!
# Source text

A source is a sequence of bytes, and perhaps a failure that strikes when more is
asked for than those bytes. It is delivered as characters decoded from UTF-8. A
zero character, a byte that starts no character, and the failure are defects.
Delivery goes on after a defect, with U+FFFD in the place of a bad byte, and the
first defect is remembered with the index of the character it was noticed at.
-/

namespace Lisplet

/-- What can be wrong with a source. -/
inductive Defect where
  /-- The character zero occurs. -/
  | nul
  /-- A byte starts no character. -/
  | malformed
  /-- The bytes could not be read to their end, for the given reason. -/
  | unreadable (reason : String)
  deriving DecidableEq, Repr

/-- The wording of a defect. -/
def Defect.message : Defect → String
  | .nul => "tokenizing error: invalid character NUL"
  | .malformed => "tokenizing error: invalid UTF-8 encoding"
  | .unreadable reason => "tokenizing error: " ++ reason

/-- Bytes, followed by the end of the source or by a failure to read on. -/
structure Source where
  /-- The bytes that can be read. -/
  bytes : List UInt8
  /-- Why reading past the bytes fails, if it does. -/
  failure : Option String := none
  deriving DecidableEq, Repr

namespace Source

/-- A text as a source: its UTF-8 form, without failure. -/
def ofString (text : String) : Source := { bytes := text.toUTF8.data.toList }

/-- A source of which only the first bytes can be read. -/
def cut (bytes : List UInt8) (count : Nat) (reason : String) : Source :=
  { bytes := bytes.take count, failure := some reason }

/-- A character as it is delivered, with the defect noticed at it. -/
structure Arrival where
  /-- The character delivered. -/
  char : Char
  /-- What is wrong at this place, if anything. -/
  defect : Option Defect
  deriving DecidableEq, Repr

/-- The character delivered in the place of a byte that starts none. -/
def replacement : Char := '\uFFFD'

/-- The mark that may stand before a text to announce its encoding. -/
def byteOrderMark : Char := '\uFEFF'

/-- The character that starts the bytes, if one does. -/
def leading? (bytes : List UInt8) : Option Char :=
  (bytes.take 4).toByteArray.utf8DecodeChar? 0

/-- A byte that may continue a character. -/
def isTail (b : UInt8) : Bool := 0x80 ≤ b && b ≤ 0xBF

/-- The bytes that may follow the first byte of a character of three or more
bytes. Shorter forms, surrogates and code points past the last are excluded. -/
def isSecond (first second : UInt8) : Bool :=
  if first == 0xE0 then 0xA0 ≤ second && second ≤ 0xBF
  else if first == 0xED then 0x80 ≤ second && second ≤ 0x9F
  else if first == 0xF0 then 0x90 ≤ second && second ≤ 0xBF
  else if first == 0xF4 then 0x80 ≤ second && second ≤ 0x8F
  else isTail second

/-- Whether the bytes begin a character and end before it is complete. -/
def isTruncated : List UInt8 → Bool
  | [a] => 0xC2 ≤ a && a ≤ 0xF4
  | [a, b] => 0xE0 ≤ a && a ≤ 0xF4 && isSecond a b
  | [a, b, c] => 0xF0 ≤ a && a ≤ 0xF4 && isSecond a b && isTail c
  | _ => false

/-- The defect at a byte that starts no character. Where the bytes break off
inside a character, more bytes are asked for first, so a failure comes before
the bad encoding. -/
def defectAt (failure : Option String) (bytes : List UInt8) : Defect :=
  match failure with
  | some reason => if isTruncated bytes then .unreadable reason else .malformed
  | none => .malformed

/-- The characters of a sequence of bytes. A byte that starts no character is
passed over alone. -/
def decode (failure : Option String) : List UInt8 → List Arrival
  | [] => []
  | b :: rest =>
    match leading? (b :: rest) with
    | some c =>
      ⟨c, if c = '\x00' then some .nul else none⟩ :: decode failure (rest.drop (c.utf8Size - 1))
    | none => ⟨replacement, some (defectAt failure (b :: rest))⟩ :: decode failure rest
termination_by bytes => bytes.length
decreasing_by all_goals (simp only [List.length_drop, List.length_cons]; omega)

/-- The characters without a byte order mark before the first of them. -/
def dropMark : List Arrival → List Arrival
  | arrival :: rest => if arrival.char = byteOrderMark then rest else arrival :: rest
  | [] => []

/-- The first defect of the characters, or the failure after the last. -/
def firstDefect (failure : Option String) : List Arrival → Option (Nat × Defect)
  | [] => failure.map fun reason => (0, .unreadable reason)
  | arrival :: rest =>
    match arrival.defect with
    | some defect => some (0, defect)
    | none => (firstDefect failure rest).map fun (index, defect) => (index + 1, defect)

end Source

/-- A source as it reaches the reader. -/
structure Delivery where
  /-- All characters, with U+FFFD for each byte that starts none. -/
  text : List Char
  /-- The first defect and the index of the character it was noticed at. -/
  defect : Option (Nat × Defect)
  deriving DecidableEq, Repr

/-- Decode a source. -/
def Source.deliver (source : Source) : Delivery :=
  let arrivals := dropMark (decode source.failure source.bytes)
  { text := arrivals.map (·.char), defect := firstDefect source.failure arrivals }

end Lisplet
