import Lisplet.Token
import Lisplet.Text.Blank

/-!
# The lexical grammar

A text is cut into pieces from left to right: blank characters, and lexemes with
the text they were written with. Numbers, symbols and runs of backslashes are as
long as they can be. Nothing is lost: the raw texts of the pieces, one after the
other, are the text.
-/

namespace Lisplet

namespace Text

/-- An opening bracket of any shape. -/
def isOpening (c : Char) : Bool := c == '(' || c == '\x7b' || c == '['

/-- A closing bracket of any shape. -/
def isClosing (c : Char) : Bool := c == ')' || c == '\x7d' || c == ']'

/-- A character that delimits strings. -/
def isQuote (c : Char) : Bool := c == '"' || c == '\x27'

/-- A character that ends a symbol. -/
def isBreak (c : Char) : Bool :=
  isBlank c || isOpening c || isClosing c || isQuote c || c == '\\'

end Text

open Text

/-- A stretch of text that the lexical grammar takes as one. -/
inductive Piece where
  /-- One blank character. -/
  | blank (c : Char)
  /-- One opening bracket. -/
  | opening (c : Char)
  /-- One closing bracket. -/
  | closing (c : Char)
  /-- Digits, and perhaps a point with the digits after it. -/
  | number (whole : List Char) (fraction : Option (List Char))
  /-- Text between two equal quotes. -/
  | quoted (quote : Char) (inner : List Char)
  /-- A quote that is never closed, with all the text after it. -/
  | unclosed (quote : Char) (inner : List Char)
  /-- Backslashes, which have no meaning. -/
  | stray (run : List Char)
  /-- Anything else up to the next break. -/
  | symbol (name : List Char)
  deriving DecidableEq, Repr

namespace Piece

/-- The text a piece was written with. -/
def raw : Piece → List Char
  | blank c => [c]
  | opening c => [c]
  | closing c => [c]
  | number whole none => whole
  | number whole (some fraction) => whole ++ '.' :: fraction
  | quoted quote inner => quote :: (inner ++ [quote])
  | unclosed quote inner => quote :: inner
  | stray run => run
  | symbol name => name

/-- The kind of token a piece gives; a blank gives none. -/
def kind? : Piece → Option TokenKind
  | blank _ => none
  | opening _ => some .opening
  | closing _ => some .closing
  | number _ _ => some .number
  | quoted _ _ => some .string
  | unclosed _ _ => some .unknown
  | stray _ => some .unknown
  | symbol _ => some .symbol

/-- The text of the token a piece gives: a string loses its quotes. -/
def content : Piece → List Char
  | quoted _ inner => inner
  | piece => piece.raw

/-- Cut the piece that begins with `c` off the text `c :: rest`. -/
def lead (c : Char) (rest : List Char) : Piece × List Char :=
  if isBlank c then (blank c, rest)
  else if isOpening c then (opening c, rest)
  else if isClosing c then (closing c, rest)
  else if isQuote c then
    let inner := rest.takeWhile (· != c)
    match rest.dropWhile (· != c) with
    | [] => (unclosed c inner, [])
    | _ :: more => (quoted c inner, more)
  else if c.isDigit then
    let whole := c :: rest.takeWhile Char.isDigit
    match rest.dropWhile Char.isDigit with
    | '.' :: more => (number whole (some (more.takeWhile Char.isDigit)), more.dropWhile Char.isDigit)
    | more => (number whole none, more)
  else if c == '\\' then (stray (c :: rest.takeWhile (· == '\\')), rest.dropWhile (· == '\\'))
  else (symbol (c :: rest.takeWhile (!isBreak ·)), rest.dropWhile (!isBreak ·))

/-- Cutting a piece off leaves no more than what stood after its first character. -/
theorem length_lead_le (c : Char) (rest : List Char) : (lead c rest).2.length ≤ rest.length := by
  unfold lead
  split; · simp
  split; · simp
  split; · simp
  split
  · have h : (rest.dropWhile (· != c)).length ≤ rest.length := (List.dropWhile_suffix _).length_le
    split
    · simp
    · rename_i hdrop
      rw [hdrop] at h
      simp only [List.length_cons] at h
      simp only
      omega
  split
  · have h : (rest.dropWhile Char.isDigit).length ≤ rest.length :=
      (List.dropWhile_suffix _).length_le
    split
    · rename_i more hdrop
      rw [hdrop] at h
      have hmore : (more.dropWhile Char.isDigit).length ≤ more.length :=
        (List.dropWhile_suffix _).length_le
      simp only [List.length_cons] at h
      simp only
      omega
    · exact h
  split
  · exact (List.dropWhile_suffix _).length_le
  · exact (List.dropWhile_suffix _).length_le

/-- The pieces of a text. -/
def pieces : List Char → List Piece
  | [] => []
  | c :: rest => (lead c rest).1 :: pieces (lead c rest).2
termination_by text => text.length
decreasing_by
  have h := length_lead_le c rest
  simp only [List.length_cons]
  omega

/-- Cutting loses nothing. -/
theorem raw_lead (c : Char) (rest : List Char) :
    (lead c rest).1.raw ++ (lead c rest).2 = c :: rest := by
  unfold lead
  split; · rfl
  split; · rfl
  split; · rfl
  split
  · have h := List.takeWhile_append_dropWhile (p := (· != c)) (l := rest)
    split
    · rename_i hdrop
      rw [hdrop] at h
      simpa [raw] using h
    · rename_i d more hdrop
      have hd : d = c := by
        have hhead := List.head?_dropWhile_not (· != c) rest
        rw [hdrop] at hhead
        simpa using hhead
      rw [hdrop, hd] at h
      simp [raw, h]
  split
  · have h := List.takeWhile_append_dropWhile (p := Char.isDigit) (l := rest)
    split
    · rename_i more hdrop
      rw [hdrop] at h
      simpa [raw] using h
    · simp [raw]
  split <;> simp [raw]

/-- The raw texts of the pieces of a text, one after the other, are the text. -/
theorem flatMap_raw_pieces (text : List Char) : (pieces text).flatMap raw = text := by
  induction text using pieces.induct with
  | case1 => simp [pieces]
  | case2 c rest ih => rw [pieces, List.flatMap_cons, ih, raw_lead]

end Piece

end Lisplet
