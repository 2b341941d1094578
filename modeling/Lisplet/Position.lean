/-!
# Positions in a text

A position is a line, counted from one, and a column, counted from zero in
characters. A newline stands at the end of its own line. Positions of tokens
that were not read from a text may be arbitrary integers.
-/

namespace Lisplet

/-- A place in a text. -/
structure Position where
  /-- The line, counted from one. -/
  line : Int
  /-- The column, counted from zero. -/
  column : Int
  deriving DecidableEq, Repr, Inhabited

namespace Position

/-- Where a text begins. -/
def start : Position := ⟨1, 0⟩

/-- The place after a character that stands at the given place. -/
def after (place : Position) (c : Char) : Position :=
  if c = '\n' then ⟨place.line + 1, 0⟩ else ⟨place.line, place.column + 1⟩

/-- The place after a text that begins at the given place. -/
def afterAll (place : Position) (text : List Char) : Position :=
  text.foldl after place

@[simp]
theorem afterAll_nil (place : Position) : place.afterAll [] = place := rfl

@[simp]
theorem afterAll_cons (place : Position) (c : Char) (text : List Char) :
    place.afterAll (c :: text) = (place.after c).afterAll text := rfl

theorem afterAll_append (place : Position) (first second : List Char) :
    place.afterAll (first ++ second) = (place.afterAll first).afterAll second := by
  simp [afterAll]

/-- The place in the form `line:column`. -/
def text (place : Position) : String :=
  toString place.line ++ ":" ++ toString place.column

end Position

end Lisplet
