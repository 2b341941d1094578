import Lisplet.Text.Letter
import Lisplet.Text.Digit

/-!
# Symbol names

A symbol name consists of letters and digits of any script and of a few signs; a
few more signs may stand anywhere but in front. The table of a reader holds each
name it has met once.
-/

namespace Lisplet

/-- A character that may begin a symbol name. -/
def isSymbolStart (c : Char) : Bool :=
  Text.isLetter c || Text.isDecimalDigit c || "=+*<>/-!%".toList.contains c

/-- A character that may stand in a symbol name after the first. -/
def isSymbolBody (c : Char) : Bool :=
  isSymbolStart c || "_.?".toList.contains c

/-- Whether a text is a symbol name. -/
def isSymbolName : List Char → Bool
  | [] => false
  | c :: rest => isSymbolStart c && rest.all isSymbolBody

/-- The names met so far, each once, in the order they were met. -/
structure SymbolTable where
  /-- The names. -/
  names : List String := []
  deriving DecidableEq, Repr

namespace SymbolTable

/-- The table before any name is met. -/
def empty : SymbolTable := {}

/-- Whether a name has been met. -/
def holds (table : SymbolTable) (name : String) : Bool := table.names.contains name

/-- Take note of a name. -/
def intern (table : SymbolTable) (name : String) : SymbolTable :=
  if table.holds name then table else { names := table.names ++ [name] }

/-- How many names have been met. -/
def size (table : SymbolTable) : Nat := table.names.length

end SymbolTable

end Lisplet
