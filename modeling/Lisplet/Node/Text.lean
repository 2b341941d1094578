import Lisplet.Node.Basic

/-!
# The text of nodes

The text of a value is the source text that reads as that value, where there is
one: a list is written between round brackets with one blank between elements,
and a string between double quotes, or between single quotes if it holds a
double quote. A program is written without brackets around its forms.

A node whose kind is neither a value nor a list has no text, and a list with such
a node in it has none either.
-/

namespace Lisplet

/-- Texts with one blank between them. -/
def spaced : List String → String
  | [] => ""
  | [word] => word
  | word :: rest => word ++ " " ++ spaced rest

/-- A string between quotes of the kind it does not hold, double ones first. -/
def enquote (text : String) : String :=
  if text.toList.contains '"' then "\x27" ++ text ++ "\x27" else "\"" ++ text ++ "\""

/-- A closure is shown by its parameters. -/
def closureText (params : List String) : String := "<lambda (" ++ spaced params ++ ")>"

/-- The text of an atom. -/
def Atom.text : Atom → String
  | nil => "nil"
  | bool true => "true"
  | bool false => "false"
  | number value => value.text
  | string text => enquote text
  | symbol name => name
  | primitive function => "<primitive " ++ function.name ++ ">"
  | foreign _ _ text => "<custom " ++ text ++ ">"
  | blank => ""
  | absent => "nil"

/-- Whether an atom has a text: if its kind is that of a value. -/
def Atom.hasText : Atom → Bool
  | absent => true
  | atom => atom.kind.isValue

namespace Node

mutual

/-- The text of a value. -/
def text : Node → String
  | atom _ value => value.text
  | list _ items => "(" ++ spaced (texts items) ++ ")"
  | closure _ _ params _ _ => closureText params

/-- The texts of several values. -/
def texts : List Node → List String
  | [] => []
  | node :: rest => node.text :: texts rest

end

mutual

/-- Whether a node has a text. -/
def hasText : Node → Bool
  | atom _ value => value.hasText
  | list _ items => haveText items
  | closure .. => true

/-- Whether all of several nodes have a text. -/
def haveText : List Node → Bool
  | [] => true
  | node :: rest => node.hasText && haveText rest

end

/-- The text of a program, which is the list of its forms. Anything but a list
is written as the value it is. -/
def programText : Node → String
  | list _ items => spaced (texts items)
  | node => node.text

/-- What `display` writes: a string as it is, and the text of anything else. -/
def displayText : Node → String
  | atom _ (.string text) => text
  | node => node.text

/-- The text a node has by itself, which for a list is none. -/
def ownText : Node → String
  | list .. => ""
  | node => node.text

/-- A node in short: its kind, with the length of a list or the text of a value. -/
def describe : Node → String
  | list _ items => "(list)[" ++ toString items.length ++ "]"
  | node => "(" ++ node.kind.name ++ "): " ++ node.ownText

/-- Where the token of a node stands; a dash if it has none. -/
def placeText (node : Node) : String :=
  match node.token? with
  | some token => token.position.text
  | none => "-"

/-- Four blanks for each level. -/
def indent (depth : Nat) : String := String.ofList (List.replicate (4 * depth) ' ')

mutual

/-- The tree of a node, a line for each node, indented by its depth. -/
def outline (depth : Nat) : Node → String
  | list token items =>
    indent depth ++ "(list): (" ++ placeText (list token items) ++ ")\n" ++
      outlines (depth + 1) items
  | atom _ .absent => "nil\n"
  | node =>
    indent depth ++ "(" ++ node.kind.name ++ "): " ++ node.ownText ++ " (" ++ node.placeText ++ ")\n"

/-- The trees of several nodes of one depth. -/
def outlines (depth : Nat) : List Node → String
  | [] => ""
  | node :: rest => outline depth node ++ outlines depth rest


end

end Node

end Lisplet
