import Lisplet.Position
import Lisplet.Text.Quoted

/-!
# Tokens

A token is a classified piece of source text with the place where it begins and
the line it stands on. The line is kept so that an error can show it with a
caret under the offending column.
-/

namespace Lisplet

/-- What a token is. Codes above those of the known kinds belong to no kind of
lexeme; they only occur in tokens that were built by hand. -/
inductive TokenKind where
  | unknown
  | opening
  | closing
  | number
  | string
  | symbol
  | other (code : Nat)
  deriving DecidableEq, Repr, Inhabited

namespace TokenKind

/-- The kinds that reading a text can give, in the order of their codes. -/
def known : List TokenKind := [unknown, opening, closing, number, string, symbol]

/-- The kind with the given code. -/
def ofCode (code : Nat) : TokenKind := known[code]?.getD (other code)

/-- The name of a kind; a kind without a name of its own is unknown. -/
def name : TokenKind → String
  | unknown => "unknown"
  | opening => "open_paren"
  | closing => "close_paren"
  | number => "number"
  | string => "string"
  | symbol => "symbol"
  | other _ => "unknown"

end TokenKind

/-- A lexical unit. The text of a string is what stands between its quotes. -/
structure Token where
  /-- What the token is. -/
  kind : TokenKind
  /-- The text that counts, without the quotes of a string. -/
  text : String
  /-- Where the token begins. -/
  position : Position
  /-- The line the token begins on. -/
  source : String
  deriving DecidableEq, Repr, Inhabited

namespace Token

/-- The source line with a caret under the column where the token begins. Tabs
become blanks so that the caret stays in its column. -/
def excerpt (token : Token) : String :=
  let place := token.position
  "Code at [" ++ place.text ++ "]\n" ++
    String.ofList (token.source.toList.map fun c => if c = '\t' then ' ' else c) ++ "\n" ++
    String.ofList (List.replicate place.column.toNat ' ') ++ "^"

/-- The token in one line: its kind, its quoted text and its place. -/
def describe (token : Token) : String :=
  "(:" ++ token.kind.name ++ " " ++ Text.quote token.text ++ " [" ++
    toString token.position.line ++ " " ++ toString token.position.column ++ "])"

end Token

end Lisplet
