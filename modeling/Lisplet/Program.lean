import Lisplet.Diagnostic
import Lisplet.Node.Equality
import Lisplet.Node.Text
import Lisplet.Scan
import Lisplet.SymbolTable

/-!
# Reading programs

A program is read from tokens: brackets make lists, and every other token an
atom. The first token opens the list that holds the whole program, and the
bracket that closes it has to be the last token. Reading stops at the first token
that cannot be read; the names of the symbols met before it are kept.
-/

namespace Lisplet

/-- Why a program cannot be read. -/
inductive SyntaxCause where
  /-- The source has a defect. -/
  | tokenizing (defect : Defect)
  /-- The first token is not an opening bracket, or there is no token. -/
  | parenthesis
  /-- A number is not written like one. -/
  | number
  /-- A token has no meaning where it stands. -/
  | unexpectedToken
  /-- The tokens end inside a list. -/
  | unclosed
  /-- The list of the whole program ends before the tokens do. -/
  | unopened
  deriving DecidableEq, Repr

namespace SyntaxCause

/-- The kind of error. -/
def kind : SyntaxCause → ErrorKind
  | tokenizing _ => .tokenizing
  | parenthesis => .parenthesis
  | number => .number
  | unexpectedToken => .unexpectedToken
  | unclosed => .unclosed
  | unopened => .unopened

/-- What is said of the error besides its kind. -/
def message : SyntaxCause → String
  | tokenizing defect => defect.message
  | _ => ""

end SyntaxCause

/-- An error of reading. -/
structure SyntaxError where
  /-- What is wrong. -/
  cause : SyntaxCause
  /-- The token it is wrong at. -/
  token : Option Token
  deriving DecidableEq, Repr

/-- An error of reading as a caller sees it. -/
def SyntaxError.diagnostic (error : SyntaxError) : Diagnostic :=
  { phase := .reading, kind := error.cause.kind, message := error.cause.message,
    token := error.token }

namespace Program

/-- A list that is being read: its opening token and its elements so far, the
last one first. -/
structure Frame where
  /-- The token that opened the list. -/
  token : Token
  /-- The elements read so far, the last one first. -/
  reversed : List Node

/-- The list read so far. -/
def Frame.close (frame : Frame) : Node := .list (some frame.token) frame.reversed.reverse

/-- One more element. -/
def Frame.push (frame : Frame) (node : Node) : Frame :=
  { frame with reversed := node :: frame.reversed }

/-- The atom of a token that is not a bracket. -/
def atom? (token : Token) : Except SyntaxCause Atom :=
  match token.kind with
  | .number =>
    match Decimal.ofText? token.text with
    | some value => .ok (.number value)
    | none => .error .number
  | .string => .ok (.string token.text)
  | .symbol =>
    if isSymbolName token.text.toList then .ok (.symbol token.text) else .error .unexpectedToken
  | _ => .error .unexpectedToken

/-- The names met so far after one more atom. -/
def note (table : SymbolTable) : Atom → SymbolTable
  | .symbol name => table.intern name
  | _ => table

/-- Read on in an open list. The lists around it come innermost first, and
`previous` is the token before those still to be read. -/
def readOn (table : SymbolTable) (frame : Frame) (outer : List Frame) (previous : Token) :
    List Token → Except SyntaxError Node × SymbolTable
  | [] => (.error ⟨.unclosed, some previous⟩, table)
  | token :: rest =>
    match token.kind with
    | .opening => readOn table ⟨token, []⟩ (frame :: outer) token rest
    | .closing =>
      match outer with
      | parent :: others => readOn table (parent.push frame.close) others token rest
      | [] => if rest.isEmpty then (.ok frame.close, table) else (.error ⟨.unopened, some previous⟩, table)
    | _ =>
      match atom? token with
      | .ok atom => readOn (note table atom) (frame.push (.atom (some token) atom)) outer token rest
      | .error cause => (.error ⟨cause, some token⟩, table)

/-- Read a program from tokens, and note the names of its symbols. -/
def readTokens : List Token → Except SyntaxError Node × SymbolTable
  | [] => (.error ⟨.parenthesis, none⟩, .empty)
  | token :: rest =>
    match token.kind with
    | .opening => readOn .empty ⟨token, []⟩ [] token rest
    | _ => (.error ⟨.parenthesis, some token⟩, .empty)

/-- Read a program from a source, and note the names of its symbols. -/
def readSource (source : Source) : Except SyntaxError Node × SymbolTable :=
  let scan := source.scan
  match scan.defect with
  | some (defect, token) => (.error ⟨.tokenizing defect, some token⟩, .empty)
  | none => readTokens scan.tokens

/-- Read a program from a source. -/
def read (source : Source) : Except SyntaxError Node := (readSource source).1

/-- Whether the text of a program reads as that program again. -/
def rereads (program : Node) : Except SyntaxError Bool :=
  (read (.ofString program.programText)).map program.same

end Program

end Lisplet
