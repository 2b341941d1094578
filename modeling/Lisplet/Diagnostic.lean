import Lisplet.Token

/-!
# Diagnostics

A diagnostic is an error as a caller sees it: its kind, its message, and the
token it points at. Kinds are grouped: every error of reading is an error of
syntax, and every error of evaluation a runtime error, so that a caller can ask
for a group or for a single kind.
-/

namespace Lisplet

/-- Kinds of errors. -/
inductive ErrorKind where
  | reading
  | tokenizing
  | symbolizing
  | parenthesis
  | number
  | unexpectedToken
  | unclosed
  | unopened
  | runtime
  | undefinedSymbol
  | notApplicable
  | notNumber
  | dividedByZero
  | uncomparable
  | tooFewArguments
  | tooManyArguments
  | unknownElement
  | invalidArgument
  | emptyList
  deriving DecidableEq, Repr, Inhabited

namespace ErrorKind

/-- What is said of an error that has no message of its own. -/
def description : ErrorKind → String
  | reading => "syntax error has occurred"
  | tokenizing => "tokenizing error has occurred"
  | symbolizing => "symbolizing error has occurred"
  | parenthesis => "unexpected parenthesis has been detected"
  | number => "number parsing error has occurred"
  | unexpectedToken => "unexpected token has been detected"
  | unclosed => "source does not reach the end: close parenthesis may be missing"
  | unopened => "source cannot reach the end: open parenthesis may be missing"
  | runtime => "runtime error has occurred"
  | undefinedSymbol => "symbol is not defined"
  | notApplicable => "cannot apply as function"
  | notNumber => "cannot calculate with non-number"
  | dividedByZero => "divided by zero"
  | uncomparable => "cannot compare arguments"
  | tooFewArguments => "not enough arguments"
  | tooManyArguments => "too much arguments"
  | unknownElement => "unknown element"
  | invalidArgument => "invalid argument"
  | emptyList => "empty list"

/-- All kinds: first those of reading, then those of evaluation. -/
def all : List ErrorKind :=
  [reading, tokenizing, symbolizing, parenthesis, number, unexpectedToken, unclosed, unopened,
    runtime, undefinedSymbol, notApplicable, notNumber, dividedByZero, uncomparable,
    tooFewArguments, tooManyArguments, unknownElement, invalidArgument, emptyList]

end ErrorKind

/-- When an error arises. -/
inductive Phase where
  | reading
  | running
  deriving DecidableEq, Repr

/-- An error as a caller sees it. -/
structure Diagnostic where
  /-- When the error arose. -/
  phase : Phase
  /-- The kind of the error. -/
  kind : ErrorKind
  /-- What is said of it; empty to say what is said of its kind. -/
  message : String
  /-- The token the error points at. -/
  token : Option Token
  deriving DecidableEq, Repr

namespace Diagnostic

/-- The message, and below it the source line with a caret. -/
def text (error : Diagnostic) : String :=
  let message := if error.message.isEmpty then error.kind.description else error.message
  match error.token with
  | none => message
  | some token => message ++ "\n" ++ token.excerpt

/-- The error tells a caller a message, alone or above the place that it points at. -/
def Tells (error : Diagnostic) (message : String) : Prop :=
  error.text = match error.token with
    | none => message
    | some token => message ++ "\n" ++ token.excerpt

/-- An error with a message of its own tells that, and not what is said of its kind. -/
theorem tells_of_message {error : Diagnostic} {message : String}
    (hmessage : error.message = message) (hne : message ≠ "") : error.Tells message := by
  have hown : (if error.message.isEmpty then error.kind.description else error.message) =
      message := by
    rw [hmessage, String.isEmpty_eq_false_iff.mpr hne]
    rfl
  rw [Tells, text, hown]

/-- Whether the error belongs to a kind or to the group a kind stands for. -/
def isOf (error : Diagnostic) (kind : ErrorKind) : Bool :=
  error.kind == kind ||
    match error.phase with
    | .reading => kind == .reading || (kind == .symbolizing && error.kind != .tokenizing)
    | .running => kind == .runtime

end Diagnostic

end Lisplet
