import Lisplet.Diagnostic
import Lisplet.Node.Text

/-!
# How an evaluation can fail

An evaluation that has no value either meets a problem, which its caller is told
of, or breaks off. Problems are errors of the program, with the token of the form
that was being evaluated, and failures of the host, which are passed on as they
are. It breaks off when it meets a node that has no text or a product beyond all
bounds, or when it is nested more deeply than it was allowed to be.
-/

namespace Lisplet

/-- What is wrong with a program. Values are given by their texts. -/
inductive RuntimeCause where
  /-- No scope binds the name. -/
  | undefinedSymbol (name : String)
  /-- The head of a list is not a function. -/
  | notApplicable (head : String)
  /-- The first argument of `apply` is not a function. -/
  | applyNotApplicable (value : String)
  | notNumber (operation value : String)
  | dividedByZero (operation : String)
  | uncomparable (order first second : String)
  | tooFew (function : String) (least got : Nat)
  | tooMany (function : String) (most got : Nat)
  /-- A closure has more parameters than there are arguments. -/
  | missingArguments (closure : String) (expected got : Nat)
  /-- A closure has fewer parameters than there are arguments. -/
  | excessArguments (closure : String) (expected got : Nat)
  /-- A node that is no expression. -/
  | unknownElement (node : String)
  | notSymbol (form value : String)
  | notParameters (value : String)
  | notBindings (value : String)
  | notBinding (value : String)
  | notBool (value : String)
  | notList (function value : String)
  | emptyList (function : String)
  deriving DecidableEq, Repr

namespace RuntimeCause

/-- The cause when a function or form takes at least `least` and at most `most`
operands and got a number outside. -/
def arity (function : String) (least most got : Nat) : RuntimeCause :=
  if got < least then tooFew function least got else tooMany function most got

/-- The kind of error. -/
def kind : RuntimeCause → ErrorKind
  | undefinedSymbol .. => .undefinedSymbol
  | notApplicable .. => .notApplicable
  | applyNotApplicable .. => .notApplicable
  | notNumber .. => .notNumber
  | dividedByZero .. => .dividedByZero
  | uncomparable .. => .uncomparable
  | tooFew .. => .tooFewArguments
  | tooMany .. => .tooManyArguments
  | missingArguments .. => .tooFewArguments
  | excessArguments .. => .tooManyArguments
  | unknownElement .. => .unknownElement
  | notSymbol .. => .invalidArgument
  | notParameters .. => .invalidArgument
  | notBindings .. => .invalidArgument
  | notBinding .. => .invalidArgument
  | notBool .. => .invalidArgument
  | notList .. => .invalidArgument
  | emptyList .. => .emptyList

/-- The wording of an error. -/
def message : RuntimeCause → String
  | undefinedSymbol name => s!"{name} is not defined"
  | notApplicable head => s!"cannot apply {head} as function"
  | applyNotApplicable value => s!"apply: cannot apply {value} as function"
  | notNumber operation value => s!"{operation}: cannot calculate with {value}"
  | dividedByZero operation => s!"{operation}: divided by zero"
  | uncomparable order first second => s!"{order}: cannot compare {first} and {second}"
  | tooFew function least got => s!"{function}: expected at least {least} arguments, got {got}"
  | tooMany function most got => s!"{function}: expected at most {most} arguments, got {got}"
  | missingArguments closure expected got => s!"{closure}: expected {expected} arguments, got {got}"
  | excessArguments closure expected got => s!"{closure}: expected {expected} arguments, got {got}"
  | unknownElement node => s!"unknown element {node}"
  | notSymbol form value => s!"{form}: expecting a symbol, got {value}"
  | notParameters value => s!"lambda: expecting a parameter list, got {value}"
  | notBindings value => s!"let: expecting a binding list, got {value}"
  | notBinding value => s!"let: expecting a (name value) pair, got {value}"
  | notBool value => s!"!: expecting a boolean, got {value}"
  | notList function value => s!"{function}: expecting a list, got {value}"
  | emptyList function => s!"{function}: empty list"

end RuntimeCause

/-- An error of a program. -/
structure RuntimeError where
  /-- What is wrong. -/
  cause : RuntimeCause
  /-- The token of the form that was being evaluated. -/
  token : Option Token := none
  deriving DecidableEq, Repr

/-- An error of a program as a caller sees it. -/
def RuntimeError.diagnostic (error : RuntimeError) : Diagnostic :=
  { phase := .running, kind := error.cause.kind, message := error.cause.message,
    token := error.token }

/-- Why there is no value, in a way that the caller is told of. -/
inductive Problem where
  /-- An error of the program. -/
  | error (wrong : RuntimeError)
  /-- A failure of the host. -/
  | failure (reason : String)
  deriving DecidableEq, Repr

/-- What the caller is told. -/
def Problem.text : Problem → String
  | error wrong => wrong.diagnostic.text
  | failure reason => reason

/-- Why an evaluation breaks off. -/
inductive Fault where
  /-- A node without a text has to be written. -/
  | unknownNode
  /-- A product needs an exponent out of bounds. -/
  | exponentOverflow (exponent : Int)
  deriving DecidableEq, Repr

/-- The wording of a fault. -/
def Fault.message : Fault → String
  | unknownNode => "unknown node type"
  | exponentOverflow exponent => s!"exponent {exponent} overflows an int32!"

/-- Why an evaluation has no value. -/
inductive Stop where
  | problem (met : Problem)
  | fault (met : Fault)
  /-- The evaluation is nested more deeply than it was allowed to be. -/
  | exhausted
  deriving DecidableEq, Repr

/-- Let an error without a token point at the given one. -/
def Stop.locate (token : Option Token) : Stop → Stop
  | problem (.error error) => problem (.error { error with token := error.token.or token })
  | stop => stop

end Lisplet
