/-!
# Primitive functions

The functions a program can use without defining them, by name. What they do is
said where they are applied. A host that embeds the language can add functions
of its own; each of those has an identity besides its name.
-/

namespace Lisplet

/-- Operations that fold numbers. -/
inductive Arithmetic where
  | add
  | subtract
  | multiply
  | divide
  | remainder
  deriving DecidableEq, Repr

/-- Orders on two numbers. -/
inductive Comparison where
  | greater
  | less
  | greaterEqual
  | lessEqual
  deriving DecidableEq, Repr

/-- The functions every program starts with. -/
inductive Builtin where
  | arithmetic (operation : Arithmetic)
  | comparison (order : Comparison)
  | equal
  | negation
  | car
  | cdr
  | cons
  | list
  | isEmpty
  | eval
  | apply
  | display
  | newline
  deriving DecidableEq, Repr

/-- What a function added by a host does. A host may add any function, and the language itself
defines none of them. These three are those of a host for testing, and they stand for whatever
a host adds: one looks at its arguments only, one at the scope of its caller, and one fails. -/
inductive HostFunction where
  /-- Give the number of arguments. -/
  | count
  /-- Give the names bound in the scope of the caller. -/
  | names
  /-- Fail. -/
  | failing
  deriving DecidableEq, Repr

/-- A function that is not written in the language. -/
inductive Primitive where
  | builtin (function : Builtin)
  | host (identity : Nat) (name : String) (function : HostFunction)
  deriving DecidableEq, Repr

/-- The name of an operation. -/
def Arithmetic.name : Arithmetic → String
  | add => "+"
  | subtract => "-"
  | multiply => "*"
  | divide => "/"
  | remainder => "%"

/-- The name of an order. -/
def Comparison.name : Comparison → String
  | greater => ">"
  | less => "<"
  | greaterEqual => ">="
  | lessEqual => "<="

namespace Builtin

/-- The name a program finds the function under. -/
def name : Builtin → String
  | arithmetic operation => operation.name
  | comparison order => order.name
  | equal => "="
  | negation => "!"
  | car => "car"
  | cdr => "cdr"
  | cons => "cons"
  | list => "list"
  | isEmpty => "null?"
  | eval => "eval"
  | apply => "apply"
  | display => "display"
  | newline => "newline"

/-- All functions a program starts with. -/
def all : List Builtin :=
  [arithmetic .add, arithmetic .subtract, arithmetic .multiply, arithmetic .divide,
    arithmetic .remainder, comparison .greater, comparison .less, comparison .greaterEqual,
    comparison .lessEqual, equal, negation, car, cdr, cons, list, isEmpty, eval, apply, display,
    newline]

end Builtin

/-- The name a primitive is shown with. -/
def Primitive.name : Primitive → String
  | builtin function => function.name
  | host _ name _ => name

end Lisplet
