import Lisplet.Evaluation.World
import Lisplet.Node.Equality

/-!
# Applying primitive functions

Arguments come evaluated. Most functions only look at them; `display` and
`newline` write, and `eval` and `apply` go back into the evaluator, in the scope
of the caller.
-/

namespace Lisplet

/-- Something for the evaluator to do in a scope. -/
inductive Task where
  /-- Evaluate an expression. -/
  | evaluate (expr : Node)
  /-- Apply a function to values. -/
  | apply (function : Node) (args : List Node)

/-- A way to have tasks done. -/
abbrev Evaluator := Task → ScopeId → Effect Node

open Effect

/-- The numbers in nodes, or the first node that holds none. -/
def numbers : List Node → Except Node (List Decimal)
  | [] => .ok []
  | node :: rest =>
    match node.number? with
    | some value => (numbers rest).map (value :: ·)
    | none => .error node

namespace Arithmetic

/-- The result for two numbers. -/
def compute (operation : Arithmetic) (a b : Decimal) : Except Stop Decimal :=
  match operation with
  | add => .ok (a.add b)
  | subtract => .ok (a.sub b)
  | multiply => (a.mul b).mapError fun exponent => .fault (.exponentOverflow exponent)
  | divide => if b.isZero then zeroDivisor else .ok (a.div b)
  | remainder => if b.isZero then zeroDivisor else .ok (a.mod b)
where
  /-- Division by zero has no result. -/
  zeroDivisor : Except Stop Decimal :=
    .error (.problem (.error { cause := .dividedByZero operation.name }))

/-- The result for a number and those after it, from left to right. -/
def fold (operation : Arithmetic) (first : Decimal) (rest : List Decimal) : Except Stop Decimal :=
  rest.foldlM operation.compute first

/-- Apply an operation. A single number is returned as it is. -/
def run (operation : Arithmetic) (args : List Node) : Effect Node :=
  match numbers args with
  | .error node => do raise (.notNumber operation.name (← textOf node))
  | .ok [] => raise (.tooFew operation.name 1 0)
  | .ok [_] => pure (args.headD .nil)
  | .ok (first :: rest) => do
    let value ← liftExcept (operation.fold first rest)
    pure (.number value)
where
  /-- A result without effects. -/
  liftExcept (result : Except Stop Decimal) : Effect Decimal := ExceptT.mk (pure result)

end Arithmetic

namespace Comparison

/-- Whether an order holds of two numbers that compare in the given way. -/
def accepts : Comparison → Ordering → Bool
  | greater, order => order == .gt
  | less, order => order == .lt
  | greaterEqual, order => order != .lt
  | lessEqual, order => order != .gt

/-- Compare two numbers. -/
def run (order : Comparison) : List Node → Effect Node
  | [a, b] =>
    match a.number?, b.number? with
    | some x, some y => pure (.bool (order.accepts (x.compare y)))
    | _, _ => do raise (.uncomparable order.name (← textOf a) (← textOf b))
  | args => raise (.arity order.name 2 2 args.length)

end Comparison

/-- The elements of a list, or an error of the function that wanted one. -/
def listOf (function : String) (node : Node) : Effect (List Node) :=
  match node.items? with
  | some items => pure items
  | none => do raise (.notList function (← textOf node))

/-- The first element of a list and the others, or an error of the function that
wanted them. -/
def nonEmptyListOf (function : String) (args : List Node) : Effect (Node × List Node) :=
  match args with
  | [node] => do
    match ← listOf function node with
    | first :: rest => pure (first, rest)
    | [] => raise (.emptyList function)
  | args => raise (.arity function 1 1 args.length)

/-- The elements a node contributes to a list made by `cons`: a list its own
elements, any other node itself. -/
def Node.spliced (node : Node) : List Node := node.items?.getD [node]

/-- Apply a function every program starts with. -/
def Builtin.run (evaluator : Evaluator) (scope : ScopeId) (args : List Node) :
    Builtin → Effect Node
  | arithmetic operation => operation.run args
  | comparison order => order.run args
  | equal =>
    match args with
    | [] => raise (.tooFew "=" 1 0)
    | first :: rest => pure (.bool (rest.all first.quickSame))
  | negation =>
    match args with
    | [node] =>
      match node.bool? with
      | some value => pure (.bool !value)
      | none => do raise (.notBool (← textOf node))
    | args => raise (.arity "!" 1 1 args.length)
  | car => do pure (← nonEmptyListOf "car" args).1
  | cdr => do pure (.ofList (← nonEmptyListOf "cdr" args).2)
  | cons =>
    match args with
    | [a, b] => pure (.ofList (a.spliced ++ b.spliced))
    | args => raise (.arity "cons" 2 2 args.length)
  | list => pure (.ofList args)
  | isEmpty =>
    match args with
    | [node] => do pure (.bool (← listOf "null?" node).isEmpty)
    | args => raise (.arity "null?" 1 1 args.length)
  | eval =>
    match args with
    | [expr] => evaluator (.evaluate expr) scope
    | args => raise (.arity "eval" 1 1 args.length)
  | apply =>
    match args with
    | [function, values] =>
      if function.isCallable then do
        evaluator (.apply function (← listOf "apply" values)) scope
      else do raise (.applyNotApplicable (← textOf function))
    | args => raise (.arity "apply" 2 2 args.length)
  | display =>
    match args with
    | [node] => do
      if !node.hasText then throw (.fault .unknownNode)
      write (node.displayText ++ "\n")
      pure .nil
    | args => raise (.arity "display" 1 1 args.length)
  | newline =>
    match args with
    | [] => do
      write "\n"
      pure .nil
    | args => raise (.arity "newline" 0 0 args.length)

/-- Apply a function added by a host. -/
def HostFunction.run (scope : ScopeId) (name : String) (args : List Node) :
    HostFunction → Effect Node
  | count => pure (.number (.ofInt args.length))
  | names => do
    pure (.ofList (((← get).store.listing scope).map fun binding => .symbol binding.1))
  | failing => throw (.problem (.failure (name ++ ": host failure")))

/-- Apply a primitive function. -/
def Primitive.run (evaluator : Evaluator) (scope : ScopeId) (args : List Node) :
    Primitive → Effect Node
  | builtin function => function.run evaluator scope args
  | host _ name function => function.run scope name args

end Lisplet
