import Lisplet.Evaluation.SpecialForm

/-!
# The evaluator

Numbers, strings, truth values, nil and functions evaluate to themselves, and so
does the empty list. A symbol evaluates to the value of its name. A list is a
special form or an application: its head and then the other elements are
evaluated from left to right, and the value of the head is applied.

One step of the evaluator is given a way to have smaller tasks done. Tasks nest
only to a given depth, so that every evaluation ends; an evaluation that ends
within some depth has the same result within any greater one.
-/

namespace Lisplet

open Effect

/-- Call a closure in a new scope inside the one it was made in. -/
def call (evaluator : Evaluator) (params : List String) (body : List Node) (home : ScopeId)
    (args : List Node) : Effect Node := do
  let shown := closureText params
  if args.length < params.length then
    raise (.missingArguments shown params.length args.length)
  else if params.length < args.length then
    raise (.excessArguments shown params.length args.length)
  else
    let scope ← enclose home (params.zip args)
    note s!"call {shown}"
    evaluateBody evaluator scope .nil body

/-- Apply a function to values. -/
def applyStep (evaluator : Evaluator) (function : Node) (args : List Node) (scope : ScopeId) :
    Effect Node :=
  match function with
  | .closure _ _ params body home => call evaluator params body home args
  | .atom _ (.primitive primitive) => primitive.run evaluator scope args
  | _ => do raise (.notApplicable (← textOf function))

/-- Evaluate a list that is not empty. -/
def evaluateList (evaluator : Evaluator) (head : Node) (operands : List Node) (scope : ScopeId) :
    Effect Node :=
  match head.symbol?.bind SpecialForm.ofName? with
  | some form => form.run evaluator scope operands
  | none => do
    let function ← evaluator (.evaluate head) scope
    let args ← evaluateAll evaluator scope operands
    if function.isCallable then evaluator (.apply function args) scope
    else raiseAt head (.notApplicable (← textOf head))

/-- The kinds of atoms that evaluate to themselves. -/
def Kind.isConstant : Kind → Bool
  | nil | number | string | bool | function => true
  | _ => false

/-- Evaluate an expression. -/
def evaluateStep (evaluator : Evaluator) (expr : Node) (scope : ScopeId) : Effect Node :=
  match expr with
  | .list _ [] => pure expr
  | .list _ (head :: operands) => located expr (evaluateList evaluator head operands scope)
  | .closure .. => pure expr
  | .atom _ (.symbol name) => located expr (lookup scope name)
  | .atom _ value =>
    if value.kind.isConstant then pure expr
    else raiseAt expr (.unknownElement expr.describe)

/-- Do a task, given a way to do smaller ones. -/
def step (evaluator : Evaluator) (task : Task) (scope : ScopeId) : Effect Node :=
  match task with
  | .evaluate expr => evaluateStep evaluator expr scope
  | .apply function args => applyStep evaluator function args scope

/-- Do a task with tasks nested to the given depth at most. -/
def perform : Nat → Evaluator
  | 0, _, _ => throw .exhausted
  | depth + 1, task, scope => step (perform depth) task scope

/-- Evaluate an expression with tasks nested to the given depth at most. -/
def evaluate (depth : Nat) (expr : Node) (scope : ScopeId) : Effect Node :=
  perform depth (.evaluate expr) scope

/-- Apply a function with tasks nested to the given depth at most. -/
def apply (depth : Nat) (function : Node) (args : List Node) (scope : ScopeId) : Effect Node :=
  perform depth (.apply function args) scope

end Lisplet
