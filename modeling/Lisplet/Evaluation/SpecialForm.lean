import Lisplet.Evaluation.Builtin

/-!
# Special forms

A list whose head is the name of a special form is evaluated by the rule of that
form, which gets its operands unevaluated. The names cannot be bound to anything
else.
-/

namespace Lisplet

open Effect

/-- The special forms. -/
inductive SpecialForm where
  /-- Evaluate one of two branches. -/
  | conditional
  /-- Bind a name in the current scope. -/
  | definition
  /-- Take the operand as it is. -/
  | quotation
  /-- Make a closure. -/
  | abstraction
  /-- Evaluate a body in a scope with new bindings. -/
  | binding
  /-- Change the value of a name. -/
  | assignment
  deriving DecidableEq, Repr

namespace SpecialForm

/-- The name of a special form. -/
def name : SpecialForm → String
  | conditional => "if"
  | definition => "define"
  | quotation => "quote"
  | abstraction => "lambda"
  | binding => "let"
  | assignment => "setf!"

/-- All special forms. -/
def all : List SpecialForm :=
  [conditional, definition, quotation, abstraction, binding, assignment]

/-- The special form with the given name. -/
def ofName? (name : String) : Option SpecialForm := all.find? (·.name == name)

end SpecialForm

/-- The name in a symbol, or an error of the form that wanted one. -/
def symbolOf (form : String) (node : Node) : Effect String :=
  match node.symbol? with
  | some name => pure name
  | none => do raiseAt node (.notSymbol form (← textOf node))

/-- The names in symbols. -/
def symbolsOf (form : String) : List Node → Effect (List String)
  | [] => pure []
  | node :: rest => do
    let name ← symbolOf form node
    return name :: (← symbolsOf form rest)

/-- Evaluate expressions from left to right. -/
def evaluateAll (evaluator : Evaluator) (scope : ScopeId) : List Node → Effect (List Node)
  | [] => pure []
  | expr :: rest => do
    let value ← evaluator (.evaluate expr) scope
    return value :: (← evaluateAll evaluator scope rest)

/-- Evaluate expressions in order and give the last value, or the given one if
there is none. -/
def evaluateBody (evaluator : Evaluator) (scope : ScopeId) (result : Node) :
    List Node → Effect Node
  | [] => pure result
  | expr :: rest => do
    let value ← evaluator (.evaluate expr) scope
    evaluateBody evaluator scope value rest

/-- The bindings of a `let`, evaluated in the scope around it. -/
def evaluateBindings (evaluator : Evaluator) (scope : ScopeId) :
    List Node → Effect (List (String × Node))
  | [] => pure []
  | .list _ [target, operand] :: rest => do
    let name ← symbolOf "let" target
    let value ← evaluator (.evaluate operand) scope
    return (name, value) :: (← evaluateBindings evaluator scope rest)
  | node :: _ => do raiseAt node (.notBinding (← textOf node))

/-- Evaluate a special form. -/
def SpecialForm.run (evaluator : Evaluator) (scope : ScopeId) (operands : List Node) :
    SpecialForm → Effect Node
  | conditional =>
    match operands with
    | [condition, branch] => do
      let value ← evaluator (.evaluate condition) scope
      if value.isFalsy then pure .nil else evaluator (.evaluate branch) scope
    | [condition, branch, alternative] => do
      let value ← evaluator (.evaluate condition) scope
      evaluator (.evaluate (if value.isFalsy then alternative else branch)) scope
    | _ => raise (.arity "if" 2 3 operands.length)
  | definition =>
    match operands with
    | [target, operand] => do
      let name ← symbolOf "define" target
      let value ← evaluator (.evaluate operand) scope
      let shown ← textOf value
      note s!"define {name}: {shown}"
      define scope name value
      pure .nil
    | _ => raise (.arity "define" 2 2 operands.length)
  | quotation =>
    match operands with
    | [node] => pure node
    | _ => raise (.arity "quote" 1 1 operands.length)
  | abstraction =>
    match operands with
    | parameters :: first :: rest =>
      match parameters.items? with
      | some items => do
        let names ← symbolsOf "lambda" items
        let identity ← freshIdentity
        pure (.closure parameters.token? identity names (first :: rest) scope)
      | none => do raiseAt parameters (.notParameters (← textOf parameters))
    | _ => raise (.tooFew "lambda" 2 operands.length)
  | binding =>
    match operands with
    | bindings :: first :: rest =>
      match bindings.items? with
      | some items => do
        let values ← evaluateBindings evaluator scope items
        let inner ← enclose scope values
        evaluateBody evaluator inner .nil (first :: rest)
      | none => do raiseAt bindings (.notBindings (← textOf bindings))
    | _ => raise (.tooFew "let" 2 operands.length)
  | assignment =>
    match operands with
    | [target, operand] => do
      let name ← symbolOf "setf!" target
      discard (located target (lookup scope name))
      let value ← evaluator (.evaluate operand) scope
      let shown ← textOf value
      note s!"setf! {name}: {shown}"
      located target (assign scope name value)
      pure value
    | _ => raise (.arity "setf!" 2 2 operands.length)

end Lisplet
