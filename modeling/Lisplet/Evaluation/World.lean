import Lisplet.Evaluation.Error
import Lisplet.Store

/-!
# The state of an evaluation

The world holds the scopes, what has been written and logged, and how many
closures have been made. An effect may change the world and then either gives a
value or stops; what it changed before it stopped stays changed.
-/

namespace Lisplet

/-- Where output goes. -/
inductive Sink where
  /-- Every write is accepted. -/
  | accepting
  /-- A number of writes are accepted; all others fail for a reason. -/
  | limited (room : Nat) (reason : String)
  deriving DecidableEq, Repr

/-- All that an evaluation can see and change. -/
structure World where
  /-- The scopes. -/
  store : Store := .empty
  /-- The writes accepted so far. -/
  output : Array String := #[]
  /-- Where further writes go. -/
  sink : Sink := .accepting
  /-- The lines logged so far, each with its newline. -/
  log : Array String := #[]
  /-- How many closures have been made. -/
  closures : Nat := 0
  deriving Repr

/-- A step of an evaluation: it may change the world, and then gives a value or
stops. -/
abbrev Effect := ExceptT Stop (StateM World)

namespace Effect

/-- Have an effect on a world. -/
def runIn {α : Type} (effect : Effect α) (world : World) : Except Stop α × World := effect world

/-- Stop with an error that has no token yet. -/
def raise {α : Type} (cause : RuntimeCause) : Effect α :=
  throw (.problem (.error { cause }))

/-- Stop with an error at a node. -/
def raiseAt {α : Type} (node : Node) (cause : RuntimeCause) : Effect α :=
  throw (.problem (.error { cause, token := node.token? }))

/-- Let errors that have no token point at a node. -/
def located {α : Type} (node : Node) (effect : Effect α) : Effect α :=
  ExceptT.adapt (Stop.locate node.token?) effect

/-- The text of a node. -/
def textOf (node : Node) : Effect String :=
  if node.hasText then pure node.text else throw (.fault .unknownNode)

/-- A line with a newline at its end, added unless there is one. -/
def ended (line : String) : String :=
  if line.toList.getLast? = some '\n' then line else line ++ "\n"

/-- Log a line. -/
def note (line : String) : Effect Unit :=
  modify fun world => { world with log := world.log.push (ended line) }

/-- Write a text in one go. -/
def write (text : String) : Effect Unit := do
  match (← get).sink with
  | .accepting => modify fun world => { world with output := world.output.push text }
  | .limited 0 reason => throw (.problem (.failure reason))
  | .limited (room + 1) reason =>
    modify fun world =>
      { world with output := world.output.push text, sink := .limited room reason }

/-- The value of a name in a scope. -/
def lookup (scope : ScopeId) (name : String) : Effect Node := do
  match (← get).store.lookup? scope name with
  | some value => pure value
  | none => raise (.undefinedSymbol name)

/-- Bind a name in a scope. -/
def define (scope : ScopeId) (name : String) (value : Node) : Effect Unit :=
  modify fun world => { world with store := world.store.define scope name value }

/-- Change the value of a name where it is bound. -/
def assign (scope : ScopeId) (name : String) (value : Node) : Effect Unit := do
  match (← get).store.resolve? name scope with
  | some home => define home name value
  | none => raise (.undefinedSymbol name)

/-- Make a scope inside another and bind names in it, one after the other. -/
def enclose (parent : ScopeId) (bindings : List (String × Node)) : Effect ScopeId :=
  modifyGet fun world =>
    let (store, scope) := world.store.enclose (some parent) bindings
    (scope, { world with store })

/-- A number that no closure has been given yet. -/
def freshIdentity : Effect Nat :=
  modifyGet fun world => (world.closures, { world with closures := world.closures + 1 })

end Effect

end Lisplet
