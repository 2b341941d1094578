import Lisplet.Evaluation.Basic
import Lisplet.Program

/-!
# Sessions

A session keeps a world between programs. Its root scope starts with all
primitive functions and the names of the truth values and of nil; a host can put
a scope of its own around it. The forms of a program are evaluated in the root
scope one after the other.
-/

namespace Lisplet

/-- Why a program has no value. -/
inductive Interruption where
  /-- It cannot be read. -/
  | unreadable (error : SyntaxError)
  /-- Its evaluation stopped. -/
  | stopped (stop : Stop)
  deriving DecidableEq, Repr

/-- A world with a root scope. -/
structure Session where
  /-- The state left by what was run so far. -/
  world : World
  /-- The scope programs are evaluated in. -/
  root : ScopeId
  deriving Repr

/-- What the root scope starts with. -/
def initialBindings : List (String × Node) :=
  Builtin.all.map (fun function => (function.name, .primitive (.builtin function))) ++
    [("true", .bool true), ("false", .bool false), ("nil", .nil)]

namespace Session

/-- A new session, perhaps with a scope of the host around the root scope. -/
def start (host : Option (List (String × Node))) (sink : Sink) : Session :=
  let (store, outer) := match host with
    | none => (Store.empty, none)
    | some bindings =>
      let (store, scope) := Store.empty.enclose none bindings
      (store, some scope)
  let (store, root) := store.enclose outer initialBindings
  { world := { store, sink }, root }

/-- Do something in the world of a session. -/
def act {α : Type} (session : Session) (effect : Effect α) : Except Stop α × Session :=
  let (result, world) := effect.runIn session.world
  (result, { session with world })

/-- Forget what was written and logged. -/
def forget (session : Session) : Session :=
  { session with world := { session.world with output := #[], log := #[] } }

/-- What was written. -/
def written (session : Session) : String := String.join session.world.output.toList

/-- What was logged. -/
def logged (session : Session) : String := String.join session.world.log.toList

end Session

open Effect

/-- Evaluate a form of a program. A problem is logged and given as a result. -/
def attempt (depth : Nat) (scope : ScopeId) (form : Node) : Effect (Except Problem Node) :=
  tryCatch (Except.ok <$> evaluate depth form scope) fun
    | .problem problem => do
      note ("error: " ++ problem.text)
      pure (.error problem)
    | stop => throw stop

/-- Evaluate forms in order until one has a problem, and give the last value, or
the given one if there is none. -/
def evaluateForms (depth : Nat) (scope : ScopeId) (result : Node) : List Node → Effect Node
  | [] => pure result
  | form :: rest => do
    match ← attempt depth scope form with
    | .ok value => evaluateForms depth scope value rest
    | .error problem => throw (.problem problem)

/-- Evaluate forms in order and give the result of each, up to the first result
that the caller does not want to go on after. -/
def evaluateEach (depth : Nat) (scope : ScopeId) (goOn : Except Problem Node → Bool) :
    List Node → Effect (List (Node × Except Problem Node))
  | [] => pure []
  | form :: rest => do
    let result ← attempt depth scope form
    if goOn result then return (form, result) :: (← evaluateEach depth scope goOn rest)
    else return [(form, result)]

namespace Session

/-- Run the forms of a program and give the value of the last. -/
def runProgram (session : Session) (depth : Nat) (program : Node) :
    Except Interruption Node × Session :=
  let (result, session) :=
    session.act (evaluateForms depth session.root .nil (program.items?.getD []))
  (result.mapError .stopped, session)

/-- Read a program and run it. -/
def run (session : Session) (depth : Nat) (source : Source) : Except Interruption Node × Session :=
  match Program.read source with
  | .error error => (.error (.unreadable error), session)
  | .ok program => session.runProgram depth program

/-- Fetch a whole source, then read and run it. Here a failure of the source is a
problem of its own. -/
def runFetched (session : Session) (depth : Nat) (source : Source) :
    Except Interruption Node × Session :=
  match source.failure with
  | some reason => (.error (.stopped (.problem (.failure reason))), session)
  | none => session.run depth source

/-- Read a program and run it form by form, as long as the caller wants to. -/
def runEach (session : Session) (depth : Nat) (goOn : Except Problem Node → Bool) (source : Source) :
    Except Interruption (List (Node × Except Problem Node)) × Session :=
  match Program.read source with
  | .error error => (.error (.unreadable error), session)
  | .ok program =>
    let (result, session) :=
      session.act (evaluateEach depth session.root goOn (program.items?.getD []))
    (result.mapError .stopped, session)

/-- Read a program, run it, and apply its value. -/
def runApplied (session : Session) (depth : Nat) (source : Source) (args : List Node) :
    Except Interruption Node × Session :=
  match session.run depth source with
  | (.ok function, session) =>
    let (result, session) := session.act (apply depth function args session.root)
    (result.mapError .stopped, session)
  | failed => failed

/-- Bind a name in the root scope. -/
def define (session : Session) (name : String) (value : Node) : Session :=
  (session.act (Effect.define session.root name value)).2

/-- The scopes a scope is in, from itself outwards up to the root scope and
without it. -/
def scopesWithin (session : Session) (scope : ScopeId) : List ScopeId :=
  (session.world.store.chain scope).takeWhile (· != session.root)

end Session

end Lisplet
