import Lisplet.Node.Basic

/-!
# Scopes

Scopes bind names to values and are numbered in the order they were made. A scope
may have an enclosing scope, which was made before it. Looking a name up goes
outwards until a scope binds it. Scopes are shared: closures refer to them by
number and see every change.
-/

namespace Lisplet

/-- The number of a scope. -/
abbrev ScopeId := Nat

/-- Bindings of names, with the scope around them. -/
structure Scope where
  /-- The enclosing scope. -/
  parent : Option ScopeId
  /-- The names bound here, each once, with their values. -/
  bindings : List (String × Node) := []
  deriving Repr

namespace Scope

/-- Bind a name in a list of bindings, in the place of an earlier binding of it. -/
def insert (name : String) (value : Node) : List (String × Node) → List (String × Node)
  | [] => [(name, value)]
  | (other, old) :: rest =>
    if other = name then (name, value) :: rest else (other, old) :: insert name value rest

/-- Bind a name in this scope. -/
def bind (scope : Scope) (name : String) (value : Node) : Scope :=
  { scope with bindings := insert name value scope.bindings }

/-- A scope that binds names one after the other. -/
def ofBindings (parent : Option ScopeId) (bindings : List (String × Node)) : Scope :=
  bindings.foldl (fun scope (name, value) => scope.bind name value) { parent }

/-- The value this scope binds a name to. -/
def get? (scope : Scope) (name : String) : Option Node := scope.bindings.lookup name

/-- Whether this scope binds a name. -/
def binds (scope : Scope) (name : String) : Bool := (scope.get? name).isSome

/-- The bindings of this scope in the order of their names. -/
def listing (scope : Scope) : List (String × Node) :=
  scope.bindings.mergeSort fun a b => decide (a.1 ≤ b.1)

end Scope

/-- All scopes made so far. -/
structure Store where
  /-- The scopes, in the order they were made. -/
  scopes : Array Scope := #[]
  deriving Repr

namespace Store

/-- A store without scopes. -/
def empty : Store := {}

/-- Make a scope that binds names one after the other. -/
def enclose (store : Store) (parent : Option ScopeId) (bindings : List (String × Node)) :
    Store × ScopeId :=
  let scope := store.scopes.size
  ({ scopes := store.scopes.push (.ofBindings parent bindings) }, scope)

/-- The enclosing scope. It is taken for one only if it was made earlier. -/
def parent? (store : Store) (scope : ScopeId) : Option ScopeId :=
  (store.scopes[scope]?.bind (·.parent)).filter (· < scope)

theorem lt_of_parent? {store : Store} {scope outer : ScopeId}
    (h : store.parent? scope = some outer) : outer < scope := by
  simp only [parent?, Option.filter_eq_some_iff, decide_eq_true_eq] at h
  exact h.2

/-- The value a scope itself binds a name to. -/
def local? (store : Store) (scope : ScopeId) (name : String) : Option Node :=
  store.scopes[scope]?.bind (·.get? name)

/-- Whether a scope itself binds a name. -/
def defined (store : Store) (scope : ScopeId) (name : String) : Bool :=
  (store.local? scope name).isSome

/-- The nearest scope, from the given one outwards, that binds a name. -/
def resolve? (store : Store) (name : String) (scope : ScopeId) : Option ScopeId :=
  if store.defined scope name then some scope
  else match _h : store.parent? scope with
    | none => none
    | some outer => resolve? store name outer
termination_by scope
decreasing_by exact lt_of_parent? _h

/-- The value a name has in a scope. -/
def lookup? (store : Store) (scope : ScopeId) (name : String) : Option Node :=
  (store.resolve? name scope).bind (store.local? · name)

/-- Bind a name in a scope; the enclosing scopes are left alone. -/
def define (store : Store) (scope : ScopeId) (name : String) (value : Node) : Store :=
  { scopes := store.scopes.modify scope (·.bind name value) }

/-- Change the value of a name in the nearest scope that binds it. -/
def assign? (store : Store) (scope : ScopeId) (name : String) (value : Node) : Option Store :=
  (store.resolve? name scope).map (store.define · name value)

/-- The scope and those around it, innermost first. -/
def chain (store : Store) (scope : ScopeId) : List ScopeId :=
  scope :: match _h : store.parent? scope with
    | none => []
    | some outer => chain store outer
termination_by scope
decreasing_by exact lt_of_parent? _h

/-- The bindings of a scope in the order of their names. -/
def listing (store : Store) (scope : ScopeId) : List (String × Node) :=
  (store.scopes[scope]?.map (·.listing)).getD []

end Store

end Lisplet
