import Lisplet.Proofs.Simulation.Invariant
import Lisplet.Proofs.Store
import Lisplet.Session

/-!
# Who binds names in a scope

An evaluation binds new names only in the scope it runs in and in scopes it makes. In
all other scopes it can change values but neither add nor remove names. A call runs in
a scope it makes, so it adds no name to any scope that was there before.
-/

namespace Lisplet

/-! ## Which names are bound -/

namespace Store

theorem defined_define (store : Store) (s t : ScopeId) (name other : String) (value : Node) :
    (store.define s name value).defined t other =
      (decide (t = s ∧ other = name ∧ s < store.scopes.size) || store.defined t other) := by
  rw [defined, local?_define]
  by_cases hhere : t = s ∧ other = name ∧ s < store.scopes.size
  · simp [hhere]
  · rw [if_neg hhere, decide_eq_false hhere, Bool.false_or, defined]

/-- Changing the value of a name where it is bound binds no new name. -/
theorem defined_define_of_defined {store : Store} {s : ScopeId} {name : String}
    (hbound : store.defined s name = true) (t : ScopeId) (other : String) (value : Node) :
    (store.define s name value).defined t other = store.defined t other := by
  rw [defined_define]
  by_cases hhere : t = s ∧ other = name ∧ s < store.scopes.size
  · obtain ⟨rfl, rfl, -⟩ := hhere
    rw [hbound, Bool.or_true]
  · rw [decide_eq_false hhere, Bool.false_or]

theorem defined_enclose {store : Store} {t : ScopeId} (hold : t < store.scopes.size)
    (parent : Option ScopeId) (bindings : List (String × Node)) (other : String) :
    (store.enclose parent bindings).1.defined t other = store.defined t other := by
  rw [defined, local?_enclose _ _ _ _ _ (Nat.ne_of_lt hold), defined]

end Store

/-! ## The invariant -/

section

variable (owned : ScopeId → Prop) (start : Store)

/-- The scopes of a store that grew from another bind the names they bound there, and
those that are not owned bind no others. -/
structure NamesKept (store : Store) : Prop where
  grown : start.scopes.size ≤ store.scopes.size
  bound (s : ScopeId) (name : String) : start.defined s name = true → store.defined s name = true
  same (s : ScopeId) (name : String) : s < start.scopes.size → ¬ owned s →
    store.defined s name = start.defined s name

variable {owned start} {store : Store}

theorem NamesKept.define (hkept : NamesKept owned start store) {s : ScopeId}
    (hscope : owned s ∨ start.scopes.size ≤ s) (name : String) (value : Node) :
    NamesKept owned start (store.define s name value) where
  grown := by simpa using hkept.grown
  bound t other hstart := by
    rw [Store.defined_define, hkept.bound t other hstart, Bool.or_true]
  same t other hold hother := by
    -- names are added to owned and to new scopes only, and this one is neither
    have hhere : ¬ (t = s ∧ other = name ∧ s < store.scopes.size) := by
      rintro ⟨rfl, -, -⟩
      exact hscope.elim hother (Nat.not_le.mpr hold)
    rw [Store.defined_define, decide_eq_false hhere, Bool.false_or]
    exact hkept.same t other hold hother

theorem NamesKept.assign (hkept : NamesKept owned start store) {home : ScopeId} {name : String}
    (hbound : store.defined home name = true) (value : Node) :
    NamesKept owned start (store.define home name value) where
  grown := by simpa using hkept.grown
  bound t other hstart := by
    rw [Store.defined_define_of_defined hbound]
    exact hkept.bound t other hstart
  same t other hold hother := by
    rw [Store.defined_define_of_defined hbound]
    exact hkept.same t other hold hother

theorem NamesKept.enclose (hkept : NamesKept owned start store) (parent : Option ScopeId)
    (bindings : List (String × Node)) :
    NamesKept owned start (store.enclose parent bindings).1 where
  grown := by
    rw [Store.size_enclose]
    exact Nat.le_succ_of_le hkept.grown
  bound t other hstart := by
    have hdefined := hkept.bound t other hstart
    rw [Store.defined_enclose (Store.lt_size_of_defined hdefined)]
    exact hdefined
  same t other hold hother := by
    rw [Store.defined_enclose (Nat.lt_of_lt_of_le hold hkept.grown)]
    exact hkept.same t other hold hother

variable (owned start)

/-- Evaluations in owned and in new scopes keep the names of all others. -/
def Invariant.namesKept : Invariant where
  scope s := owned s ∨ start.scopes.size ≤ s
  holds w := NamesKept owned start w.store
  noted _ hkept := hkept
  written _ _ hkept := hkept
  defined name value hkept hscope := hkept.define hscope name value
  assigned value hkept _ hfound := hkept.assign (Store.defined_of_resolve? hfound) value
  enclosed parent bindings hkept := ⟨.inr hkept.grown, hkept.enclose (some parent) bindings⟩
  numbered hkept := hkept

theorem NamesKept.refl : NamesKept owned start start where
  grown := Nat.le_refl _
  bound _ _ hstart := hstart
  same _ _ _ _ := rfl

end

/-- An evaluation leaves the names bound in every scope but its own as they were and
removes none from its own. A call leaves the names bound in all scopes as they were. -/
theorem names_owned (depth : Nat) (world : World) :
    (∀ (expr : Node) (env : ScopeId),
      let after := ((evaluate depth expr env).runIn world).2
      (∀ s name, s < world.store.scopes.size → s ≠ env →
        after.store.defined s name = world.store.defined s name) ∧
      ∀ name, world.store.defined env name = true → after.store.defined env name = true) ∧
    ∀ (token : Option Token) (identity : Nat) (params : List String) (body : List Node)
      (home : ScopeId) (args : List Node) (env : ScopeId),
      let after := ((apply depth (.closure token identity params body home) args env).runIn world).2
      ∀ s name, s < world.store.scopes.size →
        after.store.defined s name = world.store.defined s name := by
  constructor
  · intro expr env after
    have hkept : NamesKept (· = env) world.store after.store :=
      (Invariant.namesKept (· = env) world.store).evaluate_holds depth expr (.inl rfl)
        (NamesKept.refl _ _)
    exact ⟨hkept.same, hkept.bound env⟩
  · intro token identity params body home args env after s name hold
    have hkept : NamesKept (fun _ => False) world.store after.store :=
      (Invariant.namesKept (fun _ => False) world.store).apply_closure_holds depth token identity
        params body home args env (NamesKept.refl _ _)
    exact hkept.same s name hold id

/-- A world with a scope of a host around the root scope. -/
def hostedSample : World := (Session.start (some [("h", .nil)]) .accepting).world

/-- The form that binds `y`. -/
def definitionSample : Node := .ofList [.symbol "define", .symbol "y", .number (.ofInt 1)]

/-- Binding `y` in the root scope binds it there and leaves the scope of the host alone; a
call that binds it leaves the root scope alone. -/
theorem hostedSample_names_owned :
    ((evaluate 5 definitionSample 1).runIn hostedSample).2.store.defined 1 "y" = true ∧
    (∀ name, ((evaluate 5 definitionSample 1).runIn hostedSample).2.store.defined 0 name =
      hostedSample.store.defined 0 name) ∧
    ((apply 5 (.closure none 0 [] [definitionSample] 1) [] 1).runIn
      hostedSample).2.store.defined 2 "y" = true ∧
    ∀ name, ((apply 5 (.closure none 0 [] [definitionSample] 1) [] 1).runIn
      hostedSample).2.store.defined 1 name = hostedSample.store.defined 1 name := by
  have hsize : hostedSample.store.scopes.size = 2 := by decide +kernel
  refine ⟨by decide +kernel, ?_, by decide +kernel, ?_⟩
  · intro name
    exact ((names_owned 5 hostedSample).1 definitionSample 1).1 0 name (by omega) (by decide)
  · intro name
    exact (names_owned 5 hostedSample).2 none 0 [] [definitionSample] 1 [] 1 1 name (by omega)

end Lisplet
