import Lisplet.Proofs.Simulation.Effect
import Lisplet.Proofs.Store

/-!
# Stores that are alike

Stores are alike when their scopes have the same parents and bind the same names, in
the same order, to values that are alike. Names are then found in the same scopes, and
binding a name or making a scope keeps stores alike.
-/

namespace Lisplet

theorem Store.defined_eq_of_rel {store store' : Store} {s : ScopeId} {name : String}
    {r : Node → Node → Prop} (hrel : Option.Rel r (store.local? s name) (store'.local? s name)) :
    store.defined s name = store'.defined s name := by
  unfold Store.defined
  obtain ⟨hnone, hnone'⟩ | ⟨_, _, hsome, hsome', -⟩ := rel_cases hrel
  · rw [hnone, hnone']
  · rw [hsome, hsome', Option.isSome_some, Option.isSome_some]

namespace Likeness

variable {like : Likeness}

/-- Scopes that are alike. -/
def ScopeAlike (like : Likeness) (scope scope' : Scope) : Prop :=
  scope.parent = scope'.parent ∧ like.BindingsAlike scope.bindings scope'.bindings

/-- Stores that are alike, scope by scope. -/
def StoreAlike (like : Likeness) (store store' : Store) : Prop :=
  ∀ s : ScopeId, Option.Rel like.ScopeAlike store.scopes[s]? store'.scopes[s]?

theorem BindingsAlike.insert {bindings bindings' : List (String × Node)} {name : String}
    {value value' : Node} (hbindings : like.BindingsAlike bindings bindings')
    (hname : like.atom (.symbol name)) (hvalue : like.Alike value value') :
    like.BindingsAlike (Scope.insert name value bindings) (Scope.insert name value' bindings') := by
  induction hbindings with
  | nil => exact .cons ⟨rfl, hname, hvalue⟩ .nil
  | @cons first first' rest rest' hfirst hrest ih =>
      obtain ⟨other, old⟩ := first
      obtain ⟨other', old'⟩ := first'
      obtain ⟨rfl, hother, hold⟩ := hfirst
      rw [Scope.insert, Scope.insert]
      split
      · exact .cons ⟨rfl, hname, hvalue⟩ hrest
      · exact .cons ⟨rfl, hother, hold⟩ ih

theorem BindingsAlike.lookup {bindings bindings' : List (String × Node)}
    (hbindings : like.BindingsAlike bindings bindings') (name : String) :
    Option.Rel like.Alike (bindings.lookup name) (bindings'.lookup name) := by
  induction hbindings with
  | nil => exact .none
  | @cons first first' rest rest' hfirst hrest ih =>
      obtain ⟨other, old⟩ := first
      obtain ⟨other', old'⟩ := first'
      obtain ⟨rfl, -, hold⟩ := hfirst
      rw [Scope.lookup_cons, Scope.lookup_cons]
      split
      · exact .some hold
      · exact ih

theorem BindingsAlike.names_eq {bindings bindings' : List (String × Node)}
    (hbindings : like.BindingsAlike bindings bindings') :
    bindings.map Prod.fst = bindings'.map Prod.fst := by
  induction hbindings with
  | nil => rfl
  | cons hfirst _ ih => rw [List.map_cons, List.map_cons, hfirst.1, ih]

theorem scopeAlike_ofBindings (parent : Option ScopeId) {bindings bindings' : List (String × Node)}
    (hbindings : like.BindingsAlike bindings bindings') :
    like.ScopeAlike (.ofBindings parent bindings) (.ofBindings parent bindings') := by
  refine List.rel_foldl ?_ ⟨rfl, .nil⟩ hbindings
  rintro scope scope' hscope ⟨name, value⟩ ⟨name', value'⟩ ⟨hsame, hname, hvalue⟩
  cases hsame
  exact ⟨hscope.1, hscope.2.insert hname hvalue⟩

/-! ## Stores -/

variable {store store' : Store}

theorem StoreAlike.size_eq (hstore : like.StoreAlike store store') :
    store.scopes.size = store'.scopes.size := by
  have hbeyond : ∀ s, store.scopes.size ≤ s ↔ store'.scopes.size ≤ s := by
    intro s
    rw [← Array.getElem?_eq_none_iff, ← Array.getElem?_eq_none_iff]
    obtain ⟨hnone, hnone'⟩ | ⟨scope, scope', hsome, hsome', -⟩ := rel_cases (hstore s)
    · simp [hnone, hnone']
    · simp [hsome, hsome']
  exact Nat.le_antisymm ((hbeyond _).mpr (Nat.le_refl _)) ((hbeyond _).mp (Nat.le_refl _))

theorem StoreAlike.parent?_eq (hstore : like.StoreAlike store store') (s : ScopeId) :
    store.parent? s = store'.parent? s := by
  unfold Store.parent?
  obtain ⟨hnone, hnone'⟩ | ⟨scope, scope', hsome, hsome', halike⟩ := rel_cases (hstore s)
  · rw [hnone, hnone']
  · rw [hsome, hsome', Option.bind_some, Option.bind_some, halike.1]

theorem StoreAlike.local?_alike (hstore : like.StoreAlike store store') (s : ScopeId)
    (name : String) : Option.Rel like.Alike (store.local? s name) (store'.local? s name) := by
  unfold Store.local?
  obtain ⟨hnone, hnone'⟩ | ⟨scope, scope', hsome, hsome', halike⟩ := rel_cases (hstore s)
  · rw [hnone, hnone']
    exact .none
  · rw [hsome, hsome']
    exact halike.2.lookup name

theorem StoreAlike.resolve?_eq (hstore : like.StoreAlike store store') (name : String)
    (s : ScopeId) : store.resolve? name s = store'.resolve? name s := by
  refine (Store.resolve?_congr (fun _ => True) ?_ ?_ ?_ trivial).1
  · exact fun _ _ _ _ => trivial
  · exact fun s _ => hstore.parent?_eq s
  · exact fun s _ => Store.defined_eq_of_rel (hstore.local?_alike s name)

theorem StoreAlike.lookup?_alike (hstore : like.StoreAlike store store') (s : ScopeId)
    (name : String) : Option.Rel like.Alike (store.lookup? s name) (store'.lookup? s name) := by
  unfold Store.lookup?
  rw [← hstore.resolve?_eq]
  cases store.resolve? name s with
  | none => exact .none
  | some home => exact hstore.local?_alike home name

theorem StoreAlike.define (hstore : like.StoreAlike store store') (s : ScopeId) {name : String}
    {value value' : Node} (hname : like.atom (.symbol name)) (hvalue : like.Alike value value') :
    like.StoreAlike (store.define s name value) (store'.define s name value') := by
  intro t
  rw [Store.define, Store.define, Array.getElem?_modify, Array.getElem?_modify]
  by_cases hhere : s = t
  · rw [if_pos hhere, if_pos hhere]
    obtain ⟨hnone, hnone'⟩ | ⟨scope, scope', hsome, hsome', halike⟩ := rel_cases (hstore t)
    · rw [hnone, hnone']
      exact .none
    · rw [hsome, hsome']
      exact .some ⟨halike.1, halike.2.insert hname hvalue⟩
  · rw [if_neg hhere, if_neg hhere]
    exact hstore t

theorem StoreAlike.enclose (hstore : like.StoreAlike store store') (parent : Option ScopeId)
    {bindings bindings' : List (String × Node)}
    (hbindings : like.BindingsAlike bindings bindings') :
    like.StoreAlike (store.enclose parent bindings).1 (store'.enclose parent bindings').1 := by
  intro t
  rw [Store.getElem?_enclose, Store.getElem?_enclose, ← hstore.size_eq]
  split
  · exact .some (scopeAlike_ofBindings parent hbindings)
  · exact hstore t

/-- The names that a scope lists do not depend on what they are bound to. -/
theorem StoreAlike.listing_eq (hstore : like.StoreAlike store store') (s : ScopeId) :
    (store.listing s).map Prod.fst = (store'.listing s).map Prod.fst := by
  have hsorted : ∀ bindings : List (String × Node),
      (bindings.mergeSort fun a b => decide (a.1 ≤ b.1)).map Prod.fst =
        (bindings.map Prod.fst).mergeSort fun a b => decide (a ≤ b) := by
    intro bindings
    exact List.map_mergeSort (fun _ _ _ _ => rfl)
  unfold Store.listing
  obtain ⟨hnone, hnone'⟩ | ⟨scope, scope', hsome, hsome', halike⟩ := rel_cases (hstore s)
  · rw [hnone, hnone']
  · simp only [hsome, hsome', Option.map_some, Option.getD_some, Scope.listing, hsorted,
      halike.2.names_eq]

/-- A store is like itself if the values that its scopes bind are. -/
theorem storeAlike_self (hbound : ∀ (s : ScopeId) (scope : Scope), store.scopes[s]? = some scope →
    ∀ binding ∈ scope.bindings, like.atom (.symbol binding.1) ∧ like.Alike binding.2 binding.2) :
    like.StoreAlike store store := by
  intro s
  cases hscope : store.scopes[s]? with
  | none => exact .none
  | some scope =>
      refine .some ⟨rfl, List.forall₂_same.mpr ?_⟩
      exact fun binding hbinding => ⟨rfl, hbound s scope hscope binding hbinding⟩

end Likeness

/-! ## Runs with scopes that are alike -/

section

variable (like : Likeness) (counts : Nat → Nat → Prop) (leftQuits rightQuits : Stop → Prop)

/-- Runs that write the same and whose scopes are alike one by one. -/
def Coupling.alongside : Coupling where
  toLikeness := like
  scope s s' := s = s'
  world w w' := like.StoreAlike w.store w'.store ∧ w.output = w'.output ∧ w.sink = w'.sink ∧
    counts w.closures w'.closures
  leftQuits := leftQuits
  rightQuits := rightQuits

/-- Evaluations keep scopes alike, whatever may differ in values, as long as the numbers of
new closures correspond. -/
def Simulation.alongside (hhome : ∀ {s s' : ScopeId}, like.home s s' ↔ s = s')
    (hatom : ∀ a, like.atom a)
    (hcounts : ∀ {n n' : Nat}, counts n n' → like.identity n n' ∧ counts (n + 1) (n' + 1))
    (hleft : ∀ {stop : Stop} (token : Option Token), leftQuits stop →
      leftQuits (stop.locate token))
    (hright : ∀ {stop : Stop} (token : Option Token), rightQuits stop →
      rightQuits (stop.locate token))
    (hcompute : ∀ (operation : Arithmetic) {a b a' b' : Decimal}, like.number a a' →
      like.number b b' →
      (Coupling.alongside like counts leftQuits rightQuits).Quits (operation.compute a b)
          (operation.compute a' b') ∨
        (Coupling.alongside like counts leftQuits rightQuits).Agrees like.number
          (operation.compute a b) (operation.compute a' b')) : Simulation where
  toCoupling := .alongside like counts leftQuits rightQuits
  home_of_scope := hhome.mpr
  leftQuits_locate := hleft
  rightQuits_locate := hright
  compute := hcompute
  noted _ hworld := hworld
  sink_eq hworld := hworld.2.2.1
  written text _ hworld := by
    obtain ⟨hstore, houtput, -, hclosures⟩ := hworld
    exact ⟨hstore, congrArg (·.push text) houtput, rfl, hclosures⟩
  found hworld hscope _ := by
    cases hscope
    exact hworld.1.lookup?_alike _ _
  defined hworld hscope hname hvalue := by
    cases hscope
    exact ⟨hworld.1.define _ hname hvalue, hworld.2⟩
  assigned {w w' s s' name value value'} hworld hscope hname hvalue := by
    cases hscope
    rw [← hworld.1.resolve?_eq]
    cases w.store.resolve? name s with
    | none => exact .none
    | some home => exact .some ⟨hworld.1.define home hname hvalue, hworld.2⟩
  enclosed hworld hparent hbindings := by
    cases hhome.mp hparent
    exact ⟨hworld.1.size_eq, hworld.1.enclose _ hbindings, hworld.2⟩
  numbered hworld := by
    obtain ⟨hstore, houtput, hsink, hclosures⟩ := hworld
    obtain ⟨hidentity, hnext⟩ := hcounts hclosures
    exact ⟨hidentity, hstore, houtput, hsink, hnext⟩
  listed hworld hscope _ := by
    cases hscope
    exact ⟨hworld.1.listing_eq _, fun _ _ => hatom _⟩

end

end Lisplet
