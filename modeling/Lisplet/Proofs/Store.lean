import Lisplet.Store
import Mathlib.Order.Basic

/-!
# Changes of the store

Binding a name changes one binding of one scope, and a new scope leaves those before
it as they were. Where a name is found depends only on which scopes on the way
outwards bind it.
-/

namespace Lisplet

namespace Scope

theorem lookup_cons (key other : String) (value : Node) (rest : List (String × Node)) :
    ((key, value) :: rest).lookup other = if other = key then some value else rest.lookup other := by
  rw [List.lookup_cons]
  by_cases hother : other = key
  · rw [if_pos hother, beq_iff_eq.mpr hother]
  · rw [if_neg hother, beq_eq_false_iff_ne.mpr hother]

theorem lookup_insert (name other : String) (value : Node) (bindings : List (String × Node)) :
    (insert name value bindings).lookup other =
      if other = name then some value else bindings.lookup other := by
  induction bindings with
  | nil => exact lookup_cons name other value []
  | cons first rest ih =>
      obtain ⟨key, old⟩ := first
      rw [insert, lookup_cons]
      by_cases hkey : key = name
      · subst hkey
        rw [if_pos rfl, lookup_cons]
        by_cases hother : other = key <;> simp [hother]
      · rw [if_neg hkey, lookup_cons, ih]
        by_cases hother : other = name
        · subst hother
          simp [Ne.symm hkey]
        · simp [hother]

theorem get?_bind (scope : Scope) (name other : String) (value : Node) :
    (scope.bind name value).get? other = if other = name then some value else scope.get? other :=
  lookup_insert name other value scope.bindings

theorem parent_ofBindings (parent : Option ScopeId) (bindings : List (String × Node)) :
    (ofBindings parent bindings).parent = parent := by
  refine List.foldlRecOn (motive := fun scope : Scope => scope.parent = parent) bindings _ rfl ?_
  intro scope hscope binding _
  exact hscope

theorem mem_insert {name : String} {value : Node} {bindings : List (String × Node)}
    {binding : String × Node} (hmem : binding ∈ insert name value bindings) :
    binding = (name, value) ∨ binding ∈ bindings := by
  induction bindings with
  | nil => exact .inl (List.mem_singleton.mp hmem)
  | cons first rest ih =>
      rw [insert] at hmem
      split at hmem
      · rcases List.mem_cons.mp hmem with hfirst | hrest
        · exact .inl hfirst
        · exact .inr (List.mem_cons_of_mem _ hrest)
      · rcases List.mem_cons.mp hmem with hfirst | hrest
        · exact .inr (hfirst ▸ List.mem_cons_self)
        · exact (ih hrest).imp id (List.mem_cons_of_mem _)

theorem mem_of_mem_ofBindings {parent : Option ScopeId} {bindings : List (String × Node)}
    {binding : String × Node} (hmem : binding ∈ (ofBindings parent bindings).bindings) :
    binding ∈ bindings := by
  have hall : ∀ binding ∈ (ofBindings parent bindings).bindings, binding ∈ bindings := by
    refine List.foldlRecOn (motive := fun scope : Scope => ∀ binding ∈ scope.bindings,
      binding ∈ bindings) bindings _ (by simp) ?_
    intro scope hscope added hadded binding hbinding
    rcases mem_insert hbinding with rfl | hbinding
    · exact hadded
    · exact hscope binding hbinding
  exact hall binding hmem

end Scope

namespace Store

variable (store : Store) (s t : ScopeId) (name other : String) (value : Node)

/-! ## Binding a name -/

@[simp]
theorem size_define : (store.define s name value).scopes.size = store.scopes.size := by
  simp [define]

theorem getElem?_define :
    (store.define s name value).scopes[t]? =
      if s = t then store.scopes[t]?.map (·.bind name value) else store.scopes[t]? :=
  Array.getElem?_modify

theorem local?_define : (store.define s name value).local? t other =
    if t = s ∧ other = name ∧ s < store.scopes.size then some value
    else store.local? t other := by
  rw [local?, define, Array.getElem?_modify]
  by_cases hscope : s = t
  · subst hscope
    rw [if_pos rfl, local?]
    by_cases hsize : s < store.scopes.size
    · rw [Array.getElem?_eq_getElem hsize]
      simp [Scope.get?_bind, hsize]
    · rw [Array.getElem?_eq_none (Nat.not_lt.mp hsize)]
      simp [hsize]
  · rw [if_neg hscope, if_neg (fun h => hscope h.1.symm), local?]

@[simp]
theorem parent?_define : (store.define s name value).parent? t = store.parent? t := by
  rw [parent?, define, Array.getElem?_modify, parent?]
  by_cases hscope : s = t
  · rw [if_pos hscope]
    cases store.scopes[t]? <;> rfl
  · rw [if_neg hscope]

/-! ## Making a scope -/

variable (parent : Option ScopeId) (bindings : List (String × Node))

theorem getElem?_enclose :
    (store.enclose parent bindings).1.scopes[t]? =
      if t = store.scopes.size then some (.ofBindings parent bindings) else store.scopes[t]? := by
  rw [enclose, Array.getElem?_push]

theorem local?_enclose (hold : t ≠ store.scopes.size) :
    (store.enclose parent bindings).1.local? t other = store.local? t other := by
  rw [local?, getElem?_enclose, if_neg hold, local?]

theorem parent?_enclose (hold : t ≠ store.scopes.size) :
    (store.enclose parent bindings).1.parent? t = store.parent? t := by
  rw [parent?, getElem?_enclose, if_neg hold, parent?]

@[simp]
theorem size_enclose :
    (store.enclose parent bindings).1.scopes.size = store.scopes.size + 1 := by
  simp [enclose]

/-! ## Finding a name -/

variable {store s name}

theorem defined_of_resolve? {home : ScopeId} (hfound : store.resolve? name s = some home) :
    store.defined home name = true := by
  fun_induction resolve? store name s with
  | case1 s hdefined =>
      cases hfound
      exact hdefined
  | case2 => cases hfound
  | case3 _ _ _ _ ih => exact ih hfound

theorem exists_mem_of_local? {value : Node} (hfound : store.local? s name = some value) :
    ∃ scope, store.scopes[s]? = some scope ∧ (name, value) ∈ scope.bindings := by
  obtain ⟨scope, hscope, hget⟩ := Option.bind_eq_some_iff.mp hfound
  refine ⟨scope, hscope, ?_⟩
  obtain ⟨before, after, hbindings, -⟩ := List.lookup_eq_some_iff.mp hget
  rw [hbindings]
  exact List.mem_append_right _ List.mem_cons_self

theorem lt_size_of_defined (hdefined : store.defined s name = true) : s < store.scopes.size := by
  by_contra hsize
  rw [defined, local?, Array.getElem?_eq_none (Nat.not_lt.mp hsize)] at hdefined
  cases hdefined

/-- Inside a part of the scopes that is closed under going outwards, two stores that
agree on which of them bind a name find it in the same scope. -/
theorem resolve?_congr {store' : Store} (inside : ScopeId → Prop)
    (houter : ∀ s outer, inside s → store.parent? s = some outer → inside outer)
    (hparent : ∀ s, inside s → store.parent? s = store'.parent? s)
    (hdefined : ∀ s, inside s → store.defined s name = store'.defined s name)
    (hinside : inside s) :
    store.resolve? name s = store'.resolve? name s ∧
      ∀ home, store.resolve? name s = some home → inside home := by
  -- the walk stops here, ends without a parent, or goes on to a scope that is inside too
  fun_induction resolve? store name s with
  | case1 s hhere =>
      rw [resolve?, ← hdefined s hinside, hhere]
      refine ⟨rfl, ?_⟩
      rintro home ⟨⟩
      exact hinside
  | case2 s hhere hnone =>
      rw [resolve?, ← hdefined s hinside, if_neg hhere]
      refine ⟨?_, by simp⟩
      rw [hparent s hinside] at hnone
      split
      · rfl
      next hsome => rw [hnone] at hsome; cases hsome
  | case3 s hhere outer houter' ih =>
      obtain ⟨hsame, hhome⟩ := ih (houter s outer hinside houter')
      rw [hsame] at hhome ⊢
      refine ⟨?_, hhome⟩
      rw [resolve?.eq_1 store' name s, ← hdefined s hinside, if_neg hhere]
      rw [hparent s hinside] at houter'
      split
      next hnone => rw [houter'] at hnone; cases hnone
      next found hsome =>
        rw [houter'] at hsome
        cases hsome
        rfl

end Store

end Lisplet
