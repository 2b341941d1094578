import Lisplet.Proofs.ScopeOwnership

/-!
# What an update changes

Scopes are shared, so an update of one scope can be seen from others. A name has the value
that the nearest scope on the way outwards binds it to. Binding a name in a scope is seen
from exactly those scopes from which the way reaches it before any other scope that binds
the name. Changing the value of a name is seen from exactly those scopes from which the
name is found where the change is made. All other lookups are as they were.
-/

namespace Lisplet

namespace Store

/-! ## Stores that were made -/

/-- The stores that arise by making scopes, binding names and changing their values. -/
inductive Made : Store → Prop
  | empty : Made .empty
  | enclose {store : Store} {parent : Option ScopeId} (hmade : Made store)
      (hparent : ∀ outer ∈ parent, outer < store.scopes.size) : Made (store.enclose parent []).1
  | define {store : Store} {s : ScopeId} (name : String) (value : Node) (hmade : Made store)
      (hs : s < store.scopes.size) : Made (store.define s name value)
  | assign {store after : Store} {s : ScopeId} {name : String} {value : Node}
      (hmade : Made store) (hassign : store.assign? s name value = some after) : Made after

/-- The parent of a scope was made before it. -/
def Nested (store : Store) : Prop :=
  ∀ (s : ScopeId) (scope : Scope) (outer : ScopeId),
    store.scopes[s]? = some scope → scope.parent = some outer → outer < s

variable {store : Store}

theorem Nested.define (hnested : store.Nested) (s : ScopeId) (name : String) (value : Node) :
    (store.define s name value).Nested := by
  intro t scope outer hscope hparent
  rw [getElem?_define] at hscope
  split at hscope
  · obtain ⟨old, hold, rfl⟩ := Option.map_eq_some_iff.mp hscope
    exact hnested t old outer hold hparent
  · exact hnested t scope outer hscope hparent

theorem Nested.enclose (hnested : store.Nested) {parent : Option ScopeId}
    (hparent : ∀ outer ∈ parent, outer < store.scopes.size) (bindings : List (String × Node)) :
    (store.enclose parent bindings).1.Nested := by
  intro t scope outer hscope houter
  rw [getElem?_enclose] at hscope
  split at hscope
  next hnew =>
    cases hscope
    rw [Scope.parent_ofBindings] at houter
    exact hnew ▸ hparent outer houter
  next => exact hnested t scope outer hscope houter

theorem exists_define_of_assign? {after : Store} {s : ScopeId} {name : String} {value : Node}
    (hassign : store.assign? s name value = some after) :
    ∃ home, store.resolve? name s = some home ∧ after = store.define home name value := by
  obtain ⟨home, hhome, rfl⟩ := Option.map_eq_some_iff.mp hassign
  exact ⟨home, hhome, rfl⟩

theorem Made.nested (hmade : store.Made) : store.Nested := by
  induction hmade with
  | empty =>
      intro s scope outer hscope
      cases hscope
  | enclose _ hparent ih => exact ih.enclose hparent []
  | define name value _ _ ih => exact ih.define _ name value
  | assign _ hassign ih =>
      obtain ⟨home, -, rfl⟩ := exists_define_of_assign? hassign
      exact ih.define home _ _

/-! ## The way outwards -/

theorem chain_eq (store : Store) (s : ScopeId) :
    store.chain s = s :: ((store.parent? s).map store.chain).getD [] := by
  rw [chain]
  split
  next hparent =>
    rw [hparent]
    rfl
  next outer hparent =>
    rw [hparent]
    rfl

/-- The way outwards from a scope leads on from its parent, if it has one. -/
theorem Nested.chain_eq (hnested : store.Nested) {s : ScopeId} {scope : Scope}
    (hscope : store.scopes[s]? = some scope) :
    store.chain s = s :: (scope.parent.map store.chain).getD [] := by
  have hparent : store.parent? s = scope.parent := by
    rw [parent?, hscope, Option.bind_some]
    cases hparent : scope.parent with
    | none => rfl
    | some outer =>
        exact Option.filter_some_pos (decide_eq_true (hnested s scope outer hscope hparent))
  rw [Store.chain_eq, hparent]

theorem chain_define (store : Store) (s t : ScopeId) (name : String) (value : Node) :
    (store.define s name value).chain t = store.chain t := by
  induction t using chain.induct store with
  | case1 t ih =>
      rw [chain_eq, chain_eq store, parent?_define]
      cases hparent : store.parent? t with
      | none => rfl
      | some outer => exact congrArg (t :: ·) (ih outer hparent)

/-- The nearest scope, from the given one outwards, that binds a name. -/
def nearest? (store : Store) (name : String) (t : ScopeId) : Option ScopeId :=
  (store.chain t).find? (store.defined · name)

/-- A name is found in the nearest scope that binds it. -/
theorem resolve?_eq_nearest? (store : Store) (name : String) (t : ScopeId) :
    store.resolve? name t = store.nearest? name t := by
  rw [nearest?]
  fun_induction resolve? store name t with
  | case1 t hhere => simp [chain_eq store t, hhere]
  | case2 t hhere hparent => simp [chain_eq store t, hhere, hparent]
  | case3 t hhere outer hparent ih => simp [chain_eq store t, hhere, hparent, ih]

theorem resolve?_eq_none_iff {s : ScopeId} {name : String} :
    store.resolve? name s = none ↔ ∀ u ∈ store.chain s, store.defined u name = false := by
  rw [resolve?_eq_nearest?, nearest?, List.find?_eq_none]
  simp only [Bool.not_eq_true]

/-- From one scope the way outwards reaches another before any scope that binds the name. -/
def Reaches (store : Store) (name : String) (t s : ScopeId) : Prop :=
  ∃ before after, store.chain t = before ++ s :: after ∧
    ∀ u ∈ before, store.defined u name = false

theorem reaches_iff_find? {name : String} {t s : ScopeId} :
    store.Reaches name t s ↔
      (store.chain t).find? (fun u => decide (u = s) || store.defined u name) = some s := by
  constructor
  · rintro ⟨before, after, hchain, hbefore⟩
    rw [hchain, List.find?_append]
    cases hfind : before.find? (fun u => decide (u = s) || store.defined u name) with
    | none => simp
    | some found =>
        -- before the scope there is nothing else to be found
        have hfound := List.find?_some hfind
        rw [hbefore found (List.mem_of_find?_eq_some hfind), Bool.or_false,
          decide_eq_true_eq] at hfound
        rw [hfound]
        rfl
  · intro hfind
    obtain ⟨-, before, after, hchain, hbefore⟩ := List.find?_eq_some_iff_append.mp hfind
    refine ⟨before, after, hchain, fun u hu => ?_⟩
    have hu := hbefore u hu
    rw [Bool.not_eq_true', Bool.or_eq_false_iff] at hu
    exact hu.2

instance (store : Store) (name : String) (t s : ScopeId) : Decidable (store.Reaches name t s) :=
  decidable_of_iff _ reaches_iff_find?.symm

theorem resolve?_eq_some_iff {name : String} {t s : ScopeId} :
    store.resolve? name t = some s ↔ store.defined s name = true ∧ store.Reaches name t s := by
  rw [resolve?_eq_nearest?, nearest?, List.find?_eq_some_iff_append]
  simp only [Reaches, Bool.not_eq_true']

/-! ## Binding a name -/

section

variable {s t : ScopeId} {name other : String}

/-- Where a scope comes to bind a name, the name is found there from where the way reaches
the scope. -/
theorem Reaches.resolve?_define (hreaches : store.Reaches name t s) (hs : s < store.scopes.size)
    (value : Node) : (store.define s name value).resolve? name t = some s := by
  rw [resolve?_eq_nearest?, nearest?, chain_define, ← reaches_iff_find?.mp hreaches]
  congr 1
  funext u
  simp [defined_define, hs]

theorem defined_eq_false_of_define {u : ScopeId} {value : Node}
    (hnot : (store.define s name value).defined u other = false) :
    store.defined u other = false := by
  rw [defined_define, Bool.or_eq_false_iff] at hnot
  exact hnot.2

/-- From everywhere else a name is found where it was. -/
theorem resolve?_define_of_not (hnot : ¬ (other = name ∧ store.Reaches name t s)) (value : Node) :
    (store.define s name value).resolve? other t = store.resolve? other t := by
  cases hfound : (store.define s name value).resolve? other t with
  | none =>
      rw [resolve?_eq_none_iff, chain_define] at hfound
      exact (resolve?_eq_none_iff.mpr fun u hu => defined_eq_false_of_define (hfound u hu)).symm
  | some home =>
      obtain ⟨hhome, before, after, hchain, hbefore⟩ := resolve?_eq_some_iff.mp hfound
      rw [chain_define] at hchain
      have hreaches : store.Reaches other t home :=
        ⟨before, after, hchain, fun u hu => defined_eq_false_of_define (hbefore u hu)⟩
      rw [defined_define, Bool.or_eq_true, decide_eq_true_eq] at hhome
      rcases hhome with ⟨rfl, rfl, -⟩ | hhome
      · exact absurd ⟨rfl, hreaches⟩ hnot
      · exact (resolve?_eq_some_iff.mpr ⟨hhome, hreaches⟩).symm

theorem Reaches.lookup?_define (hreaches : store.Reaches name t s) (hs : s < store.scopes.size)
    (value : Node) : (store.define s name value).lookup? t name = some value := by
  rw [lookup?, hreaches.resolve?_define hs, Option.bind_some, local?_define, if_pos ⟨rfl, rfl, hs⟩]

theorem lookup?_define_of_not (hnot : ¬ (other = name ∧ store.Reaches name t s)) (value : Node) :
    (store.define s name value).lookup? t other = store.lookup? t other := by
  rw [lookup?, lookup?, resolve?_define_of_not hnot]
  cases hfound : store.resolve? other t with
  | none => rfl
  | some home =>
      -- what is found is not the binding that was made, or the way would reach it
      rw [Option.bind_some, Option.bind_some, local?_define, if_neg]
      rintro ⟨rfl, rfl, -⟩
      exact hnot ⟨rfl, (resolve?_eq_some_iff.mp hfound).2⟩

end

end Store

/-! ## Updates and lookups -/

/-- What looking a name up in a scope of a world gives. -/
def World.valueOf (w : World) (s : ScopeId) (name : String) : Except Stop Node :=
  ((Effect.lookup s name).runIn w).1

/-- The error of looking for a name that no scope on the way binds. -/
def undefinedName (name : String) : Stop := .problem (.error { cause := .undefinedSymbol name })

theorem World.valueOf_eq (w : World) (s : ScopeId) (name : String) :
    w.valueOf s name =
      match w.store.lookup? s name with
      | some value => .ok value
      | none => .error (undefinedName name) := by
  rw [valueOf, Effect.lookup, Effect.runIn_get_bind]
  cases w.store.lookup? s name <;> rfl

theorem Effect.runIn_assign (w : World) (s : ScopeId) (name : String) (value : Node) :
    (assign s name value).runIn w =
      match w.store.assign? s name value with
      | some after => (.ok (), { w with store := after })
      | none => (.error (undefinedName name), w) := by
  rw [assign, runIn_get_bind, Store.assign?]
  cases w.store.resolve? name s <;> rfl

/-- Which lookups see that a name was bound in a scope. -/
theorem World.valueOf_define (w : World) {s : ScopeId} (hs : s < w.store.scopes.size)
    (name : String) (value : Node) :
    let after : World := { w with store := w.store.define s name value }
    (∀ t, w.store.Reaches name t s → after.valueOf t name = .ok value) ∧
      ∀ t other, ¬ (other = name ∧ w.store.Reaches name t s) →
        after.valueOf t other = w.valueOf t other := by
  refine ⟨fun t hreaches => ?_, fun t other hnot => ?_⟩
  · rw [valueOf_eq, hreaches.lookup?_define hs]
  · rw [valueOf_eq, valueOf_eq, Store.lookup?_define_of_not hnot]

/-- Binding a name in a scope gives it the new value in exactly the scopes from which the
way outwards reaches that scope before any other that binds the name. Changing the value of
a name is an error that changes nothing if no scope on the way outwards binds it. Otherwise
the name has the new value in exactly the scopes from which it is found in the same place,
and no scope binds other names than before. All other lookups are as they were. -/
theorem updates_seen (w : World) (hmade : w.store.Made) (s : ScopeId)
    (hs : s < w.store.scopes.size) (name : String) (value : Node) :
    (∀ (t : ScopeId) (scope : Scope), w.store.scopes[t]? = some scope →
      w.store.chain t = t :: (scope.parent.map w.store.chain).getD []) ∧
    (∃ after, (Effect.define s name value).runIn w = (.ok (), after) ∧
      (∀ t, w.store.Reaches name t s → after.valueOf t name = .ok value) ∧
      ∀ t other, ¬ (other = name ∧ w.store.Reaches name t s) →
        after.valueOf t other = w.valueOf t other) ∧
    ((∀ u ∈ w.store.chain s, w.store.defined u name = false) →
      (Effect.assign s name value).runIn w = (.error (undefinedName name), w)) ∧
    ((∃ u ∈ w.store.chain s, w.store.defined u name = true) →
      ∃ after, (Effect.assign s name value).runIn w = (.ok (), after) ∧
        (∀ t, w.store.nearest? name t = w.store.nearest? name s →
          after.valueOf t name = .ok value) ∧
        (∀ t other, ¬ (other = name ∧ w.store.nearest? name t = w.store.nearest? name s) →
          after.valueOf t other = w.valueOf t other) ∧
        ∀ t other, after.store.defined t other = w.store.defined t other) := by
  refine ⟨fun t scope => hmade.nested.chain_eq, ⟨_, rfl, w.valueOf_define hs name value⟩, ?_, ?_⟩
  · intro hnone
    rw [Effect.runIn_assign, Store.assign?, Store.resolve?_eq_none_iff.mpr hnone]
    rfl
  · rintro ⟨u, hu, hbinds⟩
    obtain ⟨home, hhome⟩ : ∃ home, w.store.resolve? name s = some home := by
      rw [← Option.ne_none_iff_exists', Ne, Store.resolve?_eq_none_iff]
      intro hnone
      rw [hnone u hu] at hbinds
      cases hbinds
    have hbound : w.store.defined home name = true := Store.defined_of_resolve? hhome
    -- the name is found in a scope that binds it from where the way reaches that scope
    have hnearest : ∀ t, w.store.nearest? name t = w.store.nearest? name s ↔
        w.store.Reaches name t home := by
      intro t
      rw [← Store.resolve?_eq_nearest?, ← Store.resolve?_eq_nearest?, hhome,
        Store.resolve?_eq_some_iff, and_iff_right hbound]
    obtain ⟨hseen, hunseen⟩ := w.valueOf_define (Store.lt_size_of_defined hbound) name value
    refine ⟨{ w with store := w.store.define home name value }, ?_, ?_, ?_, ?_⟩
    · rw [Effect.runIn_assign, Store.assign?, hhome]
      rfl
    · exact fun t hsame => hseen t ((hnearest t).mp hsame)
    · intro t other hother
      exact hunseen t other (by rwa [hnearest t] at hother)
    · exact fun t other => Store.defined_define_of_defined hbound t other value

/-- An outermost scope that binds a name, a scope inside it, and two scopes inside that one,
of which the second binds the name as well. -/
def familySample : World where
  store :=
    let outermost := (Store.empty.enclose none []).1
    let child := (outermost.enclose (some 0) []).1
    let siblings := (((child.enclose (some 1) []).1).enclose (some 1) []).1
    (siblings.define 0 "n" .nil).define 3 "n" (.bool false)

theorem familySample_made : familySample.store.Made := by
  refine .define _ _ (.define _ _ (.enclose (.enclose (.enclose (.enclose .empty ?_) ?_) ?_) ?_)
    (by decide)) (by decide)
  · rintro outer ⟨⟩
  · rintro outer ⟨⟩
    decide
  · rintro outer ⟨⟩
    decide
  · rintro outer ⟨⟩
    decide

theorem familySample_seen :
    familySample.store.Made ∧ 1 < familySample.store.scopes.size ∧
      (∃ after, (Effect.define 1 "n" (.bool true)).runIn familySample = (.ok (), after) ∧
        after.valueOf 2 "n" = .ok (.bool true) ∧
        ∀ t, t = 0 ∨ t = 3 → after.valueOf t "n" = familySample.valueOf t "n") ∧
      ∃ after, (Effect.assign 1 "n" (.bool true)).runIn familySample = (.ok (), after) ∧
        after.valueOf 0 "n" = .ok (.bool true) ∧ after.valueOf 2 "n" = .ok (.bool true) ∧
        after.valueOf 3 "n" = familySample.valueOf 3 "n" := by
  have hs : 1 < familySample.store.scopes.size := by decide
  obtain ⟨-, ⟨bound, hdefine, hseen, hunseen⟩, -, hassign⟩ :=
    updates_seen familySample familySample_made 1 hs "n" (.bool true)
  obtain ⟨changed, hassign, hchanged, hsame, -⟩ := hassign ⟨0, by decide +kernel, by decide +kernel⟩
  refine ⟨familySample_made, hs, ⟨bound, hdefine, hseen 2 (by decide +kernel), ?_⟩,
    changed, hassign, hchanged 0 (by decide +kernel), hchanged 2 (by decide +kernel),
    hsame 3 "n" (by decide +kernel)⟩
  rintro t (rfl | rfl)
  · exact hunseen 0 "n" (by decide +kernel)
  · exact hunseen 3 "n" (by decide +kernel)

end Lisplet
