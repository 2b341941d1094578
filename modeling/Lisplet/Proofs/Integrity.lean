import Lisplet.Proofs.Discipline.Evaluation
import Lisplet.Proofs.Reading.RoundTrip
import Lisplet.Proofs.ScopeOwnership

/-!
# Integrity of the store

Scopes and closures refer to scopes by number. In a sound world no such number is out of
range: what surrounds a scope was made before it, and closures, wherever they are kept,
were made in scopes that exist. Every session stays sound, whatever is done in it and
however that ends, and its scopes keep their parents and their names.

So the search for a name comes to an end from every scope without a check on the way,
and a name that was found once is found again after any evaluation.
-/

namespace Lisplet

open Effect

/-! ## Stores that grow -/

/-- The scopes of a store are still there in another, with their parents and with all
names they bind. -/
structure Store.GrowsTo (before after : Store) : Prop where
  size_le : before.scopes.size ≤ after.scopes.size
  parent_eq (s : ScopeId) : s < before.scopes.size →
    after.scopes[s]?.map Scope.parent = before.scopes[s]?.map Scope.parent
  bound (s : ScopeId) (name : String) : before.defined s name = true → after.defined s name = true

namespace Store

variable {store before middle after : Store} {s : ScopeId} {name : String}

theorem GrowsTo.refl (store : Store) : store.GrowsTo store where
  size_le := Nat.le_refl _
  parent_eq _ _ := rfl
  bound _ _ hdefined := hdefined

theorem GrowsTo.trans (hfirst : before.GrowsTo middle) (hsecond : middle.GrowsTo after) :
    before.GrowsTo after where
  size_le := Nat.le_trans hfirst.size_le hsecond.size_le
  parent_eq s hs := by
    rw [hsecond.parent_eq s (Nat.lt_of_lt_of_le hs hfirst.size_le), hfirst.parent_eq s hs]
  bound s name hdefined := hsecond.bound s name (hfirst.bound s name hdefined)

theorem growsTo_define (store : Store) (s : ScopeId) (name : String) (value : Node) :
    store.GrowsTo (store.define s name value) where
  size_le := by rw [size_define]
  parent_eq t _ := by
    rw [getElem?_define]
    split
    · rw [Option.map_map]
      rfl
    · rfl
  bound t other hdefined := by rw [defined_define, hdefined, Bool.or_true]

theorem growsTo_enclose (store : Store) (parent : Option ScopeId)
    (bindings : List (String × Node)) : store.GrowsTo (store.enclose parent bindings).1 where
  size_le := by
    rw [size_enclose]
    exact Nat.le_succ _
  parent_eq t ht := by rw [getElem?_enclose, if_neg (Nat.ne_of_lt ht)]
  bound t other hdefined := by
    rw [defined_enclose (lt_size_of_defined hdefined)]
    exact hdefined

theorem parent?_eq_join (store : Store) (s : ScopeId) :
    store.parent? s = ((store.scopes[s]?.map Scope.parent).join).filter (· < s) := by
  rw [parent?]
  cases store.scopes[s]? <;> rfl

theorem GrowsTo.parent?_eq (hgrows : before.GrowsTo after) (hs : s < before.scopes.size) :
    after.parent? s = before.parent? s := by
  rw [parent?_eq_join, parent?_eq_join, hgrows.parent_eq s hs]

/-- A name that is found is found in every store that this one grows to. -/
theorem GrowsTo.resolve?_isSome (hgrows : before.GrowsTo after) (hs : s < before.scopes.size)
    (hfound : (before.resolve? name s).isSome = true) :
    (after.resolve? name s).isSome = true := by
  -- a scope on the way may have come to bind the name, and then it is found sooner
  fun_induction resolve? before name s with
  | case1 s hhere =>
      rw [resolve?, if_pos (hgrows.bound s name hhere)]
      rfl
  | case2 => cases hfound
  | case3 s _ outer houter ih =>
      have hnext := ih (Nat.lt_trans (lt_of_parent? houter) hs) hfound
      rw [← hgrows.parent?_eq hs] at houter
      rw [resolve?]
      split
      · rfl
      · split
        next hnone => rw [houter] at hnone; cases hnone
        next found hsome =>
          rw [houter] at hsome
          cases hsome
          exact hnext

theorem isSome_resolve?_of_lookup? (hfound : (store.lookup? s name).isSome = true) :
    (store.resolve? name s).isSome = true := by
  rw [lookup?] at hfound
  cases hresolve : store.resolve? name s with
  | none => simp [hresolve] at hfound
  | some home => rfl

end Store

/-! ## Sound worlds -/

namespace World

/-- The closures in a node were all made in this world, in scopes that exist. -/
def Knows (w : World) (node : Node) : Prop :=
  (∀ s ∈ node.homes, s < w.store.scopes.size) ∧ ∀ i ∈ node.identities, i < w.closures

instance (w : World) (node : Node) : Decidable (w.Knows node) := inferInstanceAs (Decidable (_ ∧ _))

/-- What surrounds a scope was made before it, and the values that scopes bind hold no
closures but those made in this world. -/
structure Sound (w : World) : Prop where
  parent_lt {s outer : ScopeId} {scope : Scope} : w.store.scopes[s]? = some scope →
    scope.parent = some outer → outer < s
  knows {s : ScopeId} {scope : Scope} {binding : String × Node} :
    w.store.scopes[s]? = some scope → binding ∈ scope.bindings → w.Knows binding.2

variable {w w' : World}

theorem Knows.mono {node : Node} (hknows : w.Knows node)
    (hsize : w.store.scopes.size ≤ w'.store.scopes.size) (hclosures : w.closures ≤ w'.closures) :
    w'.Knows node :=
  ⟨fun s hs => Nat.lt_of_lt_of_le (hknows.1 s hs) hsize,
    fun i hi => Nat.lt_of_lt_of_le (hknows.2 i hi) hclosures⟩

@[simp]
theorem knows_atom (token : Option Token) (a : Atom) : w.Knows (.atom token a) := by
  simp [Knows, Node.homes, Node.identities]

@[simp]
theorem knows_list {token : Option Token} {items : List Node} :
    w.Knows (.list token items) ↔ ∀ item ∈ items, w.Knows item := by
  simp only [Knows, Node.homes, Node.identities, Node.homesAll_eq, Node.identitiesAll_eq,
    List.mem_flatMap]
  grind

@[simp]
theorem knows_closure {token : Option Token} {identity : Nat} {params : List String}
    {body : List Node} {home : ScopeId} :
    w.Knows (.closure token identity params body home) ↔
      home < w.store.scopes.size ∧ identity < w.closures ∧ ∀ expr ∈ body, w.Knows expr := by
  simp only [Knows, Node.homes, Node.identities, Node.homesAll_eq, Node.identitiesAll_eq,
    List.forall_mem_cons, List.mem_flatMap]
  grind

end World

namespace World

variable {w : World}

theorem Sound.define (hsound : w.Sound) (s : ScopeId) (name : String) {value : Node}
    (hvalue : w.Knows value) : Sound { w with store := w.store.define s name value } := by
  have hstill : ∀ node, w.Knows node → Knows { w with store := w.store.define s name value } node :=
    fun node hnode => hnode.mono (by simp) (Nat.le_refl _)
  constructor
  case parent_lt =>
    intro t outer scope hscope hparent
    rw [Store.getElem?_define] at hscope
    split at hscope
    · obtain ⟨old, hold, rfl⟩ := Option.map_eq_some_iff.mp hscope
      exact hsound.parent_lt hold hparent
    · exact hsound.parent_lt hscope hparent
  case knows =>
    intro t scope binding hscope hbinding
    apply hstill
    rw [Store.getElem?_define] at hscope
    split at hscope
    · obtain ⟨old, hold, rfl⟩ := Option.map_eq_some_iff.mp hscope
      rcases Scope.mem_insert hbinding with rfl | hbinding
      · exact hvalue
      · exact hsound.knows hold hbinding
    · exact hsound.knows hscope hbinding

theorem Sound.enclose (hsound : w.Sound) {parent : Option ScopeId}
    {bindings : List (String × Node)}
    (hparent : ∀ outer, parent = some outer → outer < w.store.scopes.size)
    (hbindings : ∀ binding ∈ bindings, w.Knows binding.2) :
    Sound { w with store := (w.store.enclose parent bindings).1 } := by
  have hstill : ∀ node, w.Knows node →
      Knows { w with store := (w.store.enclose parent bindings).1 } node :=
    fun node hnode => hnode.mono (Store.growsTo_enclose ..).size_le (Nat.le_refl _)
  constructor
  case parent_lt =>
    intro t outer scope hscope houter
    rw [Store.getElem?_enclose] at hscope
    split at hscope
    next hlast =>
      cases hscope
      rw [Scope.parent_ofBindings] at houter
      exact hlast ▸ hparent outer houter
    next => exact hsound.parent_lt hscope houter
  case knows =>
    intro t scope binding hscope hbinding
    apply hstill
    rw [Store.getElem?_enclose] at hscope
    split at hscope
    · cases hscope
      exact hbindings binding (Scope.mem_of_mem_ofBindings hbinding)
    · exact hsound.knows hscope hbinding

theorem Sound.lookup? (hsound : w.Sound) {s : ScopeId} {name : String} {value : Node}
    (hfound : w.store.lookup? s name = some value) : w.Knows value := by
  obtain ⟨home, -, hlocal⟩ := Option.bind_eq_some_iff.mp hfound
  obtain ⟨scope, hscope, hmem⟩ := Store.exists_mem_of_local? hlocal
  exact hsound.knows hscope hmem

end World

/-- Evaluations keep worlds sound and only let them grow. -/
def Discipline.integrity : Discipline where
  world := World.Sound
  grows w w' := w.store.GrowsTo w'.store ∧ w.closures ≤ w'.closures
  scope w s := s < w.store.scopes.size
  node := World.Knows
  stop _ := True
  grows_refl w := ⟨.refl _, Nat.le_refl _⟩
  grows_trans hfirst hsecond := ⟨hfirst.1.trans hsecond.1, Nat.le_trans hfirst.2 hsecond.2⟩
  scope_mono hgrows hscope := Nat.lt_of_lt_of_le hscope hgrows.1.size_le
  node_mono hgrows hnode := hnode.mono hgrows.1.size_le hgrows.2
  atom_made _ := World.knows_atom _ _
  ofList hitems := World.knows_list.mpr hitems
  items hlist := World.knows_list.mp hlist
  body hclosure := by
    obtain ⟨hhome, -, hbody⟩ := World.knows_closure.mp hclosure
    exact ⟨hhome, hbody⟩
  exhausted := trivial
  overflown _ := trivial
  textless _ _ := trivial
  raised _ := trivial
  raisedAt _ _ := trivial
  unknown _ _ _ _ := trivial
  refused _ _ := trivial
  failed _ := trivial
  placed _ _ := trivial
  noted _ hsound := ⟨⟨.refl _, Nat.le_refl _⟩, hsound.parent_lt, hsound.knows⟩
  written _ _ hsound := ⟨⟨.refl _, Nat.le_refl _⟩, hsound.parent_lt, hsound.knows⟩
  found hsound _ _ hfound := hsound.lookup? hfound
  listed _ _ := World.knows_atom _ _
  defined {_ _} name {_} hsound _ hvalue :=
    ⟨⟨Store.growsTo_define .., Nat.le_refl _⟩, hsound.define _ name hvalue⟩
  assigned hsound _ _ hvalue :=
    ⟨⟨Store.growsTo_define .., Nat.le_refl _⟩, hsound.define _ _ hvalue⟩
  enclosed {w parent bindings} hsound hparent hbindings := by
    refine ⟨⟨Store.growsTo_enclose .., Nat.le_refl _⟩, hsound.enclose ?_ hbindings, by simp⟩
    rintro outer ⟨⟩
    exact hparent
  numbered {w _} hsound _ := by
    have hstill : ∀ node, w.Knows node → World.Knows { w with closures := w.closures + 1 } node :=
      fun node hnode => hnode.mono (Nat.le_refl _) (Nat.le_succ _)
    refine ⟨⟨.refl _, Nat.le_succ _⟩, ⟨hsound.parent_lt, ?_⟩, ?_⟩
    · exact fun hscope hbinding => hstill _ (hsound.knows hscope hbinding)
    · intro parameters names body s _ _ hbody hscope
      exact World.knows_closure.mpr ⟨hscope, Nat.lt_succ_self _, fun expr h => hstill _ (hbody _ h)⟩

/-! ## Finding names -/

/-- Where a name is found on the way outwards from a scope. Nothing but the parents on
the way says that it comes to an end. -/
inductive Store.Finds (store : Store) (name : String) : ScopeId → Option ScopeId → Prop
  | here {s : ScopeId} (hname : store.defined s name = true) : Finds store name s (some s)
  | nowhere {s : ScopeId} {scope : Scope} (hscope : store.scopes[s]? = some scope)
      (hname : ¬ store.defined s name = true) (hparent : scope.parent = none) :
      Finds store name s none
  | outward {s outer : ScopeId} {scope : Scope} {found : Option ScopeId}
      (hscope : store.scopes[s]? = some scope) (hname : ¬ store.defined s name = true)
      (hparent : scope.parent = some outer) (hfound : Finds store name outer found) :
      Finds store name s found

section

variable {w : World} {s : ScopeId} {name : String}

theorem World.Sound.parent?_eq (hsound : w.Sound) {scope : Scope}
    (hscope : w.store.scopes[s]? = some scope) : w.store.parent? s = scope.parent := by
  rw [Store.parent?, hscope, Option.bind_some]
  cases hparent : scope.parent with
  | none => rfl
  | some outer => exact Option.filter_some_pos (decide_eq_true (hsound.parent_lt hscope hparent))

theorem World.Sound.finds_resolve? (hsound : w.Sound) (hs : s < w.store.scopes.size) :
    w.store.Finds name s (w.store.resolve? name s) := by
  fun_induction Store.resolve? w.store name s with
  | case1 s hhere => exact .here hhere
  | case2 s hhere hparent =>
      have hscope := Array.getElem?_eq_getElem hs
      rw [hsound.parent?_eq hscope] at hparent
      exact .nowhere hscope hhere hparent
  | case3 s hhere outer hparent ih =>
      have houter := Store.lt_of_parent? hparent
      have hscope := Array.getElem?_eq_getElem hs
      rw [hsound.parent?_eq hscope] at hparent
      exact .outward hscope hhere hparent (ih (Nat.lt_trans houter hs))

theorem Store.Finds.eq {store : Store} {found found' : Option ScopeId}
    (hfound : store.Finds name s found) (hfound' : store.Finds name s found') :
    found = found' := by
  induction hfound with
  | here hname =>
      cases hfound' with
      | here => rfl
      | nowhere _ hnot => exact absurd hname hnot
      | outward _ hnot => exact absurd hname hnot
  | nowhere hscope hname hparent =>
      cases hfound' with
      | here hbound => exact absurd hbound hname
      | nowhere => rfl
      | outward hscope' _ hparent' =>
          cases hscope.symm.trans hscope'
          cases hparent.symm.trans hparent'
  | outward hscope hname hparent _ ih =>
      cases hfound' with
      | here hbound => exact absurd hbound hname
      | nowhere hscope' _ hparent' =>
          cases hscope.symm.trans hscope'
          cases hparent.symm.trans hparent'
      | outward hscope' _ hparent' hrest =>
          cases hscope.symm.trans hscope'
          cases hparent.symm.trans hparent'
          exact ih hrest

/-- From every scope of a sound world the way outwards comes to an end, where the search
for the name says. -/
theorem World.Sound.finds_iff (hsound : w.Sound) (hs : s < w.store.scopes.size)
    {found : Option ScopeId} : w.store.Finds name s found ↔ found = w.store.resolve? name s := by
  constructor
  · exact fun hfound => hfound.eq (hsound.finds_resolve? hs)
  · rintro rfl
    exact hsound.finds_resolve? hs

end

/-! ## Evaluations -/

/-- The closures in a task were all made in this world. -/
def World.KnowsTask (w : World) : Task → Prop
  | .evaluate expr => w.Knows expr
  | .apply function args => w.Knows function ∧ ∀ arg ∈ args, w.Knows arg

/-- What becomes of a sound world: it stays sound, it only grows, and it knows the value
that is given, if one is. -/
structure World.Continues {ε : Type} (w : World) (result : Except ε Node) (after : World) :
    Prop where
  sound : after.Sound
  grows : w.store.GrowsTo after.store
  closures_le : w.closures ≤ after.closures
  knows {value : Node} : result = .ok value → after.Knows value

section

variable {w : World} {env : ScopeId}

theorem World.Sound.continues_of_keeps {effect : Effect Node} (hsound : w.Sound)
    (hkeeps : Discipline.integrity.Keeps Discipline.integrity.node effect w) :
    w.Continues (effect.runIn w).1 (effect.runIn w).2 := by
  obtain ⟨⟨hgrows, hclosures⟩, hafter, hresult⟩ := hkeeps hsound
  refine ⟨hafter, hgrows, hclosures, ?_⟩
  intro value hvalue
  rw [hvalue] at hresult
  exact hresult

theorem World.Sound.perform_continues (hsound : w.Sound) (henv : env < w.store.scopes.size)
    (depth : Nat) {task : Task} (htask : w.KnowsTask task) :
    w.Continues ((perform depth task env).runIn w).1 ((perform depth task env).runIn w).2 := by
  refine hsound.continues_of_keeps (Discipline.served_perform depth ?_ henv)
  cases task with
  | evaluate expr => exact htask
  | apply function args => exact htask

theorem runIn_assign_of_resolve? {name : String} (value : Node)
    (hfound : (w.store.resolve? name env).isSome = true) :
    ((assign env name value).runIn w).1 = .ok () := by
  obtain ⟨home, hhome⟩ := Option.isSome_iff_exists.mp hfound
  rw [assign, runIn_get_bind, hhome]
  rfl

/-- A name that is found before an expression is evaluated is found afterwards. -/
theorem World.Sound.resolve?_after (hsound : w.Sound) (henv : env < w.store.scopes.size)
    (depth : Nat) {operand : Node} (hoperand : w.Knows operand) {name : String}
    (hfound : (w.store.lookup? env name).isSome = true) :
    (((evaluate depth operand env).runIn w).2.store.resolve? name env).isSome = true := by
  have htask : w.KnowsTask (.evaluate operand) := hoperand
  have hgrows := (hsound.perform_continues henv depth htask).grows
  exact hgrows.resolve?_isSome henv (Store.isSome_resolve?_of_lookup? hfound)

theorem symbolOf_eq {node : Node} {name : String} (hname : node.symbol? = some name)
    (form : String) : symbolOf form node = pure name := by
  rw [symbolOf, hname]

/-- The value of an assignment is that of its operand, provided that the name is found
before and after the operand is evaluated. -/
theorem runIn_assignment {evaluator : Evaluator} {target operand : Node} {name : String}
    (htarget : target.symbol? = some name) (hfound : (w.store.lookup? env name).isSome = true)
    (hafter : (((evaluator (.evaluate operand) env).runIn w).2.store.resolve? name env).isSome
      = true) :
    ((SpecialForm.assignment.run evaluator env [target, operand]).runIn w).1 =
      ((evaluator (.evaluate operand) env).runIn w).1.bind fun value =>
        if value.hasText then .ok value else .error (.fault .unknownNode) := by
  have hlookup : (discard (located target (lookup env name))).runIn w = (.ok (), w) := by
    obtain ⟨old, hold⟩ := Option.isSome_iff_exists.mp hfound
    have hfirst : (lookup env name).runIn w = (.ok old, w) := by
      rw [lookup, runIn_get_bind, hold]
      rfl
    change (located target (lookup env name) >>= fun _ => pure ()).runIn w = _
    rw [runIn_bind, runIn_located, hfirst]
    rfl
  simp only [SpecialForm.run, symbolOf_eq htarget, pure_bind]
  rw [runIn_bind, hlookup]
  simp only
  rw [runIn_bind]
  generalize (evaluator (.evaluate operand) env).runIn w = run at hafter ⊢
  obtain ⟨stop | value, after⟩ := run
  · rfl
  · simp only [textOf, Except.bind]
    split
    · -- what is logged in between does not touch the scopes
      have hassign : ∀ log, ((assign env name value).runIn { after with log }).1 = .ok () :=
        fun log => runIn_assign_of_resolve? value hafter
      rw [pure_bind, runIn_bind]
      change ((located target (assign env name value) >>= fun _ => pure value).runIn
        { after with log := _ }).1 = _
      rw [runIn_bind, runIn_located, hassign]
      rfl
    · rfl

end

/-! ## Sessions -/

/-- What can be done in a session. -/
inductive Session.Action where
  /-- Read a program and run it. -/
  | run (depth : Nat) (source : Source)
  /-- Evaluate an expression or apply a function in a scope. -/
  | perform (depth : Nat) (task : Task) (env : ScopeId)
  /-- Bind a name in a scope. -/
  | define (env : ScopeId) (name : String) (value : Node)
  /-- Make an empty scope, perhaps inside another. -/
  | enclose (outer : Option ScopeId)

namespace Session

/-- Do something in a session. -/
def take (session : Session) : Action → Except Interruption Node × Session
  | .run depth source => session.run depth source
  | .perform depth task env =>
    let (result, after) := session.act (Lisplet.perform depth task env)
    (result.mapError .stopped, after)
  | .define env name value => (.ok .nil, (session.act (Effect.define env name value)).2)
  | .enclose outer =>
    let store := (session.world.store.enclose outer []).1
    (.ok .nil, { session with world := { session.world with store } })

/-- Whether the scopes that an action names exist and the closures it brings along were
made in the session. -/
def Permits (session : Session) : Action → Prop
  | .run .. => True
  | .perform _ task env => env < session.world.store.scopes.size ∧ session.world.KnowsTask task
  | .define env _ value => env < session.world.store.scopes.size ∧ session.world.Knows value
  | .enclose outer => ∀ s, outer = some s → s < session.world.store.scopes.size

/-- Sessions that actions lead to from a session. -/
inductive Leads (first : Session) : Session → Prop
  | here : Leads first first
  | step {session : Session} {action : Action} (hleads : Leads first session)
      (hpermits : session.Permits action) : Leads first (session.take action).2

/-- Sessions that actions lead to from a new one. A host cannot bring closures along. -/
def Reachable (session : Session) : Prop :=
  ∃ host sink, (∀ bindings, host = some bindings →
    ∀ binding ∈ bindings, World.Knows {} binding.2) ∧ (start host sink).Leads session

end Session

namespace Node

mutual

/-- A node that can be written holds no closures. -/
theorem no_closures_of_isWritable : {node : Node} → node.isWritable = true →
    node.homes = [] ∧ node.identities = []
  | .atom .., _ => ⟨rfl, rfl⟩
  | .list .., hitems => no_closures_of_areWritable hitems
  | .closure .., hclosure => by cases hclosure

theorem no_closures_of_areWritable : {nodes : List Node} → areWritable nodes = true →
    homesAll nodes = [] ∧ identitiesAll nodes = []
  | [], _ => ⟨rfl, rfl⟩
  | node :: rest, hnodes => by
    rw [areWritable, Bool.and_eq_true] at hnodes
    obtain ⟨hhomes, hidentities⟩ := no_closures_of_isWritable hnodes.1
    obtain ⟨hrest, hrest'⟩ := no_closures_of_areWritable hnodes.2
    rw [homesAll, identitiesAll, hhomes, hidentities, hrest, hrest']
    exact ⟨rfl, rfl⟩

end

end Node

/-- Programs that were read can be run in every world. -/
theorem World.knows_of_read {source : Source} {program : Node}
    (hread : Program.read source = .ok program) (w : World) :
    ∀ form ∈ program.items?.getD [], w.Knows form := by
  have hprogram := isProgram_of_read hread
  unfold Node.isProgram at hprogram
  split at hprogram
  next token items =>
    obtain ⟨hhomes, hidentities⟩ := Node.no_closures_of_areWritable hprogram
    have hlist : w.Knows (.list token items) := by
      rw [World.Knows, Node.homes, Node.identities, hhomes, hidentities]
      simp
    exact World.knows_list.mp hlist
  next => cases hprogram

theorem World.Continues.mapError {ε ε' : Type} {w after : World} {result : Except ε Node}
    (hcontinues : w.Continues result after) (wrap : ε → ε') :
    w.Continues (result.mapError wrap) after where
  sound := hcontinues.sound
  grows := hcontinues.grows
  closures_le := hcontinues.closures_le
  knows {value} hvalue := by
    cases result with
    | error => cases hvalue
    | ok a =>
        cases hvalue
        exact hcontinues.knows rfl

namespace Session

variable {session : Session}

theorem run_continues (hsound : session.world.Sound)
    (hroot : session.root < session.world.store.scopes.size) (depth : Nat) (source : Source) :
    session.world.Continues (session.run depth source).1 (session.run depth source).2.world := by
  unfold run
  split
  next error _ => exact ⟨hsound, .refl _, Nat.le_refl _, by simp⟩
  next program hread =>
    have hkeeps : Discipline.integrity.Keeps Discipline.integrity.node
        (evaluateForms depth session.root .nil (program.items?.getD [])) session.world :=
      Discipline.keeps_evaluateForms depth hroot (World.knows_atom _ _)
        (World.knows_of_read hread session.world)
    exact (hsound.continues_of_keeps hkeeps).mapError Interruption.stopped

/-- What a permitted action does to a session. -/
theorem take_continues (hsound : session.world.Sound)
    (hroot : session.root < session.world.store.scopes.size) {action : Action}
    (hpermits : session.Permits action) :
    session.world.Continues (session.take action).1 (session.take action).2.world := by
  have hnil : ∀ {value : Node} {after : World},
      (.ok .nil : Except Interruption Node) = .ok value → after.Knows value := by
    rintro _ _ ⟨⟩
    exact World.knows_atom _ _
  cases action with
  | run depth source => exact run_continues hsound hroot depth source
  | perform depth task env =>
      exact (hsound.perform_continues hpermits.1 depth hpermits.2).mapError Interruption.stopped
  | define env name value =>
      exact ⟨hsound.define env name hpermits.2, Store.growsTo_define .., Nat.le_refl _, hnil⟩
  | enclose outer =>
      exact ⟨hsound.enclose hpermits (by simp), Store.growsTo_enclose .., Nat.le_refl _, hnil⟩

theorem root_take (session : Session) (action : Action) :
    (session.take action).2.root = session.root := by
  cases action with
  | run depth source =>
      simp only [take, run]
      split <;> rfl
  | perform => rfl
  | define => rfl
  | enclose => rfl

/-- A session that actions lead to is as sound as the first one and has grown from it. -/
theorem Leads.continues {first : Session} (hleads : first.Leads session)
    (hsound : first.world.Sound) (hroot : first.root < first.world.store.scopes.size) :
    session.world.Sound ∧ session.root < session.world.store.scopes.size ∧
      first.world.store.GrowsTo session.world.store := by
  induction hleads with
  | here => exact ⟨hsound, hroot, .refl _⟩
  | @step session action _ hpermits ih =>
      obtain ⟨hsound, hroot, hgrows⟩ := ih
      have hstep := take_continues hsound hroot hpermits
      refine ⟨hstep.sound, ?_, hgrows.trans hstep.grows⟩
      rw [root_take]
      exact Nat.lt_of_lt_of_le hroot hstep.grows.size_le

theorem knows_initialBindings (w : World) : ∀ binding ∈ initialBindings, w.Knows binding.2 := by
  intro binding hbinding
  rcases List.mem_append.mp hbinding with hbuiltin | hconstant
  · obtain ⟨function, -, rfl⟩ := List.mem_map.mp hbuiltin
    exact World.knows_atom _ _
  · simp only [List.mem_cons, List.not_mem_nil, or_false] at hconstant
    rcases hconstant with rfl | rfl | rfl <;> exact World.knows_atom _ _

theorem start_sound {host : Option (List (String × Node))} (sink : Sink)
    (hhost : ∀ bindings, host = some bindings → ∀ binding ∈ bindings, World.Knows {} binding.2) :
    (start host sink).world.Sound ∧
      (start host sink).root < (start host sink).world.store.scopes.size := by
  have hempty : World.Sound { sink } := ⟨fun hscope => by simp [Store.empty] at hscope,
    fun hscope => by simp [Store.empty] at hscope⟩
  cases host with
  | none =>
      refine ⟨hempty.enclose (by simp) (knows_initialBindings _), ?_⟩
      simp [start, Store.enclose]
  | some bindings =>
      have houter : World.Sound { store := (Store.empty.enclose none bindings).1, sink } :=
        hempty.enclose (by simp) (hhost bindings rfl)
      refine ⟨houter.enclose ?_ (knows_initialBindings _), ?_⟩
      · rintro outer ⟨⟩
        simp [Store.enclose]
      · simp [start, Store.enclose]

theorem Reachable.sound (hreachable : session.Reachable) :
    session.world.Sound ∧ session.root < session.world.store.scopes.size := by
  obtain ⟨host, sink, hhost, hleads⟩ := hreachable
  obtain ⟨hstart, hroot⟩ := start_sound sink hhost
  obtain ⟨hsound, hroot, -⟩ := hleads.continues hstart hroot
  exact ⟨hsound, hroot⟩

end Session

/-- Whatever is done in a session, and whether it succeeds or fails, the session stays
sound and its scopes keep their parents and their names. So do sound worlds under every
evaluation; moreover the search for a name ends from all of their scopes, and an assignment
to a name that is found cannot fail to change it after its operand was evaluated. -/
theorem store_integrity :
    (∀ session : Session, session.Reachable →
      session.world.Sound ∧ session.root < session.world.store.scopes.size ∧
      (∀ action, session.Permits action →
        session.world.Continues (session.take action).1 (session.take action).2.world) ∧
      ∀ later, session.Leads later → session.world.store.GrowsTo later.world.store) ∧
    ∀ w : World, w.Sound → ∀ env < w.store.scopes.size,
      (∀ depth task, w.KnowsTask task →
        w.Continues ((perform depth task env).runIn w).1 ((perform depth task env).runIn w).2) ∧
      (∀ name found, w.store.Finds name env found ↔ found = w.store.resolve? name env) ∧
      ∀ depth target operand name, w.Knows operand → target.symbol? = some name →
        (w.store.lookup? env name).isSome = true →
        let run := (evaluate depth operand env).runIn w
        (∀ value, ((assign env name value).runIn run.2).1 = .ok ()) ∧
        ((SpecialForm.assignment.run (perform depth) env [target, operand]).runIn w).1 =
          run.1.bind fun value =>
            if value.hasText then .ok value else .error (.fault .unknownNode) := by
  constructor
  · intro session hreachable
    obtain ⟨hsound, hroot⟩ := hreachable.sound
    refine ⟨hsound, hroot, ?_, ?_⟩
    · exact fun action hpermits => Session.take_continues hsound hroot hpermits
    · exact fun later hlater => (hlater.continues hsound hroot).2.2
  · intro w hsound env henv
    refine ⟨?_, ?_, ?_⟩
    · exact fun depth task htask => hsound.perform_continues henv depth htask
    · exact fun name found => hsound.finds_iff henv
    · intro depth target operand name hoperand htarget hfound run
      have hafter := hsound.resolve?_after henv depth hoperand hfound
      exact ⟨fun value => runIn_assign_of_resolve? value hafter,
        runIn_assignment htarget hfound hafter⟩

/-- A session with a function that counts in a scope of its own. -/
def counterSample : Session :=
  ((Session.start none .accepting).take
    (.run 9 (.ofString "(define next (let ((n 0)) (lambda () (setf! n (+ n 1)))))"))).2

theorem counterSample_reachable : counterSample.Reachable :=
  ⟨none, .accepting, by simp, .step .here trivial⟩

/-- A call of that function. -/
def countSample : Node := .ofList [.symbol "next"]

/-- The function is found from its own scope, a call of it leaves the session sound, and the
number it counts with can be set to the value of such a call, which sets it as well. -/
theorem counterSample_integrity :
    counterSample.Reachable ∧
    (counterSample.world.store.lookup? 1 "n").isSome = true ∧
    counterSample.world.store.Finds "next" 1 (some 0) ∧
    counterSample.world.Continues ((evaluate 9 countSample 1).runIn counterSample.world).1
      ((evaluate 9 countSample 1).runIn counterSample.world).2 ∧
    ∀ value, ((assign 1 "n" value).runIn
      ((evaluate 9 countSample 1).runIn counterSample.world).2).1 = .ok () := by
  have hsize : 1 < counterSample.world.store.scopes.size := by decide +kernel
  have hfound : (counterSample.world.store.lookup? 1 "n").isSome = true := by decide +kernel
  have hnext : counterSample.world.store.resolve? "next" 1 = some 0 := by decide +kernel
  have hcall : counterSample.world.Knows countSample := by decide
  obtain ⟨hsound, -, -, -⟩ := store_integrity.1 counterSample counterSample_reachable
  obtain ⟨hruns, hfinds, hassign⟩ := store_integrity.2 counterSample.world hsound 1 hsize
  refine ⟨counterSample_reachable, hfound, ?_, hruns 9 (.evaluate countSample) hcall, ?_⟩
  · exact (hfinds "next" (some 0)).mpr hnext.symm
  · exact (hassign 9 (.symbol "n") countSample "n" hcall rfl hfound).1

end Lisplet
