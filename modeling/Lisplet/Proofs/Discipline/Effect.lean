import Lisplet.Proofs.Simulation.Effect

/-!
# What effects keep to

A discipline says which worlds may come up, which scopes and nodes may be around in a
world, and in which ways an evaluation may stop. Worlds grow, and what may be around in
one may be around in all that it grows into. An effect keeps to a discipline if it turns
permitted worlds into permitted worlds, whether it gives a value or stops.

In contrast to a simulation, where what corresponds is settled once and for all, a value
is judged here in the world in which it is given.
-/

namespace Lisplet

open Effect

/-- Whether a cause says that a node is no expression. -/
def RuntimeCause.isUnknown : RuntimeCause → Bool
  | unknownElement _ => true
  | _ => false

@[simp]
theorem RuntimeCause.isUnknown_arity (function : String) (least most got : Nat) :
    (arity function least most got).isUnknown = false := by
  unfold arity
  split <;> rfl

/-- Whether an atom is one that evaluations make. -/
def Atom.isMade : Atom → Bool
  | nil | bool _ | number _ => true
  | _ => false

/-- What evaluations keep to. -/
structure Discipline where
  /-- Worlds that may come up. -/
  world : World → Prop
  /-- Worlds that a world may turn into. -/
  grows : World → World → Prop
  /-- Scopes that evaluations may run in. -/
  scope : World → ScopeId → Prop
  /-- Nodes that may be around. -/
  node : World → Node → Prop
  /-- Ways to stop. -/
  stop : Stop → Prop
  grows_refl (w : World) : grows w w
  grows_trans {w w' w'' : World} : grows w w' → grows w' w'' → grows w w''
  scope_mono {w w' : World} {s : ScopeId} : grows w w' → scope w s → scope w' s
  node_mono {w w' : World} {expr : Node} : grows w w' → node w expr → node w' expr
  atom_made {w : World} {a : Atom} : a.isMade = true → node w (.atom none a)
  ofList {w : World} {items : List Node} : (∀ item ∈ items, node w item) → node w (.ofList items)
  items {w : World} {token : Option Token} {items : List Node} : node w (.list token items) →
    ∀ item ∈ items, node w item
  body {w : World} {token : Option Token} {identity : Nat} {params : List String}
    {body : List Node} {home : ScopeId} : node w (.closure token identity params body home) →
    scope w home ∧ ∀ expr ∈ body, node w expr
  exhausted : stop .exhausted
  overflown {a b : Decimal} {exponent : Int} : a.mul b = .error exponent →
    stop (.fault (.exponentOverflow exponent))
  textless {w : World} {expr : Node} : node w expr → expr.hasText = false →
    stop (.fault .unknownNode)
  raised {cause : RuntimeCause} : cause.isUnknown = false →
    stop (.problem (.error { cause }))
  raisedAt {w : World} {expr : Node} {cause : RuntimeCause} : node w expr →
    cause.isUnknown = false → stop (.problem (.error { cause, token := expr.token? }))
  unknown {w : World} {token : Option Token} {a : Atom} (text : String) :
    node w (.atom token a) → (∀ name, a ≠ .symbol name) → a.kind.isConstant = false →
    stop (.problem (.error { cause := .unknownElement text, token }))
  refused {w : World} {reason : String} : world w → w.sink = .limited 0 reason →
    stop (.problem (.failure reason))
  failed {w : World} {token : Option Token} {identity : Nat} {title : String} :
    node w (.atom token (.primitive (.host identity title .failing))) →
    stop (.problem (.failure (title ++ ": host failure")))
  placed {w : World} {expr : Node} {met : Stop} : node w expr → stop met →
    stop (met.locate expr.token?)
  noted {w : World} (line : String) : world w →
    grows w { w with log := w.log.push line } ∧ world { w with log := w.log.push line }
  written {w : World} (text : String) (sink : Sink) : world w →
    grows w { w with output := w.output.push text, sink } ∧
      world { w with output := w.output.push text, sink }
  found {w : World} {s : ScopeId} {token : Option Token} {name : String} {value : Node} :
    world w → scope w s → node w (.atom token (.symbol name)) →
    w.store.lookup? s name = some value → node w value
  listed {w : World} {token : Option Token} {identity : Nat} {title : String} (name : String) :
    node w (.atom token (.primitive (.host identity title .names))) → node w (.symbol name)
  defined {w : World} {s : ScopeId} (name : String) {value : Node} : world w → scope w s →
    node w value → grows w { w with store := w.store.define s name value } ∧
      world { w with store := w.store.define s name value }
  assigned {w : World} {s home : ScopeId} {name : String} {value : Node} : world w → scope w s →
    w.store.resolve? name s = some home → node w value →
    grows w { w with store := w.store.define home name value } ∧
      world { w with store := w.store.define home name value }
  enclosed {w : World} {parent : ScopeId} {bindings : List (String × Node)} : world w →
    scope w parent → (∀ binding ∈ bindings, node w binding.2) →
    let after := { w with store := (w.store.enclose (some parent) bindings).1 }
    grows w after ∧ world after ∧ scope after w.store.scopes.size
  numbered {w : World} {token : Option Token} : world w →
    node w (.atom token (.symbol SpecialForm.abstraction.name)) →
    let after := { w with closures := w.closures + 1 }
    grows w after ∧ world after ∧
      ∀ (parameters : Node) (names : List String) (body : List Node) (s : ScopeId),
        node w parameters → (∀ name ∈ names, ∃ token, node w (.atom token (.symbol name))) →
        (∀ expr ∈ body, node w expr) → scope w s →
        node after (.closure parameters.token? w.closures names body s)

namespace Discipline

variable {d : Discipline} {w : World} {s : ScopeId} {α β : Type}
  {value : World → α → Prop} {value' : World → β → Prop}

/-- All of several nodes may be around. -/
def nodes (d : Discipline) (w : World) (items : List Node) : Prop := ∀ item ∈ items, d.node w item

/-- A symbol with the given name may be around. -/
def named (d : Discipline) (w : World) (name : String) : Prop :=
  ∃ token, d.node w (.atom token (.symbol name))

theorem nodes_mono {w' : World} {items : List Node} (hgrows : d.grows w w')
    (hitems : d.nodes w items) : d.nodes w' items :=
  fun item hitem => d.node_mono hgrows (hitems item hitem)

theorem named_mono {w' : World} {name : String} (hgrows : d.grows w w') (hname : d.named w name) :
    d.named w' name :=
  hname.imp fun _ hnode => d.node_mono hgrows hnode

@[simp]
theorem nodes_nil : d.nodes w [] := by simp [nodes]

@[simp]
theorem nodes_cons {item : Node} {items : List Node} :
    d.nodes w (item :: items) ↔ d.node w item ∧ d.nodes w items := by
  simp [nodes]

/-- From a permitted world, an effect leaves a permitted world that the first may turn
into. The value it gives is of the given sort there, and it only stops as it may. -/
def Keeps (d : Discipline) (value : World → α → Prop) (effect : Effect α) (w : World) : Prop :=
  d.world w →
    d.grows w (effect.runIn w).2 ∧ d.world (effect.runIn w).2 ∧
      match (effect.runIn w).1 with
      | .ok a => value (effect.runIn w).2 a
      | .error stop => d.stop stop

theorem keeps_pure {a : α} (hvalue : value w a) : d.Keeps value (pure a) w :=
  fun hworld => ⟨d.grows_refl w, hworld, hvalue⟩

theorem keeps_throw {stop : Stop} (hstop : d.stop stop) : d.Keeps value (throw stop) w :=
  fun hworld => ⟨d.grows_refl w, hworld, hstop⟩

theorem Keeps.bind {effect : Effect α} {next : α → Effect β} (heffect : d.Keeps value effect w)
    (hnext : ∀ a after, d.grows w after → value after a → d.Keeps value' (next a) after) :
    d.Keeps value' (effect >>= next) w := by
  intro hworld
  have hrun := heffect hworld
  rw [runIn_bind]
  rcases hfirst : effect.runIn w with ⟨result, after⟩
  rw [hfirst] at hrun
  obtain ⟨hgrows, hafter, hresult⟩ := hrun
  cases result with
  | error stop => exact ⟨hgrows, hafter, hresult⟩
  | ok a =>
      obtain ⟨hgrows', hworld', hresult'⟩ := hnext a after hgrows hresult hafter
      exact ⟨d.grows_trans hgrows hgrows', hworld', hresult'⟩

/-! ## Errors -/

theorem keeps_raise {cause : RuntimeCause} (hcause : cause.isUnknown = false) :
    d.Keeps value (raise cause) w :=
  keeps_throw (d.raised hcause)

theorem keeps_raiseAt {expr : Node} {cause : RuntimeCause} (hexpr : d.node w expr)
    (hcause : cause.isUnknown = false) : d.Keeps value (raiseAt expr cause) w :=
  keeps_throw (d.raisedAt hexpr hcause)

/-- An error that quotes a node. -/
theorem keeps_textOf_bind {expr : Node} {next : String → Effect β} (hexpr : d.node w expr)
    (hnext : ∀ text, d.Keeps value' (next text) w) : d.Keeps value' (textOf expr >>= next) w := by
  unfold textOf
  split
  next => exact hnext expr.text
  next htext => exact keeps_throw (d.textless hexpr (Bool.eq_false_of_not_eq_true htext))

theorem keeps_located {expr : Node} {effect : Effect α} (hexpr : d.node w expr)
    (heffect : d.Keeps value effect w) : d.Keeps value (located expr effect) w := by
  intro hworld
  obtain ⟨hgrows, hafter, hresult⟩ := heffect hworld
  rw [runIn_located]
  refine ⟨hgrows, hafter, ?_⟩
  cases hrun : (effect.runIn w).1 with
  | ok a =>
      rw [hrun] at hresult
      exact hresult
  | error stop =>
      rw [hrun] at hresult
      exact d.placed hexpr hresult

/-! ## Effects on the world -/

theorem keeps_note (line : String) : d.Keeps (fun _ _ => True) (note line) w := by
  intro hworld
  obtain ⟨hgrows, hafter⟩ := d.noted (ended line) hworld
  exact ⟨hgrows, hafter, trivial⟩

theorem keeps_write (text : String) : d.Keeps (fun _ _ => True) (write text) w := by
  intro hworld
  rw [write, runIn_get_bind]
  cases hsink : w.sink with
  | accepting =>
      obtain ⟨hgrows, hafter⟩ := d.written text .accepting hworld
      rw [← hsink] at hgrows hafter
      exact ⟨hgrows, hafter, trivial⟩
  | limited room reason =>
      cases room with
      | zero => exact ⟨d.grows_refl w, hworld, d.refused hworld hsink⟩
      | succ room =>
          obtain ⟨hgrows, hafter⟩ := d.written text (.limited room reason) hworld
          exact ⟨hgrows, hafter, trivial⟩

theorem keeps_lookup {name : String} (hscope : d.scope w s) (hname : d.named w name) :
    d.Keeps d.node (lookup s name) w := by
  intro hworld
  obtain ⟨token, hname⟩ := hname
  rw [lookup, runIn_get_bind]
  cases hfound : w.store.lookup? s name with
  | none => exact ⟨d.grows_refl w, hworld, d.raised rfl⟩
  | some value => exact ⟨d.grows_refl w, hworld, d.found hworld hscope hname hfound⟩

theorem keeps_define (name : String) {bound : Node} (hscope : d.scope w s)
    (hbound : d.node w bound) : d.Keeps (fun _ _ => True) (define s name bound) w := by
  intro hworld
  obtain ⟨hgrows, hafter⟩ := d.defined name hworld hscope hbound
  exact ⟨hgrows, hafter, trivial⟩

theorem keeps_assign (name : String) {bound : Node} (hscope : d.scope w s)
    (hbound : d.node w bound) : d.Keeps (fun _ _ => True) (assign s name bound) w := by
  intro hworld
  rw [assign, runIn_get_bind]
  cases hfound : w.store.resolve? name s with
  | none => exact ⟨d.grows_refl w, hworld, d.raised rfl⟩
  | some home =>
      obtain ⟨hgrows, hafter⟩ := d.assigned hworld hscope hfound hbound
      exact ⟨hgrows, hafter, trivial⟩

theorem keeps_enclose {parent : ScopeId} {bindings : List (String × Node)}
    (hparent : d.scope w parent) (hbindings : ∀ binding ∈ bindings, d.node w binding.2) :
    d.Keeps d.scope (enclose parent bindings) w := by
  intro hworld
  exact d.enclosed hworld hparent hbindings

/-- Making a closure. -/
theorem keeps_freshIdentity_bind {parameters : Node} {names : List String} {body : List Node}
    (hform : d.named w SpecialForm.abstraction.name) (hparameters : d.node w parameters)
    (hnames : ∀ name ∈ names, d.named w name) (hbody : d.nodes w body) (hscope : d.scope w s) :
    d.Keeps d.node (do
      let identity ← freshIdentity
      pure (.closure parameters.token? identity names body s)) w := by
  intro hworld
  obtain ⟨token, hform⟩ := hform
  obtain ⟨hgrows, hafter, hnode⟩ := d.numbered hworld hform
  exact ⟨hgrows, hafter, hnode parameters names body s hparameters hnames hbody hscope⟩

end Discipline

end Lisplet
