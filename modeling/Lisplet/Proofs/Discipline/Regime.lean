import Lisplet.Proofs.Discipline.Evaluation
import Lisplet.Proofs.Store

/-!
# What sessions keep to

A regime judges nodes by themselves: which of them may be around does not depend on the
world. It is kept in a world whose scopes bind the names that programs can mention to such
nodes only. Every regime is a discipline, so a session stays within it from one program to
the next, provided that it starts within it and that the programs do.
-/

namespace Lisplet

open Effect

/-- What evaluations keep to in all worlds alike. -/
structure Regime where
  /-- Nodes that may be around. -/
  node : Node → Prop
  /-- Ways to stop. -/
  stop : Stop → Prop
  atom_made {a : Atom} : a.isMade = true → node (.atom none a)
  ofList {items : List Node} : (∀ item ∈ items, node item) → node (.ofList items)
  items {token : Option Token} {items : List Node} : node (.list token items) →
    ∀ item ∈ items, node item
  body {token : Option Token} {identity : Nat} {params : List String} {body : List Node}
    {home : ScopeId} : node (.closure token identity params body home) → ∀ expr ∈ body, node expr
  closure {token : Option Token} (parameters : Node) (identity : Nat) (names : List String)
    (body : List Node) (home : ScopeId) :
    node (.atom token (.symbol SpecialForm.abstraction.name)) → node parameters →
    (∀ name ∈ names, ∃ token, node (.atom token (.symbol name))) → (∀ expr ∈ body, node expr) →
    node (.closure parameters.token? identity names body home)
  listed {token : Option Token} {identity : Nat} {title : String} (name : String) :
    node (.atom token (.primitive (.host identity title .names))) → node (.symbol name)
  exhausted : stop .exhausted
  overflown {a b : Decimal} {exponent : Int} : a.mul b = .error exponent →
    stop (.fault (.exponentOverflow exponent))
  textless {expr : Node} : node expr → expr.hasText = false → stop (.fault .unknownNode)
  raised {cause : RuntimeCause} : cause.isUnknown = false → stop (.problem (.error { cause }))
  raisedAt {expr : Node} {cause : RuntimeCause} : node expr → cause.isUnknown = false →
    stop (.problem (.error { cause, token := expr.token? }))
  unknown {token : Option Token} {a : Atom} (text : String) : node (.atom token a) →
    (∀ name, a ≠ .symbol name) → a.kind.isConstant = false →
    stop (.problem (.error { cause := .unknownElement text, token }))
  failed (reason : String) : stop (.problem (.failure reason))
  placed {expr : Node} {met : Stop} : node expr → stop met → stop (met.locate expr.token?)

namespace Regime

variable {r : Regime} {w : World}

/-- A symbol with the given name may be around. -/
def Names (r : Regime) (name : String) : Prop := ∃ token, r.node (.atom token (.symbol name))

/-- Names that may be mentioned are bound to nodes that may be around. -/
def Holds (r : Regime) (w : World) : Prop :=
  ∀ ⦃s : ScopeId⦄ ⦃scope : Scope⦄ ⦃binding : String × Node⦄, w.store.scopes[s]? = some scope →
    binding ∈ scope.bindings → r.Names binding.1 → r.node binding.2

theorem Holds.define (hholds : r.Holds w) (s : ScopeId) (name : String) {value : Node}
    (hvalue : r.node value) : r.Holds { w with store := w.store.define s name value } := by
  intro t scope binding hscope hbinding hname
  rw [Store.getElem?_define] at hscope
  split at hscope
  · obtain ⟨old, hold, rfl⟩ := Option.map_eq_some_iff.mp hscope
    rcases Scope.mem_insert hbinding with rfl | hbinding
    · exact hvalue
    · exact hholds hold hbinding hname
  · exact hholds hscope hbinding hname

theorem Holds.enclose (hholds : r.Holds w) (parent : Option ScopeId)
    {bindings : List (String × Node)}
    (hbindings : ∀ binding ∈ bindings, r.Names binding.1 → r.node binding.2) :
    r.Holds { w with store := (w.store.enclose parent bindings).1 } := by
  intro t scope binding hscope hbinding
  rw [Store.getElem?_enclose] at hscope
  split at hscope
  · cases hscope
    exact hbindings binding (Scope.mem_of_mem_ofBindings hbinding)
  · exact hholds hscope hbinding

theorem Holds.lookup? (hholds : r.Holds w) {s : ScopeId} {name : String} {value : Node}
    (hname : r.Names name) (hfound : w.store.lookup? s name = some value) : r.node value := by
  obtain ⟨home, -, hlocal⟩ := Option.bind_eq_some_iff.mp hfound
  obtain ⟨scope, hscope, hmem⟩ := Store.exists_mem_of_local? hlocal
  exact hholds hscope hmem hname

/-- The discipline of a regime. -/
def discipline (r : Regime) : Discipline where
  world := r.Holds
  grows _ _ := True
  scope _ _ := True
  node _ := r.node
  stop := r.stop
  grows_refl _ := trivial
  grows_trans _ _ := trivial
  scope_mono _ _ := trivial
  node_mono _ hnode := hnode
  atom_made := r.atom_made
  ofList := r.ofList
  items := r.items
  body hclosure := ⟨trivial, r.body hclosure⟩
  exhausted := r.exhausted
  overflown := r.overflown
  textless := r.textless
  raised := r.raised
  raisedAt := r.raisedAt
  unknown := r.unknown
  refused {_ reason} _ _ := r.failed reason
  failed {_ _ _ title} _ := r.failed _
  placed := r.placed
  noted _ hholds := ⟨trivial, hholds⟩
  written _ _ hholds := ⟨trivial, hholds⟩
  found hholds _ hname hfound := hholds.lookup? ⟨_, hname⟩ hfound
  listed := r.listed
  defined {_ _} name {_} hholds _ hvalue := ⟨trivial, hholds.define _ name hvalue⟩
  assigned hholds _ _ hvalue := ⟨trivial, hholds.define _ _ hvalue⟩
  enclosed hholds _ hbindings :=
    ⟨trivial, hholds.enclose _ fun binding hbinding _ => hbindings binding hbinding, trivial⟩
  numbered {w _} hholds hform := by
    refine ⟨trivial, hholds, ?_⟩
    intro parameters names body s hparameters hnames hbody _
    exact r.closure parameters w.closures names body s hform hparameters hnames hbody

theorem node_of_items? {node : Node} {items : List Node} (hnode : r.node node)
    (hitems : node.items? = some items) : ∀ item ∈ items, r.node item :=
  @Discipline.nodes_of_items? r.discipline {} node items hnode hitems

/-! ## Runs -/

/-- What may come out of a run: a value of the given sort, or a permitted stop. -/
def Ends {α : Type} (r : Regime) (value : α → Prop) : Except Stop α → Prop
  | .ok a => value a
  | .error stop => r.stop stop

theorem ends_of_keeps {α : Type} {value : α → Prop} {effect : Effect α}
    (hkeeps : r.discipline.Keeps (fun _ => value) effect w) (hholds : r.Holds w) :
    r.Holds (effect.runIn w).2 ∧ r.Ends value (effect.runIn w).1 := by
  obtain ⟨-, hafter, hresult⟩ := hkeeps hholds
  refine ⟨hafter, ?_⟩
  cases hrun : (effect.runIn w).1 with
  | ok a =>
      rw [hrun] at hresult
      exact hresult
  | error stop =>
      rw [hrun] at hresult
      exact hresult

/-- The nodes of a task may be around. -/
def task (r : Regime) : Task → Prop
  | .evaluate expr => r.node expr
  | .apply function args => r.node function ∧ ∀ arg ∈ args, r.node arg

theorem discipline_task {request : Task} : r.discipline.task w request ↔ r.task request := by
  cases request with
  | evaluate expr => exact Iff.rfl
  | apply function args => exact Iff.rfl

theorem Holds.perform (hholds : r.Holds w) (depth : Nat) {request : Task} (s : ScopeId)
    (hrequest : r.task request) :
    r.Holds ((perform depth request s).runIn w).2 ∧
      r.Ends r.node ((perform depth request s).runIn w).1 := by
  have hserved : r.discipline.Served (Lisplet.perform depth) := Discipline.served_perform depth
  exact ends_of_keeps (hserved (discipline_task.mpr hrequest) trivial) hholds

/-- The forms of the program that a source reads as may be around. -/
def Accepts (r : Regime) (source : Source) : Prop :=
  ∀ program, Program.read source = .ok program → ∀ form ∈ program.items?.getD [], r.node form

/-- What may come of a program that is run. -/
def Outcome (r : Regime) : Except Interruption Node → Prop
  | .ok value => r.node value
  | .error (.unreadable _) => True
  | .error (.stopped stop) => r.stop stop

theorem Holds.run {session : Session} (hholds : r.Holds session.world) (depth : Nat)
    {source : Source} (haccepts : r.Accepts source) :
    r.Holds (session.run depth source).2.world ∧ r.Outcome (session.run depth source).1 := by
  unfold Session.run
  split
  next => exact ⟨hholds, trivial⟩
  next program hread =>
    have hnil : r.node .nil := r.atom_made rfl
    have hkeeps : r.discipline.Keeps (fun _ => r.node)
        (evaluateForms depth session.root .nil (program.items?.getD [])) session.world :=
      Discipline.keeps_evaluateForms depth trivial hnil (haccepts program hread)
    obtain ⟨hafter, hresult⟩ := ends_of_keeps hkeeps hholds
    refine ⟨hafter, ?_⟩
    simp only [Session.runProgram, Session.act]
    generalize (evaluateForms depth session.root .nil _).runIn session.world = run at hresult
    obtain ⟨stop | value, after⟩ := run
    · exact hresult
    · exact hresult

end Regime

/-- Run programs one after the other, each with a depth of its own. -/
def Session.runs (session : Session) (steps : List (Nat × Source)) : Session :=
  steps.foldl (fun session step => (session.run step.1 step.2).2) session

namespace Regime

variable {r : Regime}

theorem Holds.runs {session : Session} (hholds : r.Holds session.world)
    {steps : List (Nat × Source)} (haccepts : ∀ step ∈ steps, r.Accepts step.2) :
    r.Holds (session.runs steps).world := by
  induction steps generalizing session with
  | nil => exact hholds
  | cons step rest ih =>
      rw [List.forall_mem_cons] at haccepts
      exact ih (hholds.run step.1 haccepts.1).1 haccepts.2

/-- A new session keeps to a regime if what it starts with does. -/
theorem holds_start (sink : Sink)
    (hinitial : ∀ binding ∈ initialBindings, r.Names binding.1 → r.node binding.2) :
    r.Holds (Session.start none sink).world := by
  have hempty : r.Holds { sink } := by
    intro s scope binding hscope
    simp [Store.empty] at hscope
  exact hempty.enclose none hinitial

end Regime

end Lisplet
