import Lisplet.Proofs.Congruence
import Lisplet.Proofs.Discipline.Regime
import Lisplet.Proofs.Integrity

/-!
# Type safety

Data and code are nodes of one type, and they turn into each other. In a session without a
host, all that ever comes up is plain nevertheless: nil, truth values, numbers, strings,
symbols, primitive functions of the language, lists of such nodes and closures made of
them. A plain node holds what its kind says it does, and it has a text. So nothing is asked
for what it does not hold, and the only fault left is the product that needs an exponent out
of bounds.
-/

namespace Lisplet

open Effect

/-! ## Plain nodes -/

/-- Whether an atom is a value of the language. -/
def Atom.isPlain : Atom → Bool
  | nil | bool _ | number _ | string _ | symbol _ | primitive (.builtin _) => true
  | _ => false

/-- Whether a node is made of values of the language only, the bodies of closures
included. -/
def Node.isPlain (node : Node) : Bool := node.atoms.all Atom.isPlain

/-- Whether the nodes of a task are plain. -/
def Task.isPlain : Task → Bool
  | .evaluate expr => expr.isPlain
  | .apply function args => function.isPlain && args.all Node.isPlain

/-- All scopes of a world bind names to plain nodes. -/
def World.IsPlain (w : World) : Prop :=
  ∀ scope ∈ w.store.scopes, ∀ binding ∈ scope.bindings, binding.2.isPlain = true

/-- Each way to take a node for one of a kind finds what it is after. -/
structure Node.HoldsItsKind (node : Node) : Prop where
  number : node.kind = .number ↔ ∃ value, node.number? = some value
  string : node.kind = .string ↔ ∃ token text, node = .atom token (.string text)
  symbol : node.kind = .symbol ↔ ∃ name, node.symbol? = some name
  bool : node.kind = .bool ↔ ∃ value, node.bool? = some value
  list : node.kind.isVector = true ↔ ∃ items, node.items? = some items
  function : node.kind = .function ↔ node.isCallable = true

section

variable {a : Atom}

theorem Atom.hasText_of_isPlain (ha : a.isPlain = true) : a.hasText = true := by
  cases a with
  | foreign => cases ha
  | blank => cases ha
  | absent => cases ha
  | _ =>
      simp only [hasText, kind]
      decide

theorem Atom.isConstant_of_isPlain (ha : a.isPlain = true) (hsymbol : ∀ name, a ≠ .symbol name) :
    a.kind.isConstant = true := by
  cases a with
  | symbol name => exact absurd rfl (hsymbol name)
  | foreign => cases ha
  | blank => cases ha
  | absent => cases ha
  | _ => rfl

theorem Atom.isPlain_of_isWritable (ha : a.isWritable = true) : a.isPlain = true := by
  cases a with
  | number => rfl
  | string => rfl
  | symbol => rfl
  | _ => cases ha

end

namespace Node

theorem holdsItsKind_of_isPlain {node : Node} (hnode : node.isPlain = true) :
    node.HoldsItsKind := by
  have hvector : ∀ kind ∈ Kind.named, kind.isVector = (kind == .list) := by decide
  simp only [Kind.named, List.forall_mem_cons] at hvector
  cases node with
  | list => constructor <;> simp [kind, number?, symbol?, bool?, items?, isCallable, hvector]
  | closure => constructor <;> simp [kind, number?, symbol?, bool?, items?, isCallable, hvector]
  | atom token a =>
      cases a with
      | foreign => cases hnode
      | blank => cases hnode
      | absent => cases hnode
      | _ =>
          constructor <;>
            simp [kind, Atom.kind, number?, symbol?, bool?, items?, isCallable, hvector]

mutual

theorem hasText_of_atoms : (node : Node) → (∀ a ∈ node.atoms, a.isPlain = true) →
    node.hasText = true
  | .atom _ _, hatoms => Atom.hasText_of_isPlain (hatoms _ List.mem_cons_self)
  | .list _ items, hatoms => haveText_of_atomsAll items hatoms
  | .closure .., _ => rfl

theorem haveText_of_atomsAll : (nodes : List Node) → (∀ a ∈ atomsAll nodes, a.isPlain = true) →
    haveText nodes = true
  | [], _ => rfl
  | node :: rest, hatoms => by
    rw [atomsAll, List.forall_mem_append] at hatoms
    rw [haveText, hasText_of_atoms node hatoms.1, haveText_of_atomsAll rest hatoms.2]
    rfl

end

mutual

theorem atoms_of_isWritable : (node : Node) → node.isWritable = true →
    ∀ a ∈ node.atoms, a.isWritable = true
  | .atom _ _, hnode => by
    rw [atoms, List.forall_mem_singleton]
    exact hnode
  | .list _ items, hnode => atomsAll_of_areWritable items hnode
  | .closure .., hnode => by cases hnode

theorem atomsAll_of_areWritable : (nodes : List Node) → areWritable nodes = true →
    ∀ a ∈ atomsAll nodes, a.isWritable = true
  | [], _ => by simp [atomsAll]
  | node :: rest, hnodes => by
    rw [areWritable, Bool.and_eq_true] at hnodes
    rw [atomsAll, List.forall_mem_append]
    exact ⟨atoms_of_isWritable node hnodes.1, atomsAll_of_areWritable rest hnodes.2⟩

end

end Node

/-! ## Vocabularies -/

/-- Stops that type safety leaves: no node is taken for an unknown element, and the only
fault is a product that needs an exponent out of bounds. -/
def Stop.IsRegular : Stop → Prop
  | problem (.error error) => error.cause.isUnknown = false
  | problem (.failure _) => True
  | fault met => ∃ a b exponent, Decimal.mul a b = .error exponent ∧ met = .exponentOverflow exponent
  | exhausted => True

theorem Stop.IsRegular.locate {stop : Stop} (hstop : stop.IsRegular) (token : Option Token) :
    (stop.locate token).IsRegular := by
  cases stop with
  | problem met => cases met <;> exact hstop
  | fault met => exact hstop
  | exhausted => exact hstop

/-- The atoms that programs and their values are made of. -/
structure Vocabulary where
  /-- Atoms that may occur. -/
  atom : Atom → Prop
  made {a : Atom} : a.isMade = true → atom a
  plain {a : Atom} : atom a → a.isPlain = true

namespace Vocabulary

variable {v : Vocabulary}

/-- A node has no other atoms, and it holds closures only if they can be made. -/
def Covers (v : Vocabulary) (node : Node) : Prop :=
  (∀ a ∈ node.atoms, v.atom a) ∧
    (node.identities ≠ [] → v.atom (.symbol SpecialForm.abstraction.name))

theorem covers_atom {token : Option Token} {a : Atom} : v.Covers (.atom token a) ↔ v.atom a := by
  simp [Covers, Node.atoms, Node.identities]

theorem covers_list {token : Option Token} {items : List Node} :
    v.Covers (.list token items) ↔ ∀ item ∈ items, v.Covers item := by
  simp only [Covers, Node.atoms, Node.identities, Node.atomsAll_eq, Node.identitiesAll_eq,
    List.mem_flatMap, ne_eq, List.flatMap_eq_nil_iff]
  grind

theorem covers_closure {token : Option Token} {identity : Nat} {params : List String}
    {body : List Node} {home : ScopeId} :
    v.Covers (.closure token identity params body home) ↔
      v.atom (.symbol SpecialForm.abstraction.name) ∧ (∀ name ∈ params, v.atom (.symbol name)) ∧
        ∀ expr ∈ body, v.Covers expr := by
  simp only [Covers, Node.atoms, Node.identities, Node.atomsAll_eq, List.mem_append, List.mem_map,
    List.mem_flatMap]
  grind

theorem Covers.hasText {node : Node} (hnode : v.Covers node) : node.hasText = true :=
  Node.hasText_of_atoms node fun a ha => v.plain (hnode.1 a ha)

/-- Evaluations keep to a vocabulary. -/
def regime (v : Vocabulary) : Regime where
  node := v.Covers
  stop := Stop.IsRegular
  atom_made ha := covers_atom.mpr (v.made ha)
  ofList hitems := covers_list.mpr hitems
  items hlist := covers_list.mp hlist
  body hclosure := (covers_closure.mp hclosure).2.2
  closure _ _ _ _ _ hform _ hnames hbody := by
    refine covers_closure.mpr ⟨covers_atom.mp hform, ?_, hbody⟩
    intro name hname
    obtain ⟨token, hsymbol⟩ := hnames name hname
    exact covers_atom.mp hsymbol
  listed _ hhost := by cases v.plain (covers_atom.mp hhost)
  exhausted := trivial
  overflown hmul := ⟨_, _, _, hmul, rfl⟩
  textless hnode htext := by
    rw [hnode.hasText] at htext
    cases htext
  raised hcause := hcause
  raisedAt _ hcause := hcause
  unknown _ hatom hsymbol hconstant := by
    rw [Atom.isConstant_of_isPlain (v.plain (covers_atom.mp hatom)) hsymbol] at hconstant
    cases hconstant
  failed _ := trivial
  placed _ hstop := hstop.locate _

theorem names_iff {name : String} : v.regime.Names name ↔ v.atom (.symbol name) := by
  constructor
  · rintro ⟨token, hnode⟩
    exact covers_atom.mp hnode
  · exact fun hname => ⟨none, covers_atom.mpr hname⟩

/-- Programs hold no closures, so what they are made of is all that matters. -/
theorem accepts {source : Source}
    (hatoms : ∀ program, Program.read source = .ok program → ∀ a ∈ program.atoms, v.atom a) :
    v.regime.Accepts source := by
  intro program hread
  have hprogram := isProgram_of_read hread
  have hcovers := hatoms program hread
  unfold Node.isProgram at hprogram
  split at hprogram
  next token items =>
    have hlist : v.Covers (.list token items) := by
      refine ⟨hcovers, fun hclosures => absurd ?_ hclosures⟩
      exact (Node.no_closures_of_areWritable hprogram).2
    exact covers_list.mp hlist
  next => cases hprogram

end Vocabulary

/-- All values of the language. -/
def Vocabulary.full : Vocabulary where
  atom a := a.isPlain = true
  made {a} ha := by
    cases a with
    | nil => rfl
    | bool => rfl
    | number => rfl
    | _ => cases ha
  plain ha := ha

theorem Vocabulary.covers_full_iff {node : Node} :
    Vocabulary.full.Covers node ↔ node.isPlain = true := by
  rw [Node.isPlain, List.all_eq_true]
  exact ⟨fun hcovers => hcovers.1, fun hatoms => ⟨hatoms, fun _ => rfl⟩⟩

theorem Vocabulary.task_full_iff {task : Task} :
    Vocabulary.full.regime.task task ↔ task.isPlain = true := by
  cases task with
  | evaluate expr => exact covers_full_iff
  | apply function args =>
      rw [Task.isPlain, Bool.and_eq_true, List.all_eq_true, ← covers_full_iff]
      exact and_congr_right fun _ => forall₂_congr fun _ _ => covers_full_iff

theorem Vocabulary.holds_full_iff {w : World} : Vocabulary.full.regime.Holds w ↔ w.IsPlain := by
  constructor
  · intro hholds scope hscope binding hbinding
    obtain ⟨s, hs⟩ := Array.mem_iff_getElem?.mp hscope
    exact covers_full_iff.mp (hholds hs hbinding (names_iff.mpr rfl))
  · intro hplain s scope binding hs hbinding _
    exact covers_full_iff.mpr (hplain scope (Array.mem_of_getElem? hs) binding hbinding)

/-! ## Evaluations under watch -/

/-- Have an effect on behalf of a task, and break off if a node that is not plain comes up in
the task or as the value. -/
def watch (task : Task) (effect : Effect Node) : Effect Node :=
  if task.isPlain then do
    let value ← effect
    if value.isPlain then pure value else throw (.fault .unknownNode)
  else throw (.fault .unknownNode)

/-- Do a task with tasks nested to the given depth at most, all of them under watch. -/
def performWatched : Nat → Evaluator
  | 0, _, _ => throw .exhausted
  | depth + 1, task, s => watch task (step (performWatched depth) task s)

/-- Two effects are related when the second does the same as the first unless it raises an
alarm. -/
def Congruence.alarmed : Congruence where
  related effect effect' := ∀ w, effect'.runIn w = effect.runIn w ∨
    (effect'.runIn w).1 = .error (.fault .unknownNode)
  given _ _ := .inl rfl
  stopped _ _ := .inl rfl
  sequenced {_ _ effect effect' next next'} heffect hnext w := by
    rw [runIn_bind, runIn_bind]
    rcases heffect w with hsame | halarm
    · rw [hsame]
      rcases effect.runIn w with ⟨stop | value, after⟩
      · exact .inl rfl
      · exact hnext value after
    · generalize effect'.runIn w = run at halarm
      obtain ⟨result, after⟩ := run
      cases halarm
      exact .inr rfl
  placed {_} _ {_ _} heffect w := by
    rw [runIn_located, runIn_located]
    refine (heffect w).imp (fun hsame => by rw [hsame]) fun halarm => ?_
    rw [halarm]
    rfl
  noted _ _ := .inl rfl
  written _ _ := .inl rfl
  inspected _ hnext w := hnext w.store w
  defined _ _ _ _ := .inl rfl
  enclosed _ _ _ := .inl rfl
  numbered _ := .inl rfl

theorem performWatched_alarmed (depth : Nat) :
    Congruence.alarmed.Carries (perform depth) (performWatched depth) := by
  induction depth with
  | zero => exact fun _ _ _ => .inl rfl
  | succ depth ih =>
      intro task s w
      rw [performWatched, watch]
      split
      · rw [runIn_bind]
        rcases Congruence.step_carries ih task s w with hsame | halarm
        · rw [hsame, perform]
          rcases (step (perform depth) task s).runIn w with ⟨stop | value, after⟩
          · exact .inl rfl
          · dsimp only
            split
            · exact .inl rfl
            · exact .inr rfl
        · generalize (step (performWatched depth) task s).runIn w = run at halarm
          obtain ⟨result, after⟩ := run
          cases halarm
          exact .inr rfl
      · exact .inr rfl

theorem performWatched_served (depth : Nat) :
    Vocabulary.full.regime.discipline.Served (performWatched depth) := by
  induction depth with
  | zero => exact fun _ _ _ _ _ => Discipline.keeps_throw trivial
  | succ depth ih =>
      intro task s w htask hscope
      have hplain : task.isPlain = true :=
        Vocabulary.task_full_iff.mp (Regime.discipline_task.mp htask)
      rw [performWatched, watch, if_pos hplain]
      refine (Discipline.served_step ih htask hscope).bind fun value after _ hvalue => ?_
      rw [if_pos (Vocabulary.covers_full_iff.mp hvalue)]
      exact Discipline.keeps_pure hvalue

/-- Where all nodes are plain, there is no alarm. -/
theorem performWatched_eq {w : World} (hw : w.IsPlain) (depth : Nat) {task : Task}
    (htask : task.isPlain = true) (s : ScopeId) :
    (performWatched depth task s).runIn w = (perform depth task s).runIn w := by
  -- an alarm would be a stop that the regime does not permit
  rcases performWatched_alarmed depth task s w with hsame | halarm
  · exact hsame
  · have hnodes : Vocabulary.full.regime.discipline.task w task :=
      Regime.discipline_task.mpr (Vocabulary.task_full_iff.mpr htask)
    have hkeeps : Vocabulary.full.regime.discipline.Keeps _ (performWatched depth task s) w :=
      performWatched_served depth hnodes trivial
    obtain ⟨-, -, hresult⟩ := hkeeps (Vocabulary.holds_full_iff.mpr hw)
    rw [halarm] at hresult
    obtain ⟨_, _, _, -, hfault⟩ := hresult
    cases hfault

/-! ## Sessions -/

/-- What may come of a plain world: it stays plain, and there is a plain value or a regular
stop. -/
structure World.Yields (result : Except Stop Node) (after : World) : Prop where
  plain : after.IsPlain
  value {value : Node} : result = .ok value → value.isPlain = true
  stop {stop : Stop} : result = .error stop → stop.IsRegular

theorem World.IsPlain.perform_yields {w : World} (hw : w.IsPlain) (depth : Nat) {task : Task}
    (htask : task.isPlain = true) (s : ScopeId) :
    World.Yields ((perform depth task s).runIn w).1 ((perform depth task s).runIn w).2 := by
  have hholds := Vocabulary.holds_full_iff.mpr hw
  obtain ⟨hafter, hends⟩ := hholds.perform depth s (Vocabulary.task_full_iff.mpr htask)
  refine ⟨Vocabulary.holds_full_iff.mp hafter, ?_, ?_⟩
  · intro value hvalue
    rw [hvalue] at hends
    exact Vocabulary.covers_full_iff.mp hends
  · intro stop hstop
    rw [hstop] at hends
    exact hends

theorem isWritable_of_read {source : Source} {program : Node}
    (hread : Program.read source = .ok program) : ∀ a ∈ program.atoms, a.isWritable = true := by
  have hprogram := isProgram_of_read hread
  unfold Node.isProgram at hprogram
  split at hprogram
  next token items => exact Node.atomsAll_of_areWritable items hprogram
  next => cases hprogram

/-- Programs are lists of plain nodes. -/
theorem plain_of_read {source : Source} {program : Node}
    (hread : Program.read source = .ok program) :
    program.kind = .list ∧ program.isPlain = true := by
  constructor
  · have hprogram := isProgram_of_read hread
    unfold Node.isProgram at hprogram
    split at hprogram
    next => rfl
    next => cases hprogram
  · rw [Node.isPlain, List.all_eq_true]
    exact fun a ha => Atom.isPlain_of_isWritable (isWritable_of_read hread a ha)

theorem Vocabulary.accepts_full (source : Source) : Vocabulary.full.regime.Accepts source :=
  accepts fun _ hread => List.all_eq_true.mp (plain_of_read hread).2

theorem isPlain_initialBindings : ∀ binding ∈ initialBindings, binding.2.isPlain = true := by
  decide

/-- Every session that starts without a host is plain. -/
theorem Vocabulary.holds_full_runs (sink : Sink) (steps : List (Nat × Source)) :
    Vocabulary.full.regime.Holds ((Session.start none sink).runs steps).world := by
  refine Regime.Holds.runs (Regime.holds_start sink ?_) fun step _ => accepts_full step.2
  exact fun binding hbinding _ => covers_full_iff.mpr (isPlain_initialBindings binding hbinding)

/-- In a session that starts without a host, whatever programs were run, all values that are
bound or returned are plain, no node is taken for an unknown element, and no fault is met but
a product that needs an exponent out of bounds.

What is evaluated on the way is plain too: a watch over all tasks and their values raises no
alarm. Plain nodes hold what their kinds say and have a text. Quotients and remainders do not
depend on what division by zero would give, and only products break off. -/
theorem sessions_type_safe (sink : Sink) (earlier : List (Nat × Source)) (depth : Nat)
    (source : Source) :
    let session := (Session.start none sink).runs earlier
    let run := session.run depth source
    (session.world.IsPlain ∧ run.2.world.IsPlain ∧
      (∀ value, run.1 = .ok value → value.isPlain = true) ∧
      (∀ stop, run.1 = .error (.stopped stop) → stop.IsRegular) ∧
      ∀ program, Program.read source = .ok program →
        program.kind = .list ∧ program.isPlain = true) ∧
    (∀ w : World, w.IsPlain → ∀ depth task s, task.isPlain = true →
      World.Yields ((perform depth task s).runIn w).1 ((perform depth task s).runIn w).2 ∧
      (performWatched depth task s).runIn w = (perform depth task s).runIn w) ∧
    (∀ node : Node, node.isPlain = true → node.HoldsItsKind ∧ node.hasText = true) ∧
    (∀ quotient modulus : Decimal → Decimal → Decimal,
      (∀ a b, b.isZero = false → quotient a b = a.div b ∧ modulus a b = a.mod b) →
      ∀ first rest,
        Arithmetic.divide.fold first rest =
          Arithmetic.divide.unlessZero rest (rest.foldl quotient first) ∧
        Arithmetic.remainder.fold first rest =
          Arithmetic.remainder.unlessZero rest (rest.foldl modulus first)) ∧
    ∀ operation first rest fault, Arithmetic.fold operation first rest = .error (.fault fault) →
      operation = .multiply ∧ (Stop.fault fault).IsRegular := by
  intro session run
  have hholds := Vocabulary.holds_full_runs sink earlier
  obtain ⟨hafter, houtcome⟩ := hholds.run depth (Vocabulary.accepts_full source)
  refine ⟨⟨?_, ?_, ?_, ?_, ?_⟩, ?_, ?_, ?_, ?_⟩
  · exact Vocabulary.holds_full_iff.mp hholds
  · exact Vocabulary.holds_full_iff.mp hafter
  · intro value hvalue
    rw [hvalue] at houtcome
    exact Vocabulary.covers_full_iff.mp houtcome
  · intro stop hstop
    rw [hstop] at houtcome
    exact houtcome
  · exact fun program hread => plain_of_read hread
  · intro w hw depth task s htask
    exact ⟨hw.perform_yields depth htask s, performWatched_eq hw depth htask s⟩
  · intro node hnode
    exact ⟨Node.holdsItsKind_of_isPlain hnode,
      Node.hasText_of_atoms node (List.all_eq_true.mp hnode)⟩
  · intro quotient modulus hexact first rest
    exact ⟨Arithmetic.fold_divide (fun a b hb => (hexact a b hb).1) first rest,
      Arithmetic.fold_remainder (fun a b hb => (hexact a b hb).2) first rest⟩
  · intro operation first rest fault hfold
    obtain ⟨a, b, -, hfails⟩ := Arithmetic.Fails.of_fold hfold
    cases hfails with
    | overflow hmul => exact ⟨rfl, a, b, _, hmul, rfl⟩

/-- A session with a function that applies another one twice. -/
def twiceSample : Session :=
  (Session.start none .accepting).runs
    [(9, .ofString "(define twice (lambda (f x) (f (f x))))")]

/-- The value of a call of that function on a quoted list, which is code as much as data, is
plain, and so it has a text and holds what its kind says. -/
theorem twiceSample_type_safe :
    let run := twiceSample.run 9 (.ofString "(twice cdr (quote (car eval (lambda 1 \"two\"))))")
    run.2.world.IsPlain ∧
      ∃ value, run.1 = .ok value ∧ value.isPlain = true ∧ value.HoldsItsKind ∧
        value.hasText = true := by
  intro run
  obtain ⟨⟨-, hafter, hvalues, -⟩, -, hplain, -⟩ := sessions_type_safe .accepting
    [(9, .ofString "(define twice (lambda (f x) (f (f x))))")] 9
    (.ofString "(twice cdr (quote (car eval (lambda 1 \"two\"))))")
  have hok : run.1.isOk = true := by decide +kernel
  refine ⟨hafter, ?_⟩
  obtain ⟨value, hvalue⟩ : ∃ value, run.1 = .ok value := by
    cases hresult : run.1 with
    | ok value => exact ⟨value, rfl⟩
    | error stop =>
        rw [hresult] at hok
        cases hok
  exact ⟨value, hvalue, hvalues value hvalue, hplain value (hvalues value hvalue)⟩

end Lisplet
