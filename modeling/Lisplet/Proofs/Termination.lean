import Lisplet.Proofs.TypeSafety

/-!
# Programs that terminate

Only closures and `eval` can make an evaluation go on forever. A session whose programs
never mention `lambda` or `eval` has no closures, and it cannot get hold of `eval`: no
function makes symbols, and `eval` is bound to no other name. Then an evaluation nests no
more deeply than its expression does, except that `apply` may be applied to `apply`, and
each such application is to elements of a list that the last one was given.
-/

namespace Lisplet

open Effect

/-! ## Effects that settle -/

/-- Whether a run ended because it was nested too deeply. -/
def isExhausted {α : Type} : Except Stop α → Bool
  | .error .exhausted => true
  | _ => false

@[simp]
theorem isExhausted_mapError_locate {α : Type} (token : Option Token) (result : Except Stop α) :
    isExhausted (result.mapError (Stop.locate token)) = isExhausted result := by
  cases result with
  | ok a => rfl
  | error stop =>
      cases stop with
      | problem met => cases met <;> rfl
      | fault met => rfl
      | exhausted => rfl

/-- Effects that are never exhausted. -/
def Congruence.finishing : Congruence where
  related effect _ := ∀ w, isExhausted (effect.runIn w).1 = false
  given _ _ := rfl
  stopped {_ stop} hstop w := by
    cases stop with
    | exhausted => exact absurd rfl hstop
    | _ => rfl
  sequenced {_ _ effect _ next _} heffect hnext w := by
    have hfirst := heffect w
    rw [runIn_bind]
    generalize effect.runIn w = run at hfirst
    obtain ⟨stop | value, after⟩ := run
    · cases stop with
      | exhausted => cases hfirst
      | _ => rfl
    · exact hnext value after
  placed {_} _ {_ _} heffect w := by
    rw [runIn_located, isExhausted_mapError_locate]
    exact heffect w
  noted _ _ := rfl
  written text w := by
    rw [write, runIn_get_bind]
    split <;> rfl
  inspected _ hnext w := hnext w.store w
  defined _ _ _ _ := rfl
  enclosed _ _ _ := rfl
  numbered _ := rfl

namespace Regime

variable {r : Regime} {α β : Type} {value : α → Prop} {value' : β → Prop}

/-- However deeply evaluations may nest, from some depth on they do the same. From a world
that keeps to the regime they come to one that does, with a value of the given sort or a
permitted stop, and they are not exhausted. -/
def Settles (r : Regime) (value : α → Prop) (family : Nat → Effect α) : Prop :=
  ∀ w, r.Holds w → ∃ least result after,
    (∀ depth, least ≤ depth → (family depth).runIn w = (result, after)) ∧
      r.Holds after ∧ r.Ends value result ∧ isExhausted result = false

theorem settles_constant {effect : Effect α}
    (hkeeps : ∀ w, r.discipline.Keeps (fun _ => value) effect w)
    (hfinishes : Congruence.finishing.related effect effect) : r.Settles value fun _ => effect := by
  intro w hholds
  obtain ⟨hafter, hresult⟩ := ends_of_keeps (hkeeps w) hholds
  have hdone : ∀ w, isExhausted (effect.runIn w).1 = false := hfinishes
  exact ⟨0, _, _, fun _ _ => rfl, hafter, hresult, hdone w⟩

theorem settles_pure {a : α} (ha : value a) : r.Settles value fun _ => pure a :=
  settles_constant (fun _ => Discipline.keeps_pure ha) (Congruence.finishing.given a)

theorem settles_raise {cause : RuntimeCause} (hcause : cause.isUnknown = false) :
    r.Settles value fun _ => raise cause :=
  settles_constant (fun _ => Discipline.keeps_raise hcause) (Congruence.related_raise cause)

theorem Settles.bind {first : Nat → Effect α} {next : Nat → α → Effect β}
    (hfirst : r.Settles value first)
    (hnext : ∀ a, value a → r.Settles value' fun depth => next depth a) :
    r.Settles value' fun depth => first depth >>= next depth := by
  intro w hholds
  obtain ⟨least, result, after, hrun, hafter, hresult, hdone⟩ := hfirst w hholds
  cases result with
  | error stop =>
      refine ⟨least, .error stop, after, ?_, hafter, hresult, ?_⟩
      · intro depth hdepth
        rw [runIn_bind, hrun depth hdepth]
      · cases stop with
        | exhausted => cases hdone
        | _ => rfl
  | ok a =>
      obtain ⟨least', result', after', hrun', hafter', hresult', hdone'⟩ :=
        hnext a hresult after hafter
      refine ⟨max least least', result', after', ?_, hafter', hresult', hdone'⟩
      intro depth hdepth
      rw [runIn_bind, hrun depth (le_trans (le_max_left _ _) hdepth)]
      exact hrun' depth (le_trans (le_max_right _ _) hdepth)

theorem Settles.located {node : Node} (hnode : r.node node) {family : Nat → Effect α}
    (hfamily : r.Settles value family) :
    r.Settles value fun depth => located node (family depth) := by
  intro w hholds
  obtain ⟨least, result, after, hrun, hafter, hresult, hdone⟩ := hfamily w hholds
  refine ⟨least, result.mapError (Stop.locate node.token?), after, ?_, hafter, ?_, ?_⟩
  · intro depth hdepth
    rw [runIn_located, hrun depth hdepth]
  · cases result with
    | ok a => exact hresult
    | error stop => exact r.placed hnode hresult
  · rw [isExhausted_mapError_locate, hdone]

theorem Settles.reported {family : Nat → Effect α} (hfamily : r.Settles value family) :
    r.Settles value fun depth => (family depth).reported := by
  intro w hholds
  obtain ⟨least, result, after, hrun, hafter, hresult, hdone⟩ := hfamily w hholds
  have hreported : ∀ depth, least ≤ depth → (family depth).reported.runIn w =
      (Effect.reported (ExceptT.mk (pure result))).runIn after := by
    intro depth hdepth
    rw [runIn_reported, runIn_reported, hrun depth hdepth]
    rfl
  cases result with
  | ok a => exact ⟨least, _, _, hreported, hafter, hresult, hdone⟩
  | error stop =>
      cases stop with
      | problem met => exact ⟨least, _, _, hreported, hafter, hresult, hdone⟩
      | fault met => exact ⟨least, _, _, hreported, hafter, hresult, hdone⟩
      | exhausted => cases hdone

/-- What settles one level further down settles. -/
theorem Settles.of_succ {family : Nat → Effect α}
    (hfamily : r.Settles value fun depth => family (depth + 1)) : r.Settles value family := by
  intro w hholds
  obtain ⟨least, result, after, hrun, hresult⟩ := hfamily w hholds
  refine ⟨least + 1, result, after, ?_, hresult⟩
  intro depth hdepth
  obtain ⟨less, rfl⟩ : ∃ less, depth = less + 1 :=
    Nat.exists_eq_add_of_le' (le_trans (Nat.le_add_left 1 least) hdepth)
  exact hrun less (Nat.le_of_succ_le_succ hdepth)

/-! ## Tasks that are done without others -/

/-- A way to have tasks done that does nothing. -/
def idle : Evaluator := fun _ _ => pure .nil

theorem idle_served : r.discipline.Served idle :=
  fun _ _ _ _ _ => Discipline.keeps_pure (r.atom_made rfl)

theorem idle_finishes : Congruence.finishing.Carries idle idle :=
  fun _ _ => Congruence.finishing.given _

variable {evaluator : Nat → Evaluator} {s : ScopeId} {args : List Node}

theorem settles_step_of_idle {task : Task} (htask : r.task task)
    (hidle : ∀ depth, step (evaluator depth) task s = step idle task s) :
    r.Settles r.node fun depth => step (evaluator depth) task s := by
  simp only [hidle]
  refine settles_constant (fun w => ?_) (Congruence.step_carries idle_finishes task s)
  exact Discipline.served_step idle_served (discipline_task.mpr htask) trivial

theorem settles_specialForm_of_idle {form : SpecialForm} (hform : r.Names form.name)
    (hargs : ∀ arg ∈ args, r.node arg)
    (hidle : ∀ depth, form.run (evaluator depth) s args = form.run idle s args) :
    r.Settles r.node fun depth => form.run (evaluator depth) s args := by
  simp only [hidle]
  refine settles_constant (fun w => ?_) (Congruence.related_specialForm idle_finishes form)
  exact Discipline.keeps_specialForm idle_served trivial hargs hform

theorem settles_textOf {node : Node} (hnode : r.node node) :
    r.Settles (fun _ => True) fun _ => textOf node := by
  unfold textOf
  split
  next => exact settles_pure trivial
  next htext =>
    have hstop : r.stop (.fault .unknownNode) :=
      r.textless hnode (Bool.eq_false_of_not_eq_true htext)
    exact settles_constant (fun _ => Discipline.keeps_throw hstop)
      (Congruence.finishing.stopped Stop.noConfusion)

theorem settles_note (line : String) : r.Settles (fun _ => True) fun _ => note line :=
  settles_constant (fun _ => Discipline.keeps_note line) (Congruence.finishing.noted line)

theorem settles_symbolOf (form : String) {node : Node} (hnode : r.node node) :
    r.Settles r.Names fun _ => symbolOf form node :=
  settles_constant (fun _ => Discipline.keeps_symbolOf form hnode)
    (Congruence.related_symbolOf form node)

theorem settles_quotingAt {node : Node} (hnode : r.node node) (cause : String → RuntimeCause)
    (hcause : ∀ text, (cause text).isUnknown = false) :
    r.Settles value (fun _ => do raiseAt node (cause (← textOf node))) := by
  refine settles_constant (fun _ => ?_) (Congruence.related_quotingAt node cause)
  exact Discipline.keeps_textOf_bind hnode fun text => Discipline.keeps_raiseAt hnode (hcause text)

theorem settles_listOf (function : String) {node : Node} (hnode : r.node node) :
    r.Settles (fun items => node.items? = some items) fun _ => listOf function node := by
  refine settles_constant (fun _ => ?_) (Congruence.related_listOf function node)
  unfold listOf
  split
  next hitems => exact Discipline.keeps_pure hitems
  next => exact Discipline.keeps_textOf_bind hnode fun _ => Discipline.keeps_raise rfl

/-! ## Special forms -/

/-- An expression settles in whatever scope it is evaluated. -/
def Evaluates (r : Regime) (evaluator : Nat → Evaluator) (expr : Node) : Prop :=
  ∀ s, r.Settles r.node fun depth => evaluator depth (.evaluate expr) s

theorem settles_evaluateAll {nodes : List Node}
    (hnodes : ∀ node ∈ nodes, r.Evaluates evaluator node) (s : ScopeId) :
    r.Settles (fun values => ∀ value ∈ values, r.node value)
      fun depth => evaluateAll (evaluator depth) s nodes := by
  induction nodes with
  | nil => exact settles_pure (by simp)
  | cons node rest ih =>
      rw [List.forall_mem_cons] at hnodes
      refine Settles.bind (hnodes.1 s) fun value hvalue => ?_
      refine Settles.bind (ih hnodes.2) fun values hvalues => ?_
      exact settles_pure (List.forall_mem_cons.mpr ⟨hvalue, hvalues⟩)

theorem settles_evaluateBody {result : Node} (hresult : r.node result) {nodes : List Node}
    (hnodes : ∀ node ∈ nodes, r.Evaluates evaluator node) (s : ScopeId) :
    r.Settles r.node fun depth => evaluateBody (evaluator depth) s result nodes := by
  induction nodes generalizing result with
  | nil => exact settles_pure hresult
  | cons node rest ih =>
      rw [List.forall_mem_cons] at hnodes
      exact Settles.bind (hnodes.1 s) fun value hvalue => ih hvalue hnodes.2

theorem settles_evaluateBindings {nodes : List Node} (hnodes : ∀ node ∈ nodes, r.node node)
    (hoperands : ∀ node ∈ nodes, ∀ items, node.items? = some items →
      ∀ item ∈ items, r.Evaluates evaluator item) (s : ScopeId) :
    r.Settles (fun bindings => ∀ binding ∈ bindings, r.node binding.2)
      fun depth => evaluateBindings (evaluator depth) s nodes := by
  induction nodes with
  | nil => exact settles_pure (by simp)
  | cons node rest ih =>
      by_cases hpair : ∃ token target operand, node = .list token [target, operand]
      · obtain ⟨token, target, operand, rfl⟩ := hpair
        rw [List.forall_mem_cons] at hnodes hoperands
        have hitems := r.items hnodes.1
        have hoperand := hoperands.1 [target, operand] rfl operand (by simp)
        refine Settles.bind (settles_symbolOf "let" (hitems target (by simp))) fun name _ => ?_
        refine Settles.bind (hoperand s) fun bound hbound => ?_
        refine Settles.bind (ih hnodes.2 hoperands.2) fun bindings hbindings => ?_
        exact settles_pure (List.forall_mem_cons.mpr ⟨hbound, hbindings⟩)
      · -- what is no pair ends the bindings before anything is evaluated
        have hidle : ∀ depth, evaluateBindings (evaluator depth) s (node :: rest) =
            evaluateBindings idle s (node :: rest) := by
          intro depth
          unfold evaluateBindings
          split
          next heq => cases heq
          next heq => exact absurd ⟨_, _, _, (List.cons.inj heq).1⟩ hpair
          next => rfl
        simp only [hidle]
        refine settles_constant (fun w => ?_)
          (Congruence.related_evaluateBindings idle_finishes (node :: rest))
        exact Discipline.keeps_evaluateBindings idle_served trivial hnodes

theorem settles_conditional (hargs : ∀ arg ∈ args, r.Evaluates evaluator arg) (s : ScopeId) :
    r.Settles r.node fun depth => SpecialForm.conditional.run (evaluator depth) s args := by
  match args, hargs with
  | [], _ => exact settles_raise (by simp)
  | [_], _ => exact settles_raise (by simp)
  | [condition, branch], hargs =>
      refine Settles.bind (hargs condition (by simp) s) fun value _ => ?_
      cases value.isFalsy with
      | true => exact settles_pure (r.atom_made rfl)
      | false => exact hargs branch (by simp) s
  | [condition, branch, alternative], hargs =>
      refine Settles.bind (hargs condition (by simp) s) fun value _ => ?_
      cases value.isFalsy with
      | true => exact hargs alternative (by simp) s
      | false => exact hargs branch (by simp) s
  | _ :: _ :: _ :: _ :: _, _ => exact settles_raise (by simp)

theorem settles_definition (hnodes : ∀ arg ∈ args, r.node arg)
    (hargs : ∀ arg ∈ args, r.Evaluates evaluator arg) (s : ScopeId) :
    r.Settles r.node fun depth => SpecialForm.definition.run (evaluator depth) s args := by
  match args, hnodes, hargs with
  | [], _, _ => exact settles_raise (by simp)
  | [_], _, _ => exact settles_raise (by simp)
  | [target, operand], hnodes, hargs =>
      refine Settles.bind (settles_symbolOf "define" (hnodes target (by simp))) fun name _ => ?_
      refine Settles.bind (hargs operand (by simp) s) fun bound hbound => ?_
      refine Settles.bind (settles_textOf hbound) fun _ _ => ?_
      refine Settles.bind (settles_note _) fun _ _ => ?_
      have hdefine : r.Settles (fun _ => True) fun _ => define s name bound :=
        settles_constant (fun _ => Discipline.keeps_define name trivial hbound)
          (Congruence.finishing.defined s name bound)
      exact Settles.bind hdefine fun _ _ => settles_pure (r.atom_made rfl)
  | _ :: _ :: _ :: _, _, _ => exact settles_raise (by simp)

theorem settles_assignment (hnodes : ∀ arg ∈ args, r.node arg)
    (hargs : ∀ arg ∈ args, r.Evaluates evaluator arg) (s : ScopeId) :
    r.Settles r.node fun depth => SpecialForm.assignment.run (evaluator depth) s args := by
  match args, hnodes, hargs with
  | [], _, _ => exact settles_raise (by simp)
  | [_], _, _ => exact settles_raise (by simp)
  | [target, operand], hnodes, hargs =>
      have htarget := hnodes target (by simp)
      refine Settles.bind (settles_symbolOf "setf!" htarget) fun name hname => ?_
      have hlookup : r.Settles r.node fun _ => lookup s name :=
        settles_constant (fun _ => Discipline.keeps_lookup trivial hname)
          (Congruence.related_lookup s name)
      have hdiscard : r.Settles (fun _ => True) fun _ => discard (located target (lookup s name)) :=
        Settles.bind (hlookup.located htarget) fun _ _ => settles_pure trivial
      refine Settles.bind hdiscard fun _ _ => ?_
      refine Settles.bind (hargs operand (by simp) s) fun bound hbound => ?_
      refine Settles.bind (settles_textOf hbound) fun _ _ => ?_
      refine Settles.bind (settles_note _) fun _ _ => ?_
      have hassign : r.Settles (fun _ => True) fun _ => assign s name bound :=
        settles_constant (fun _ => Discipline.keeps_assign name trivial hbound)
          (Congruence.related_assign s name bound)
      exact Settles.bind (hassign.located htarget) fun _ _ => settles_pure hbound
  | _ :: _ :: _ :: _, _, _ => exact settles_raise (by simp)

theorem sizeOf_items_lt {node : Node} {items : List Node} (hitems : node.items? = some items) :
    sizeOf items < sizeOf node := by
  cases node with
  | list token others =>
      cases hitems
      simp
  | atom => cases hitems
  | closure => cases hitems

theorem settles_binding (hnodes : ∀ arg ∈ args, r.node arg)
    (hsmaller : ∀ expr, r.node expr → sizeOf expr < sizeOf args → r.Evaluates evaluator expr)
    (s : ScopeId) :
    r.Settles r.node fun depth => SpecialForm.binding.run (evaluator depth) s args := by
  match args, hnodes, hsmaller with
  | [], _, _ => exact settles_raise rfl
  | [_], _, _ => exact settles_raise rfl
  | bindings :: first :: rest, hnodes, hsmaller =>
      rw [List.forall_mem_cons] at hnodes
      simp only [SpecialForm.run]
      cases hitems : bindings.items? with
      | none => exact settles_quotingAt hnodes.1 .notBindings fun _ => rfl
      | some items =>
          have hpairs := node_of_items? hnodes.1 hitems
          have hoperands : ∀ pair ∈ items, ∀ inner, pair.items? = some inner →
              ∀ operand ∈ inner, r.Evaluates evaluator operand := by
            intro pair hpair inner hinner operand hoperand
            have hnode := node_of_items? (hpairs pair hpair) hinner operand hoperand
            refine hsmaller operand hnode ?_
            calc sizeOf operand < sizeOf inner := List.sizeOf_lt_of_mem hoperand
              _ < sizeOf pair := sizeOf_items_lt hinner
              _ < sizeOf items := List.sizeOf_lt_of_mem hpair
              _ < sizeOf bindings := sizeOf_items_lt hitems
              _ < sizeOf (bindings :: first :: rest) := List.sizeOf_lt_of_mem List.mem_cons_self
          have hbody : ∀ expr ∈ first :: rest, r.Evaluates evaluator expr := by
            intro expr hexpr
            exact hsmaller expr (hnodes.2 expr hexpr)
              (List.sizeOf_lt_of_mem (List.mem_cons_of_mem bindings hexpr))
          refine Settles.bind (settles_evaluateBindings hpairs hoperands s) fun values hvalues => ?_
          have henclose : r.Settles (fun _ => True) fun _ => enclose s values :=
            settles_constant (fun _ => Discipline.keeps_enclose trivial hvalues)
              (Congruence.finishing.enclosed s values)
          refine Settles.bind henclose fun inner _ => ?_
          exact settles_evaluateBody (r.atom_made rfl) hbody inner

theorem settles_specialForm {form : SpecialForm} (hform : r.Names form.name)
    (hnodes : ∀ arg ∈ args, r.node arg)
    (hsmaller : ∀ expr, r.node expr → sizeOf expr < sizeOf args → r.Evaluates evaluator expr)
    (s : ScopeId) : r.Settles r.node fun depth => form.run (evaluator depth) s args := by
  have hargs : ∀ arg ∈ args, r.Evaluates evaluator arg :=
    fun arg harg => hsmaller arg (hnodes arg harg) (List.sizeOf_lt_of_mem harg)
  cases form with
  | conditional => exact settles_conditional hargs s
  | definition => exact settles_definition hnodes hargs s
  | quotation => exact settles_specialForm_of_idle hform hnodes fun _ => rfl
  | abstraction => exact settles_specialForm_of_idle hform hnodes fun _ => rfl
  | binding => exact settles_binding hnodes hsmaller s
  | assignment => exact settles_assignment hnodes hargs s

/-! ## Evaluations -/

theorem settles_evaluateList {head : Node} (hhead : r.node head) (hnodes : ∀ arg ∈ args, r.node arg)
    (hsmaller : ∀ expr, r.node expr → sizeOf expr < sizeOf (head :: args) →
      r.Evaluates evaluator expr)
    (happly : ∀ function values, r.node function → (∀ value ∈ values, r.node value) →
      r.Settles r.node fun depth => evaluator depth (.apply function values) s) :
    r.Settles r.node fun depth => evaluateList (evaluator depth) head args s := by
  simp only [evaluateList]
  cases hform : head.symbol?.bind SpecialForm.ofName? with
  | some form =>
      obtain ⟨token, rfl⟩ := Discipline.exists_eq_of_form hform
      refine settles_specialForm ⟨token, hhead⟩ hnodes (fun expr hexpr hsize => ?_) s
      refine hsmaller expr hexpr (Nat.lt_trans hsize ?_)
      simp
  | none =>
      have hargs : ∀ arg ∈ args, r.Evaluates evaluator arg := fun arg harg =>
        hsmaller arg (hnodes arg harg) (List.sizeOf_lt_of_mem (List.mem_cons_of_mem head harg))
      have hfunction := hsmaller head hhead (List.sizeOf_lt_of_mem List.mem_cons_self)
      refine Settles.bind (hfunction s) fun function hfunction => ?_
      refine Settles.bind (settles_evaluateAll hargs s) fun values hvalues => ?_
      cases function.isCallable with
      | true => exact happly function values hfunction hvalues
      | false => exact settles_quotingAt hhead .notApplicable fun _ => rfl

/-- What `apply` passes on are elements of one of its arguments. -/
theorem settles_builtinApply (hnodes : ∀ arg ∈ args, r.node arg)
    (hsmaller : ∀ function values, r.node function → (∀ value ∈ values, r.node value) →
      sizeOf values < sizeOf args →
      r.Settles r.node fun depth => evaluator depth (.apply function values) s) :
    r.Settles r.node fun depth => Builtin.apply.run (evaluator depth) s args := by
  match args, hnodes, hsmaller with
  | [], _, _ => exact settles_raise (by simp)
  | [_], _, _ => exact settles_raise (by simp)
  | [function, list], hnodes, hsmaller =>
      have hfunction := hnodes function (by simp)
      have hlist := hnodes list (by simp)
      simp only [Builtin.run]
      cases function.isCallable with
      | true =>
          refine Settles.bind (settles_listOf "apply" hlist) fun values hvalues => ?_
          refine hsmaller function values hfunction (node_of_items? hlist hvalues) ?_
          exact Nat.lt_trans (sizeOf_items_lt hvalues) (List.sizeOf_lt_of_mem (by simp))
      | false =>
          refine settles_constant (fun _ => ?_) (Congruence.related_quoting function _)
          exact Discipline.keeps_textOf_bind hfunction fun _ => Discipline.keeps_raise rfl
  | _ :: _ :: _ :: _, _, _ => exact settles_raise (by simp)

/-- Neither closures nor `eval` may be around. -/
structure IsTame (r : Regime) : Prop where
  closure {token : Option Token} {identity : Nat} {params : List String} {body : List Node}
    {home : ScopeId} : ¬ r.node (.closure token identity params body home)
  eval {token : Option Token} : ¬ r.node (.atom token (.primitive (.builtin .eval)))

theorem IsTame.applyStep_settles (htame : r.IsTame) {function : Node} (hfunction : r.node function)
    (hnodes : ∀ arg ∈ args, r.node arg)
    (hsmaller : ∀ function values, r.node function → (∀ value ∈ values, r.node value) →
      sizeOf values < sizeOf args →
      r.Settles r.node fun depth => evaluator depth (.apply function values) s) :
    r.Settles r.node fun depth => step (evaluator depth) (.apply function args) s := by
  have htask : r.task (.apply function args) := ⟨hfunction, hnodes⟩
  cases function with
  | closure => exact absurd hfunction htame.closure
  | list => exact settles_step_of_idle htask fun _ => rfl
  | atom token a =>
      cases a with
      | primitive primitive =>
          cases primitive with
          | host => exact settles_step_of_idle htask fun _ => rfl
          | builtin function =>
              cases function with
              | eval => exact absurd hfunction htame.eval
              | apply => exact settles_builtinApply hnodes hsmaller
              | _ => exact settles_step_of_idle htask fun _ => rfl
      | _ => exact settles_step_of_idle htask fun _ => rfl

theorem IsTame.apply_settles (htame : r.IsTame) {function : Node} {args : List Node}
    (hfunction : r.node function) (hnodes : ∀ arg ∈ args, r.node arg) (s : ScopeId) :
    r.Settles r.node fun depth => perform depth (.apply function args) s := by
  -- the recursion is on the size of the arguments; nothing is known of the function
  refine Settles.of_succ (htame.applyStep_settles hfunction hnodes ?_)
  intro inner values hinner hvalues _
  exact htame.apply_settles hinner hvalues s
termination_by sizeOf args

theorem IsTame.evaluate_settles (htame : r.IsTame) {expr : Node} (hexpr : r.node expr) (s : ScopeId) :
    r.Settles r.node fun depth => perform depth (.evaluate expr) s := by
  refine Settles.of_succ ?_
  match expr, hexpr with
  | .atom _ a, hexpr => exact settles_step_of_idle hexpr fun _ => by cases a <;> rfl
  | .closure .., hexpr => exact absurd hexpr htame.closure
  | .list _ [], hexpr => exact settles_step_of_idle hexpr fun _ => rfl
  | .list token (head :: operands), hexpr =>
      have hitems := List.forall_mem_cons.mp (r.items hexpr)
      refine Settles.located hexpr (settles_evaluateList hitems.1 hitems.2 ?_ ?_)
      · intro sub hsub hsize s
        exact htame.evaluate_settles hsub s
      -- values may be larger than the expression, but applying them evaluates nothing
      · intro function values hfunction hvalues
        exact htame.apply_settles hfunction hvalues s
termination_by sizeOf expr
decreasing_by
  simp only [Node.list.sizeOf_spec]
  omega

theorem IsTame.evaluateForms_settles (htame : r.IsTame) (s : ScopeId) {result : Node}
    (hresult : r.node result) {forms : List Node} (hforms : ∀ form ∈ forms, r.node form) :
    r.Settles r.node fun depth => evaluateForms depth s result forms := by
  induction forms generalizing result with
  | nil => exact settles_pure hresult
  | cons form rest ih =>
      rw [List.forall_mem_cons] at hforms
      simp only [evaluateForms_cons]
      refine Settles.bind (htame.evaluate_settles hforms.1 s).reported fun value hvalue => ?_
      exact ih hvalue hforms.2

end Regime

/-! ## Sessions -/

/-- Whether an atom is a value of the language and has nothing to do with `lambda` or
`eval`. -/
def Atom.isTame (a : Atom) : Bool :=
  a.isPlain && a != .symbol SpecialForm.abstraction.name && a != .symbol Builtin.eval.name &&
    a != .primitive (.builtin .eval)

/-- The values of the language without `lambda` and `eval`. -/
def Vocabulary.tame : Vocabulary where
  atom a := a.isTame = true
  made {a} ha := by
    cases a with
    | nil => rfl
    | bool => rfl
    | number => rfl
    | _ => cases ha
  plain {a} ha := by
    simp only [Atom.isTame, Bool.and_eq_true] at ha
    exact ha.1.1.1

instance : DecidablePred Vocabulary.tame.atom :=
  fun a => inferInstanceAs (Decidable (a.isTame = true))

namespace Vocabulary

theorem tame_isTame : Vocabulary.tame.regime.IsTame where
  closure hclosure := absurd (covers_closure.mp hclosure).1 (by decide)
  eval hatom := absurd (covers_atom.mp hatom) (by decide)

/-- The only name that `eval` is bound to cannot be mentioned. -/
theorem holds_tame_start (sink : Sink) :
    Vocabulary.tame.regime.Holds (Session.start none sink).world := by
  have hinitial : ∀ binding ∈ initialBindings, binding.1 = Builtin.eval.name ∨
      (∀ a ∈ binding.2.atoms, a.isTame = true) ∧ binding.2.identities = [] := by decide
  refine Regime.holds_start sink fun binding hbinding hname => ?_
  rcases hinitial binding hbinding with heval | ⟨hatoms, hclosures⟩
  · rw [names_iff, heval] at hname
    exact absurd hname (by decide)
  · exact ⟨hatoms, fun hsome => absurd hclosures hsome⟩

end Vocabulary

/-- If a source reads as a program, no symbol in it has the given name. -/
def Source.Avoids (source : Source) (name : String) : Prop :=
  ∀ program, Program.read source = .ok program → .symbol name ∉ program.atoms

instance (source : Source) (name : String) : Decidable (source.Avoids name) :=
  match hread : Program.read source with
  | .error _ => .isTrue fun _ hok => by cases hread.symm.trans hok
  | .ok program => decidable_of_iff (.symbol name ∉ program.atoms)
      ⟨fun hname _ hok => by cases hread.symm.trans hok; exact hname, fun hall => hall program hread⟩

theorem Vocabulary.accepts_tame {source : Source}
    (hlambda : source.Avoids SpecialForm.abstraction.name) (heval : source.Avoids Builtin.eval.name) :
    Vocabulary.tame.regime.Accepts source := by
  refine accepts fun program hread a ha => ?_
  have hwritable := isWritable_of_read hread a ha
  have hplain := Atom.isPlain_of_isWritable hwritable
  simp only [tame, Atom.isTame, Bool.and_eq_true, bne_iff_ne]
  refine ⟨⟨⟨hplain, ?_⟩, ?_⟩, ?_⟩
  · rintro rfl
    exact hlambda program hread ha
  · rintro rfl
    exact heval program hread ha
  · rintro rfl
    cases hwritable

/-- The ways for a program to come to an end: a value, an error when it is read or run, or a
product that needs an exponent out of bounds. -/
def Session.IsOutcome : Except Interruption Node → Prop
  | .ok _ => True
  | .error (.unreadable _) => True
  | .error (.stopped (.problem _)) => True
  | .error (.stopped (.fault met)) =>
    ∃ a b exponent, Decimal.mul a b = .error exponent ∧ met = .exponentOverflow exponent
  | .error (.stopped .exhausted) => False

/-- In a session without a host whose programs mention neither `lambda` nor `eval`, quoted or
not, every program comes to an end: there is a depth from which on it has the same result, a
value, an error or an exponent out of bounds, and leaves the same session. -/
theorem runs_terminate (sink : Sink) (earlier : List (Nat × Source)) (source : Source)
    (havoids : ∀ origin ∈ source :: earlier.map Prod.snd,
      origin.Avoids "lambda" ∧ origin.Avoids "eval") :
    let session := (Session.start none sink).runs earlier
    ∃ least result after, Session.IsOutcome result ∧
      ∀ depth, least ≤ depth → session.run depth source = (result, after) := by
  intro session
  have haccepts : ∀ origin ∈ source :: earlier.map Prod.snd,
      Vocabulary.tame.regime.Accepts origin := fun origin horigin =>
    Vocabulary.accepts_tame (havoids origin horigin).1 (havoids origin horigin).2
  rw [List.forall_mem_cons, List.forall_mem_map] at haccepts
  have hholds : Vocabulary.tame.regime.Holds session.world :=
    (Vocabulary.holds_tame_start sink).runs haccepts.2
  simp only [Session.run]
  cases hread : Program.read source with
  | error error => exact ⟨0, .error (.unreadable error), session, trivial, fun _ _ => rfl⟩
  | ok program =>
      have hnil : Vocabulary.tame.regime.node .nil := Vocabulary.tame.regime.atom_made rfl
      obtain ⟨least, result, after, hrun, -, hends, hdone⟩ :=
        Vocabulary.tame_isTame.evaluateForms_settles session.root hnil (haccepts.1 program hread)
          session.world hholds
      refine ⟨least, result.mapError .stopped, { session with world := after }, ?_, ?_⟩
      · cases result with
        | ok value => trivial
        | error stop =>
            cases stop with
            | problem met => trivial
            | fault met => exact hends
            | exhausted => cases hdone
      · intro depth hdepth
        have hforms := hrun depth hdepth
        simp only [Session.runProgram, Session.act]
        change (evaluateForms depth session.root .nil _).runIn session.world = _ at hforms
        rw [hforms]

/-- A program that gives `apply` another name. -/
def aliasSample : Source := .ofString "(define call apply)"

/-- A program that applies `apply` to itself, by that name and on lists it makes. -/
def nestedSample : Source := .ofString "(call call (list call (list call (list + (list 1 2)))))"

/-- The second program comes to an end after the first, however deeply that one was allowed
to nest. -/
theorem nestedSample_terminates :
    (∀ origin ∈ [nestedSample, aliasSample], origin.Avoids "lambda" ∧ origin.Avoids "eval") ∧
    ∀ depth, ∃ least result after, Session.IsOutcome result ∧ ∀ enough, least ≤ enough →
      ((Session.start none .accepting).runs [(depth, aliasSample)]).run enough nestedSample =
        (result, after) := by
  have havoids : ∀ origin ∈ [nestedSample, aliasSample],
      origin.Avoids "lambda" ∧ origin.Avoids "eval" := by decide +kernel
  exact ⟨havoids, fun depth => runs_terminate .accepting [(depth, aliasSample)] nestedSample havoids⟩

end Lisplet
