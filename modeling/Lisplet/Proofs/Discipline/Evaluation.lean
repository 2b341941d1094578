import Lisplet.Proofs.Arithmetic
import Lisplet.Proofs.Discipline.Effect

/-!
# What evaluations keep to

Evaluations keep to every discipline. One case for each form, primitive function and
kind of task shows it of a step, given that smaller tasks do, and induction on the depth
carries it to every evaluation and from there to the forms of a program.
-/

namespace Lisplet

open Effect

namespace Discipline

variable {d : Discipline} {w : World} {s : ScopeId} {args : List Node}

/-! ## Primitive functions that only look at their arguments -/

theorem nodes_of_items? {node : Node} {items : List Node} (hnode : d.node w node)
    (hitems : node.items? = some items) : d.nodes w items := by
  unfold Node.items? at hitems
  split at hitems
  · cases hitems
    exact d.items hnode
  · cases hitems

theorem nodes_spliced {node : Node} (hnode : d.node w node) : d.nodes w node.spliced := by
  unfold Node.spliced
  cases hitems : node.items? with
  | none => simpa using hnode
  | some items => exact nodes_of_items? hnode hitems

theorem mem_of_numbers_eq_error {node : Node} (hnumbers : numbers args = .error node) :
    node ∈ args := by
  induction args with
  | nil => cases hnumbers
  | cons arg rest ih =>
      rw [numbers] at hnumbers
      split at hnumbers
      · cases hrest : numbers rest with
        | ok values =>
            rw [hrest] at hnumbers
            cases hnumbers
        | error wrong =>
            rw [hrest] at hnumbers
            cases hnumbers
            exact List.mem_cons_of_mem _ (ih hrest)
      · cases hnumbers
        exact List.mem_cons_self

theorem stop_of_fails {operation : Arithmetic} {a b : Decimal} {stop : Stop}
    (hfails : operation.Fails a b stop) : d.stop stop := by
  cases hfails with
  | overflow hmul => exact d.overflown hmul
  | zeroDivisor => exact d.raised rfl

theorem keeps_arithmetic (operation : Arithmetic) (hargs : d.nodes w args) :
    d.Keeps d.node (operation.run args) w := by
  unfold Arithmetic.run
  split
  next node hnumbers =>
    refine keeps_textOf_bind (hargs node (mem_of_numbers_eq_error hnumbers)) fun text => ?_
    exact keeps_raise rfl
  next => exact keeps_raise rfl
  next =>
    refine keeps_pure ?_
    cases args with
    | nil => exact d.atom_made rfl
    | cons arg rest => exact hargs arg List.mem_cons_self
  next first rest _ _ =>
    have hlift : d.Keeps (fun _ _ => True)
        (Arithmetic.run.liftExcept (operation.fold first rest)) w := by
      cases hfold : operation.fold first rest with
      | ok c => exact keeps_pure trivial
      | error stop =>
          obtain ⟨_, _, -, hfails⟩ := Arithmetic.Fails.of_fold hfold
          exact keeps_throw (stop_of_fails hfails)
    exact hlift.bind fun _ _ _ _ => keeps_pure (d.atom_made rfl)

theorem keeps_comparison (order : Comparison) (hargs : d.nodes w args) :
    d.Keeps d.node (order.run args) w := by
  unfold Comparison.run
  split
  next a b =>
    split
    · exact keeps_pure (d.atom_made rfl)
    · refine keeps_textOf_bind (hargs a (by simp)) fun _ => ?_
      refine keeps_textOf_bind (hargs b (by simp)) fun _ => ?_
      exact keeps_raise rfl
  next => exact keeps_raise (by simp)

theorem keeps_listOf (function : String) {node : Node} (hnode : d.node w node) :
    d.Keeps d.nodes (listOf function node) w := by
  unfold listOf
  split
  next hitems => exact keeps_pure (nodes_of_items? hnode hitems)
  next => exact keeps_textOf_bind hnode fun _ => keeps_raise rfl

theorem keeps_nonEmptyListOf (function : String) (hargs : d.nodes w args) :
    d.Keeps (fun after found => d.node after found.1 ∧ d.nodes after found.2)
      (nonEmptyListOf function args) w := by
  unfold nonEmptyListOf
  split
  next node =>
    refine (keeps_listOf function (hargs node (by simp))).bind ?_
    intro items after _ hitems
    cases items with
    | nil => exact keeps_raise rfl
    | cons first rest => exact keeps_pure (by simpa using hitems)
  next => exact keeps_raise (by simp)

/-! ## Primitive functions -/

/-- The nodes of a task may be around. -/
def task (d : Discipline) (w : World) : Task → Prop
  | .evaluate expr => d.node w expr
  | .apply function args => d.node w function ∧ d.nodes w args

/-- A way to have tasks done keeps to the discipline. -/
def Served (d : Discipline) (evaluator : Evaluator) : Prop :=
  ∀ ⦃request : Task⦄ ⦃s : ScopeId⦄ ⦃w : World⦄, d.task w request → d.scope w s →
    d.Keeps d.node (evaluator request s) w

variable {evaluator : Evaluator}

theorem Served.evaluate (hserved : d.Served evaluator) {expr : Node} (hexpr : d.node w expr)
    (hscope : d.scope w s) : d.Keeps d.node (evaluator (.evaluate expr) s) w :=
  @hserved (.evaluate expr) s w hexpr hscope

theorem Served.apply (hserved : d.Served evaluator) {function : Node} (hfunction : d.node w function)
    (hargs : d.nodes w args) (hscope : d.scope w s) :
    d.Keeps d.node (evaluator (.apply function args) s) w :=
  @hserved (.apply function args) s w ⟨hfunction, hargs⟩ hscope

theorem keeps_write_nil (text : String) :
    d.Keeps d.node (do
      write text
      pure .nil) w :=
  (keeps_write text).bind fun _ _ _ _ => keeps_pure (d.atom_made rfl)

theorem keeps_builtin (hserved : d.Served evaluator) (hscope : d.scope w s)
    (hargs : d.nodes w args) (function : Builtin) :
    d.Keeps d.node (function.run evaluator s args) w := by
  cases function with
  | arithmetic operation => exact keeps_arithmetic operation hargs
  | comparison order => exact keeps_comparison order hargs
  | equal =>
      simp only [Builtin.run]
      split
      · exact keeps_raise rfl
      · exact keeps_pure (d.atom_made rfl)
  | negation =>
      simp only [Builtin.run]
      split
      next node =>
        split
        · exact keeps_pure (d.atom_made rfl)
        · exact keeps_textOf_bind (hargs node (by simp)) fun _ => keeps_raise rfl
      next => exact keeps_raise (by simp)
  | car => exact (keeps_nonEmptyListOf "car" hargs).bind fun _ _ _ hfound => keeps_pure hfound.1
  | cdr =>
      refine (keeps_nonEmptyListOf "cdr" hargs).bind ?_
      exact fun _ _ _ hfound => keeps_pure (d.ofList hfound.2)
  | cons =>
      simp only [Builtin.run]
      split
      next a b =>
        refine keeps_pure (d.ofList ?_)
        intro item hitem
        rcases List.mem_append.mp hitem with hitem | hitem
        · exact nodes_spliced (hargs a (by simp)) item hitem
        · exact nodes_spliced (hargs b (by simp)) item hitem
      next => exact keeps_raise (by simp)
  | list => exact keeps_pure (d.ofList hargs)
  | isEmpty =>
      simp only [Builtin.run]
      split
      next node =>
        refine (keeps_listOf "null?" (hargs node (by simp))).bind ?_
        exact fun _ _ _ _ => keeps_pure (d.atom_made rfl)
      next => exact keeps_raise (by simp)
  | eval =>
      simp only [Builtin.run]
      split
      next expr => exact hserved.evaluate (hargs expr (by simp)) hscope
      next => exact keeps_raise (by simp)
  | apply =>
      simp only [Builtin.run]
      split
      next function values =>
        have hfunction := hargs function (by simp)
        split
        · refine (keeps_listOf "apply" (hargs values (by simp))).bind ?_
          intro items after hgrows hitems
          exact hserved.apply (d.node_mono hgrows hfunction) hitems (d.scope_mono hgrows hscope)
        · exact keeps_textOf_bind hfunction fun _ => keeps_raise rfl
      next => exact keeps_raise (by simp)
  | display =>
      simp only [Builtin.run]
      split
      next node =>
        split
        next htext =>
          refine keeps_throw (d.textless (hargs node (by simp)) ?_)
          simpa using htext
        next => exact keeps_write_nil _
      next => exact keeps_raise (by simp)
  | newline =>
      simp only [Builtin.run]
      split
      · exact keeps_write_nil _
      · exact keeps_raise (by simp)

theorem keeps_primitive (hserved : d.Served evaluator) (hscope : d.scope w s)
    (hargs : d.nodes w args) {token : Option Token} {primitive : Primitive}
    (hprimitive : d.node w (.atom token (.primitive primitive))) :
    d.Keeps d.node (primitive.run evaluator s args) w := by
  cases primitive with
  | builtin function => exact keeps_builtin hserved hscope hargs function
  | host identity title function =>
      cases function with
      | count => exact keeps_pure (d.atom_made rfl)
      | names =>
          intro hworld
          refine ⟨d.grows_refl w, hworld, d.ofList ?_⟩
          intro item hitem
          obtain ⟨binding, -, rfl⟩ := List.mem_map.mp hitem
          exact d.listed binding.1 hprimitive
      | failing => exact keeps_throw (d.failed hprimitive)

/-! ## Special forms -/

theorem exists_eq_of_symbol? {node : Node} {name : String} (hname : node.symbol? = some name) :
    ∃ token, node = .atom token (.symbol name) := by
  unfold Node.symbol? at hname
  split at hname
  · cases hname
    exact ⟨_, rfl⟩
  · cases hname

theorem keeps_symbolOf (form : String) {node : Node} (hnode : d.node w node) :
    d.Keeps d.named (symbolOf form node) w := by
  unfold symbolOf
  split
  next name hname =>
    obtain ⟨token, rfl⟩ := exists_eq_of_symbol? hname
    exact keeps_pure ⟨token, hnode⟩
  · exact keeps_textOf_bind hnode fun _ => keeps_raiseAt hnode rfl

theorem keeps_symbolsOf (form : String) {nodes : List Node} (hnodes : d.nodes w nodes) :
    d.Keeps (fun after names => ∀ name ∈ names, d.named after name) (symbolsOf form nodes) w := by
  induction nodes generalizing w with
  | nil => exact keeps_pure (by simp)
  | cons node rest ih =>
      rw [nodes_cons] at hnodes
      refine (keeps_symbolOf form hnodes.1).bind ?_
      intro name after hgrows hname
      refine (ih (nodes_mono hgrows hnodes.2)).bind ?_
      intro names after' hgrows' hnames
      exact keeps_pure (List.forall_mem_cons.mpr ⟨named_mono hgrows' hname, hnames⟩)

theorem keeps_evaluateAll (hserved : d.Served evaluator) {nodes : List Node}
    (hscope : d.scope w s) (hnodes : d.nodes w nodes) :
    d.Keeps d.nodes (evaluateAll evaluator s nodes) w := by
  induction nodes generalizing w with
  | nil => exact keeps_pure (by simp)
  | cons node rest ih =>
      rw [nodes_cons] at hnodes
      refine (hserved.evaluate hnodes.1 hscope).bind ?_
      intro value after hgrows hvalue
      refine (ih (d.scope_mono hgrows hscope) (nodes_mono hgrows hnodes.2)).bind ?_
      intro values after' hgrows' hvalues
      exact keeps_pure (nodes_cons.mpr ⟨d.node_mono hgrows' hvalue, hvalues⟩)

theorem keeps_evaluateBody (hserved : d.Served evaluator) {result : Node} {nodes : List Node}
    (hscope : d.scope w s) (hresult : d.node w result) (hnodes : d.nodes w nodes) :
    d.Keeps d.node (evaluateBody evaluator s result nodes) w := by
  induction nodes generalizing w result with
  | nil => exact keeps_pure hresult
  | cons node rest ih =>
      rw [nodes_cons] at hnodes
      refine (hserved.evaluate hnodes.1 hscope).bind ?_
      intro value after hgrows hvalue
      exact ih (d.scope_mono hgrows hscope) hvalue (nodes_mono hgrows hnodes.2)

theorem keeps_evaluateBindings (hserved : d.Served evaluator) {nodes : List Node}
    (hscope : d.scope w s) (hnodes : d.nodes w nodes) :
    d.Keeps (fun after bindings => ∀ binding ∈ bindings, d.node after binding.2)
      (evaluateBindings evaluator s nodes) w := by
  induction nodes generalizing w with
  | nil => exact keeps_pure (by simp)
  | cons node rest ih =>
      rw [nodes_cons] at hnodes
      unfold evaluateBindings
      split
      next heq => cases heq
      next token target operand others heq =>
        cases heq
        have hpair := d.items hnodes.1
        refine (keeps_symbolOf "let" (hpair target (by simp))).bind ?_
        intro name after hgrows _
        have hoperand := d.node_mono hgrows (hpair operand (by simp))
        refine (hserved.evaluate hoperand (d.scope_mono hgrows hscope)).bind ?_
        intro value after' hgrows' hvalue
        have hboth := d.grows_trans hgrows hgrows'
        refine (ih (d.scope_mono hboth hscope) (nodes_mono hboth hnodes.2)).bind ?_
        intro bindings after'' hgrows'' hbindings
        refine keeps_pure ?_
        intro binding hbinding
        rcases List.mem_cons.mp hbinding with rfl | hbinding
        · exact d.node_mono hgrows'' hvalue
        · exact hbindings binding hbinding
      next heq =>
        cases heq
        exact keeps_textOf_bind hnodes.1 fun _ => keeps_raiseAt hnodes.1 rfl

theorem keeps_conditional (hserved : d.Served evaluator) (hscope : d.scope w s)
    (hargs : d.nodes w args) : d.Keeps d.node (SpecialForm.conditional.run evaluator s args) w := by
  simp only [SpecialForm.run]
  split
  next condition branch =>
    refine (hserved.evaluate (hargs condition (by simp)) hscope).bind ?_
    intro value after hgrows _
    split
    · exact keeps_pure (d.atom_made rfl)
    · exact hserved.evaluate (d.node_mono hgrows (hargs branch (by simp)))
        (d.scope_mono hgrows hscope)
  next condition branch alternative =>
    refine (hserved.evaluate (hargs condition (by simp)) hscope).bind ?_
    intro value after hgrows _
    refine hserved.evaluate (d.node_mono hgrows ?_) (d.scope_mono hgrows hscope)
    split
    · exact hargs alternative (by simp)
    · exact hargs branch (by simp)
  next => exact keeps_raise (by simp)

theorem keeps_definition (hserved : d.Served evaluator) (hscope : d.scope w s)
    (hargs : d.nodes w args) : d.Keeps d.node (SpecialForm.definition.run evaluator s args) w := by
  simp only [SpecialForm.run]
  split
  next target operand =>
    refine (keeps_symbolOf "define" (hargs target (by simp))).bind ?_
    intro name after hgrows _
    have hscope := d.scope_mono hgrows hscope
    refine (hserved.evaluate (d.node_mono hgrows (hargs operand (by simp))) hscope).bind ?_
    intro value after hgrows hvalue
    have hscope := d.scope_mono hgrows hscope
    refine keeps_textOf_bind hvalue fun _ => ?_
    refine (keeps_note _).bind ?_
    intro _ after hgrows _
    refine (keeps_define name (d.scope_mono hgrows hscope) (d.node_mono hgrows hvalue)).bind ?_
    exact fun _ _ _ _ => keeps_pure (d.atom_made rfl)
  next => exact keeps_raise (by simp)

theorem keeps_assignment (hserved : d.Served evaluator) (hscope : d.scope w s)
    (hargs : d.nodes w args) : d.Keeps d.node (SpecialForm.assignment.run evaluator s args) w := by
  simp only [SpecialForm.run]
  split
  next target operand =>
    have htarget := hargs target (by simp)
    have hoperand := hargs operand (by simp)
    refine (keeps_symbolOf "setf!" htarget).bind ?_
    intro name after hgrows hname
    have hscope := d.scope_mono hgrows hscope
    have htarget := d.node_mono hgrows htarget
    have hoperand := d.node_mono hgrows hoperand
    have hlookup : d.Keeps (fun _ _ => True) (discard (located target (lookup s name))) after :=
      (keeps_located htarget (keeps_lookup hscope hname)).bind fun _ _ _ _ => keeps_pure trivial
    refine hlookup.bind ?_
    intro _ after hgrows _
    have hscope := d.scope_mono hgrows hscope
    have htarget := d.node_mono hgrows htarget
    refine (hserved.evaluate (d.node_mono hgrows hoperand) hscope).bind ?_
    intro value after hgrows hvalue
    have hscope := d.scope_mono hgrows hscope
    have htarget := d.node_mono hgrows htarget
    refine keeps_textOf_bind hvalue fun _ => ?_
    refine (keeps_note _).bind ?_
    intro _ after hgrows _
    have hscope := d.scope_mono hgrows hscope
    have htarget := d.node_mono hgrows htarget
    have hvalue := d.node_mono hgrows hvalue
    refine (keeps_located htarget (keeps_assign name hscope hvalue)).bind ?_
    exact fun _ _ hgrows _ => keeps_pure (d.node_mono hgrows hvalue)
  next => exact keeps_raise (by simp)

theorem keeps_abstraction (hform : d.named w SpecialForm.abstraction.name) (hscope : d.scope w s)
    (hargs : d.nodes w args) : d.Keeps d.node (SpecialForm.abstraction.run evaluator s args) w := by
  simp only [SpecialForm.run]
  split
  next parameters first rest =>
    rw [nodes_cons] at hargs
    split
    next items hitems =>
      refine (keeps_symbolsOf "lambda" (nodes_of_items? hargs.1 hitems)).bind ?_
      intro names after hgrows hnames
      exact keeps_freshIdentity_bind (named_mono hgrows hform) (d.node_mono hgrows hargs.1) hnames
        (nodes_mono hgrows hargs.2) (d.scope_mono hgrows hscope)
    next => exact keeps_textOf_bind hargs.1 fun _ => keeps_raiseAt hargs.1 rfl
  next => exact keeps_raise rfl

theorem keeps_binding (hserved : d.Served evaluator) (hscope : d.scope w s)
    (hargs : d.nodes w args) : d.Keeps d.node (SpecialForm.binding.run evaluator s args) w := by
  simp only [SpecialForm.run]
  split
  next bindings first rest =>
    rw [nodes_cons] at hargs
    split
    next items hitems =>
      refine (keeps_evaluateBindings hserved hscope (nodes_of_items? hargs.1 hitems)).bind ?_
      intro values after hgrows hvalues
      refine (keeps_enclose (d.scope_mono hgrows hscope) hvalues).bind ?_
      intro inner after' hgrows' hinner
      exact keeps_evaluateBody hserved hinner (d.atom_made rfl)
        (nodes_mono (d.grows_trans hgrows hgrows') hargs.2)
    next => exact keeps_textOf_bind hargs.1 fun _ => keeps_raiseAt hargs.1 rfl
  next => exact keeps_raise rfl

theorem keeps_specialForm (hserved : d.Served evaluator) (hscope : d.scope w s)
    (hargs : d.nodes w args) {form : SpecialForm} (hform : d.named w form.name) :
    d.Keeps d.node (form.run evaluator s args) w := by
  cases form with
  | conditional => exact keeps_conditional hserved hscope hargs
  | definition => exact keeps_definition hserved hscope hargs
  | quotation =>
      simp only [SpecialForm.run]
      split
      next node => exact keeps_pure (hargs node (by simp))
      next => exact keeps_raise (by simp)
  | abstraction => exact keeps_abstraction hform hscope hargs
  | binding => exact keeps_binding hserved hscope hargs
  | assignment => exact keeps_assignment hserved hscope hargs

/-! ## Steps and runs -/

theorem keeps_call (hserved : d.Served evaluator) (params : List String) {body : List Node}
    {home : ScopeId} (hhome : d.scope w home) (hbody : d.nodes w body) (hargs : d.nodes w args) :
    d.Keeps d.node (call evaluator params body home args) w := by
  unfold call
  dsimp only
  split
  · exact keeps_raise rfl
  split
  · exact keeps_raise rfl
  have hbindings : ∀ binding ∈ params.zip args, d.node w binding.2 :=
    fun binding hbinding => hargs _ (List.of_mem_zip hbinding).2
  refine (keeps_enclose hhome hbindings).bind ?_
  intro inner after hgrows hinner
  refine (keeps_note _).bind ?_
  intro _ after' hgrows' _
  exact keeps_evaluateBody hserved (d.scope_mono hgrows' hinner) (d.atom_made rfl)
    (nodes_mono (d.grows_trans hgrows hgrows') hbody)

theorem keeps_applyStep (hserved : d.Served evaluator) (hscope : d.scope w s) {function : Node}
    (hfunction : d.node w function) (hargs : d.nodes w args) :
    d.Keeps d.node (applyStep evaluator function args s) w := by
  unfold applyStep
  split
  next params body home =>
    obtain ⟨hhome, hbody⟩ := d.body hfunction
    exact keeps_call hserved params hhome hbody hargs
  next => exact keeps_primitive hserved hscope hargs hfunction
  next => exact keeps_textOf_bind hfunction fun _ => keeps_raise rfl

theorem exists_eq_of_form {head : Node} {form : SpecialForm}
    (hform : head.symbol?.bind SpecialForm.ofName? = some form) :
    ∃ token, head = .atom token (.symbol form.name) := by
  obtain ⟨name, hname, hform⟩ := Option.bind_eq_some_iff.mp hform
  unfold SpecialForm.ofName? at hform
  have hfound := List.find?_some hform
  obtain rfl : form.name = name := beq_iff_eq.mp hfound
  exact exists_eq_of_symbol? hname

theorem keeps_evaluateList (hserved : d.Served evaluator) (hscope : d.scope w s) {head : Node}
    (hhead : d.node w head) (hargs : d.nodes w args) :
    d.Keeps d.node (evaluateList evaluator head args s) w := by
  unfold evaluateList
  split
  next form hname =>
    obtain ⟨token, rfl⟩ := exists_eq_of_form hname
    exact keeps_specialForm hserved hscope hargs ⟨token, hhead⟩
  next =>
    refine (hserved.evaluate hhead hscope).bind ?_
    intro function after hgrows hfunction
    have hscope := d.scope_mono hgrows hscope
    have hhead := d.node_mono hgrows hhead
    refine (keeps_evaluateAll hserved hscope (nodes_mono hgrows hargs)).bind ?_
    intro values after' hgrows' hvalues
    split
    · exact hserved.apply (d.node_mono hgrows' hfunction) hvalues (d.scope_mono hgrows' hscope)
    · have hhead := d.node_mono hgrows' hhead
      exact keeps_textOf_bind hhead fun _ => keeps_raiseAt hhead rfl

theorem keeps_evaluateStep (hserved : d.Served evaluator) (hscope : d.scope w s) {expr : Node}
    (hexpr : d.node w expr) : d.Keeps d.node (evaluateStep evaluator expr s) w := by
  unfold evaluateStep
  split
  next => exact keeps_pure hexpr
  next token head operands =>
    have hitems := nodes_cons.mp (d.items hexpr)
    exact keeps_located hexpr (keeps_evaluateList hserved hscope hitems.1 hitems.2)
  next => exact keeps_pure hexpr
  next name => exact keeps_located hexpr (keeps_lookup hscope ⟨_, hexpr⟩)
  next token value hsymbol =>
    split
    next => exact keeps_pure hexpr
    next hconstant =>
      exact keeps_throw (d.unknown _ hexpr hsymbol (Bool.eq_false_of_not_eq_true hconstant))

/-- A step keeps to the discipline if smaller tasks do. -/
theorem served_step (hserved : d.Served evaluator) : d.Served (step evaluator) := by
  intro request s w hrequest hscope
  cases request with
  | evaluate expr => exact keeps_evaluateStep hserved hscope hrequest
  | apply function args => exact keeps_applyStep hserved hscope hrequest.1 hrequest.2

/-- Evaluations keep to the discipline, however deeply they nest. -/
theorem served_perform (depth : Nat) : d.Served (perform depth) := by
  induction depth with
  | zero => exact fun _ _ _ _ _ => keeps_throw d.exhausted
  | succ depth ih => exact served_step ih

/-! ## Programs -/

theorem keeps_attempt (depth : Nat) {form : Node} (hscope : d.scope w s) (hform : d.node w form) :
    d.Keeps (fun after result =>
        match result with
        | .ok value => d.node after value
        | .error problem => d.stop (.problem problem))
      (attempt depth s form) w := by
  intro hworld
  have hrun := (served_perform depth).evaluate hform hscope hworld
  rw [runIn_attempt]
  simp only [evaluate]
  generalize (perform depth (.evaluate form) s).runIn w = run at hrun ⊢
  obtain ⟨result, after⟩ := run
  obtain ⟨hgrows, hafter, hresult⟩ := hrun
  cases result with
  | ok value => exact ⟨hgrows, hafter, hresult⟩
  | error stop =>
      cases stop with
      | problem met =>
          obtain ⟨hgrows', hafter'⟩ := d.noted (ended ("error: " ++ met.text)) hafter
          exact ⟨d.grows_trans hgrows hgrows', hafter', hresult⟩
      | fault met => exact ⟨hgrows, hafter, hresult⟩
      | exhausted => exact ⟨hgrows, hafter, hresult⟩

theorem keeps_evaluateForms (depth : Nat) {result : Node} {forms : List Node}
    (hscope : d.scope w s) (hresult : d.node w result) (hforms : d.nodes w forms) :
    d.Keeps d.node (evaluateForms depth s result forms) w := by
  induction forms generalizing w result with
  | nil => exact keeps_pure hresult
  | cons form rest ih =>
      rw [nodes_cons] at hforms
      refine (keeps_attempt depth hscope hforms.1).bind ?_
      intro answer after hgrows hanswer
      cases answer with
      | ok value => exact ih (d.scope_mono hgrows hscope) hanswer (nodes_mono hgrows hforms.2)
      | error problem => exact keeps_throw hanswer

end Discipline

end Lisplet
