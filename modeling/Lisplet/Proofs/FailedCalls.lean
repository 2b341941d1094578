import Lisplet.Proofs.Simulation.Effect

/-!
# Failed calls leave no trace

Whatever a call or a form can be refused for by itself is looked at before anything is done.
So a closure with the wrong number of arguments, a primitive function that fails and a special
form that is not well formed leave the world as it was, and no operand of such a form is
evaluated. A definition or an assignment whose operand fails adds nothing to what the operand
did.
-/

namespace Lisplet

namespace Effect

variable {α β : Type}

/-- The effect leaves every world as it is. -/
def IsSilent (effect : Effect α) : Prop := ∀ world, (effect.runIn world).2 = world

/-- The effect leaves a world as it is if it stops in it. -/
def LeavesNoTrace (effect : Effect α) : Prop :=
  ∀ world stop, (effect.runIn world).1 = .error stop → (effect.runIn world).2 = world

theorem isSilent_pure (a : α) : IsSilent (pure a) := fun _ => rfl

theorem isSilent_raise (cause : RuntimeCause) : IsSilent (raise cause : Effect α) := fun _ => rfl

theorem isSilent_textOf (node : Node) : IsSilent (textOf node) := by
  intro world
  unfold textOf
  split <;> rfl

theorem IsSilent.bind {effect : Effect α} {next : α → Effect β} (heffect : effect.IsSilent)
    (hnext : ∀ a, (next a).IsSilent) : (effect >>= next).IsSilent := by
  intro world
  have hsame := heffect world
  rw [runIn_bind]
  rcases hrun : effect.runIn world with ⟨stop | value, after⟩
  · rw [hrun] at hsame
    exact hsame
  · rw [hrun] at hsame
    subst hsame
    exact hnext value _

theorem IsSilent.leavesNoTrace {effect : Effect α} (heffect : effect.IsSilent) :
    effect.LeavesNoTrace :=
  fun world _ _ => heffect world

/-- A write that fails writes nothing, and nothing fails after a write. -/
theorem leavesNoTrace_write (text : String) (value : α) :
    LeavesNoTrace (do
      write text
      pure value) := by
  intro world stop hstop
  rw [write, bind_assoc, runIn_get_bind] at hstop ⊢
  split
  next hsink =>
    rw [hsink] at hstop
    cases hstop
  next => rfl
  next hsink =>
    rw [hsink] at hstop
    cases hstop

end Effect

open Effect

/-! ## Primitive functions -/

theorem Arithmetic.isSilent_run (operation : Arithmetic) (args : List Node) :
    (operation.run args).IsSilent := by
  unfold run
  split
  next node _ => exact (isSilent_textOf node).bind fun _ => isSilent_raise _
  next => exact isSilent_raise _
  next => exact isSilent_pure _
  next first rest _ _ =>
    have hlift : (run.liftExcept (operation.fold first rest)).IsSilent := fun _ => rfl
    exact hlift.bind fun _ => isSilent_pure _

theorem Comparison.isSilent_run (order : Comparison) (args : List Node) :
    (order.run args).IsSilent := by
  unfold run
  split
  next a b =>
    split
    · exact isSilent_pure _
    · refine (isSilent_textOf a).bind fun _ => ?_
      exact (isSilent_textOf b).bind fun _ => isSilent_raise _
  next => exact isSilent_raise _

theorem isSilent_listOf (function : String) (node : Node) : (listOf function node).IsSilent := by
  unfold listOf
  split
  · exact isSilent_pure _
  · exact (isSilent_textOf node).bind fun _ => isSilent_raise _

theorem isSilent_nonEmptyListOf (function : String) (args : List Node) :
    (nonEmptyListOf function args).IsSilent := by
  unfold nonEmptyListOf
  split
  next node =>
    refine (isSilent_listOf function node).bind fun items => ?_
    split
    · exact isSilent_pure _
    · exact isSilent_raise _
  next => exact isSilent_raise _

namespace Builtin

variable (evaluator : Evaluator) (scope : ScopeId) (args : List Node) {function : Builtin}

/-- Only `eval` and `apply` go back into the evaluator, and only `display` and `newline` write. -/
theorem isSilent_run (hquiet : function ∉ [eval, apply, display, newline]) :
    (function.run evaluator scope args).IsSilent := by
  cases function with
  | arithmetic operation => exact operation.isSilent_run args
  | comparison order => exact order.isSilent_run args
  | equal =>
      simp only [run]
      split
      · exact isSilent_raise _
      · exact isSilent_pure _
  | negation =>
      simp only [run]
      split
      next node =>
        split
        · exact isSilent_pure _
        · exact (isSilent_textOf node).bind fun _ => isSilent_raise _
      next => exact isSilent_raise _
  | car => exact (isSilent_nonEmptyListOf "car" args).bind fun _ => isSilent_pure _
  | cdr => exact (isSilent_nonEmptyListOf "cdr" args).bind fun _ => isSilent_pure _
  | cons =>
      simp only [run]
      split
      · exact isSilent_pure _
      · exact isSilent_raise _
  | list => exact isSilent_pure _
  | isEmpty =>
      simp only [run]
      split
      next node => exact (isSilent_listOf "null?" node).bind fun _ => isSilent_pure _
      next => exact isSilent_raise _
  | eval => simp at hquiet
  | apply => simp at hquiet
  | display => simp at hquiet
  | newline => simp at hquiet

/-- Writing is the last thing that a function does. -/
theorem leavesNoTrace_run (hplain : function ∉ [eval, apply]) :
    (function.run evaluator scope args).LeavesNoTrace := by
  by_cases hquiet : function ∈ [eval, apply, display, newline]
  · have hwrites : function = display ∨ function = newline := by
      simp only [List.mem_cons, List.not_mem_nil, or_false, not_or] at hplain hquiet
      tauto
    obtain rfl | rfl := hwrites
    · simp only [run]
      split
      next node =>
        split
        · exact fun _ _ _ => rfl
        · exact leavesNoTrace_write _ _
      next => exact (isSilent_raise _).leavesNoTrace
    · simp only [run]
      split
      · exact leavesNoTrace_write _ _
      · exact (isSilent_raise _).leavesNoTrace
  · exact (isSilent_run evaluator scope args hquiet).leavesNoTrace

end Builtin

/-! ## Refusals -/

/-- The task fails by itself: it stops in the given way and leaves the world as it is, whatever
smaller tasks would do. So none of them is passed on. -/
def FailsAtOnce (task : Task) (scope : ScopeId) (world : World) (stop : Stop) : Prop :=
  ∀ evaluator : Evaluator, (step evaluator task scope).runIn world = (.error stop, world)

theorem FailsAtOnce.perform {task : Task} {scope : ScopeId} {world : World} {stop : Stop}
    (hfails : FailsAtOnce task scope world stop) (depth : Nat) :
    (perform (depth + 1) task scope).runIn world = (.error stop, world) :=
  hfails (Lisplet.perform depth)

/-- The kind of error if there are more or fewer operands than expected. -/
def countError (expected got : Nat) : ErrorKind :=
  if got < expected then .tooFewArguments else .tooManyArguments

theorem RuntimeCause.kind_arity (function : String) (least most got : Nat) :
    (arity function least most got).kind = countError least got := by
  unfold arity countError
  split <;> rfl

theorem failsAtOnce_closure (token : Option Token) (identity : Nat) {params : List String}
    (body : List Node) (home : ScopeId) {args : List Node} (hcount : args.length ≠ params.length)
    (scope : ScopeId) (world : World) :
    ∃ cause : RuntimeCause, cause.kind = countError params.length args.length ∧
      FailsAtOnce (.apply (.closure token identity params body home) args) scope world
        (.problem (.error { cause })) := by
  rcases Nat.lt_or_gt_of_ne hcount with hfewer | hmore
  · refine ⟨.missingArguments (closureText params) params.length args.length, ?_, ?_⟩
    · rw [countError, if_pos hfewer]
      rfl
    · intro evaluator
      simp only [step, applyStep, call, if_pos hfewer]
      rfl
  · refine ⟨.excessArguments (closureText params) params.length args.length, ?_, ?_⟩
    · rw [countError, if_neg hmore.not_gt]
      rfl
    · intro evaluator
      simp only [step, applyStep, call, if_neg hmore.not_gt, if_pos hmore]
      rfl

/-! ## Special forms -/

namespace SpecialForm

/-- How many operands a form has at least. -/
def least : SpecialForm → Nat
  | quotation => 1
  | _ => 2

/-- Whether a form can have the given number of operands. -/
def takes : SpecialForm → Nat → Bool
  | conditional, count => count == 2 || count == 3
  | definition, count => count == 2
  | quotation, count => count == 1
  | abstraction, count => 2 ≤ count
  | binding, count => 2 ≤ count
  | assignment, count => count == 2

theorem ofName?_name (form : SpecialForm) : ofName? form.name = some form := by
  cases form <;> rfl

variable {form : SpecialForm} {operands : List Node}

/-- A form with a wrong number of operands raises an error that says so. -/
theorem exists_run_eq_raise (hcount : form.takes operands.length = false) :
    ∃ cause : RuntimeCause, cause.kind = countError form.least operands.length ∧
      ∀ evaluator scope, form.run evaluator scope operands = raise cause := by
  cases form with
  | conditional =>
      refine ⟨.arity "if" 2 3 operands.length, RuntimeCause.kind_arity .., fun _ _ => ?_⟩
      rcases operands with _ | ⟨_, _ | ⟨_, _ | ⟨_, _ | _⟩⟩⟩
      · rfl
      · rfl
      · cases hcount
      · cases hcount
      · rfl
  | definition =>
      refine ⟨.arity "define" 2 2 operands.length, RuntimeCause.kind_arity .., fun _ _ => ?_⟩
      rcases operands with _ | ⟨_, _ | ⟨_, _ | _⟩⟩
      · rfl
      · rfl
      · cases hcount
      · rfl
  | quotation =>
      refine ⟨.arity "quote" 1 1 operands.length, RuntimeCause.kind_arity .., fun _ _ => ?_⟩
      rcases operands with _ | ⟨_, _ | _⟩
      · rfl
      · cases hcount
      · rfl
  | abstraction =>
      have hfewer : operands.length < 2 := by simpa [takes] using hcount
      refine ⟨.tooFew "lambda" 2 operands.length, (if_pos hfewer).symm, fun _ _ => ?_⟩
      rcases operands with _ | ⟨_, _ | _⟩
      · rfl
      · rfl
      · cases hcount
  | binding =>
      have hfewer : operands.length < 2 := by simpa [takes] using hcount
      refine ⟨.tooFew "let" 2 operands.length, (if_pos hfewer).symm, fun _ _ => ?_⟩
      rcases operands with _ | ⟨_, _ | _⟩
      · rfl
      · rfl
      · cases hcount
  | assignment =>
      refine ⟨.arity "setf!" 2 2 operands.length, RuntimeCause.kind_arity .., fun _ _ => ?_⟩
      rcases operands with _ | ⟨_, _ | ⟨_, _ | _⟩⟩
      · rfl
      · rfl
      · cases hcount
      · rfl

end SpecialForm

section

variable {form : SpecialForm} {head : Node} {scope : ScopeId} {world : World}

/-- A list with the name of a form at its head is evaluated by the rule of the form. -/
theorem step_form (hhead : head.symbol? = some form.name) (evaluator : Evaluator)
    (token : Option Token) (operands : List Node) :
    step evaluator (.evaluate (.list token (head :: operands))) scope =
      located (.list token (head :: operands)) (form.run evaluator scope operands) := by
  rw [step, evaluateStep, evaluateList, hhead, Option.bind_some, form.ofName?_name]

theorem failsAtOnce_form (hhead : head.symbol? = some form.name) {operands : List Node}
    {stop : Stop} (hrun : ∀ evaluator,
      (form.run evaluator scope operands).runIn world = (.error stop, world))
    (token : Option Token) :
    FailsAtOnce (.evaluate (.list token (head :: operands))) scope world (stop.locate token) := by
  intro evaluator
  rw [step_form hhead, runIn_located, hrun]
  rfl

/-- A definition and an assignment look at their target first. -/
theorem failsAtOnce_of_not_symbol (hhead : head.symbol? = some form.name)
    (hform : form ∈ [.definition, .assignment]) {target : Node} (htarget : target.symbol? = none)
    (operand : Node) (token : Option Token) :
    ∃ stop, FailsAtOnce (.evaluate (.list token [head, target, operand])) scope world stop ∧
      (target.hasText = true → stop = .problem
        (.error ⟨.notSymbol form.name target.text, target.token?.or token⟩)) := by
  have hsymbol : ∃ stop, (symbolOf form.name target).runIn world = (.error stop, world) ∧
      (target.hasText = true → stop = .problem
        (.error ⟨.notSymbol form.name target.text, target.token?⟩)) := by
    rw [symbolOf, htarget]
    cases htext : target.hasText with
    | true => exact ⟨_, by simp only [textOf, htext]; rfl, fun _ => rfl⟩
    | false => exact ⟨_, by simp only [textOf, htext]; rfl, by simp⟩
  obtain ⟨stop, hstop, hshown⟩ := hsymbol
  refine ⟨stop.locate token, failsAtOnce_form hhead (fun evaluator => ?_) token, ?_⟩
  · simp only [List.mem_cons, List.not_mem_nil, or_false] at hform
    obtain rfl | rfl := hform
    · simp only [SpecialForm.run]
      rw [runIn_bind, show "define" = SpecialForm.definition.name from rfl, hstop]
    · simp only [SpecialForm.run]
      rw [runIn_bind, show "setf!" = SpecialForm.assignment.name from rfl, hstop]
  · intro htext
    rw [hshown htext]
    rfl

/-- What looking the target of an assignment up comes to. -/
theorem runIn_discard_lookup (target : Node) (name : String) :
    (discard (located target (lookup scope name))).runIn world =
      match world.store.lookup? scope name with
      | some _ => (.ok (), world)
      | none => (.error (.problem (.error ⟨.undefinedSymbol name, target.token?⟩)), world) := by
  change (located target (lookup scope name) >>= fun _ => pure ()).runIn world = _
  rw [runIn_bind, runIn_located, lookup, runIn_get_bind]
  cases world.store.lookup? scope name with
  | none => rfl
  | some value => rfl

/-- An assignment then looks whether its target has a value. -/
theorem failsAtOnce_of_unbound (hhead : head.symbol? = some SpecialForm.assignment.name)
    {target : Node} {name : String} (htarget : target.symbol? = some name)
    (hunbound : world.store.lookup? scope name = none) (operand : Node) (token : Option Token) :
    FailsAtOnce (.evaluate (.list token [head, target, operand])) scope world
      (.problem (.error ⟨.undefinedSymbol name, target.token?.or token⟩)) := by
  have hrun (evaluator : Evaluator) :
      (SpecialForm.assignment.run evaluator scope [target, operand]).runIn world =
        (.error (.problem (.error ⟨.undefinedSymbol name, target.token?⟩)), world) := by
    simp only [SpecialForm.run, symbolOf, htarget, pure_bind]
    rw [runIn_bind, runIn_discard_lookup, hunbound]
  exact failsAtOnce_form hhead hrun token

/-- If the operand of a definition or an assignment stops, that is all that happens. -/
theorem runIn_of_operand (hhead : head.symbol? = some form.name)
    (hform : form ∈ [.definition, .assignment]) {target operand : Node} {name : String}
    (htarget : target.symbol? = some name)
    (hbound : form = .assignment → world.store.lookup? scope name ≠ none) {depth : Nat}
    {stop : Stop} {after : World}
    (hoperand : (evaluate depth operand scope).runIn world = (.error stop, after))
    (token : Option Token) :
    (evaluate (depth + 1) (.list token [head, target, operand]) scope).runIn world =
      (.error (stop.locate token), after) := by
  have hrun : (form.run (perform depth) scope [target, operand]).runIn world =
      (.error stop, after) := by
    simp only [List.mem_cons, List.not_mem_nil, or_false] at hform
    obtain rfl | rfl := hform
    · simp only [SpecialForm.run, symbolOf, htarget, pure_bind]
      rw [runIn_bind, ← evaluate, hoperand]
    · obtain ⟨old, hold⟩ := Option.ne_none_iff_exists'.mp (hbound rfl)
      simp only [SpecialForm.run, symbolOf, htarget, pure_bind]
      rw [runIn_bind, runIn_discard_lookup, hold]
      simp only
      rw [runIn_bind, ← evaluate, hoperand]
  change (step (perform depth) (.evaluate (.list token [head, target, operand])) scope).runIn
    world = _
  rw [step_form hhead, runIn_located, hrun]
  rfl

end

/-- Calls that fail leave the world as it was: closures with a wrong number of arguments, all
primitive functions but `eval` and `apply`, special forms with a wrong number of operands, and
definitions and assignments whose target is no symbol or, for an assignment, has no value. No
operand of such a form is evaluated. A definition or an assignment whose operand stops leaves
the world that the operand left. -/
theorem failed_calls_traceless (world : World) (scope : ScopeId) :
    (∀ (token : Option Token) (identity : Nat) (params : List String) (body : List Node)
      (home : ScopeId) (args : List Node), args.length ≠ params.length →
      ∃ cause : RuntimeCause, cause.kind = countError params.length args.length ∧
        ∀ depth, (apply (depth + 1) (.closure token identity params body home) args scope).runIn
          world = (.error (.problem (.error { cause })), world)) ∧
    (∀ (depth : Nat) (token : Option Token) (function : Builtin) (args : List Node)
      (stop : Stop) (after : World), function ∉ [.eval, .apply] →
      (apply depth (.atom token (.primitive (.builtin function))) args scope).runIn world =
        (.error stop, after) → after = world) ∧
    (∀ (token : Option Token) (form : SpecialForm) (head : Node) (operands : List Node),
      head.symbol? = some form.name → form.takes operands.length = false →
      ∃ cause : RuntimeCause, cause.kind = countError form.least operands.length ∧
        FailsAtOnce (.evaluate (.list token (head :: operands))) scope world
          (.problem (.error { cause, token }))) ∧
    (∀ (token : Option Token) (form : SpecialForm) (head target operand : Node),
      head.symbol? = some form.name → form ∈ [.definition, .assignment] →
      target.symbol? = none →
      ∃ stop, FailsAtOnce (.evaluate (.list token [head, target, operand])) scope world stop ∧
        (target.hasText = true → stop = .problem
          (.error ⟨.notSymbol form.name target.text, target.token?.or token⟩))) ∧
    (∀ (token : Option Token) (head target operand : Node) (name : String),
      head.symbol? = some SpecialForm.assignment.name → target.symbol? = some name →
      world.store.lookup? scope name = none →
      FailsAtOnce (.evaluate (.list token [head, target, operand])) scope world
        (.problem (.error ⟨.undefinedSymbol name, target.token?.or token⟩))) ∧
    ∀ (depth : Nat) (token : Option Token) (form : SpecialForm) (head target operand : Node)
      (name : String) (stop : Stop) (after : World),
      head.symbol? = some form.name → form ∈ [.definition, .assignment] →
      target.symbol? = some name →
      (form = .assignment → world.store.lookup? scope name ≠ none) →
      (evaluate depth operand scope).runIn world = (.error stop, after) →
      (evaluate (depth + 1) (.list token [head, target, operand]) scope).runIn world =
        (.error (stop.locate token), after) := by
  refine ⟨?_, ?_, ?_, ?_, ?_, ?_⟩
  · intro token identity params body home args hcount
    obtain ⟨cause, hkind, hfails⟩ :=
      failsAtOnce_closure token identity body home hcount scope world
    exact ⟨cause, hkind, hfails.perform⟩
  · intro depth token function args stop after hplain hrun
    cases depth with
    | zero =>
        cases hrun
        rfl
    | succ depth =>
        have hsame := Builtin.leavesNoTrace_run (perform depth) scope args hplain world stop
          (congrArg Prod.fst hrun)
        exact (congrArg Prod.snd hrun).symm.trans hsame
  · intro token form head operands hhead hcount
    obtain ⟨cause, hkind, hraise⟩ := SpecialForm.exists_run_eq_raise hcount
    refine ⟨cause, hkind, ?_⟩
    exact failsAtOnce_form hhead (fun evaluator => by rw [hraise]; rfl) token
  · intro token form head target operand hhead hform htarget
    exact failsAtOnce_of_not_symbol hhead hform htarget operand token
  · intro token head target operand name hhead htarget hunbound
    exact failsAtOnce_of_unbound hhead htarget hunbound operand token
  · intro depth token form head target operand name stop after hhead hform htarget hbound hoperand
    exact runIn_of_operand hhead hform htarget hbound hoperand token

/-- The form `(if (define z nil) z (quote))`, which binds `z` and then lacks an operand. -/
def bindingFirstSample : Node :=
  .ofList [.symbol "if", .ofList [.symbol "define", .symbol "z", .nil], .symbol "z",
    .ofList [.symbol "quote"]]

/-- A world with one scope, which binds nothing. -/
def bareSample : World := { store := (Store.empty.enclose none []).1 }

/-- A call without its argument and an assignment to `y` leave this world as it is. A
definition of `y` by the form above leaves the world that the form leaves, with `z` in it. -/
theorem bareSample_traceless :
    (∃ cause : RuntimeCause, cause.kind = .tooFewArguments ∧
      ∀ depth, (apply (depth + 1) (.closure none 0 ["x"] [.symbol "x"] 0) [] 0).runIn bareSample =
        (.error (.problem (.error { cause })), bareSample)) ∧
    FailsAtOnce (.evaluate (.ofList [.symbol "setf!", .symbol "y", bindingFirstSample])) 0
      bareSample (.problem (.error ⟨.undefinedSymbol "y", none⟩)) ∧
    let after := ((evaluate 3 bindingFirstSample 0).runIn bareSample).2
    ((evaluate 4 (.ofList [.symbol "define", .symbol "y", bindingFirstSample]) 0).runIn
      bareSample).2 = after ∧
    after.store.scopes.toList.map (fun scope => scope.bindings.map Prod.fst) = [["z"]] := by
  obtain ⟨hclosure, -, -, -, hunbound, hoperand⟩ := failed_calls_traceless bareSample 0
  have hnone : bareSample.store.lookup? 0 "y" = none := by
    rw [← Option.isNone_iff_eq_none]
    decide +kernel
  have hfails : (evaluate 3 bindingFirstSample 0).runIn bareSample =
      (.error (.problem (.error ⟨.arity "quote" 1 1 0, none⟩)),
        ((evaluate 3 bindingFirstSample 0).runIn bareSample).2) := rfl
  have hdefinition := hoperand 3 none .definition (.symbol "define") (.symbol "y") _ "y" _ _ rfl
    (by decide) rfl (by simp) hfails
  refine ⟨hclosure none 0 ["x"] [.symbol "x"] 0 [] (by decide),
    hunbound none _ _ _ "y" rfl rfl hnone, congrArg Prod.snd hdefinition, by decide +kernel⟩

end Lisplet
