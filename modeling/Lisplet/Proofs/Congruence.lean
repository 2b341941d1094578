import Lisplet.Proofs.Arithmetic
import Lisplet.Proofs.Simulation.Effect

/-!
# Relations between effects

A congruence is a relation between effects that the effects evaluations are made of bear
to themselves and that sequencing preserves. Steps of evaluations preserve every
congruence: if two ways to do smaller tasks are related, so are the two ways to do a task
that they give rise to.

Nothing is asked here about nodes or scopes, so a congruence is the tool for what all
evaluations have in common, whatever program they evaluate.
-/

namespace Lisplet

open Effect

/-- A relation between effects that evaluations preserve. -/
structure Congruence where
  /-- The relation. -/
  related {α : Type} : Effect α → Effect α → Prop
  given {α : Type} (a : α) : related (pure a) (pure a)
  stopped {α : Type} {stop : Stop} : stop ≠ .exhausted →
    related (throw stop : Effect α) (throw stop)
  sequenced {α β : Type} {effect effect' : Effect α} {next next' : α → Effect β} :
    related effect effect' → (∀ a, related (next a) (next' a)) →
    related (effect >>= next) (effect' >>= next')
  placed {α : Type} (node : Node) {effect effect' : Effect α} : related effect effect' →
    related (located node effect) (located node effect')
  noted (line : String) : related (note line) (note line)
  written (text : String) : related (write text) (write text)
  inspected {α : Type} (next : Store → Effect α) : (∀ store, related (next store) (next store)) →
    related (do next (← get).store) (do next (← get).store)
  defined (s : ScopeId) (name : String) (value : Node) :
    related (define s name value) (define s name value)
  enclosed (parent : ScopeId) (bindings : List (String × Node)) :
    related (enclose parent bindings) (enclose parent bindings)
  numbered : related freshIdentity freshIdentity

namespace Congruence

variable {c : Congruence} {α : Type}

/-! ## Errors and names -/

theorem related_raise (cause : RuntimeCause) :
    c.related (raise cause : Effect α) (raise cause) :=
  c.stopped Stop.noConfusion

theorem related_raiseAt (node : Node) (cause : RuntimeCause) :
    c.related (raiseAt node cause : Effect α) (raiseAt node cause) :=
  c.stopped Stop.noConfusion

theorem related_textOf (node : Node) : c.related (textOf node) (textOf node) := by
  unfold textOf
  split
  · exact c.given _
  · exact c.stopped Stop.noConfusion

/-- An error that quotes a node. -/
theorem related_quoting (node : Node) (cause : String → RuntimeCause) :
    c.related (do raise (cause (← textOf node)) : Effect α) (do raise (cause (← textOf node))) :=
  c.sequenced (related_textOf node) fun _ => related_raise _

/-- An error at a node that quotes it. -/
theorem related_quotingAt (node : Node) (cause : String → RuntimeCause) :
    c.related (do raiseAt node (cause (← textOf node)) : Effect α)
      (do raiseAt node (cause (← textOf node))) :=
  c.sequenced (related_textOf node) fun _ => related_raiseAt node _

theorem related_lookup (s : ScopeId) (name : String) :
    c.related (lookup s name) (lookup s name) := by
  have hlookup : lookup s name =
      (do ((← get).store.lookup? s name).elim (raise (.undefinedSymbol name)) pure) := by
    funext world
    change runIn (lookup s name) world = runIn _ world
    rw [lookup, runIn_get_bind, runIn_get_bind]
    cases world.store.lookup? s name <;> rfl
  rw [hlookup]
  refine c.inspected (fun store => (store.lookup? s name).elim (raise (.undefinedSymbol name)) pure)
    fun store => ?_
  cases store.lookup? s name with
  | none => exact related_raise _
  | some value => exact c.given value

theorem related_assign (s : ScopeId) (name : String) (value : Node) :
    c.related (assign s name value) (assign s name value) := by
  have hassign : assign s name value = (do
      ((← get).store.resolve? name s).elim (raise (.undefinedSymbol name))
        (define · name value)) := by
    funext world
    change runIn (assign s name value) world = runIn _ world
    rw [assign, runIn_get_bind, runIn_get_bind]
    cases world.store.resolve? name s <;> rfl
  rw [hassign]
  refine c.inspected (fun store => (store.resolve? name s).elim (raise (.undefinedSymbol name))
    (define · name value)) fun store => ?_
  cases store.resolve? name s with
  | none => exact related_raise _
  | some home => exact c.defined home name value

/-! ## Primitive functions -/

variable {args : List Node}

theorem related_arithmetic (operation : Arithmetic) :
    c.related (operation.run args) (operation.run args) := by
  unfold Arithmetic.run
  split
  next node _ => exact related_quoting node _
  next => exact related_raise _
  next => exact c.given _
  next first rest _ _ =>
    refine c.sequenced ?_ fun _ => c.given _
    cases hfold : operation.fold first rest with
    | ok value => exact c.given value
    | error stop =>
        obtain ⟨_, _, -, hfails⟩ := Arithmetic.Fails.of_fold hfold
        exact c.stopped hfails.ne_exhausted

theorem related_comparison (order : Comparison) :
    c.related (order.run args) (order.run args) := by
  unfold Comparison.run
  split
  next a b =>
    split
    · exact c.given _
    · refine c.sequenced (related_textOf a) fun _ => ?_
      exact c.sequenced (related_textOf b) fun _ => related_raise _
  next => exact related_raise _

theorem related_listOf (function : String) (node : Node) :
    c.related (listOf function node) (listOf function node) := by
  unfold listOf
  split
  · exact c.given _
  · exact related_quoting node _

theorem related_nonEmptyListOf (function : String) :
    c.related (nonEmptyListOf function args) (nonEmptyListOf function args) := by
  unfold nonEmptyListOf
  split
  next node =>
    refine c.sequenced (related_listOf function node) fun items => ?_
    split
    · exact c.given _
    · exact related_raise _
  next => exact related_raise _

/-- Two ways to have tasks done are related. -/
def Carries (c : Congruence) (evaluator evaluator' : Evaluator) : Prop :=
  ∀ task s, c.related (evaluator task s) (evaluator' task s)

variable {evaluator evaluator' : Evaluator} {s : ScopeId}

theorem related_write_nil (text : String) :
    c.related (do write text; pure Node.nil) (do write text; pure Node.nil) :=
  c.sequenced (c.written text) fun _ => c.given _

theorem related_builtin (hcarries : c.Carries evaluator evaluator') (function : Builtin) :
    c.related (function.run evaluator s args) (function.run evaluator' s args) := by
  cases function with
  | arithmetic operation => exact related_arithmetic operation
  | comparison order => exact related_comparison order
  | equal =>
      simp only [Builtin.run]
      split
      · exact related_raise _
      · exact c.given _
  | negation =>
      simp only [Builtin.run]
      split
      next node =>
        split
        · exact c.given _
        · exact related_quoting node _
      next => exact related_raise _
  | car => exact c.sequenced (related_nonEmptyListOf "car") fun _ => c.given _
  | cdr => exact c.sequenced (related_nonEmptyListOf "cdr") fun _ => c.given _
  | cons =>
      simp only [Builtin.run]
      split
      · exact c.given _
      · exact related_raise _
  | list => exact c.given _
  | isEmpty =>
      simp only [Builtin.run]
      split
      next node => exact c.sequenced (related_listOf "null?" node) fun _ => c.given _
      next => exact related_raise _
  | eval =>
      simp only [Builtin.run]
      split
      · exact hcarries _ s
      · exact related_raise _
  | apply =>
      simp only [Builtin.run]
      split
      next function values =>
        split
        · exact c.sequenced (related_listOf "apply" values) fun _ => hcarries _ s
        · exact related_quoting function _
      next => exact related_raise _
  | display =>
      simp only [Builtin.run]
      split
      next node =>
        split
        · exact c.stopped Stop.noConfusion
        · exact related_write_nil _
      next => exact related_raise _
  | newline =>
      simp only [Builtin.run]
      split
      · exact related_write_nil _
      · exact related_raise _

theorem related_primitive (hcarries : c.Carries evaluator evaluator') (primitive : Primitive) :
    c.related (primitive.run evaluator s args) (primitive.run evaluator' s args) := by
  cases primitive with
  | builtin function => exact related_builtin hcarries function
  | host identity title function =>
      cases function with
      | count => exact c.given _
      | names =>
          exact c.inspected (fun store =>
            pure (Node.ofList ((store.listing s).map fun binding => .symbol binding.1)))
            fun _ => c.given _
      | failing => exact c.stopped Stop.noConfusion

/-! ## Special forms -/

theorem related_symbolOf (form : String) (node : Node) :
    c.related (symbolOf form node) (symbolOf form node) := by
  unfold symbolOf
  split
  · exact c.given _
  · exact related_quotingAt node _

theorem related_symbolsOf (form : String) (nodes : List Node) :
    c.related (symbolsOf form nodes) (symbolsOf form nodes) := by
  induction nodes with
  | nil => exact c.given _
  | cons node rest ih =>
      refine c.sequenced (related_symbolOf form node) fun _ => ?_
      exact c.sequenced ih fun _ => c.given _

theorem related_evaluateAll (hcarries : c.Carries evaluator evaluator') (nodes : List Node) :
    c.related (evaluateAll evaluator s nodes) (evaluateAll evaluator' s nodes) := by
  induction nodes with
  | nil => exact c.given _
  | cons node rest ih =>
      refine c.sequenced (hcarries _ s) fun _ => ?_
      exact c.sequenced ih fun _ => c.given _

theorem related_evaluateBody (hcarries : c.Carries evaluator evaluator') (result : Node)
    (nodes : List Node) :
    c.related (evaluateBody evaluator s result nodes) (evaluateBody evaluator' s result nodes) := by
  induction nodes generalizing result with
  | nil => exact c.given _
  | cons node rest ih => exact c.sequenced (hcarries _ s) fun value => ih value

theorem related_evaluateBindings (hcarries : c.Carries evaluator evaluator')
    (nodes : List Node) :
    c.related (evaluateBindings evaluator s nodes) (evaluateBindings evaluator' s nodes) := by
  induction nodes with
  | nil => exact c.given _
  | cons node rest ih =>
      unfold evaluateBindings
      split
      next => exact c.given _
      next heq =>
        cases heq
        refine c.sequenced (related_symbolOf "let" _) fun _ => ?_
        refine c.sequenced (hcarries _ s) fun _ => ?_
        exact c.sequenced ih fun _ => c.given _
      next => exact related_quotingAt _ _

theorem related_specialForm (hcarries : c.Carries evaluator evaluator') (form : SpecialForm) :
    c.related (form.run evaluator s args) (form.run evaluator' s args) := by
  cases form with
  | conditional =>
      simp only [SpecialForm.run]
      split
      next =>
        refine c.sequenced (hcarries _ s) fun _ => ?_
        split
        · exact c.given _
        · exact hcarries _ s
      next => exact c.sequenced (hcarries _ s) fun _ => hcarries _ s
      next => exact related_raise _
  | definition =>
      simp only [SpecialForm.run]
      split
      next =>
        refine c.sequenced (related_symbolOf "define" _) fun _ => ?_
        refine c.sequenced (hcarries _ s) fun _ => ?_
        refine c.sequenced (related_textOf _) fun _ => ?_
        refine c.sequenced (c.noted _) fun _ => ?_
        exact c.sequenced (c.defined s _ _) fun _ => c.given _
      next => exact related_raise _
  | quotation =>
      simp only [SpecialForm.run]
      split
      · exact c.given _
      · exact related_raise _
  | abstraction =>
      simp only [SpecialForm.run]
      split
      next =>
        split
        · refine c.sequenced (related_symbolsOf "lambda" _) fun _ => ?_
          exact c.sequenced c.numbered fun _ => c.given _
        · exact related_quotingAt _ _
      next => exact related_raise _
  | binding =>
      simp only [SpecialForm.run]
      split
      next =>
        split
        · refine c.sequenced (related_evaluateBindings hcarries _) fun _ => ?_
          refine c.sequenced (c.enclosed s _) fun _ => ?_
          exact related_evaluateBody hcarries _ _
        · exact related_quotingAt _ _
      next => exact related_raise _
  | assignment =>
      simp only [SpecialForm.run]
      split
      next target operand =>
        refine c.sequenced (related_symbolOf "setf!" target) fun name => ?_
        have hlookup := c.placed target (related_lookup (c := c) s name)
        refine c.sequenced (c.sequenced hlookup fun _ => c.given _) fun _ => ?_
        refine c.sequenced (hcarries _ s) fun value => ?_
        refine c.sequenced (related_textOf value) fun _ => ?_
        refine c.sequenced (c.noted _) fun _ => ?_
        exact c.sequenced (c.placed target (related_assign s name value)) fun _ => c.given _
      next => exact related_raise _

/-! ## Steps and runs -/

theorem related_call (hcarries : c.Carries evaluator evaluator') (params : List String)
    (body : List Node) (home : ScopeId) :
    c.related (call evaluator params body home args) (call evaluator' params body home args) := by
  unfold call
  dsimp only
  split
  · exact related_raise _
  split
  · exact related_raise _
  refine c.sequenced (c.enclosed home _) fun _ => ?_
  refine c.sequenced (c.noted _) fun _ => ?_
  exact related_evaluateBody hcarries _ _

theorem related_evaluateList (hcarries : c.Carries evaluator evaluator') (head : Node) :
    c.related (evaluateList evaluator head args s) (evaluateList evaluator' head args s) := by
  unfold evaluateList
  split
  next form _ => exact related_specialForm hcarries form
  next =>
    refine c.sequenced (hcarries _ s) fun _ => ?_
    refine c.sequenced (related_evaluateAll hcarries args) fun _ => ?_
    split
    · exact hcarries _ s
    · exact related_quotingAt head _

/-- A step preserves a congruence if smaller tasks do. -/
theorem step_carries (hcarries : c.Carries evaluator evaluator') :
    c.Carries (step evaluator) (step evaluator') := by
  intro task s
  cases task with
  | evaluate expr =>
      simp only [step, evaluateStep]
      split
      next => exact c.given _
      next => exact c.placed _ (related_evaluateList hcarries _)
      next => exact c.given _
      next => exact c.placed _ (related_lookup s _)
      next =>
        split
        · exact c.given _
        · exact related_raiseAt _ _
  | apply function args =>
      simp only [step, applyStep]
      split
      next => exact related_call hcarries _ _ _
      next => exact related_primitive hcarries _
      next => exact related_quoting function _

/-- Evaluations preserve a congruence, however deeply they nest, provided that being
exhausted does. -/
theorem perform_carries (hexhausted : c.related (throw .exhausted : Effect Node) (throw .exhausted))
    (depth : Nat) : c.Carries (perform depth) (perform depth) := by
  induction depth with
  | zero => exact fun _ _ => hexhausted
  | succ depth ih => exact step_carries ih

end Congruence

/-! ## Programs -/

namespace Effect

variable {α : Type}

/-- Log the problem that an effect stops with, and stop with it. -/
def reported (effect : Effect α) : Effect α :=
  tryCatch effect fun
    | .problem problem => do
      note ("error: " ++ problem.text)
      throw (.problem problem)
    | stop => throw stop

theorem runIn_reported (effect : Effect α) (world : World) :
    effect.reported.runIn world =
      match effect.runIn world with
      | (.error (.problem problem), after) =>
        (.error (.problem problem),
          { after with log := after.log.push (ended ("error: " ++ problem.text)) })
      | run => run := by
  simp only [reported, runIn, tryCatch, tryCatchThe, MonadExceptOf.tryCatch, ExceptT.tryCatch,
    ExceptT.mk, bind, StateT.bind]
  rcases effect world with ⟨stop | value, after⟩
  · cases stop <;> rfl
  · rfl

end Effect

/-- The forms of a program are evaluated one after the other, with a report of the problem
that ends the program. -/
theorem evaluateForms_cons (depth : Nat) (s : ScopeId) (result form : Node) (rest : List Node) :
    evaluateForms depth s result (form :: rest) = (do
      let value ← (evaluate depth form s).reported
      evaluateForms depth s value rest) := by
  funext world
  change (evaluateForms depth s result (form :: rest)).runIn world = runIn _ world
  rw [evaluateForms, runIn_bind, runIn_bind, runIn_attempt, runIn_reported]
  rcases (evaluate depth form s).runIn world with ⟨stop | value, after⟩
  · cases stop <;> rfl
  · rfl

end Lisplet
