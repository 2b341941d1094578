import Lisplet.Proofs.Integrity
import Lisplet.Proofs.TypeSafety

/-!
# Evaluating and applying at one remove

A program can have an expression evaluated by `eval` and a function applied by `apply`
instead of writing the expression or the application down. Where the names of these
functions stand for what they stand for at the start, both ways do the same: they evaluate
the same operands in the same order, call the function from the same scope, and fail at the
same point. Only the wording of an error may differ, and the token it points at.
-/

namespace Lisplet

open Effect

/-! ## Runs that conclude alike -/

/-- A stop for a caller who looks at nothing but the kind of an error. -/
def Stop.sort : Stop → ErrorKind ⊕ Stop
  | problem (.error wrong) => .inl wrong.cause.kind
  | stop => .inr stop

theorem Stop.sort_locate (token : Option Token) (stop : Stop) :
    (stop.locate token).sort = stop.sort := by
  cases stop with
  | problem met => cases met <;> rfl
  | fault => rfl
  | exhausted => rfl

namespace Effect

variable {α β : Type}

/-- What a run comes to for such a caller: the value or the sort of stop, and the world that
it leaves, with all that was written and what every scope binds. -/
def conclusion (effect : Effect α) (w : World) : Except (ErrorKind ⊕ Stop) α × World :=
  ((effect.runIn w).1.mapError Stop.sort, (effect.runIn w).2)

theorem conclusion_congr {effect effect' : Effect α} {w w' : World}
    (hrun : effect.runIn w = effect'.runIn w') : effect.conclusion w = effect'.conclusion w' := by
  rw [conclusion, conclusion, hrun]

/-- Where errors are made to point does not matter. -/
@[simp]
theorem conclusion_located (node : Node) (effect : Effect α) (w : World) :
    (located node effect).conclusion w = effect.conclusion w := by
  simp only [conclusion, runIn_located]
  cases (effect.runIn w).1 with
  | ok value => rfl
  | error stop => exact Prod.ext (congrArg Except.error (stop.sort_locate node.token?)) rfl

theorem conclusion_bind (effect : Effect α) (next : α → Effect β) (w : World) :
    (effect >>= next).conclusion w =
      match effect.conclusion w with
      | (.ok value, after) => (next value).conclusion after
      | (.error sort, after) => (.error sort, after) := by
  simp only [conclusion, runIn_bind]
  rcases effect.runIn w with ⟨stop | value, after⟩
  · rfl
  · rfl

/-- Stops that are no errors are told from all others. -/
theorem conclusion_eq_error_iff (effect : Effect α) (w : World) {stop : Stop}
    (hstop : stop.sort = .inr stop) :
    (effect.conclusion w).1 = .error (.inr stop) ↔ (effect.runIn w).1 = .error stop := by
  simp only [conclusion]
  cases (effect.runIn w).1 with
  | ok value => simp [Except.mapError]
  | error met =>
      simp only [Except.mapError, Except.error.injEq]
      refine ⟨fun hsort => ?_, fun hmet => hmet ▸ hstop⟩
      cases met with
      | problem met =>
          cases met with
          | error => cases hsort
          | failure => exact Sum.inr.inj hsort
      | fault met => exact Sum.inr.inj hsort
      | exhausted => exact Sum.inr.inj hsort

end Effect

/-! ## Names of primitive functions -/

/-- The function of the language in a node. -/
def Node.builtin? : Node → Option Builtin
  | atom _ (.primitive (.builtin function)) => some function
  | _ => none

/-- The name of a function of the language leads from a scope to that function. -/
def Store.Provides (store : Store) (env : ScopeId) (function : Builtin) : Prop :=
  (store.lookup? env function.name).bind Node.builtin? = some function

instance (store : Store) (env : ScopeId) (function : Builtin) :
    Decidable (store.Provides env function) :=
  inferInstanceAs (Decidable (_ = _))

theorem Store.Provides.exists_lookup? {store : Store} {env : ScopeId} {function : Builtin}
    (hprovides : store.Provides env function) :
    ∃ token, store.lookup? env function.name =
      some (.atom token (.primitive (.builtin function))) := by
  obtain ⟨value, hfound, hvalue⟩ := Option.bind_eq_some_iff.mp hprovides
  unfold Node.builtin? at hvalue
  split at hvalue
  next token _ =>
    cases hvalue
    exact ⟨token, hfound⟩
  next => cases hvalue

section

variable {w : World} {env : ScopeId} {value : Node}

theorem runIn_evaluate_symbol {name : String} (hfound : w.store.lookup? env name = some value)
    (token : Option Token) (depth : Nat) :
    (evaluate (depth + 1) (.atom token (.symbol name)) env).runIn w = (.ok value, w) := by
  change (located _ (lookup env name)).runIn w = _
  rw [runIn_located, lookup, runIn_get_bind, hfound]
  rfl

/-- Evaluating a list whose head names a primitive function applies the function to the
values of the operands. -/
theorem runIn_evaluate_builtin {function : Builtin} (hprovides : w.store.Provides env function)
    (hform : SpecialForm.ofName? function.name = none) (token word : Option Token)
    (operands : List Node) (depth : Nat) :
    (evaluate (depth + 2) (.list token (.atom word (.symbol function.name) :: operands))
        env).runIn w =
      (located (.list token (.atom word (.symbol function.name) :: operands)) (do
        let args ← evaluateAll (perform (depth + 1)) env operands
        function.run (perform depth) env args)).runIn w := by
  obtain ⟨origin, hfound⟩ := hprovides.exists_lookup?
  have hhead := runIn_evaluate_symbol hfound word depth
  change (located _ (evaluateList (perform (depth + 1)) _ operands env)).runIn w = _
  rw [runIn_located, runIn_located]
  unfold evaluateList
  simp only [Node.symbol?, Option.bind_some, hform]
  rw [runIn_bind, show (perform (depth + 1) (.evaluate _) env).runIn w = _ from hhead]
  rfl

end

/-! ## The two ways -/

/-- Expressions for functions: symbols that name no special form, and `lambda`. -/
inductive Node.IsOperator : Node → Prop
  | symbol (token : Option Token) {name : String} (hname : SpecialForm.ofName? name = none) :
      IsOperator (.atom token (.symbol name))
  | abstraction (token word : Option Token) (operands : List Node) :
      IsOperator (.list token (.atom word (.symbol SpecialForm.abstraction.name) :: operands))

/-- A symbol stands for a node that can neither be applied nor be written. Only a host has
such nodes. -/
def World.Hides (w : World) (env : ScopeId) (expr : Node) : Prop :=
  ∃ name value, expr.symbol? = some name ∧ w.store.lookup? env name = some value ∧
    value.isCallable = false ∧ value.hasText = false

/-- The names in symbols are found without an effect. -/
theorem exists_runIn_symbolsOf (form : String) (nodes : List Node) :
    ∃ result, ∀ w, (symbolsOf form nodes).runIn w = (result, w) := by
  induction nodes with
  | nil => exact ⟨_, fun _ => rfl⟩
  | cons node rest ih =>
      obtain ⟨result, hrest⟩ := ih
      simp only [symbolsOf, symbolOf]
      cases node.symbol? with
      | none =>
          simp only [textOf]
          split
          · exact ⟨_, fun _ => rfl⟩
          · exact ⟨_, fun _ => rfl⟩
      | some name =>
          refine ⟨result.map (name :: ·), fun w => ?_⟩
          rw [pure_bind, runIn_bind, hrest]
          cases result <;> rfl

section

variable {w : World} {env : ScopeId} {f : Node}

/-- Making a closure needs no depth of its own and leaves the scopes alone. -/
theorem runIn_abstraction (w : World) (env : ScopeId) (operands : List Node) :
    ∃ result after, (∀ evaluator,
        (SpecialForm.abstraction.run evaluator env operands).runIn w = (result, after)) ∧
      after.store = w.store ∧ ∀ value, result = .ok value → value.isCallable = true := by
  have hquoting : ∀ {parameters : Node} {cause : String → RuntimeCause},
      ∃ stop, ((do raiseAt parameters (cause (← textOf parameters)) : Effect Node).runIn w) =
        (.error stop, w) := by
    intro parameters cause
    unfold textOf
    split
    · exact ⟨_, rfl⟩
    · exact ⟨_, rfl⟩
  match operands with
  | [] => exact ⟨_, _, fun _ => rfl, rfl, by simp⟩
  | [_] => exact ⟨_, _, fun _ => rfl, rfl, by simp⟩
  | parameters :: first :: rest =>
      simp only [SpecialForm.run]
      cases parameters.items? with
      | none =>
          obtain ⟨stop, hstop⟩ := hquoting
          exact ⟨_, _, fun _ => hstop, rfl, by simp⟩
      | some items =>
          obtain ⟨result, hnames⟩ := exists_runIn_symbolsOf "lambda" items
          simp only [runIn_bind, hnames]
          cases result with
          | error stop => exact ⟨_, _, fun _ => rfl, rfl, by simp⟩
          | ok names =>
              refine ⟨_, _, fun _ => rfl, rfl, ?_⟩
              rintro _ ⟨⟩
              rfl

/-- An expression for a function evaluates in the same way at all depths but zero, and no
scope changes. If its value cannot be applied, then the expression has a text, and so has the
value unless the world hides it. -/
theorem Node.IsOperator.runIn_evaluate (hf : f.IsOperator) (w : World) (env : ScopeId) :
    ∃ result after, (∀ depth, (evaluate (depth + 1) f env).runIn w = (result, after)) ∧
      after.store = w.store ∧ ∀ value, result = .ok value → value.isCallable = false →
        f.hasText = true ∧ (value.hasText = true ∨ w.Hides env f) := by
  cases hf with
  | symbol token hname =>
      rename_i name
      cases hfound : w.store.lookup? env name with
      | none =>
          refine ⟨.error (.problem (.error ⟨.undefinedSymbol name, token⟩)), w, fun _ => ?_, rfl,
            by simp⟩
          change (located _ (lookup env name)).runIn w = _
          rw [runIn_located, lookup, runIn_get_bind, hfound]
          rfl
      | some value =>
          refine ⟨_, w, runIn_evaluate_symbol hfound token, rfl, ?_⟩
          rintro _ ⟨⟩ hcallable
          have hname : (Node.atom token (.symbol name)).hasText = true := by
            rw [Node.hasText]
            exact Atom.hasText_of_isPlain rfl
          refine ⟨hname, ?_⟩
          cases htext : value.hasText with
          | true => exact .inl rfl
          | false => exact .inr ⟨name, value, rfl, hfound, hcallable, htext⟩
  | abstraction token word operands =>
      obtain ⟨result, after, hrun, hstore, hcallable⟩ := runIn_abstraction w env operands
      refine ⟨result.mapError (Stop.locate token), after, fun depth => ?_, hstore, ?_⟩
      · change (located _ (SpecialForm.abstraction.run (perform depth) env operands)).runIn w = _
        rw [runIn_located, hrun]
        rfl
      · intro value hvalue hnot
        cases result with
        | error => cases hvalue
        | ok made =>
            cases hvalue
            rw [hcallable _ rfl] at hnot
            cases hnot

/-- Finding a function, evaluating operands and applying the function to their values. -/
theorem runIn_application (hf : f.IsOperator) (token : Option Token) (operands : List Node)
    (depth : Nat) :
    (evaluate (depth + 1) (.list token (f :: operands)) env).runIn w =
      (located (.list token (f :: operands)) (do
        let function ← perform depth (.evaluate f) env
        let args ← evaluateAll (perform depth) env operands
        if function.isCallable then perform depth (.apply function args) env
        else raiseAt f (.notApplicable (← textOf f)))).runIn w := by
  have hform : f.symbol?.bind SpecialForm.ofName? = none := by
    cases hf with
    | symbol token hname => exact hname
    | abstraction => rfl
  change (located _ (evaluateList (perform depth) f operands env)).runIn w = _
  rw [evaluateList, hform]

/-- A list of operands between `apply` and its function, in the tokens it was read from. -/
def Node.applied (token name group word : Option Token) (f : Node) (operands : List Node) : Node :=
  .list token [.atom name (.symbol Builtin.apply.name), f,
    .list group (.atom word (.symbol Builtin.list.name) :: operands)]

/-- A quoted expression after `eval`, in the tokens it was read from. -/
def Node.quoted (token name group word : Option Token) (expr : Node) : Node :=
  .list token [.atom name (.symbol Builtin.eval.name),
    .list group [.atom word (.symbol SpecialForm.quotation.name), expr]]

/-- A run fails because a value cannot be applied, where another run breaks off because the
value cannot be written. -/
def BreaksOffInstead (run run' : Except (ErrorKind ⊕ Stop) Node × World) : Prop :=
  run.1 = .error (.inl .notApplicable) ∧ run'.1 = .error (.inr (.fault .unknownNode)) ∧
    run.2 = run'.2

/-- The two ways are put to the same test: whether the value can be applied. -/
theorem conclusion_apply_or {value : Node} (hrefused : value.isCallable = false →
      f.hasText = true ∧ (value.hasText = true ∨ w.Hides env f))
    (evaluator : Evaluator) (args : List Node) (after : World) :
    let run := Effect.conclusion (if value.isCallable then evaluator (.apply value args) env
      else do raiseAt f (.notApplicable (← textOf f))) after
    let run' := (Builtin.apply.run evaluator env [value, .ofList args]).conclusion after
    run = run' ∨ w.Hides env f ∧ BreaksOffInstead run run' := by
  cases hcallable : value.isCallable with
  | true =>
      left
      simp only [Builtin.run, hcallable, if_true]
      rfl
  | false =>
      obtain ⟨hhead, hvalue⟩ := hrefused hcallable
      simp only [Builtin.run, hcallable, textOf, if_pos hhead]
      cases htext : value.hasText with
      | true => exact .inl rfl
      | false =>
          rw [htext] at hvalue
          exact .inr ⟨hvalue.resolve_left Bool.noConfusion, rfl, rfl, rfl⟩

/-- Both ways find the function and evaluate the operands at one depth, and apply the function
at one depth. -/
theorem conclusion_applied (happly : w.store.Provides env .apply)
    (hlist : w.store.Provides env .list) (hf : f.IsOperator)
    (token outer name group word : Option Token) (operands : List Node) (depth : Nat) :
    let run := (evaluate (depth + 2) (.list token (f :: operands)) env).conclusion w
    let run' := (evaluate (depth + 3) (.applied outer name group word f operands) env).conclusion w
    run = run' ∨ w.Hides env f ∧ BreaksOffInstead run run' := by
  intro run run'
  obtain ⟨result, after, hfound, hstore, hrefused⟩ := hf.runIn_evaluate w env
  have hlist' : after.store.Provides env .list := hstore ▸ hlist
  have hoperator : ∀ depth, (perform (depth + 1) (.evaluate f) env).conclusion w =
      (result.mapError Stop.sort, after) := by
    intro depth
    rw [conclusion, show (perform (depth + 1) (.evaluate f) env).runIn w = _ from hfound depth]
  have hlisting : (perform (depth + 2) (.evaluate
      (.list group (.atom word (.symbol Builtin.list.name) :: operands))) env).conclusion after =
        Effect.conclusion (do
          let args ← evaluateAll (perform (depth + 1)) env operands
          pure (Node.ofList args)) after :=
    (conclusion_congr (runIn_evaluate_builtin hlist' rfl group word operands depth)).trans
      (conclusion_located _ _ _)
  have hrun : run = _ := conclusion_congr (runIn_application hf token operands (depth + 1))
  have hrun' : run' = _ := conclusion_congr (runIn_evaluate_builtin happly rfl outer name _
    (depth + 1))
  rw [conclusion_located, conclusion_bind, hoperator] at hrun
  simp only [conclusion_located, evaluateAll, bind_assoc, pure_bind] at hrun'
  rw [conclusion_bind, hoperator] at hrun'
  rw [hrun, hrun']
  cases result with
  | error stop => exact .inl rfl
  | ok function =>
      simp only [Except.mapError]
      rw [conclusion_bind, conclusion_bind, hlisting, conclusion_bind]
      generalize (evaluateAll (perform (depth + 1)) env operands).conclusion after = evaluated
      obtain ⟨sort | args, last⟩ := evaluated
      · exact .inl rfl
      · exact conclusion_apply_or (hrefused function rfl) (perform (depth + 1)) args last

/-- Quoting gives the expression as it is, and `eval` evaluates it in the same scope. -/
theorem conclusion_quoted (heval : w.store.Provides env .eval)
    (token name group word : Option Token) (expr : Node) (depth : Nat) :
    (evaluate (depth + 2) (.quoted token name group word expr) env).conclusion w =
      (evaluate depth expr env).conclusion w := by
  rw [Node.quoted, conclusion_congr (runIn_evaluate_builtin heval rfl _ _ _ _), conclusion_located]
  rfl

end

/-! ## Agreement at all depths -/

/-- The run came to a value or an error: it neither broke off nor needed more depth. -/
def Ends (result : Except Stop Node) : Prop :=
  ∀ stop, result = .error stop → ∃ met, stop = .problem met

theorem ends_of_isOk {result : Except Stop Node} (hok : result.isOk = true) : Ends result := by
  rintro stop rfl
  cases hok

theorem Ends.ne_error {result : Except Stop Node} (hends : Ends result) {stop : Stop}
    (hstop : ∀ met, stop ≠ .problem met) : result ≠ .error stop := by
  intro herror
  obtain ⟨met, hmet⟩ := hends stop herror
  exact hstop met hmet

/-- Two expressions agree in a scope of a world: one of them needs no more than some depth if
and only if the other does, and where they end, however deeply each was allowed to nest, they
conclude alike. They break off alike too, but it may be said that the second breaks off where
the first fails. -/
structure World.Agree (w : World) (env : ScopeId) (breaksOff : Prop) (expr expr' : Node) :
    Prop where
  stops_iff : (∃ depth, ((evaluate depth expr env).runIn w).1 ≠ .error .exhausted) ↔
    ∃ depth, ((evaluate depth expr' env).runIn w).1 ≠ .error .exhausted
  concludes (depth depth' : Nat) : Ends ((evaluate depth expr env).runIn w).1 →
    Ends ((evaluate depth' expr' env).runIn w).1 →
    (evaluate depth expr env).conclusion w = (evaluate depth' expr' env).conclusion w
  breaks (depth depth' : Nat) : ((evaluate depth expr env).runIn w).1 ≠ .error .exhausted →
    ((evaluate depth' expr' env).runIn w).1 ≠ .error .exhausted →
    (evaluate depth expr env).conclusion w = (evaluate depth' expr' env).conclusion w ∨
      breaksOff ∧ BreaksOffInstead ((evaluate depth expr env).conclusion w)
        ((evaluate depth' expr' env).conclusion w)

/-- Expressions agree if they compare at depths that are a fixed distance apart. -/
theorem World.agree_of_shifted {w : World} {env : ScopeId} {breaksOff : Prop} {expr expr' : Node}
    (less more : Nat) (hshifted : ∀ depth,
      (evaluate (depth + less) expr env).conclusion w =
          (evaluate (depth + more) expr' env).conclusion w ∨
        breaksOff ∧ BreaksOffInstead ((evaluate (depth + less) expr env).conclusion w)
          ((evaluate (depth + more) expr' env).conclusion w)) :
    w.Agree env breaksOff expr expr' := by
  have hdeeper : ∀ {expr : Node} {depth depth' : Nat}, depth ≤ depth' →
      ((evaluate depth expr env).runIn w).1 ≠ .error .exhausted →
        (evaluate depth' expr env).runIn w = (evaluate depth expr env).runIn w :=
    fun hle => perform_of_le hle (.evaluate _) env w
  have hexhausted : ∀ depth, ((evaluate (depth + less) expr env).runIn w).1 = .error .exhausted ↔
      ((evaluate (depth + more) expr' env).runIn w).1 = .error .exhausted := by
    intro depth
    rw [← conclusion_eq_error_iff _ _ rfl, ← conclusion_eq_error_iff _ _ rfl]
    obtain hsame | ⟨-, hfails, hbreaks, -⟩ := hshifted depth
    · rw [hsame]
    · simp [hfails, hbreaks]
  have hbreaks : ∀ depth depth', ((evaluate depth expr env).runIn w).1 ≠ .error .exhausted →
      ((evaluate depth' expr' env).runIn w).1 ≠ .error .exhausted →
      (evaluate depth expr env).conclusion w = (evaluate depth' expr' env).conclusion w ∨
        breaksOff ∧ BreaksOffInstead ((evaluate depth expr env).conclusion w)
          ((evaluate depth' expr' env).conclusion w) := by
    intro depth depth' hdone hdone'
    -- both runs are compared at a depth that is enough for either
    have hrun := hdeeper (by omega : depth ≤ depth + depth' + less) hdone
    have hrun' := hdeeper (by omega : depth' ≤ depth + depth' + more) hdone'
    have hcompared := hshifted (depth + depth')
    rw [conclusion_congr hrun, conclusion_congr hrun'] at hcompared
    exact hcompared
  refine ⟨⟨?_, ?_⟩, ?_, hbreaks⟩
  · rintro ⟨depth, hdone⟩
    refine ⟨depth + more, fun hstop => hdone ?_⟩
    rw [← hdeeper (Nat.le_add_right depth less) hdone]
    exact (hexhausted depth).mpr hstop
  · rintro ⟨depth, hdone⟩
    refine ⟨depth + less, fun hstop => hdone ?_⟩
    rw [← hdeeper (Nat.le_add_right depth more) hdone]
    exact (hexhausted depth).mp hstop
  · intro depth depth' hends hends'
    obtain hsame | ⟨-, -, hfault, -⟩ := hbreaks depth depth'
      (hends.ne_error fun _ => Stop.noConfusion) (hends'.ne_error fun _ => Stop.noConfusion)
    · exact hsame
    · rw [conclusion_eq_error_iff _ _ rfl] at hfault
      exact absurd hfault (hends'.ne_error fun _ => Stop.noConfusion)

/-- Where nothing is hidden by a host, everything has a text. -/
theorem World.IsPlain.not_hides {w : World} (hplain : w.IsPlain) (env : ScopeId) (expr : Node) :
    ¬ w.Hides env expr := by
  rintro ⟨name, value, -, hfound, -, htext⟩
  obtain ⟨home, -, hlocal⟩ := Option.bind_eq_some_iff.mp hfound
  obtain ⟨scope, hscope, hbinding⟩ := Store.exists_mem_of_local? hlocal
  have hvalue := hplain scope (Array.mem_of_getElem? hscope) _ hbinding
  rw [Node.isPlain, List.all_eq_true] at hvalue
  rw [Node.hasText_of_atoms value hvalue] at htext
  cases htext

/-- In every world, and in every scope from which the names of `apply`, `list` and `eval` lead
to these functions, applying a function to a list of operands by `apply` agrees with applying
it to the operands, and evaluating a quoted expression by `eval` agrees with evaluating it.
Where one way breaks off instead of coming to a value or an error, so does the other, unless a
host has bound the name of the function to a node that can neither be applied nor be written:
then the application fails while `apply` breaks off. -/
theorem reflection_agrees {w : World} {env : ScopeId}
    (hprovides : ∀ function ∈ [Builtin.apply, .list, .eval], w.store.Provides env function) :
    (∀ (f : Node) (operands : List Node) (token outer name group word : Option Token),
      f.IsOperator → w.Agree env (w.Hides env f) (.list token (f :: operands))
        (.applied outer name group word f operands)) ∧
    (∀ (expr : Node) (token name group word : Option Token),
      w.Agree env False expr (.quoted token name group word expr)) ∧
    (w.IsPlain → ∀ expr, ¬ w.Hides env expr) := by
  simp only [List.forall_mem_cons] at hprovides
  obtain ⟨happly, hlist, heval, -⟩ := hprovides
  refine ⟨?_, ?_, ?_⟩
  · intro f operands token outer name group word hf
    apply World.agree_of_shifted 2 3
    exact conclusion_applied happly hlist hf token outer name group word operands
  · intro expr token name group word
    apply World.agree_of_shifted 0 2
    exact fun depth => .inl (conclusion_quoted heval token name group word expr depth).symm
  · exact fun hplain expr => hplain.not_hides env expr

/-- A function that writes its argument. -/
def writerSample : Node :=
  .ofList [.symbol "lambda", .ofList [.symbol "x"], .ofList [.symbol "display", .symbol "x"]]

/-- In the scope of the number that `countSample` counts with, the function is applied to a call
that counts, in both ways. The count is written, and the two runs conclude alike. So does
counting by `eval`. -/
theorem writerSample_agrees :
    let w := counterSample.world
    let applied := Node.applied none none none none writerSample [countSample]
    (∀ function ∈ [Builtin.apply, .list, .eval], w.store.Provides 1 function) ∧
    ((evaluate 9 applied 1).runIn w).2.output = #["1\n"] ∧
    (evaluate 9 (.ofList [writerSample, countSample]) 1).conclusion w =
      (evaluate 9 applied 1).conclusion w ∧
    (evaluate 9 countSample 1).conclusion w =
      (evaluate 9 (.quoted none none none none countSample) 1).conclusion w := by
  intro w applied
  have hruns : (∀ function ∈ [Builtin.apply, .list, .eval], w.store.Provides 1 function) ∧
      ((evaluate 9 applied 1).runIn w).2.output = #["1\n"] ∧
      ∀ expr ∈ [.ofList [writerSample, countSample], applied, countSample,
        .quoted none none none none countSample],
          ((evaluate 9 expr 1).runIn w).1.isOk = true := by
    decide +kernel
  obtain ⟨hprovides, houtput, hends⟩ := hruns
  simp only [List.forall_mem_cons] at hends
  obtain ⟨hdirect, happly, hcount, heval, -⟩ := hends
  obtain ⟨happlied, hquoted, -⟩ := reflection_agrees hprovides
  refine ⟨hprovides, houtput, ?_, ?_⟩
  · have hagree := happlied writerSample [countSample] none none none none none
      (.abstraction none none _)
    exact hagree.concludes 9 9 (ends_of_isOk hdirect) (ends_of_isOk happly)
  · have hagree := hquoted countSample none none none none
    exact hagree.concludes 9 9 (ends_of_isOk hcount) (ends_of_isOk heval)

end Lisplet
