import Lisplet.CommandLine.Run
import Lisplet.Proofs.Congruence
import Lisplet.Proofs.Simulation.Invariant

/-!
# Going on after errors

Asked to go on after errors, the command does all that it does otherwise and then perhaps
more: what it writes on either channel begins with what it writes without being asked to,
and the exit code is the same. It tells whether a program could not be read or a form had
a problem.

Forms and programs are gone through in the same manner, and so the argument is made once for
both: the run is the same up to the first failure, and what comes after only adds to it.
-/

namespace Lisplet

open Effect

/-! ## Evaluations do not look at what was written -/

/-- Worlds that differ at most in what was written and logged. -/
structure World.SameState (w w' : World) : Prop where
  store_eq : w.store = w'.store
  sink_eq : w.sink = w'.sink
  closures_eq : w.closures = w'.closures

/-- Two effects are related when they do the same, whatever was written and logged before. -/
def Congruence.unheard : Congruence where
  related effect effect' := ∀ ⦃w w' : World⦄, w.SameState w' →
    (effect.runIn w).1 = (effect'.runIn w').1 ∧
      (effect.runIn w).2.SameState (effect'.runIn w').2
  given _ _ _ hstate := ⟨rfl, hstate⟩
  stopped _ _ _ hstate := ⟨rfl, hstate⟩
  sequenced {_ _ effect effect' _ _} heffect hnext w w' hstate := by
    rw [runIn_bind, runIn_bind]
    obtain ⟨hresult, hafter⟩ := heffect hstate
    generalize effect.runIn w = run at hresult hafter ⊢
    generalize effect'.runIn w' = run' at hresult hafter ⊢
    obtain ⟨stop | value, after⟩ := run
    · obtain ⟨_, after'⟩ := run'
      cases hresult
      exact ⟨rfl, hafter⟩
    · obtain ⟨_, after'⟩ := run'
      cases hresult
      exact hnext value hafter
  placed {_} node {effect effect'} heffect w w' hstate := by
    obtain ⟨hresult, hafter⟩ := heffect hstate
    rw [runIn_located, runIn_located, hresult]
    exact ⟨rfl, hafter⟩
  noted _ _ _ hstate := ⟨rfl, hstate.store_eq, hstate.sink_eq, hstate.closures_eq⟩
  written text := by
    rintro ⟨_, _, sink, _, _⟩ ⟨⟩ ⟨rfl, rfl, rfl⟩
    cases sink with
    | accepting => exact ⟨rfl, rfl, rfl, rfl⟩
    | limited room reason =>
        cases room with
        | zero => exact ⟨rfl, rfl, rfl, rfl⟩
        | succ room => exact ⟨rfl, rfl, rfl, rfl⟩
  inspected next hnext := by
    rintro ⟨store, _, _, _, _⟩ ⟨⟩ ⟨rfl, rfl, rfl⟩
    exact hnext store ⟨rfl, rfl, rfl⟩
  defined _ _ _ := by
    rintro ⟨⟩ ⟨⟩ ⟨rfl, rfl, rfl⟩
    exact ⟨rfl, rfl, rfl, rfl⟩
  enclosed _ _ := by
    rintro ⟨⟩ ⟨⟩ ⟨rfl, rfl, rfl⟩
    exact ⟨rfl, rfl, rfl, rfl⟩
  numbered := by
    rintro ⟨⟩ ⟨⟩ ⟨rfl, rfl, rfl⟩
    exact ⟨rfl, rfl, rfl, rfl⟩

/-- What comes of a form does not depend on what was written and logged before. -/
theorem attempt_unheard (depth : Nat) (s : ScopeId) (form : Node) :
    Congruence.unheard.related (attempt depth s form) (attempt depth s form) := by
  intro w w' hstate
  have hexhausted : Congruence.unheard.related (throw .exhausted : Effect Node)
      (throw .exhausted) := fun _ _ hstate => ⟨rfl, hstate⟩
  obtain ⟨hresult, hafter⟩ :=
    Congruence.perform_carries hexhausted depth (.evaluate form) s hstate
  rw [runIn_attempt, runIn_attempt, evaluate]
  generalize (perform depth (.evaluate form) s).runIn w = run at hresult hafter ⊢
  generalize (perform depth (.evaluate form) s).runIn w' = run' at hresult hafter ⊢
  obtain ⟨result, after⟩ := run
  obtain ⟨_, after'⟩ := run'
  cases hresult
  cases result with
  | ok value => exact ⟨rfl, hafter⟩
  | error stop =>
      cases stop with
      | problem met => exact ⟨rfl, hafter.store_eq, hafter.sink_eq, hafter.closures_eq⟩
      | fault met => exact ⟨rfl, hafter⟩
      | exhausted => exact ⟨rfl, hafter⟩

/-- Allowing a form to nest more deeply changes nothing if it did not break off. -/
theorem attempt_of_le {depth depth' : Nat} (hle : depth ≤ depth') (s : ScopeId) (form : Node)
    (w : World) {result : Except Problem Node} {after : World}
    (hdone : (attempt depth s form).runIn w = (.ok result, after)) :
    (attempt depth' s form).runIn w = (.ok result, after) := by
  rw [runIn_attempt] at hdone ⊢
  have hsame : (evaluate depth' form s).runIn w = (evaluate depth form s).runIn w := by
    refine perform_of_le hle _ s w fun hexhausted => ?_
    generalize hrun : (evaluate depth form s).runIn w = run at hdone
    obtain ⟨_, middle⟩ := run
    cases (congrArg Prod.fst hrun).symm.trans hexhausted
    cases hdone
  rw [hsame, hdone]

/-- Run sources one after the other, form by form, and give what came of each. -/
def Session.runAllEach (session : Session) (depth : Nat) :
    List Source → List (Except Interruption (List (Node × Except Problem Node)))
  | [] => []
  | source :: rest =>
    let (result, next) := session.runEach depth (fun _ => true) source
    result :: next.runAllEach depth rest

namespace CommandLine.Progress

/-! ## One thing after the other -/

/-- Go through items until the run is halted. -/
def each {α : Type} (options : Options) (step : Progress → α → Progress) (progress : Progress) :
    List α → Progress
  | [] => progress
  | item :: rest =>
    let next := step progress item
    if next.halted options then next else each options step next rest

theorem evaluateForms_eq_each (options : Options) (depth : Nat) (progress : Progress)
    (forms : List Node) :
    evaluateForms options depth progress forms =
      each options (evaluateForm options depth) progress forms := by
  induction forms generalizing progress with
  | nil => rfl
  | cons form rest ih => simp only [evaluateForms, each, ih]

theorem runSources_eq_each (options : Options) (depth : Nat) (progress : Progress)
    (sources : List Source) :
    runSources options depth progress sources =
      each options (runSource options depth) progress sources := by
  induction sources generalizing progress with
  | nil => rfl
  | cons source rest ih => simp only [runSources, each, ih]

theorem not_halted {options : Options} {progress : Progress} (hresume : options.resume = true)
    (hbroken : progress.broken = none) : progress.halted options = false := by
  simp [halted, hresume, hbroken]

/-- What is written and reported in a run is also written and reported in another one, which
then perhaps goes on. -/
structure ExtendedBy (first second : Progress) : Prop where
  output : ∃ more, second.output = first.output ++ more
  errors : ∃ more, second.errors = first.errors ++ more
  failed : first.failed = true → second.failed = true

theorem ExtendedBy.refl (progress : Progress) : progress.ExtendedBy progress :=
  ⟨⟨"", by simp⟩, ⟨"", by simp⟩, id⟩

theorem ExtendedBy.trans {first second third : Progress} (hfirst : first.ExtendedBy second)
    (hsecond : second.ExtendedBy third) : first.ExtendedBy third := by
  obtain ⟨⟨output, houtput⟩, ⟨errors, herrors⟩, hfailed⟩ := hfirst
  obtain ⟨⟨output', houtput'⟩, ⟨errors', herrors'⟩, hfailed'⟩ := hsecond
  refine ⟨⟨output ++ output', ?_⟩, ⟨errors ++ errors', ?_⟩, hfailed' ∘ hfailed⟩
  · rw [houtput', houtput, String.append_assoc]
  · rw [herrors', herrors, String.append_assoc]

section

variable {α : Type} {options : Options} {step step' : Progress → α → Progress}

theorem each_extends
    (hstep : ∀ (progress : Progress) item, progress.ExtendedBy (step progress item))
    (progress : Progress) (items : List α) :
    progress.ExtendedBy (each options step progress items) := by
  induction items generalizing progress with
  | nil => exact .refl progress
  | cons item rest ih =>
      rw [each]
      split
      · exact hstep progress item
      · exact (hstep progress item).trans (ih _)

/-- A step that breaks off ends the run. -/
theorem step_unbroken {progress : Progress} {item : α} {rest : List α}
    (hend : (each options step progress (item :: rest)).broken = none) :
    (step progress item).broken = none := by
  rw [each] at hend
  split at hend
  · exact hend
  next hgoesOn =>
    simp only [halted, Bool.or_eq_true, not_or] at hgoesOn
    simpa using hgoesOn.1

/-- Only breaking off keeps a run that goes on after errors from going on. -/
theorem each_cons (hresume : options.resume = true) {progress : Progress} {item : α}
    {rest : List α} (hend : (each options step progress (item :: rest)).broken = none) :
    each options step progress (item :: rest) = each options step (step progress item) rest := by
  rw [each, not_halted hresume (step_unbroken hend)]
  rfl

/-- Steps that do the same unless they break off make runs that do the same unless they
break off. -/
theorem each_congr
    (hstep : ∀ progress item, (step progress item).broken = none →
      step' progress item = step progress item)
    (progress : Progress) (items : List α)
    (hend : (each options step progress items).broken = none) :
    each options step' progress items = each options step progress items := by
  induction items generalizing progress with
  | nil => rfl
  | cons item rest ih =>
      rw [each, each, hstep progress item (step_unbroken hend)]
      rw [each] at hend
      split at hend
      next hhalted => simp only [hhalted, if_true]
      next hgoesOn =>
        simp only [hgoesOn]
        exact ih _ hend

/-- A run that was asked to go on after errors does the same as one that was not, unless
that one failed; then it does the same and perhaps more. -/
def Resumes (plain resumed : Progress) : Prop :=
  resumed = plain ∨ (plain.failed = true ∧ plain.broken = none ∧ plain.ExtendedBy resumed)

theorem each_resumes (hplain : options.resume = false)
    (hstep : ∀ (progress : Progress) item, progress.failed = false →
      Resumes (step progress item) (step' progress item))
    (hextends : ∀ (progress : Progress) item, progress.ExtendedBy (step' progress item))
    (progress : Progress) (items : List α) (hclean : progress.failed = false) :
    Resumes (each options step progress items)
      (each { options with resume := true } step' progress items) := by
  induction items generalizing progress with
  | nil => exact .inl rfl
  | cons item rest ih =>
      have hmore : ∀ (next : Progress) (rest : List α),
          next.ExtendedBy (each { options with resume := true } step' next rest) :=
        each_extends hextends
      rcases hstep progress item hclean with hsame | ⟨hfailed, hbroken, hextended⟩
      · rw [each, each, hsame]
        generalize step progress item = next
        cases hbroken : next.broken with
        | some reason => simp [halted, hbroken, Resumes]
        | none =>
            have hresuming : next.halted { options with resume := true } = false :=
              not_halted rfl hbroken
            rw [hresuming]
            cases hfailed : next.failed with
            | true =>
                have hhalted : next.halted options = true := by simp [halted, hfailed, hplain]
                rw [hhalted]
                exact .inr ⟨hfailed, hbroken, hmore next rest⟩
            | false =>
                have hgoesOn : next.halted options = false := by simp [halted, hfailed, hbroken]
                rw [hgoesOn]
                exact ih next hfailed
      · have hhalted : (step progress item).halted options = true := by
          simp [halted, hfailed, hplain]
        rw [each, each, hhalted]
        refine .inr ⟨hfailed, hbroken, hextended.trans ?_⟩
        split
        · exact .refl _
        · exact hmore _ rest

end

/-! ## Forms and programs -/

section

variable (options : Options) {depth depth' : Nat}

theorem print_extends (progress : Progress) (text : String) :
    progress.ExtendedBy (progress.print text) :=
  ⟨⟨text, rfl⟩, ⟨"", by simp [print]⟩, id⟩

theorem fail_extends (progress : Progress) (text : String) :
    progress.ExtendedBy (progress.fail text) :=
  ⟨⟨"", by simp [fail]⟩, ⟨text ++ "\n", by simp [fail, String.append_assoc]⟩, fun _ => rfl⟩

theorem breakOff_extends (progress : Progress) (reason : String) :
    progress.ExtendedBy (progress.breakOff reason) :=
  ⟨⟨"", by simp [breakOff]⟩, ⟨"", by simp [breakOff]⟩, id⟩

theorem drain_extends (progress : Progress) (session : Session) :
    progress.ExtendedBy (drain options { progress with session }) := by
  refine ⟨⟨_, rfl⟩, ?_, id⟩
  rw [drain]
  split
  · exact ⟨_, rfl⟩
  · exact ⟨"", by simp⟩

theorem evaluateForm_extends (depth : Nat) (progress : Progress) (form : Node) :
    progress.ExtendedBy (evaluateForm options depth progress form) := by
  unfold evaluateForm
  generalize progress.session.act (attempt depth progress.session.root form) = run
  obtain ⟨result, session⟩ := run
  have hdrain := drain_extends options progress session
  simp only
  split
  · exact hdrain.trans (breakOff_extends _ _)
  · exact hdrain.trans (fail_extends _ _)
  · split
    · exact hdrain
    split
    · exact hdrain.trans (print_extends _ _)
    · exact hdrain.trans (breakOff_extends _ _)

theorem evaluateForms_resumes (hplain : options.resume = false) (depth : Nat)
    (progress : Progress) (forms : List Node) (hclean : progress.failed = false) :
    Resumes (evaluateForms options depth progress forms)
      (evaluateForms { options with resume := true } depth progress forms) := by
  rw [evaluateForms_eq_each, evaluateForms_eq_each]
  exact each_resumes hplain (fun _ _ _ => .inl rfl) (evaluateForm_extends _ depth) progress forms
    hclean

theorem runSource_extends (depth : Nat) (progress : Progress) (source : Source) :
    progress.ExtendedBy (runSource options depth progress source) := by
  unfold runSource
  split
  · exact fail_extends _ _
  · split
    · exact print_extends _ _
    · rw [evaluateForms_eq_each]
      exact each_extends (evaluateForm_extends options depth) _ _

theorem runSource_resumes (hplain : options.resume = false) (depth : Nat) (progress : Progress)
    (source : Source) (hclean : progress.failed = false) :
    Resumes (runSource options depth progress source)
      (runSource { options with resume := true } depth progress source) := by
  unfold runSource
  split
  · exact .inl rfl
  · simp only
    split
    · exact .inl rfl
    · exact evaluateForms_resumes options hplain depth progress _ hclean

theorem runSources_resumes (hplain : options.resume = false) (depth : Nat) (progress : Progress)
    (sources : List Source) (hclean : progress.failed = false) :
    Resumes (runSources options depth progress sources)
      (runSources { options with resume := true } depth progress sources) := by
  rw [runSources_eq_each, runSources_eq_each]
  exact each_resumes hplain (runSource_resumes options hplain depth) (runSource_extends _ depth)
    progress sources hclean

/-! ## Depth -/

theorem evaluateForm_of_le (hle : depth ≤ depth') (progress : Progress) (form : Node)
    (hunbroken : (evaluateForm options depth progress form).broken = none) :
    evaluateForm options depth' progress form = evaluateForm options depth progress form := by
  simp only [evaluateForm, Session.act] at hunbroken ⊢
  cases hrun : (attempt depth progress.session.root form).runIn progress.session.world with
  | mk result after =>
      cases result with
      | error stop =>
          rw [hrun] at hunbroken
          cases hunbroken
      | ok result => rw [attempt_of_le hle _ _ _ hrun]

theorem runSource_of_le (hle : depth ≤ depth') (progress : Progress) (source : Source)
    (hunbroken : (runSource options depth progress source).broken = none) :
    runSource options depth' progress source = runSource options depth progress source := by
  unfold runSource at hunbroken ⊢
  split
  · rfl
  next hread =>
    simp only [hread] at hunbroken
    split
    · rfl
    next houtline =>
      simp only [houtline] at hunbroken
      rw [evaluateForms_eq_each] at hunbroken
      rw [evaluateForms_eq_each, evaluateForms_eq_each]
      exact each_congr (evaluateForm_of_le options hle) progress _ hunbroken

/-- Allowing programs to nest more deeply changes nothing if none broke off. -/
theorem runSources_of_le (hle : depth ≤ depth') (progress : Progress) (sources : List Source)
    (hunbroken : (runSources options depth progress sources).broken = none) :
    runSources options depth' progress sources = runSources options depth progress sources := by
  rw [runSources_eq_each] at hunbroken
  rw [runSources_eq_each, runSources_eq_each]
  exact each_congr (runSource_of_le options hle) progress sources hunbroken

end

/-! ## What counts as a failure -/

/-- A run of the command has done to its session what was done to another one, but for what
was written and logged. -/
structure Tracks (progress : Progress) (session : Session) : Prop where
  root_eq : progress.session.root = session.root
  same_state : progress.session.world.SameState session.world

section

variable {options : Options} {depth : Nat} {progress : Progress} {session : Session}

/-- A form that does not break off is evaluated as in any other session in the same state,
and it fails the run if it has a problem. -/
theorem tracks_evaluateForm (htracks : progress.Tracks session) {form : Node}
    (hunbroken : (evaluateForm options depth progress form).broken = none) :
    ∃ result after, (attempt depth session.root form).runIn session.world = (.ok result, after) ∧
      (evaluateForm options depth progress form).Tracks { session with world := after } ∧
      ((evaluateForm options depth progress form).failed = true ↔
        progress.failed = true ∨ ∃ problem, result = .error problem) := by
  obtain ⟨hroot, hstate⟩ := htracks
  obtain ⟨hresult, hafter⟩ := attempt_unheard depth session.root form hstate
  simp only [evaluateForm, Session.act, hroot] at hunbroken ⊢
  generalize (attempt depth session.root form).runIn progress.session.world = run
    at hresult hafter hunbroken ⊢
  generalize (attempt depth session.root form).runIn session.world = run' at hresult hafter ⊢
  obtain ⟨result, after⟩ := run
  obtain ⟨_, after'⟩ := run'
  cases hresult
  have htracked : (drain options { progress with session := ⟨after, session.root⟩ }).Tracks
      ⟨after', session.root⟩ := ⟨rfl, hafter.store_eq, hafter.sink_eq, hafter.closures_eq⟩
  cases result with
  | error stop => cases hunbroken
  | ok result =>
      refine ⟨result, after', rfl, ?_⟩
      cases result with
      | error problem =>
          simp only
          exact ⟨⟨htracked.root_eq, htracked.same_state⟩, by simp [fail]⟩
      | ok value =>
          simp only at hunbroken ⊢
          by_cases hnil : (value.kind == .nil) = true
          · rw [if_pos hnil]
            exact ⟨htracked, by simp [drain]⟩
          by_cases htext : value.hasText = true
          · rw [if_neg hnil, if_pos htext]
            exact ⟨⟨htracked.root_eq, htracked.same_state⟩, by simp [drain, print]⟩
          · rw [if_neg hnil, if_neg htext] at hunbroken
            cases hunbroken

/-- In a run that goes on after errors, all forms are evaluated, and the run fails if one of
them has a problem. -/
theorem tracks_evaluateForms (hresume : options.resume = true) (htracks : progress.Tracks session)
    {forms : List Node} (hunbroken : (evaluateForms options depth progress forms).broken = none) :
    ∃ results after, (evaluateEach depth session.root (fun _ => true) forms).runIn session.world =
        (.ok results, after) ∧
      (evaluateForms options depth progress forms).Tracks { session with world := after } ∧
      ((evaluateForms options depth progress forms).failed = true ↔
        progress.failed = true ∨ ∃ form problem, (form, .error problem) ∈ results) := by
  rw [evaluateForms_eq_each] at hunbroken ⊢
  induction forms generalizing progress session with
  | nil => exact ⟨[], _, rfl, htracks, by simp [each]⟩
  | cons form rest ih =>
      obtain ⟨result, middle, hattempt, htracked, hfailed⟩ :=
        tracks_evaluateForm htracks (step_unbroken hunbroken)
      have hnext := each_cons hresume hunbroken
      rw [hnext] at hunbroken ⊢
      obtain ⟨results, after, hresults, hlast, hfails⟩ := ih htracked hunbroken
      refine ⟨(form, result) :: results, after, ?_, hlast, ?_⟩
      · simp only [evaluateEach, runIn_bind, hattempt, if_true, hresults]
        rfl
      · rw [hfails, hfailed]
        simp only [List.mem_cons, Prod.mk.injEq]
        grind

theorem runEach_of_read {source : Source} {program : Node}
    (hread : Program.read source = .ok program) {results : List (Node × Except Problem Node)}
    {after : World} (hresults : (evaluateEach depth session.root (fun _ => true)
      (program.items?.getD [])).runIn session.world = (.ok results, after)) :
    session.runEach depth (fun _ => true) source =
      (.ok results, { session with world := after }) := by
  simp only [Session.runEach, hread, Session.act, hresults]
  rfl

/-- A run that goes on after errors and evaluates programs fails if a program cannot be read
or one of the forms of all programs has a problem. -/
theorem failed_runSources (hresume : options.resume = true) (houtline : options.outline = false)
    (htracks : progress.Tracks session) {sources : List Source}
    (hunbroken : (runSources options depth progress sources).broken = none) :
    (runSources options depth progress sources).failed = true ↔
      progress.failed = true ∨ (∃ source ∈ sources, ∃ error, Program.read source = .error error) ∨
        ∃ results form problem, .ok results ∈ session.runAllEach depth sources ∧
          (form, .error problem) ∈ results := by
  rw [runSources_eq_each] at hunbroken ⊢
  induction sources generalizing progress session with
  | nil => simp [each, Session.runAllEach]
  | cons source rest ih =>
      have hstep := step_unbroken hunbroken
      have hnext := each_cons hresume hunbroken
      rw [hnext] at hunbroken ⊢
      cases hread : Program.read source with
      | error error =>
          have hsource : runSource options depth progress source =
              progress.fail error.diagnostic.text := by
            rw [runSource, hread]
          have htracked : (progress.fail error.diagnostic.text).Tracks session :=
            ⟨htracks.root_eq, htracks.same_state⟩
          rw [hsource] at hunbroken ⊢
          rw [ih htracked hunbroken]
          exact iff_of_true (.inl rfl) (.inr (.inl ⟨source, List.mem_cons_self, error, hread⟩))
      | ok program =>
          have hsource : runSource options depth progress source =
              evaluateForms options depth progress (program.items?.getD []) := by
            simp [runSource, hread, houtline]
          rw [hsource] at hstep hunbroken ⊢
          obtain ⟨results, after, hresults, htracked, hfailed⟩ :=
            tracks_evaluateForms hresume htracks hstep
          rw [ih htracked hunbroken, hfailed, Session.runAllEach, runEach_of_read hread hresults]
          simp only [List.mem_cons, Except.ok.injEq]
          grind

/-- A run that goes on after errors and only shows trees fails if a program cannot be read. -/
theorem failed_runSources_outline (hresume : options.resume = true)
    (houtline : options.outline = true) {sources : List Source}
    (hunbroken : (runSources options depth progress sources).broken = none) :
    (runSources options depth progress sources).failed = true ↔
      progress.failed = true ∨ ∃ source ∈ sources, ∃ error, Program.read source = .error error := by
  rw [runSources_eq_each] at hunbroken ⊢
  induction sources generalizing progress with
  | nil => simp [each]
  | cons source rest ih =>
      have hnext := each_cons hresume hunbroken
      rw [hnext] at hunbroken ⊢
      rw [ih hunbroken]
      cases hread : Program.read source with
      | error error => simp [runSource, hread, fail]
      | ok program => simp [runSource, hread, houtline, print]

/-- What it takes for a run from the start that goes on after errors to fail. -/
theorem failed_iff (hresume : options.resume = true) {sources : List Source}
    (hunbroken : (runSources options depth { session := .start none .accepting }
      sources).broken = none) :
    (runSources options depth { session := .start none .accepting } sources).failed = true ↔
      (∃ source ∈ sources, ∃ error, Program.read source = .error error) ∨
        (options.outline = false ∧ ∃ results form problem,
          .ok results ∈ (Session.start none .accepting).runAllEach depth sources ∧
            (form, .error problem) ∈ results) := by
  cases houtline : options.outline with
  | true => simp [failed_runSources_outline hresume houtline hunbroken]
  | false =>
      have htracks : ({ session := .start none .accepting } : Progress).Tracks
          (.start none .accepting) := ⟨rfl, rfl, rfl, rfl⟩
      simp [failed_runSources hresume houtline htracks hunbroken]

theorem outcome_of_code (hbindings : options.bindings = false)
    (hcode : (progress.outcome options).code ≠ 2) :
    progress.broken = none ∧ progress.outcome options =
      { output := progress.output, errors := progress.errors,
        code := if progress.failed then 1 else 0 } := by
  unfold outcome at hcode ⊢
  split at hcode
  · exact absurd rfl hcode
  next hbroken => exact ⟨hbroken, by simp [hbindings]⟩

end

end CommandLine.Progress

namespace CommandLine

open Progress

/-- Asking the command to go on after errors only extends a run. For all arguments and
sources, without the bindings being asked for, and if neither run breaks off within the
depth it is allowed: what is written on either channel begins with what is written
otherwise, and the exit code is the same. It is 1 exactly if a program cannot be read or,
unless only trees are shown, if one of the forms that are evaluated has a problem. If it is
not, the runs are the same. -/
theorem resuming_extends (files : Files) (standard : List UInt8) (args args' : List String)
    (options : Options) (sources : List Source) (depth depth' : Nat)
    (hargs : readArguments {} args = .ok options)
    (hargs' : readArguments {} args' = .ok { options with resume := true })
    (hresume : options.resume = false) (hbindings : options.bindings = false)
    (hfetch : options.input.fetch files standard = .ok sources)
    (hend : (execute depth files standard args).code ≠ 2)
    (hend' : (execute depth' files standard args').code ≠ 2) :
    let plain := execute depth files standard args
    let resumed := execute depth' files standard args'
    (∃ more, resumed.output = plain.output ++ more) ∧
      (∃ more, resumed.errors = plain.errors ++ more) ∧ resumed.code = plain.code ∧
      (plain.code = 1 ↔
        (∃ source ∈ sources, ∃ error, Program.read source = .error error) ∨
          (options.outline = false ∧ ∃ results form problem,
            .ok results ∈ (Session.start none .accepting).runAllEach depth' sources ∧
              (form, .error problem) ∈ results)) ∧
      (plain.code ≠ 1 → resumed = plain) := by
  have hplain : execute depth files standard args =
      (runSources options depth { session := .start none .accepting } sources).outcome options := by
    simp only [execute, hargs, hfetch, runFetched, runAll]
  have hresumed : execute depth' files standard args' =
      (runSources { options with resume := true } depth' { session := .start none .accepting }
        sources).outcome { options with resume := true } := by
    have hinput : { options with resume := true }.input = options.input := rfl
    simp only [execute, hargs', hinput, hfetch, runFetched, runAll]
  rw [hplain] at hend ⊢
  rw [hresumed] at hend' ⊢
  obtain ⟨hunbroken, houtcome⟩ := outcome_of_code hbindings hend
  obtain ⟨hunbroken', houtcome'⟩ := outcome_of_code (by exact hbindings) hend'
  -- both runs are what they are at the greater of the two depths
  have hresumes := runSources_resumes options hresume (max depth depth')
    { session := .start none .accepting } sources rfl
  rw [runSources_of_le _ (Nat.le_max_left _ _) _ _ hunbroken,
    runSources_of_le _ (Nat.le_max_right _ _) _ _ hunbroken'] at hresumes
  have hfailed := failed_iff rfl hunbroken'
  simp only [houtcome, houtcome']
  generalize runSources options depth _ sources = plain at *
  generalize runSources _ depth' _ sources = resumed at *
  have hcode (progress : Progress) : (if progress.failed = true then 1 else 0) = 1 ↔
      progress.failed = true := by simp
  obtain rfl | ⟨hfails, -, hextended⟩ := hresumes
  · refine ⟨⟨"", by simp⟩, ⟨"", by simp⟩, rfl, ?_, fun _ => rfl⟩
    rw [hcode]
    exact hfailed
  · have hfails' := hextended.failed hfails
    refine ⟨hextended.output, hextended.errors, by rw [hfails, hfails'], ?_, ?_⟩
    · rw [hcode]
      exact iff_of_true hfails (hfailed.mp hfails')
    · intro hclean
      rw [hfails] at hclean
      exact absurd rfl hclean

/-- A program whose second form has a problem. -/
def failingSample : String := "(display 1) (car 2) (+ 3 4)"

/-- The command stops at the problem, or goes on and evaluates the last form. The exit code
is 1 in both cases, since the problem is among the results of the forms. -/
theorem failingSample_extended :
    let files : Files := ⟨.directory [], []⟩
    let plain := execute 9 files [] ["-e", failingSample]
    let resumed := execute 9 files [] ["-continue", "-e", failingSample]
    plain.output = "1\n" ∧ resumed.output = "1\n7\n" ∧
      (∃ more, resumed.errors = plain.errors ++ more) ∧ plain.code = 1 ∧ resumed.code = 1 ∧
      ∃ results form problem,
        .ok results ∈ (Session.start none .accepting).runAllEach 9 [.ofString failingSample] ∧
          (form, .error problem) ∈ results := by
  intro files plain resumed
  have hruns : plain.output = "1\n" ∧ resumed.output = "1\n7\n" ∧ plain.code = 1 ∧
      resumed.code = 1 := by decide +kernel
  have hreads : (Program.read (.ofString failingSample)).toOption.isSome = true := by
    decide +kernel
  obtain ⟨houtput, houtput', hcode, hcode'⟩ := hruns
  obtain ⟨-, herrors, -, hfails, -⟩ := resuming_extends files [] ["-e", failingSample]
    ["-continue", "-e", failingSample] { expression := failingSample } [.ofString failingSample] 9 9
    rfl rfl rfl rfl rfl (by rw [show (execute 9 files [] _).code = 1 from hcode]; decide)
    (by rw [show (execute 9 files [] _).code = 1 from hcode']; decide)
  refine ⟨houtput, houtput', herrors, hcode, hcode', ?_⟩
  obtain ⟨source, hsource, error, herror⟩ | ⟨-, hresults⟩ := hfails.mp hcode
  · rw [List.mem_singleton.mp hsource] at herror
    rw [herror] at hreads
    cases hreads
  · exact hresults

end CommandLine

end Lisplet
