import Lisplet.Proofs.Congruence
import Lisplet.Proofs.Discipline.Regime
import Lisplet.Proofs.Reading.RoundTrip

/-!
# Where errors point

Most errors are raised without a token, and nodes made by programs have none. On the way out
an error comes to point at the innermost form around it that was read from a source, and it
keeps pointing there. Since the forms of a program were all read, every error that ends one
points somewhere, into the source of that program or of an earlier one in the session.
-/

namespace Lisplet

open Effect

/-! ## The tokens in a node -/

namespace Node

mutual

/-- The tokens that a node and its parts were read from. -/
def tokens : Node → List Token
  | atom token _ => token.toList
  | list token items => token.toList ++ tokensAll items
  | closure token _ _ body _ => token.toList ++ tokensAll body

/-- The tokens that several nodes and their parts were read from. -/
def tokensAll : List Node → List Token
  | [] => []
  | node :: rest => node.tokens ++ tokensAll rest

end

theorem tokensAll_eq (nodes : List Node) : tokensAll nodes = nodes.flatMap tokens := by
  induction nodes with
  | nil => rfl
  | cons node rest ih => rw [tokensAll, ih, List.flatMap_cons]

/-- All tokens in a node are among the given ones. -/
def ReadFrom (allowed : List Token) (node : Node) : Prop := ∀ token ∈ node.tokens, token ∈ allowed

variable {allowed : List Token}

theorem readFrom_list {token : Option Token} {items : List Node} :
    (list token items).ReadFrom allowed ↔
      (∀ t, token = some t → t ∈ allowed) ∧ ∀ item ∈ items, item.ReadFrom allowed := by
  simp only [ReadFrom, tokens, tokensAll_eq, List.mem_append, Option.mem_toList,
    List.mem_flatMap]
  grind

theorem readFrom_closure {token : Option Token} {identity : Nat} {params : List String}
    {body : List Node} {home : ScopeId} :
    (closure token identity params body home).ReadFrom allowed ↔
      (∀ t, token = some t → t ∈ allowed) ∧ ∀ expr ∈ body, expr.ReadFrom allowed := by
  simp only [ReadFrom, tokens, tokensAll_eq, List.mem_append, Option.mem_toList,
    List.mem_flatMap]
  grind

theorem ReadFrom.mem_of_token? {node : Node} (hnode : node.ReadFrom allowed) {token : Token}
    (htoken : node.token? = some token) : token ∈ allowed := by
  cases node with
  | atom place a =>
      cases htoken
      exact hnode token List.mem_cons_self
  | list place items => exact (readFrom_list.mp hnode).1 token htoken
  | closure place identity params body home => exact (readFrom_closure.mp hnode).1 token htoken

end Node

/-- The nodes that tokens spell have these tokens, each at least one of its own. -/
theorem Program.Spells.readFrom {tokens : List Token} {nodes : List Node}
    (hspells : Spells tokens nodes) {allowed : List Token}
    (hallowed : ∀ token ∈ tokens, token ∈ allowed) :
    ∀ node ∈ nodes, node.ReadFrom allowed ∧ node.token?.isSome = true := by
  induction hspells with
  | nil => simp
  | atom _ _ ih =>
      rw [List.forall_mem_cons] at hallowed ⊢
      refine ⟨⟨?_, rfl⟩, ih hallowed.2⟩
      rintro token htoken
      obtain rfl := List.mem_singleton.mp htoken
      exact hallowed.1
  | list _ _ _ _ ihinner ihrest =>
      rw [List.forall_mem_cons, List.forall_mem_append, List.forall_mem_cons] at hallowed
      obtain ⟨hopening, hinner, -, hrest⟩ := hallowed
      refine List.forall_mem_cons.mpr ⟨⟨Node.readFrom_list.mpr ⟨?_, ?_⟩, rfl⟩, ihrest hrest⟩
      · rintro token ⟨⟩
        exact hopening
      · exact fun item hitem => (ihinner hinner item hitem).1

/-- The forms of a program have the tokens of its source, each at least one of its own. -/
theorem readFrom_of_read {source : Source} {program : Node}
    (hread : Program.read source = .ok program) {allowed : List Token}
    (hallowed : ∀ token ∈ source.scan.tokens, token ∈ allowed) :
    ∀ form ∈ program.items?.getD [], form.ReadFrom allowed ∧ form.token?.isSome = true := by
  obtain ⟨-, opening, closing, inner, items, htokens, -, -, hinner, rfl⟩ := spells_of_read hread
  refine hinner.readFrom fun token htoken => hallowed token ?_
  rw [htokens]
  exact List.mem_cons_of_mem _ (List.mem_append_left _ htoken)

/-! ## Errors point at tokens that were read -/

/-- If an error points anywhere, it points at one of the given tokens. -/
def Stop.PointsAmong (allowed : List Token) : Stop → Prop
  | problem (.error error) => ∀ token, error.token = some token → token ∈ allowed
  | _ => True

theorem Stop.PointsAmong.locate {allowed : List Token} {stop : Stop} {place : Option Token}
    (hstop : stop.PointsAmong allowed) (hplace : ∀ token, place = some token → token ∈ allowed) :
    (stop.locate place).PointsAmong allowed := by
  cases stop with
  | problem met =>
      cases met with
      | failure reason => trivial
      | error error =>
          intro token htoken
          rcases Option.or_eq_some_iff.mp htoken with hown | ⟨-, hgiven⟩
          · exact hstop token hown
          · exact hplace token hgiven
  | fault met => trivial
  | exhausted => trivial

/-- Evaluations bring up no tokens but those that were read. -/
def Regime.readFrom (allowed : List Token) : Regime where
  node := Node.ReadFrom allowed
  stop := Stop.PointsAmong allowed
  atom_made _ := by simp [Node.ReadFrom, Node.tokens]
  ofList hitems := Node.readFrom_list.mpr ⟨by simp, hitems⟩
  items hlist := (Node.readFrom_list.mp hlist).2
  body hclosure := (Node.readFrom_closure.mp hclosure).2
  closure _ _ _ _ _ _ hparameters _ hbody :=
    Node.readFrom_closure.mpr ⟨fun _ htoken => hparameters.mem_of_token? htoken, hbody⟩
  listed _ _ := by simp [Node.ReadFrom, Node.symbol, Node.tokens]
  exhausted := trivial
  overflown _ := trivial
  textless _ _ := trivial
  raised _ := by simp [Stop.PointsAmong]
  raisedAt hexpr _ _ htoken := hexpr.mem_of_token? htoken
  unknown _ hatom _ _ _ htoken := hatom.mem_of_token? htoken
  failed _ := trivial
  placed hexpr hstop := hstop.locate fun _ htoken => hexpr.mem_of_token? htoken

theorem readFrom_initialBindings (allowed : List Token) :
    ∀ binding ∈ initialBindings, binding.2.ReadFrom allowed := by
  have hnone : ∀ binding ∈ initialBindings, binding.2.tokens = [] := by decide
  intro binding hbinding
  simp [Node.ReadFrom, hnone binding hbinding]

/-- In a session without a host, errors point into the sources that were run. -/
theorem run_pointsAmong (sink : Sink) (earlier : List (Nat × Source)) (depth : Nat)
    (source : Source) {stop : Stop}
    (hstop : (((Session.start none sink).runs earlier).run depth source).1 =
      .error (.stopped stop)) :
    stop.PointsAmong ((source :: earlier.map Prod.snd).flatMap fun origin => origin.scan.tokens) := by
  -- the tokens of all sources are allowed from the start, so that one regime serves all runs
  generalize hallowed : (source :: earlier.map Prod.snd).flatMap _ = allowed
  have haccepts : ∀ origin ∈ source :: earlier.map Prod.snd,
      (Regime.readFrom allowed).Accepts origin := by
    intro origin horigin program hread form hform
    refine (readFrom_of_read hread ?_ form hform).1
    exact fun token htoken => hallowed ▸ List.mem_flatMap.mpr ⟨origin, horigin, htoken⟩
  rw [List.forall_mem_cons, List.forall_mem_map] at haccepts
  have hstart : (Regime.readFrom allowed).Holds (Session.start none sink).world :=
    Regime.holds_start sink fun binding hbinding _ =>
      readFrom_initialBindings allowed binding hbinding
  have houtcome := ((hstart.runs haccepts.2).run depth haccepts.1).2
  rw [hstop] at houtcome
  exact houtcome

/-! ## Errors point somewhere -/

/-- All errors that an effect stops with point somewhere. -/
def Effect.Points {α : Type} (effect : Effect α) : Prop :=
  ∀ w error, (effect.runIn w).1 = .error (.problem (.error error)) → error.token.isSome = true

theorem points_located {α : Type} {node : Node} (hnode : node.token?.isSome = true)
    (effect : Effect α) : (located node effect).Points := by
  intro w error herror
  rw [runIn_located] at herror
  cases hresult : (effect.runIn w).1 with
  | ok a =>
      rw [hresult] at herror
      cases herror
  | error stop =>
      rw [hresult] at herror
      obtain hstop := Except.error.inj herror
      cases stop with
      | problem met =>
          cases met with
          | failure reason => cases hstop
          | error inner =>
              obtain rfl := Problem.error.inj (Stop.problem.inj hstop)
              rw [Option.isSome_or, hnode, Bool.or_true]
      | fault met => cases hstop
      | exhausted => cases hstop

theorem points_evaluate (depth : Nat) {expr : Node} (hexpr : expr.token?.isSome = true)
    (s : ScopeId) : (evaluate depth expr s).Points := by
  cases depth with
  | zero =>
      intro w error herror
      cases herror
  | succ depth =>
      simp only [evaluate, perform, step]
      unfold evaluateStep
      split
      next =>
        intro w error herror
        cases herror
      next => exact points_located hexpr _
      next =>
        intro w error herror
        cases herror
      next => exact points_located hexpr _
      next =>
        split
        next =>
          intro w error herror
          cases herror
        next =>
          intro w error herror
          cases herror
          exact hexpr

theorem points_evaluateForms (depth : Nat) (s : ScopeId) (result : Node) {forms : List Node}
    (hforms : ∀ form ∈ forms, form.token?.isSome = true) :
    (evaluateForms depth s result forms).Points := by
  induction forms generalizing result with
  | nil =>
      intro w error herror
      cases herror
  | cons form rest ih =>
      rw [List.forall_mem_cons] at hforms
      intro w error herror
      have hform := points_evaluate depth hforms.1 s w error
      rw [evaluateForms_cons, runIn_bind, runIn_reported] at herror
      generalize (evaluate depth form s).runIn w = run at hform herror
      obtain ⟨stop | value, after⟩ := run
      · cases stop with
        | problem met => exact hform herror
        | fault met => cases herror
        | exhausted => cases herror
      · exact ih value hforms.2 after error herror

theorem run_points (session : Session) (depth : Nat) (source : Source) {error : RuntimeError}
    (herror : (session.run depth source).1 = .error (.stopped (.problem (.error error)))) :
    error.token.isSome = true := by
  unfold Session.run at herror
  split at herror
  next => cases herror
  next program hread =>
    have hforms : ∀ form ∈ program.items?.getD [], form.token?.isSome = true :=
      fun form hform => (readFrom_of_read hread (fun _ htoken => htoken) form hform).2
    have hpoints := points_evaluateForms depth session.root .nil hforms session.world error
    simp only [Session.runProgram, Session.act] at herror
    generalize (evaluateForms depth session.root .nil _).runIn session.world = run at hpoints herror
    obtain ⟨stop | value, after⟩ := run
    · cases herror
      exact hpoints rfl
    · cases herror

/-! ## Errors keep pointing where they do -/

/-- Turn an error that points somewhere into a failure, which nothing can change. -/
def Stop.sealed (wording : RuntimeError → String) : Stop → Stop
  | problem (.error error) =>
    if error.token.isSome then problem (.failure (wording error)) else problem (.error error)
  | stop => stop

/-- Do a task with tasks nested to the given depth at most, where errors are sealed at the end
of the first task that leaves them pointing somewhere. -/
def performSealed (wording : RuntimeError → String) : Nat → Evaluator
  | 0, _, _ => throw .exhausted
  | depth + 1, task, s =>
    ExceptT.adapt (Stop.sealed wording) (step (performSealed wording depth) task s)

section

variable {wording : RuntimeError → String}

theorem Stop.locate_of_token {error : RuntimeError} (htoken : error.token.isSome = true)
    (place : Option Token) : Stop.locate place (.problem (.error error)) = .problem (.error error) := by
  rw [locate, Option.or_of_isSome htoken]

@[simp]
theorem Stop.sealed_sealed (stop : Stop) :
    (stop.sealed wording).sealed wording = stop.sealed wording := by
  cases stop with
  | problem met =>
      cases met with
      | failure reason => rfl
      | error error =>
          by_cases htoken : error.token.isSome = true
          · simp [sealed, htoken]
          · simp [sealed, htoken]
  | fault met => rfl
  | exhausted => rfl

/-- What is done to errors on the way out leaves a seal as it is. -/
theorem Stop.locate_sealed (wording : RuntimeError → String) (place : Option Token) (stop : Stop) :
    (stop.sealed wording).locate place = stop.locate place ∨
      (stop.sealed wording).locate place = (stop.locate place).sealed wording := by
  cases stop with
  | problem met =>
      cases met with
      | failure reason => exact .inl rfl
      | error error =>
          by_cases htoken : error.token.isSome = true
          · right
            rw [locate_of_token htoken, sealed, if_pos htoken]
            rfl
          · left
            rw [sealed, if_neg htoken]
  | fault met => exact .inl rfl
  | exhausted => exact .inl rfl

/-- Two effects are related when the second does the same as the first, but for a seal on the
error that it may stop with. -/
def Congruence.sealing (wording : RuntimeError → String) : Congruence where
  related effect effect' := ∀ w, (effect'.runIn w).2 = (effect.runIn w).2 ∧
    ((effect'.runIn w).1 = (effect.runIn w).1 ∨
      (effect'.runIn w).1 = (effect.runIn w).1.mapError (Stop.sealed wording))
  given _ _ := ⟨rfl, .inl rfl⟩
  stopped _ _ := ⟨rfl, .inl rfl⟩
  sequenced {_ _ effect effect' next next'} heffect hnext w := by
    rw [runIn_bind, runIn_bind]
    have hfirst := heffect w
    generalize effect.runIn w = run at hfirst ⊢
    generalize effect'.runIn w = run' at hfirst ⊢
    obtain ⟨result, after⟩ := run
    obtain ⟨result', after'⟩ := run'
    dsimp only at hfirst
    obtain ⟨rfl, hresult⟩ := hfirst
    cases result with
    | ok a =>
        obtain rfl : result' = .ok a := hresult.elim id id
        exact hnext a after'
    | error stop =>
        rcases hresult with rfl | rfl
        · exact ⟨rfl, .inl rfl⟩
        · exact ⟨rfl, .inr rfl⟩
  placed {_} node {effect effect'} heffect w := by
    rw [runIn_located, runIn_located]
    obtain ⟨hafter, hresult⟩ := heffect w
    refine ⟨hafter, ?_⟩
    rcases hresult with hsame | hsealed
    · exact .inl (by rw [hsame])
    · rw [hsealed]
      cases (effect.runIn w).1 with
      | ok a => exact .inl rfl
      | error stop =>
          refine (Stop.locate_sealed wording node.token? stop).imp ?_ ?_
          · exact congrArg Except.error
          · exact congrArg Except.error
  noted _ _ := ⟨rfl, .inl rfl⟩
  written _ _ := ⟨rfl, .inl rfl⟩
  inspected _ hnext w := hnext w.store w
  defined _ _ _ _ := ⟨rfl, .inl rfl⟩
  enclosed _ _ _ := ⟨rfl, .inl rfl⟩
  numbered _ := ⟨rfl, .inl rfl⟩

theorem runIn_adapt {α : Type} (change : Stop → Stop) (effect : Effect α) (w : World) :
    runIn (ExceptT.adapt change effect) w =
      ((effect.runIn w).1.mapError change, (effect.runIn w).2) := rfl

/-- A seal on an error inside of a task makes no difference to the task but for the seal. -/
theorem performSealed_eq (wording : RuntimeError → String) (depth : Nat) (task : Task)
    (s : ScopeId) (w : World) :
    (performSealed wording depth task s).runIn w =
      (((perform depth task s).runIn w).1.mapError (Stop.sealed wording),
        ((perform depth task s).runIn w).2) := by
  induction depth generalizing task s w with
  | zero => rfl
  | succ depth ih =>
      have hcarries : (Congruence.sealing wording).Carries (perform depth)
          (performSealed wording depth) := by
        intro task s w
        rw [ih]
        exact ⟨rfl, .inr rfl⟩
      obtain ⟨hafter, hresult⟩ := Congruence.step_carries hcarries task s w
      rw [performSealed, runIn_adapt, hafter, perform]
      rcases hresult with hsame | hsealed
      · rw [hsame]
      · rw [hsealed]
        cases ((step (perform depth) task s).runIn w).1 with
        | ok value => rfl
        | error stop => simp [Except.mapError]

end

/-- Every error that ends a program in a session without a host points at a token of the
source of this program or of one that was run earlier.

It is the token that the error pointed at first. Sealing errors as soon as a task leaves
them pointing somewhere, so that no task around it can change them, makes no difference to
what comes out but for the seal; and an error that points somewhere is not made to point at
the form around it. -/
theorem errors_point_into_sources :
    (∀ sink earlier depth source error,
      (((Session.start none sink).runs earlier).run depth source).1 =
        .error (.stopped (.problem (.error error))) →
      ∃ token, error.token = some token ∧
        ∃ origin ∈ source :: earlier.map Prod.snd, token ∈ origin.scan.tokens) ∧
    (∀ wording depth task s w,
      (performSealed wording depth task s).runIn w =
        (((perform depth task s).runIn w).1.mapError (Stop.sealed wording),
          ((perform depth task s).runIn w).2)) ∧
    ∀ (node : Node) (effect : Effect Node) (w : World) (error : RuntimeError),
      (effect.runIn w).1 = .error (.problem (.error error)) → error.token.isSome = true →
      (located node effect).runIn w = effect.runIn w := by
  refine ⟨?_, performSealed_eq, ?_⟩
  · intro sink earlier depth source error herror
    obtain ⟨token, htoken⟩ := Option.isSome_iff_exists.mp (run_points _ depth source herror)
    have hamong := run_pointsAmong sink earlier depth source herror token htoken
    exact ⟨token, htoken, List.mem_flatMap.mp hamong⟩
  · intro node effect w error herror htoken
    refine Prod.ext ?_ rfl
    rw [runIn_located, herror, Except.mapError, Stop.locate_of_token htoken]

/-- A program that defines a function which takes the first element of its argument. -/
def firstSample : Source := .ofString "(define first (lambda (x) (car x)))"

/-- A program that calls the function on an empty list, in a form made while it runs. -/
def calledSample : Source := .ofString "(eval (list first (list)))"

/-- The error of the call. -/
def calledSampleError : RuntimeError where
  cause := .emptyList "car"
  token := some ⟨.opening, "(", ⟨1, 26⟩, "(define first (lambda (x) (car x)))"⟩

/-- The error points into the program that defines the function. -/
theorem calledSample_points :
    let result := (((Session.start none .accepting).runs [(9, firstSample)]).run 9 calledSample).1
    result = .error (.stopped (.problem (.error calledSampleError))) ∧
      ∃ token ∈ firstSample.scan.tokens, calledSampleError.token = some token := by
  intro result
  have hfails : (match result with
      | .error met => some met
      | .ok _ => none) = some (.stopped (.problem (.error calledSampleError))) := by decide +kernel
  have hresult : result = .error (.stopped (.problem (.error calledSampleError))) := by
    cases hcase : result with
    | error met =>
        rw [hcase] at hfails
        rw [Option.some.inj hfails]
    | ok value =>
        rw [hcase] at hfails
        cases hfails
  refine ⟨hresult, ?_⟩
  obtain ⟨token, htoken, origin, horigin, hmem⟩ := errors_point_into_sources.1 .accepting
    [(9, firstSample)] 9 calledSample calledSampleError hresult
  rcases List.mem_cons.mp horigin with rfl | horigin
  · have hother : ∀ token ∈ calledSample.scan.tokens, calledSampleError.token ≠ some token := by
      decide +kernel
    exact absurd htoken (hother token hmem)
  · obtain rfl := List.mem_singleton.mp horigin
    exact ⟨token, hmem, htoken⟩

end Lisplet
