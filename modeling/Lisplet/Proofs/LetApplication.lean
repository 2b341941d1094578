import Lisplet.Proofs.Integrity
import Lisplet.Proofs.Simulation.Store

/-!
# Binding names and applying a closure at once

A `let` and the application of a closure that is made on the spot evaluate the same
operands in the same scope and then the same body in the same new scope. What they do and
how they end differs only in that the second makes one more closure, so that closures made
later are numbered one higher.
-/

namespace Lisplet

open Effect Coupling

/-! ## Renumbering closures -/

namespace Node

mutual

/-- A node with other identities for the closures in it. -/
def renumber (number : Nat → Nat) : Node → Node
  | atom token value => .atom token value
  | list token items => .list token (renumberAll number items)
  | closure token identity params body home =>
    .closure token (number identity) params (renumberAll number body) home

/-- Several nodes with other identities for the closures in them. -/
def renumberAll (number : Nat → Nat) : List Node → List Node
  | [] => []
  | node :: rest => node.renumber number :: renumberAll number rest

end

end Node

/-- A scope with other identities for the closures in the values it binds. -/
def Scope.renumber (number : Nat → Nat) (scope : Scope) : Scope :=
  { scope with bindings := scope.bindings.map fun (name, value) => (name, value.renumber number) }

/-- The identity that a closure has if one more closure had been made when there were
`made` of them. -/
def laterIdentity (made identity : Nat) : Nat := if identity < made then identity else identity + 1

theorem laterIdentity_inj {made i j : Nat} : laterIdentity made i = laterIdentity made j ↔ i = j := by
  unfold laterIdentity
  split <;> split <;> omega

/-- Nodes that differ in that closures made later are numbered one higher. -/
def Likeness.renumbered (made : Nat) : Likeness where
  __ := Likeness.equality
  identity i j := laterIdentity made i = j
  identity_iff := by
    rintro i _ j _ rfl rfl
    exact laterIdentity_inj.symm

namespace Likeness

variable {made : Nat}

theorem AtomAlike.eq_of_renumbered {a b : Atom} (halike : (renumbered made).AtomAlike a b) :
    a = b := by
  obtain ⟨x, y, rfl, rfl, hnumber⟩ | ⟨rfl, -⟩ := halike.cases
  · exact congrArg Atom.number hnumber
  · rfl

mutual

theorem Alike.eq_renumber : {node other : Node} → (renumbered made).Alike node other →
    other = node.renumber (laterIdentity made)
  | .atom .., .atom .., halike => by
    obtain ⟨rfl, hatom⟩ := halike
    rw [hatom.eq_of_renumbered, Node.renumber]
  | .list .., .list .., halike => by
    obtain ⟨rfl, hitems⟩ := halike
    rw [AllAlike.eq_renumberAll hitems, Node.renumber]
  | .closure .., .closure .., halike => by
    obtain ⟨rfl, hidentity, rfl, -, hbody, rfl, -⟩ := halike
    rw [AllAlike.eq_renumberAll hbody, Node.renumber, ← hidentity]
  | .atom .., .list .., halike | .atom .., .closure .., halike => halike.elim
  | .list .., .atom .., halike | .list .., .closure .., halike => halike.elim
  | .closure .., .atom .., halike | .closure .., .list .., halike => halike.elim

theorem AllAlike.eq_renumberAll : {nodes others : List Node} →
    (renumbered made).AllAlike nodes others →
      others = Node.renumberAll (laterIdentity made) nodes
  | [], [], _ => rfl
  | _ :: _, _ :: _, halike => by
    rw [Alike.eq_renumber halike.1, AllAlike.eq_renumberAll halike.2, Node.renumberAll]
  | [], _ :: _, halike | _ :: _, [], halike => halike.elim

end

theorem ScopeAlike.eq_renumber {scope scope' : Scope}
    (halike : (renumbered made).ScopeAlike scope scope') :
    scope' = scope.renumber (laterIdentity made) := by
  obtain ⟨parent, bindings⟩ := scope
  obtain ⟨parent', bindings'⟩ := scope'
  obtain ⟨hparent, hbindings⟩ := halike
  have hsame : bindings' = bindings.map fun (name, value) =>
      (name, value.renumber (laterIdentity made)) := by
    change (renumbered made).BindingsAlike bindings bindings' at hbindings
    induction hbindings with
    | nil => rfl
    | cons hfirst _ ih =>
        rw [List.map_cons, ih hparent]
        exact congrArg (· :: _) (Prod.ext hfirst.1.symm hfirst.2.2.eq_renumber)
  cases hparent
  rw [Scope.renumber, hsame]

theorem StoreAlike.eq_renumber {store store' : Store}
    (hstore : (renumbered made).StoreAlike store store') (s : ScopeId) :
    store'.scopes[s]? = store.scopes[s]?.map (Scope.renumber (laterIdentity made)) := by
  obtain ⟨hnone, hnone'⟩ | ⟨scope, scope', hsome, hsome', halike⟩ := rel_cases (hstore s)
  · rw [hnone, hnone', Option.map_none]
  · rw [hsome, hsome', Option.map_some, halike.eq_renumber]

/-- What a world knows is not renumbered by closures that are made later. -/
theorem renumbered_self {w : World} {node : Node} (hnode : w.Knows node) :
    (renumbered w.closures).Alike node node := by
  refine alike_self_of (fun _ => rfl) node (fun _ _ => trivial) ?_ (fun _ _ => ⟨rfl, trivial⟩)
  intro i hi
  exact if_pos (hnode.2 i hi)

theorem storeAlike_of_sound {w : World} (hsound : w.Sound) :
    (renumbered w.closures).StoreAlike w.store w.store :=
  storeAlike_self fun _ _ hscope _ hbinding =>
    ⟨trivial, renumbered_self (hsound.knows hscope hbinding)⟩

end Likeness

/-- No effect of an evaluation depends on how closures are numbered. Of two runs, the second
has made one closure more; being exhausted may excuse the first, the second or both. -/
def Simulation.renumbered (made : Nat) (left right : Prop) : Simulation :=
  .alongside (.renumbered made) (fun n n' => made ≤ n ∧ n' = n + 1)
    (fun stop => stop = .exhausted ∧ left) (fun stop => stop = .exhausted ∧ right)
    ⟨And.left, fun hsame => ⟨hsame, trivial⟩⟩ (fun _ => trivial)
    (by
      rintro n _ ⟨hmade, rfl⟩
      exact ⟨if_neg (Nat.not_lt.mpr hmade), Nat.le_succ_of_le hmade, rfl⟩)
    (fun token hquits => ⟨isExhausted_locate token hquits.1, hquits.2⟩)
    (fun token hquits => ⟨isExhausted_locate token hquits.1, hquits.2⟩)
    (by
      rintro operation a b _ _ rfl rfl
      exact .inr (agrees_self (fun _ => rfl) (fun _ => rfl) _))

/-! ## The two forms -/

/-- Bindings of names to operands, as a `let` has them, beside parameters of the same
names and the operands alone. A name may occur more than once. -/
inductive Pairing : List String → List Node → List Node → List Node → Prop
  | nil : Pairing [] [] [] []
  | cons {name : String} {names : List String} {token : Option Token}
      {target param operand : Node} {bindings params operands : List Node}
      (htarget : target.symbol? = some name) (hparam : param.symbol? = some name)
      (hrest : Pairing names bindings params operands) :
      Pairing (name :: names) (.list token [target, operand] :: bindings) (param :: params)
        (operand :: operands)

section

variable {names : List String} {bindings params operands : List Node} {env : ScopeId}

theorem Pairing.symbolsOf_eq (hpairing : Pairing names bindings params operands) (form : String) :
    symbolsOf form params = pure names := by
  induction hpairing with
  | nil => rfl
  | cons _ hparam _ ih =>
      rw [symbolsOf, symbolOf_eq hparam, ih, pure_bind, pure_bind]

variable {made : Nat} {left right : Prop} {evaluator evaluator' : Evaluator}

/-- Evaluating the bindings gives the names and values that a call binds. -/
theorem Pairing.related_operands (hpairing : Pairing names bindings params operands)
    (hcarries : (Simulation.renumbered made left right).Carries evaluator evaluator')
    (hoperands : ∀ operand ∈ operands, (Likeness.renumbered made).Alike operand operand) :
    (Simulation.renumbered made left right).Related
      (fun values args => args.length = names.length ∧
        (Likeness.renumbered made).BindingsAlike values (names.zip args))
      (evaluateBindings evaluator env bindings) (evaluateAll evaluator' env operands) := by
  induction hpairing with
  | nil => exact related_pure ⟨rfl, .nil⟩
  | @cons name names token target param operand bindings params operands htarget _ _ ih =>
      rw [List.forall_mem_cons] at hoperands
      rw [evaluateBindings, symbolOf_eq htarget, pure_bind, evaluateAll]
      refine (hcarries (.evaluate hoperands.1) rfl).bind ?_
      intro value value' hvalue
      refine (ih hoperands.2).bind ?_
      rintro values args ⟨hlength, hvalues⟩
      exact related_pure ⟨congrArg (· + 1) hlength, .cons ⟨rfl, trivial, hvalue⟩ hvalues⟩

/-- A call with as many arguments as parameters does what a `let` does once it has the
values: what it logs besides is not compared. -/
theorem related_call_of_enclose
    (hcarries : (Simulation.renumbered made left right).Carries evaluator evaluator')
    {body args : List Node} {values : List (String × Node)}
    (hbody : (Likeness.renumbered made).AllAlike body body) (hlength : args.length = names.length)
    (hvalues : (Likeness.renumbered made).BindingsAlike values (names.zip args)) :
    (Simulation.renumbered made left right).Related (Likeness.renumbered made).Alike
      (do
        let inner ← enclose env values
        evaluateBody evaluator inner .nil body)
      (call evaluator' names body env args) := by
  unfold call
  dsimp only
  rw [if_neg (Nat.not_lt.mpr hlength.ge), if_neg (Nat.not_lt.mpr hlength.le)]
  have hhome : (Likeness.renumbered made).home env env := ⟨rfl, trivial⟩
  refine (Simulation.related_enclose hhome hvalues).bind ?_
  intro inner inner' hinner
  have hrest := Simulation.related_evaluateBody hcarries hinner Likeness.alike_nil hbody
  exact fun _ _ hworld => hrest hworld

/-- The operands and the body of a `let` beside those of an application. -/
theorem Pairing.related_forms (hpairing : Pairing names bindings params operands) (env : ScopeId)
    {body : List Node} {depth depth' : Nat}
    (hoperands : ∀ operand ∈ operands, (Likeness.renumbered made).Alike operand operand)
    (hbody : (Likeness.renumbered made).AllAlike body body)
    (hleft : depth ≤ depth' → left) (hright : depth' < depth → right) :
    (Simulation.renumbered made left right).Related (Likeness.renumbered made).Alike
      (do
        let values ← evaluateBindings (perform depth) env bindings
        let inner ← enclose env values
        evaluateBody (perform depth) inner .nil body)
      (do
        let args ← evaluateAll (perform (depth' + 1)) env operands
        call (perform depth') names body env args) := by
  have hoperandsCarried : (Simulation.renumbered made left right).Carries (perform depth)
      (perform (depth' + 1)) :=
    Simulation.perform_carries (fun hlt => ⟨rfl, hleft (Nat.le_of_lt_succ hlt)⟩)
      (fun hlt => ⟨rfl, hright (Nat.lt_of_succ_lt hlt)⟩)
  have hbodyCarried : (Simulation.renumbered made left right).Carries (perform depth)
      (perform depth') :=
    Simulation.perform_carries (fun hlt => ⟨rfl, hleft (Nat.le_of_lt hlt)⟩)
      (fun hlt => ⟨rfl, hright hlt⟩)
  refine (hpairing.related_operands hoperandsCarried hoperands).bind ?_
  rintro values args ⟨hlength, hvalues⟩
  exact related_call_of_enclose hbodyCarried hbody hlength hvalues

end

/-- A special form with a list and a body, and the tokens it was read from. -/
def SpecialForm.node (form : SpecialForm) (token head group : Option Token)
    (items body : List Node) : Node :=
  .list token (.atom head (.symbol form.name) :: .list group items :: body)

section

variable {names : List String} {bindings params operands : List Node} {env : ScopeId} {w : World}
  (token head group outer : Option Token) (first : Node) (rest : List Node)

theorem runIn_let (depth : Nat) :
    (evaluate (depth + 1) (SpecialForm.binding.node token head group bindings (first :: rest))
        env).runIn w =
      (located (SpecialForm.binding.node token head group bindings (first :: rest)) (do
        let values ← evaluateBindings (perform depth) env bindings
        let inner ← enclose env values
        evaluateBody (perform depth) inner .nil (first :: rest))).runIn w := by
  rfl

theorem runIn_evaluateList_of_callable {evaluator : Evaluator} {expr function : Node}
    {after : World} (hexpr : expr.symbol? = none)
    (hrun : (evaluator (.evaluate expr) env).runIn w = (.ok function, after))
    (hcallable : function.isCallable = true) :
    (evaluateList evaluator expr operands env).runIn w =
      (do
        let args ← evaluateAll evaluator env operands
        evaluator (.apply function args) env).runIn after := by
  unfold evaluateList
  rw [hexpr]
  simp only [Option.bind_none]
  rw [runIn_bind, hrun]
  simp only [hcallable, if_true]

/-- The closure is made first, and then the operands are evaluated. -/
theorem Pairing.runIn_application (hpairing : Pairing names bindings params operands)
    (depth : Nat) :
    (evaluate (depth + 2) (.list outer
        (SpecialForm.abstraction.node token head group params (first :: rest) :: operands))
        env).runIn w =
      (located (.list outer
        (SpecialForm.abstraction.node token head group params (first :: rest) :: operands)) (do
          let args ← evaluateAll (perform (depth + 1)) env operands
          call (perform depth) names (first :: rest) env args)).runIn
        { w with closures := w.closures + 1 } := by
  have hhead : (evaluate (depth + 1)
      (SpecialForm.abstraction.node token head group params (first :: rest)) env).runIn w =
        (.ok (.closure group w.closures names (first :: rest) env),
          { w with closures := w.closures + 1 }) := by
    change (located _ (SpecialForm.abstraction.run (perform depth) env
      (.list group params :: first :: rest))).runIn w = _
    simp only [SpecialForm.run, Node.items?, hpairing.symbolsOf_eq, pure_bind]
    rfl
  change (located _ (evaluateList (perform (depth + 1)) _ operands env)).runIn w = _
  rw [runIn_located, runIn_located, runIn_evaluateList_of_callable rfl hhead rfl]
  rfl

end

/-! ## Runs that end alike -/

/-- Two runs write the same, end in the same way and leave the same scopes. Only closures
made when there were `made` of them or more are numbered one higher in the second, and
errors may point at different tokens. -/
structure EndsAlike (made : Nat) (run run' : Except Stop Node × World) : Prop where
  output_eq : run'.2.output = run.2.output
  sink_eq : run'.2.sink = run.2.sink
  result_eq : run'.1.mapError Stop.unplaced =
    (run.1.map (Node.renumber (laterIdentity made))).mapError Stop.unplaced
  scopes_eq (s : ScopeId) : run'.2.store.scopes[s]? =
    run.2.store.scopes[s]?.map (Scope.renumber (laterIdentity made))

theorem Stop.unplaced_locate (token : Option Token) (stop : Stop) :
    (stop.locate token).unplaced = stop.unplaced := by
  cases stop with
  | problem met => cases met <;> rfl
  | fault => rfl
  | exhausted => rfl

theorem Stop.eq_exhausted_of_unplaced {stop : Stop} (hstop : stop.unplaced = .exhausted) :
    stop = .exhausted := by
  cases stop with
  | problem met => cases met <;> cases hstop
  | fault => cases hstop
  | exhausted => rfl

theorem EndsAlike.exhausted_iff {made : Nat} {run run' : Except Stop Node × World}
    (hends : EndsAlike made run run') : run.1 = .error .exhausted ↔ run'.1 = .error .exhausted := by
  obtain ⟨result, after⟩ := run
  obtain ⟨result', after'⟩ := run'
  have hresult := hends.result_eq
  cases result with
  | ok value =>
      cases result' with
      | ok value' => simp
      | error => cases hresult
  | error stop =>
      cases result' with
      | ok => cases hresult
      | error stop' =>
          have hsame : stop'.unplaced = stop.unplaced := Except.error.inj hresult
          constructor
          · rintro ⟨⟩
            rw [Stop.eq_exhausted_of_unplaced hsame]
          · rintro ⟨⟩
            rw [Stop.eq_exhausted_of_unplaced hsame.symm]

/-- Results that correspond end alike, wherever their errors are made to point. -/
theorem endsAlike_of_agrees {made : Nat} {left right : Prop} {result result' : Except Stop Node}
    {after after' : World} (token token' : Option Token)
    (hagrees : (Simulation.renumbered made left right).Agrees (Likeness.renumbered made).Alike
      result result') (hworld : (Simulation.renumbered made left right).world after after') :
    EndsAlike made (result.mapError (Stop.locate token), after)
      (result'.mapError (Stop.locate token'), after') := by
  obtain ⟨hstore, houtput, hsink, -⟩ := hworld
  refine ⟨houtput.symm, hsink.symm, ?_, hstore.eq_renumber⟩
  cases hagrees with
  | ok hvalue => exact congrArg Except.ok hvalue.eq_renumber
  | error hstop =>
      refine congrArg Except.error ?_
      rw [Stop.unplaced_locate, Stop.unplaced_locate, hstop.unplaced_eq]

section

variable {names : List String} {bindings params operands : List Node} {env : ScopeId} {w : World}
  {token head group outer token' head' group' : Option Token} {first : Node} {rest : List Node}

theorem Pairing.endsAlike_or (hpairing : Pairing names bindings params operands)
    (hsound : w.Sound) (hoperands : ∀ operand ∈ operands, w.Knows operand)
    (hbody : ∀ expr ∈ first :: rest, w.Knows expr) {depth depth' : Nat} {left right : Prop}
    (hleft : depth ≤ depth' → left) (hright : depth' < depth → right) :
    let run := (evaluate (depth + 1)
      (SpecialForm.binding.node token head group bindings (first :: rest)) env).runIn w
    let run' := (evaluate (depth' + 2) (.list outer
      (SpecialForm.abstraction.node token' head' group' params (first :: rest) :: operands))
      env).runIn w
    (run.1 = .error .exhausted ∧ left) ∨ (run'.1 = .error .exhausted ∧ right) ∨
      EndsAlike w.closures run run' := by
  intro run run'
  have hworld : (Simulation.renumbered w.closures left right).world w
      { w with closures := w.closures + 1 } :=
    ⟨Likeness.storeAlike_of_sound hsound, rfl, rfl, Nat.le_refl _, rfl⟩
  have hbodyAlike : (Likeness.renumbered w.closures).AllAlike (first :: rest) (first :: rest) := by
    rw [Likeness.allAlike_iff, List.forall₂_same]
    exact fun expr hexpr => Likeness.renumbered_self (hbody expr hexpr)
  have hforms := hpairing.related_forms env
    (fun operand hoperand => Likeness.renumbered_self (hoperands operand hoperand))
    hbodyAlike hleft hright hworld
  have hrun : run = _ := runIn_let token head group first rest depth
  have hrun' : run' = _ := hpairing.runIn_application token' head' group' outer first rest depth'
  rw [runIn_located] at hrun hrun'
  rw [hrun, hrun']
  rcases hforms with (⟨stop, hstop, rfl, hquits⟩ | ⟨stop, hstop, rfl, hquits⟩) | ⟨hagrees, hafter⟩
  · refine .inl ⟨?_, hquits⟩
    rw [hstop]
    rfl
  · refine .inr (.inl ⟨?_, hquits⟩)
    rw [hstop]
    rfl
  · exact .inr (.inr (endsAlike_of_agrees _ _ hagrees hafter))

theorem exists_of_not_exhausted {expr : Node} {depth : Nat}
    (hdone : ((evaluate depth expr env).runIn w).1 ≠ .error .exhausted) :
    ∃ less, depth = less + 1 := by
  cases depth with
  | zero => exact absurd rfl hdone
  | succ less => exact ⟨less, rfl⟩

/-- An application takes one level to make the closure and one for its body. -/
theorem exists_of_application_not_exhausted {depth : Nat}
    (hdone : ((evaluate depth (.list outer
      (SpecialForm.abstraction.node token head group params (first :: rest) :: operands))
      env).runIn w).1 ≠ .error .exhausted) : ∃ less, depth = less + 2 := by
  obtain ⟨less, rfl⟩ := exists_of_not_exhausted hdone
  cases less with
  | zero => exact absurd rfl hdone
  | succ less => exact ⟨less, rfl⟩

/-- A `let` and the application of a closure made on the spot, with the same names, operands
and body, agree in every session and in every scope. One of them ends if and only if the
other does, and then they end alike. -/
theorem let_agrees_with_application {session : Session} (hreachable : session.Reachable)
    (hpairing : Pairing names bindings params operands)
    (hoperands : ∀ operand ∈ operands, session.world.Knows operand)
    (hbody : ∀ expr ∈ first :: rest, session.world.Knows expr) :
    let binding := SpecialForm.binding.node token head group bindings (first :: rest)
    let application := Node.list outer
      (SpecialForm.abstraction.node token' head' group' params (first :: rest) :: operands)
    let run depth := (evaluate depth binding env).runIn session.world
    let run' depth := (evaluate depth application env).runIn session.world
    ((∃ depth, (run depth).1 ≠ .error .exhausted) ↔
      ∃ depth, (run' depth).1 ≠ .error .exhausted) ∧
    ∀ depth depth', (run depth).1 ≠ .error .exhausted → (run' depth').1 ≠ .error .exhausted →
      EndsAlike session.world.closures (run depth) (run' depth') := by
  intro binding application run run'
  have hends : ∀ {depth depth' : Nat} {left right : Prop}, (depth ≤ depth' → left) →
      (depth' < depth → right) → ((run (depth + 1)).1 = .error .exhausted ∧ left) ∨
        ((run' (depth' + 2)).1 = .error .exhausted ∧ right) ∨
        EndsAlike session.world.closures (run (depth + 1)) (run' (depth' + 2)) :=
    hpairing.endsAlike_or hreachable.sound.1 hoperands hbody
  -- each form is allowed to nest deeply enough not to be the one that is exhausted first
  refine ⟨⟨?_, ?_⟩, ?_⟩
  · rintro ⟨depth, hdone⟩
    obtain ⟨depth, rfl⟩ := exists_of_not_exhausted hdone
    refine ⟨depth + 2, ?_⟩
    obtain ⟨hstop, -⟩ | ⟨-, hno⟩ | halike :=
      hends (fun _ => trivial) (fun hlt => Nat.lt_irrefl depth hlt)
    · exact absurd hstop hdone
    · exact hno.elim
    · exact fun hstop => hdone (halike.exhausted_iff.mpr hstop)
  · rintro ⟨depth, hdone⟩
    obtain ⟨depth, rfl⟩ := exists_of_application_not_exhausted hdone
    refine ⟨depth + 2, ?_⟩
    obtain ⟨-, hno⟩ | ⟨hstop, -⟩ | halike :=
      hends (fun hle => Nat.not_succ_le_self depth hle) (fun _ => trivial)
    · exact hno.elim
    · exact absurd hstop hdone
    · exact fun hstop => hdone (halike.exhausted_iff.mp hstop)
  · intro depth depth' hdone hdone'
    obtain ⟨depth, rfl⟩ := exists_of_not_exhausted hdone
    obtain ⟨depth', rfl⟩ := exists_of_application_not_exhausted hdone'
    obtain ⟨hstop, -⟩ | ⟨hstop, -⟩ | halike := hends (fun _ => trivial) (fun _ => trivial)
    · exact absurd hstop hdone
    · exact absurd hstop hdone'
    · exact halike

end

/-- Two bindings of one name. -/
def rebindingSample : List Node :=
  [.ofList [.symbol "x", countSample], .ofList [.symbol "x", .number (.ofInt 2)]]

/-- A body that writes what the name is bound to and then makes a closure. -/
def bodySample : List Node :=
  [.ofList [.symbol "display", .symbol "x"],
    .ofList [.symbol "lambda", .ofList [], .symbol "x"]]

/-- The `let` with these bindings and this body. -/
def letSample : Node := SpecialForm.binding.node none none none rebindingSample bodySample

/-- The application with the same operands and body. -/
def applicationSample : Node :=
  .ofList [SpecialForm.abstraction.node none none none [.symbol "x", .symbol "x"] bodySample,
    countSample, .number (.ofInt 2)]

/-- Both write the second value and end alike, after counting in a scope that was there
before. -/
theorem applicationSample_agrees :
    Pairing ["x", "x"] rebindingSample [.symbol "x", .symbol "x"]
      [countSample, .number (.ofInt 2)] ∧
    ((evaluate 9 letSample 0).runIn counterSample.world).2.output = #["2\n"] ∧
    EndsAlike counterSample.world.closures ((evaluate 9 letSample 0).runIn counterSample.world)
      ((evaluate 9 applicationSample 0).runIn counterSample.world) := by
  have hpairing : Pairing ["x", "x"] rebindingSample [.symbol "x", .symbol "x"]
      [countSample, .number (.ofInt 2)] := .cons rfl rfl (.cons rfl rfl .nil)
  have hoperands : ∀ operand ∈ [countSample, .number (.ofInt 2)],
      counterSample.world.Knows operand := by decide
  have hbody : ∀ expr ∈ bodySample, counterSample.world.Knows expr := by decide
  have hdone : ∀ {result : Except Stop Node}, result.isOk = true →
      result ≠ .error .exhausted := by
    rintro _ hok rfl
    cases hok
  refine ⟨hpairing, by decide +kernel, ?_⟩
  apply (let_agrees_with_application counterSample_reachable hpairing hoperands hbody).2 9 9
  · exact hdone (by decide +kernel)
  · exact hdone (by decide +kernel)

end Lisplet
