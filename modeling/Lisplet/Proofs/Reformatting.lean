import Lisplet.Proofs.Reading.RoundTrip
import Lisplet.Proofs.Simulation.Forms
import Lisplet.Proofs.Simulation.Store

/-!
# Running the text of a program

A program and the text it is written back as behave in the same way, from any
session: they write the same, end alike, and leave scopes that bind the same names to
values with the same texts. Only tokens may differ, and decimals that stand for one
number.
-/

namespace Lisplet

open Effect Coupling

/-! ## Runs that differ in tokens and decimals -/

/-- Stops that say nothing about a program: it was not allowed to nest so deeply, or a
product needs an exponent out of bounds. -/
def Stop.isLimit : Stop → Bool
  | exhausted => true
  | fault (.exponentOverflow _) => true
  | _ => false

theorem Stop.isLimit_locate {stop : Stop} (token : Option Token) (hstop : stop.isLimit = true) :
    (stop.locate token).isLimit = true := by
  cases stop with
  | problem met => cases hstop
  | fault met => exact hstop
  | exhausted => rfl

/-- Runs are compared up to tokens and the decimals that stand for numbers. -/
def Coupling.byValue : Coupling where
  toLikeness := .byValue
  scope s s' := s = s'
  world w w' := Likeness.byValue.StoreAlike w.store w'.store ∧ w.output = w'.output ∧
    w.sink = w'.sink ∧ w.closures = w'.closures
  leftQuits stop := stop.isLimit = true
  rightQuits stop := stop.isLimit = true

theorem quits_of_mul {a b : Decimal} {exponent : Int} (hmul : a.mul b = .error exponent) :
    ∃ stop, Arithmetic.multiply.compute a b = .error stop ∧ stop.isLimit = true := by
  refine ⟨.fault (.exponentOverflow exponent), ?_, rfl⟩
  rw [Arithmetic.compute, hmul]
  rfl

/-- Arithmetic depends on the values of numbers only. -/
theorem compute_byValue (operation : Arithmetic) {a b a' b' : Decimal}
    (ha : a.value = a'.value) (hb : b.value = b'.value) :
    Coupling.byValue.Quits (operation.compute a b) (operation.compute a' b') ∨
      Coupling.byValue.Agrees Coupling.byValue.number (operation.compute a b)
        (operation.compute a' b') := by
  have hzero : b.isZero = b'.isZero := by
    rw [Bool.eq_iff_iff, Decimal.isZero_iff, Decimal.isZero_iff, hb]
  cases operation with
  | add =>
      refine .inr (.ok (show _ = _ from ?_))
      rw [Decimal.value_add, Decimal.value_add, ha, hb]
  | subtract =>
      refine .inr (.ok (show _ = _ from ?_))
      rw [Decimal.value_sub, Decimal.value_sub, ha, hb]
  | multiply =>
      -- decimals of one value can have different exponents, so one product may be out of bounds
      cases hmul : a.mul b with
      | error exponent => exact .inl (.inl (quits_of_mul hmul))
      | ok c =>
          cases hmul' : a'.mul b' with
          | error exponent => exact .inl (.inr (quits_of_mul hmul'))
          | ok c' =>
              have hvalue : c.value = c'.value := by
                rw [Decimal.value_of_mul_eq_ok hmul, Decimal.value_of_mul_eq_ok hmul', ha, hb]
              simp only [Arithmetic.compute, hmul, hmul']
              exact .inr (.ok hvalue)
  | divide =>
      simp only [Arithmetic.compute, ← hzero]
      split
      · exact .inr (.error (.error trivial))
      next hne =>
        rw [Decimal.isZero_iff] at hne
        rw [Decimal.div_congr ha hb hne]
        exact .inr (.ok rfl)
  | remainder =>
      simp only [Arithmetic.compute, ← hzero]
      split
      · exact .inr (.error (.error trivial))
      next hne =>
        rw [Decimal.isZero_iff] at hne
        refine .inr (.ok (show _ = _ from ?_))
        rw [Decimal.value_mod, Decimal.value_mod, Decimal.div_congr ha hb hne, ha, hb]

/-- No effect of an evaluation depends on tokens or on the decimals that stand for
numbers. -/
def Simulation.byValue : Simulation where
  toCoupling := .byValue
  __ := Simulation.alongside .byValue (· = ·) (·.isLimit = true) (·.isLimit = true) Iff.rfl
    (fun _ => trivial) (fun hcounts => ⟨hcounts, congrArg (· + 1) hcounts⟩) Stop.isLimit_locate
    Stop.isLimit_locate compute_byValue

/-! ## Sessions -/

/-- What is logged of a problem names its place, and may differ. -/
theorem byValue_reports : Simulation.byValue.Reports where
  left_goes_on _ hquits := by cases hquits
  right_goes_on _ hquits := by cases hquits
  reported _ hworld := hworld

theorem related_evaluateForms {depth depth' : Nat} {s : ScopeId} {result result' : Node}
    {forms forms' : List Node} (hresult : Simulation.byValue.Alike result result')
    (hforms : Simulation.byValue.AllAlike forms forms') :
    Simulation.byValue.Related Simulation.byValue.Alike (evaluateForms depth s result forms)
      (evaluateForms depth' s result' forms') :=
  Simulation.related_evaluateForms byValue_reports
    (Simulation.perform_carries (fun _ => rfl) (fun _ => rfl)) (show s = s from rfl) hresult hforms

/-- What a program can make seen of a value: whether it has a text, that text, and what
`display` writes for it. -/
def Node.shown (node : Node) : Bool × String × String :=
  (node.hasText, node.text, node.displayText)

/-- An interruption without the token it points at. -/
def Interruption.unplaced : Interruption → Interruption
  | stopped stop => stopped stop.unplaced
  | unreadable error => unreadable error

/-- The result of a program as far as it does not depend on tokens. -/
def shownResult (result : Except Interruption Node) :
    Except Interruption (Bool × String × String) :=
  (result.map Node.shown).mapError Interruption.unplaced

/-- Whether a program ran to its end, be it a value or a problem. -/
def ranToEnd : Except Interruption Node → Bool
  | .error (.stopped stop) => !stop.isLimit
  | _ => true

theorem not_isLimit_of_ranToEnd {stop : Stop}
    (hend : ranToEnd ((Except.error stop).mapError .stopped) = true) : ¬ stop.isLimit = true := by
  simpa [ranToEnd, Except.mapError] using hend

theorem shown_eq_of_alike {like : Likeness} {node node' : Node} (halike : like.Alike node node') :
    node.shown = node'.shown := by
  rw [Node.shown, Node.shown, halike.text_eq.1, halike.text_eq.2, halike.displayText_eq]

theorem shownResult_eq_of_agrees {coupling : Coupling} {result result' : Except Stop Node}
    (hagrees : coupling.Agrees coupling.Alike result result') :
    shownResult (result.mapError .stopped) = shownResult (result'.mapError .stopped) := by
  cases hagrees with
  | ok hvalue => exact congrArg Except.ok (shown_eq_of_alike hvalue)
  | error hstop =>
      exact congrArg (fun stop => Except.error (Interruption.stopped stop))
        hstop.unplaced_eq

theorem world_self (world : World) : Coupling.byValue.world world world :=
  ⟨Likeness.storeAlike_self fun _ _ _ binding _ => ⟨trivial, Likeness.byValue_self binding.2⟩, rfl,
    rfl, rfl⟩

theorem local?_shown_eq {like : Likeness} {store store' : Store}
    (hstore : like.StoreAlike store store') (s : ScopeId) (name : String) :
    (store.local? s name).map Node.shown = (store'.local? s name).map Node.shown := by
  obtain ⟨hnone, hnone'⟩ | ⟨value, value', hsome, hsome', halike⟩ :=
    rel_cases (hstore.local?_alike s name)
  · rw [hnone, hnone']
  · rw [hsome, hsome', Option.map_some, Option.map_some, shown_eq_of_alike halike]

/-- Running the text that a program is written back as does the same as running the
program: from any session, and whatever depths the two runs are allowed, if both run to
their end then they write the same, give results that show the same, and leave the same
scopes with bindings of the same names to values that show the same. -/
theorem run_programText_shown (session : Session) (source : Source) (program : Node)
    (depth depth' : Nat) (hread : Program.read source = .ok program)
    (hend : ranToEnd (session.run depth source).1 = true)
    (hend' : ranToEnd (session.run depth' (.ofString program.programText)).1 = true) :
    let plain := session.run depth source
    let again := session.run depth' (.ofString program.programText)
    plain.2.world.output = again.2.world.output ∧ plain.2.world.sink = again.2.world.sink ∧
      shownResult plain.1 = shownResult again.1 ∧
      plain.2.world.store.scopes.size = again.2.world.store.scopes.size ∧
      (∀ s, plain.2.world.store.parent? s = again.2.world.store.parent? s) ∧
      ∀ s name, (plain.2.world.store.local? s name).map Node.shown =
        (again.2.world.store.local? s name).map Node.shown := by
  obtain ⟨program', hread', halike⟩ := exists_read_programText (isProgram_of_read hread)
  simp only [Session.run, hread, hread', Session.runProgram, Session.act] at hend hend' ⊢
  have hitems : Likeness.byValue.AllAlike (program.items?.getD []) (program'.items?.getD []) := by
    obtain ⟨hnone, hnone'⟩ | ⟨items, items', hsome, hsome', hitems⟩ := halike.items_alike
    · rw [hnone, hnone']
      trivial
    · rw [hsome, hsome']
      exact hitems
  have hforms : Simulation.byValue.Related Simulation.byValue.Alike
      (evaluateForms depth session.root .nil (program.items?.getD []))
      (evaluateForms depth' session.root .nil (program'.items?.getD [])) :=
    related_evaluateForms Likeness.alike_nil hitems
  obtain (⟨stop, hstop, hquits⟩ | ⟨stop, hstop, hquits⟩) | ⟨hagrees, hstore, houtput, hsink, -⟩ :=
    hforms (world_self session.world)
  · rw [hstop] at hend
    exact absurd hquits (not_isLimit_of_ranToEnd hend)
  · rw [hstop] at hend'
    exact absurd hquits (not_isLimit_of_ranToEnd hend')
  · exact ⟨houtput, hsink, shownResult_eq_of_agrees hagrees, hstore.size_eq, hstore.parent?_eq,
      local?_shown_eq hstore⟩

/-- A program that is written back with other brackets, blanks and digits. -/
def reformattedSample : Source := .ofString "[define  x 1.50]\n(display (* x 2.0)) x"

theorem reformattedSample_shown :
    ∃ program, Program.read reformattedSample = .ok program ∧
      ranToEnd ((Session.start none .accepting).run 9 reformattedSample).1 = true ∧
      ranToEnd ((Session.start none .accepting).run 9 (.ofString program.programText)).1 = true ∧
      ((Session.start none .accepting).run 9 reformattedSample).2.world.output =
        ((Session.start none .accepting).run 9 (.ofString program.programText)).2.world.output ∧
      shownResult ((Session.start none .accepting).run 9 reformattedSample).1 =
        shownResult ((Session.start none .accepting).run 9 (.ofString program.programText)).1 := by
  have hruns : (match Program.read reformattedSample with
      | .ok program =>
        ranToEnd ((Session.start none .accepting).run 9 reformattedSample).1 &&
          ranToEnd ((Session.start none .accepting).run 9 (.ofString program.programText)).1
      | .error _ => false) = true := by decide +kernel
  split at hruns
  next program hread =>
    rw [Bool.and_eq_true] at hruns
    obtain ⟨hend, hend'⟩ := hruns
    obtain ⟨houtput, -, hresult, -⟩ :=
      run_programText_shown (.start none .accepting) _ program 9 9 hread hend hend'
    exact ⟨program, hread, hend, hend', houtput, hresult⟩
  next => cases hruns

end Lisplet
