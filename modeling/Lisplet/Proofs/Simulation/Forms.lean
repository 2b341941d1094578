import Lisplet.Proofs.Congruence
import Lisplet.Proofs.Simulation.Invariant

/-!
# Programs side by side

What holds of evaluations holds of the forms of a program one after the other, since all
that is done between two forms is to report a problem. So comparisons of runs extend from
expressions to programs, and so do invariants. How deeply a program may nest does not
matter either as long as it is not exhausted.
-/

namespace Lisplet

open Effect Coupling

namespace Simulation

/-- Comparisons that reports of problems do not disturb. -/
structure Reports (sim : Simulation) : Prop where
  left_goes_on (problem : Problem) : ¬ sim.leftQuits (.problem problem)
  right_goes_on (problem : Problem) : ¬ sim.rightQuits (.problem problem)
  reported {w w' : World} {problem problem' : Problem} :
    sim.StopAlike (.problem problem) (.problem problem') → sim.world w w' →
    sim.world { w with log := w.log.push (ended ("error: " ++ problem.text)) }
      { w' with log := w'.log.push (ended ("error: " ++ problem'.text)) }

variable {sim : Simulation} {s s' : ScopeId} {depth depth' : Nat}

theorem related_reported (hreports : sim.Reports) {effect effect' : Effect Node}
    (heffect : sim.Related sim.Alike effect effect') :
    sim.Related sim.Alike effect.reported effect'.reported := by
  intro w w' hworld
  have hrun := heffect hworld
  rw [runIn_reported, runIn_reported]
  generalize effect.runIn w = run at hrun ⊢
  generalize effect'.runIn w' = run' at hrun ⊢
  obtain ⟨result, after⟩ := run
  obtain ⟨result', after'⟩ := run'
  obtain (⟨stop, rfl, hquits⟩ | ⟨stop, rfl, hquits⟩) | ⟨hagrees, hafter⟩ := hrun
  · cases stop with
    | problem met => exact absurd hquits (hreports.left_goes_on met)
    | fault met => exact .inl (.inl ⟨_, rfl, hquits⟩)
    | exhausted => exact .inl (.inl ⟨_, rfl, hquits⟩)
  · cases stop with
    | problem met => exact absurd hquits (hreports.right_goes_on met)
    | fault met => exact .inl (.inr ⟨_, rfl, hquits⟩)
    | exhausted => exact .inl (.inr ⟨_, rfl, hquits⟩)
  · cases hagrees with
    | ok hvalue => exact .inr ⟨.ok hvalue, hafter⟩
    | error hstop =>
        cases hstop with
        | error htoken =>
            exact .inr ⟨.error (.error htoken), hreports.reported (.error htoken) hafter⟩
        | failure reason =>
            exact .inr ⟨.error (.failure reason), hreports.reported (.failure reason) hafter⟩
        | fault met => exact .inr ⟨.error (.fault met), hafter⟩
        | exhausted => exact .inr ⟨.error .exhausted, hafter⟩

/-- Programs whose forms are alike stay related from form to form. -/
theorem related_evaluateForms (hreports : sim.Reports)
    (hcarries : sim.Carries (perform depth) (perform depth')) (hscope : sim.scope s s')
    {result result' : Node} {forms forms' : List Node} (hresult : sim.Alike result result')
    (hforms : sim.AllAlike forms forms') :
    sim.Related sim.Alike (evaluateForms depth s result forms)
      (evaluateForms depth' s' result' forms') := by
  induction forms generalizing forms' result result' with
  | nil =>
      cases hforms.eq_nil
      exact related_pure hresult
  | cons form rest ih =>
      obtain ⟨form', rest', rfl, hform, hrest⟩ := hforms.exists_cons
      rw [evaluateForms_cons, evaluateForms_cons]
      refine (related_reported hreports (hcarries (.evaluate hform) hscope)).bind ?_
      exact fun value value' hvalue => ih hvalue hrest

end Simulation

/-! ## Invariants of programs -/

namespace Invariant

theorem reports (invariant : Invariant) {quits : Stop → Prop}
    {hlocate : ∀ {stop} (token : Option Token), quits stop → quits (stop.locate token)}
    (hgoesOn : ∀ problem, ¬ quits (.problem problem)) :
    (invariant.simulation quits hlocate).Reports where
  left_goes_on := hgoesOn
  right_goes_on _ := id
  reported hstop hworld := by
    cases hstop.eq Likeness.exact_isExact
    exact (invariant.simulation quits hlocate).noted _ hworld

theorem evaluateForms_holds (invariant : Invariant) (depth : Nat) (result : Node)
    (forms : List Node) {s : ScopeId} {world : World} (hscope : invariant.scope s)
    (hholds : invariant.holds world) :
    invariant.holds ((evaluateForms depth s result forms).runIn world).2 := by
  refine invariant.holds_of_related ?_ hholds
  exact Simulation.related_evaluateForms (invariant.reports fun _ => id)
    (invariant.perform_carries depth) ⟨rfl, hscope⟩ (Likeness.equality_self result)
    (Likeness.equality_all_self forms)

end Invariant

/-! ## Depth -/

/-- Allowing a program to nest more deeply changes nothing if it was not exhausted. -/
theorem evaluateForms_of_le {depth depth' : Nat} (hle : depth ≤ depth') (s : ScopeId)
    (result : Node) (forms : List Node) (world : World)
    (hdone : ((evaluateForms depth s result forms).runIn world).1 ≠ .error .exhausted) :
    (evaluateForms depth' s result forms).runIn world =
      (evaluateForms depth s result forms).runIn world := by
  have hrelated := Simulation.related_evaluateForms
    (Invariant.always.reports fun _ => Stop.noConfusion) (carries_of_le hle)
    (⟨rfl, trivial⟩ : s = s ∧ True) (Likeness.equality_self result)
    (Likeness.equality_all_self forms)
  obtain (⟨stop, hstop, rfl⟩ | ⟨_, _, hquits⟩) | ⟨hagrees, hworld, -⟩ :=
    hrelated (⟨rfl, trivial⟩ : world = world ∧ True)
  · exact absurd hstop hdone
  · exact hquits.elim
  · exact Prod.ext (hagrees.eq Likeness.exact_isExact).symm hworld.symm

namespace Session

variable {session : Session} {depth depth' : Nat}

theorem runProgram_of_le (hle : depth ≤ depth') (program : Node)
    (hdone : (session.runProgram depth program).1 ≠ .error (.stopped .exhausted)) :
    session.runProgram depth' program = session.runProgram depth program := by
  have hrun := evaluateForms_of_le hle session.root .nil (program.items?.getD []) session.world ?_
  · simp only [runProgram, act, hrun]
  · intro hexhausted
    simp only [runProgram, act, hexhausted] at hdone
    exact hdone rfl

/-- What a program does within all depths that it is not exhausted in. -/
theorem runProgram_eq {program : Node}
    (hdone : (session.runProgram depth program).1 ≠ .error (.stopped .exhausted))
    (hdone' : (session.runProgram depth' program).1 ≠ .error (.stopped .exhausted)) :
    session.runProgram depth program = session.runProgram depth' program := by
  rcases Nat.le_total depth depth' with hle | hle
  · exact (runProgram_of_le hle program hdone).symm
  · exact runProgram_of_le hle program hdone'

end Session

/-! ## Programs in two parts -/

theorem evaluateForms_append (depth : Nat) (s : ScopeId) (result : Node)
    (first second : List Node) :
    evaluateForms depth s result (first ++ second) = (do
      let value ← evaluateForms depth s result first
      evaluateForms depth s value second) := by
  induction first generalizing result with
  | nil => rfl
  | cons form rest ih =>
      rw [List.cons_append, evaluateForms_cons, evaluateForms_cons, bind_assoc]
      simp only [ih]

end Lisplet
