import Lisplet.Proofs.Congruence

/-!
# Sinks that fail

A sink with limited room fails the first write that it has no room for. The failure ends
the run, and no form, call or body in between hides or changes it: a run with such a sink
is the run with a sink that accepts everything, cut off at that write.
-/

namespace Lisplet

open Effect

/-- A world with another sink. -/
def World.withSink (w : World) (sink : Sink) : World := { w with sink }

/-- A session with another sink. -/
def Session.withSink (session : Session) (sink : Sink) : Session :=
  { session with world := session.world.withSink sink }

/-! ## Runs that are cut off -/

/-- What becomes of a run that writes the given texts if there is room for some writes only:
nothing changes if there is room for all of them, and otherwise the run fails for the given
reason after the writes that there is room for. -/
structure CutsOff {α : Type} (reason : String) (room : Nat) (w : World) (written : List String)
    (full cut : Except Stop α × World) : Prop where
  output_eq : full.2.output.toList = w.output.toList ++ written
  sink_eq : full.2.sink = .accepting
  within : written.length ≤ room →
    cut = (full.1, full.2.withSink (.limited (room - written.length) reason))
  beyond : room < written.length → cut.1 = .error (.problem (.failure reason)) ∧
    cut.2.output.toList = w.output.toList ++ written.take room

section

variable {α β : Type} {reason : String} {room : Nat} {w : World}

/-- A run that does not depend on the sink writes nothing and is never cut off. -/
theorem cutsOff_of_silent {effect : Effect α} (result : Except Stop α) (after : World)
    (hrun : ∀ sink, effect.runIn (w.withSink sink) = (result, after.withSink sink))
    (houtput : after.output = w.output) :
    CutsOff reason room w [] (effect.runIn (w.withSink .accepting))
      (effect.runIn (w.withSink (.limited room reason))) := by
  rw [hrun, hrun]
  constructor
  case output_eq => simp [World.withSink, houtput]
  case sink_eq => rfl
  case within => exact fun _ => rfl
  case beyond => exact fun hroom => absurd hroom (Nat.not_lt_zero room)

theorem cutsOff_write (text : String) :
    CutsOff reason room w [text] ((write text).runIn (w.withSink .accepting))
      ((write text).runIn (w.withSink (.limited room reason))) := by
  have hfull : (write text).runIn (w.withSink .accepting) =
      (.ok (), { w.withSink .accepting with output := w.output.push text }) := rfl
  rw [hfull]
  constructor
  case output_eq => simp
  case sink_eq => rfl
  case within =>
    intro hroom
    obtain ⟨less, rfl⟩ : ∃ less, room = less + 1 := Nat.exists_eq_add_of_le' hroom
    rfl
  case beyond =>
    intro hroom
    obtain rfl : room = 0 := Nat.lt_one_iff.mp hroom
    exact ⟨rfl, (List.append_nil w.output.toList).symm⟩

/-- A run that goes on after another is cut off in the first or in the second part. -/
theorem CutsOff.bind {effect effect' : Effect α} {next next' : α → Effect β}
    {written : List String}
    (hfirst : ∀ room, CutsOff reason room w written (effect.runIn (w.withSink .accepting))
      (effect'.runIn (w.withSink (.limited room reason))))
    (hnext : ∀ a after, ∃ more, ∀ room, CutsOff reason room after more
      ((next a).runIn (after.withSink .accepting))
      ((next' a).runIn (after.withSink (.limited room reason)))) :
    ∃ all, ∀ room, CutsOff reason room w all
      ((effect >>= next).runIn (w.withSink .accepting))
      ((effect' >>= next').runIn (w.withSink (.limited room reason))) := by
  simp only [runIn_bind]
  generalize effect.runIn (w.withSink .accepting) = full at hfirst ⊢
  obtain ⟨result, after⟩ := full
  have hsink : after.withSink .accepting = after := by
    rw [World.withSink, ← (hfirst 0).sink_eq]
  have hfailed : ∀ room, room < written.length →
      (∃ cut, effect'.runIn (w.withSink (.limited room reason)) =
        (.error (.problem (.failure reason)), cut) ∧
        cut.output.toList = w.output.toList ++ written.take room) := by
    intro room hroom
    obtain ⟨hstop, houtput⟩ := (hfirst room).beyond hroom
    exact ⟨_, Prod.ext hstop rfl, houtput⟩
  cases result with
  | error stop =>
      refine ⟨written, fun room => ⟨(hfirst room).output_eq, (hfirst room).sink_eq, ?_, ?_⟩⟩
      · intro hroom
        rw [(hfirst room).within hroom]
      · intro hroom
        obtain ⟨cut, hcut, houtput⟩ := hfailed room hroom
        rw [hcut]
        exact ⟨rfl, houtput⟩
  | ok a =>
      -- what the first part writes is taken off the room for the second
      obtain ⟨more, hmore⟩ := hnext a after
      rw [hsink] at hmore
      refine ⟨written ++ more, fun room => ⟨?_, (hmore room).sink_eq, ?_, ?_⟩⟩
      · rw [(hmore room).output_eq, (hfirst room).output_eq, List.append_assoc]
      · intro hroom
        rw [List.length_append] at hroom
        rw [(hfirst room).within (by omega)]
        simp only
        rw [(hmore _).within (by omega), List.length_append, Nat.sub_sub]
      · intro hroom
        rw [List.length_append] at hroom
        by_cases hhere : room < written.length
        · obtain ⟨cut, hcut, houtput⟩ := hfailed room hhere
          rw [hcut]
          refine ⟨rfl, ?_⟩
          rw [houtput, List.take_append_of_le_length (Nat.le_of_lt hhere)]
        · have hwritten : written.length ≤ room := Nat.not_lt.mp hhere
          rw [(hfirst room).within hwritten]
          obtain ⟨hstop, houtput⟩ := (hmore (room - written.length)).beyond (by omega)
          refine ⟨hstop, ?_⟩
          rw [houtput, (hfirst room).output_eq, List.take_append, List.append_assoc,
            List.take_of_length_le hwritten]

/-- What is done to errors on the way out leaves the failure of the sink as it is. -/
theorem CutsOff.locate {token : Option Token} {written : List String}
    {full cut : Except Stop α × World} (hcut : CutsOff reason room w written full cut) :
    CutsOff reason room w written (full.1.mapError (Stop.locate token), full.2)
      (cut.1.mapError (Stop.locate token), cut.2) where
  output_eq := hcut.output_eq
  sink_eq := hcut.sink_eq
  within hroom := by rw [hcut.within hroom]
  beyond hroom := by
    obtain ⟨hstop, houtput⟩ := hcut.beyond hroom
    rw [hstop]
    exact ⟨rfl, houtput⟩

end

/-! ## Evaluations -/

/-- Two effects are related when the second is the first, cut off where the room of a sink
ends. -/
def Congruence.cutOff (reason : String) : Congruence where
  related effect effect' := ∀ w, ∃ written, ∀ room, CutsOff reason room w written
    (effect.runIn (w.withSink .accepting)) (effect'.runIn (w.withSink (.limited room reason)))
  given a w := ⟨[], fun _ => cutsOff_of_silent (.ok a) w (fun _ => rfl) rfl⟩
  stopped {_ stop} _ w := ⟨[], fun _ => cutsOff_of_silent (.error stop) w (fun _ => rfl) rfl⟩
  sequenced heffect hnext w := by
    obtain ⟨written, hfirst⟩ := heffect w
    exact CutsOff.bind hfirst hnext
  placed {_} node {_ _} heffect w := by
    obtain ⟨written, hcut⟩ := heffect w
    simp only [runIn_located]
    exact ⟨written, fun room => (hcut room).locate⟩
  noted line w := ⟨[], fun _ => cutsOff_of_silent (.ok ())
    { w with log := w.log.push (ended line) } (fun _ => rfl) rfl⟩
  written text _ := ⟨[text], fun _ => cutsOff_write text⟩
  inspected _ hnext w := hnext w.store w
  defined s name value w := ⟨[], fun _ => cutsOff_of_silent (.ok ())
    { w with store := w.store.define s name value } (fun _ => rfl) rfl⟩
  enclosed parent bindings w := ⟨[], fun _ => cutsOff_of_silent (.ok w.store.scopes.size)
    { w with store := (w.store.enclose (some parent) bindings).1 } (fun _ => rfl) rfl⟩
  numbered w := ⟨[], fun _ => cutsOff_of_silent (.ok w.closures)
    { w with closures := w.closures + 1 } (fun _ => rfl) rfl⟩

section

variable {reason : String}

theorem perform_cutOff (depth : Nat) :
    (Congruence.cutOff reason).Carries (perform depth) (perform depth) :=
  Congruence.perform_carries
    (fun w => ⟨[], fun _ => cutsOff_of_silent (.error .exhausted) w (fun _ => rfl) rfl⟩) depth

/-- The report of a problem does not depend on the sink. -/
theorem CutsOff.reported {α : Type} {effect effect' : Effect α} {room : Nat} {w : World}
    {written : List String}
    (hcut : CutsOff reason room w written (effect.runIn (w.withSink .accepting))
      (effect'.runIn (w.withSink (.limited room reason)))) :
    CutsOff reason room w written (effect.reported.runIn (w.withSink .accepting))
      (effect'.reported.runIn (w.withSink (.limited room reason))) := by
  rw [runIn_reported, runIn_reported]
  generalize effect.runIn (w.withSink .accepting) = full at hcut ⊢
  generalize effect'.runIn (w.withSink (.limited room reason)) = cut at hcut ⊢
  obtain ⟨result, after⟩ := full
  obtain ⟨result', after'⟩ := cut
  constructor
  case output_eq =>
    rw [← hcut.output_eq]
    split
    next heq => cases heq; rfl
    next => rfl
  case sink_eq =>
    rw [← hcut.sink_eq]
    split
    next heq => cases heq; rfl
    next => rfl
  case within =>
    intro hroom
    cases hcut.within hroom
    cases result with
    | ok value => rfl
    | error stop => cases stop <;> rfl
  case beyond =>
    intro hroom
    obtain ⟨rfl, houtput⟩ := hcut.beyond hroom
    exact ⟨rfl, houtput⟩

theorem evaluateForms_cutOff (depth : Nat) (s : ScopeId) (result : Node) (forms : List Node) :
    (Congruence.cutOff reason).related (evaluateForms depth s result forms)
      (evaluateForms depth s result forms) := by
  induction forms generalizing result with
  | nil => exact (Congruence.cutOff reason).given result
  | cons form rest ih =>
      rw [evaluateForms_cons]
      refine (Congruence.cutOff reason).sequenced ?_ fun value => ih value
      intro w
      obtain ⟨written, hcut⟩ := perform_cutOff depth (.evaluate form) s w
      exact ⟨written, fun room => (hcut room).reported⟩

end

/-! ## Sessions -/

/-- Running a program with a sink that has limited room gives the run with a sink that
accepts everything as long as there is room for what that run writes: the same result, the
same output and the same session. If there is not, the program fails exactly as the sink
does, with no token attached, after the first writes that there is room for. -/
theorem run_cut_off (session : Session) (depth : Nat) (source : Source) (reason : String)
    (room : Nat) :
    let full := (session.withSink .accepting).run depth source
    let cut := (session.withSink (.limited room reason)).run depth source
    ∃ written : List String,
      full.2.world.output.toList = session.world.output.toList ++ written ∧
      (written.length ≤ room →
        cut = (full.1, full.2.withSink (.limited (room - written.length) reason))) ∧
      (room < written.length →
        cut.1 = .error (.stopped (.problem (.failure reason))) ∧
        cut.2.world.output.toList = session.world.output.toList ++ written.take room) := by
  intro full cut
  simp only [full, cut, Session.run]
  cases Program.read source with
  | error error => exact ⟨[], by simp [Session.withSink, World.withSink]⟩
  | ok program =>
      have hforms : (Congruence.cutOff reason).related _ _ :=
        evaluateForms_cutOff depth session.root .nil (program.items?.getD [])
      obtain ⟨written, hcut⟩ := hforms session.world
      obtain ⟨houtput, -, hwithin, hbeyond⟩ := hcut room
      refine ⟨written, houtput, ?_, ?_⟩
      · intro hroom
        have hrun := hwithin hroom
        simp only [Session.runProgram, Session.act, Session.withSink]
        rw [hrun]
      · intro hroom
        obtain ⟨hstop, hwritten⟩ := hbeyond hroom
        simp only [Session.runProgram, Session.act, Session.withSink]
        rw [hstop]
        exact ⟨rfl, hwritten⟩

/-- A program that writes three times, twice of them in the operands of a call. -/
def displaySample : Source := .ofString "(list (display 1) (let ((x 2)) (display x))) (newline)"

/-- With room for one write, the second one ends that program with the failure of the sink,
and only the first is seen. -/
theorem displaySample_cut_off :
    let cut := ((Session.start none .accepting).withSink (.limited 1 "full")).run 9 displaySample
    cut.1 = .error (.stopped (.problem (.failure "full"))) ∧
      cut.2.world.output.toList = ["1\n"] := by
  intro cut
  obtain ⟨written, houtput, -, hbeyond⟩ :=
    run_cut_off (Session.start none .accepting) 9 displaySample "full" 1
  have hfull : (((Session.start none .accepting).withSink .accepting).run 9
      displaySample).2.world.output.toList = ["1\n", "2\n", "\n"] := by decide +kernel
  rw [hfull] at houtput
  obtain rfl : ["1\n", "2\n", "\n"] = written := houtput
  exact hbeyond (by decide)

end Lisplet
