import Lisplet.Proofs.TokenOrigin

/-!
# Running programs at once

Running a program and then another one is the same as running the two at once, the second
on a new line after the first. If the first fails, so does the whole, in the same way. If
not, what is written, the scopes that are left and the result are those of the second run;
its errors point as many lines further down as the first program has, unless they point
into what was read before the second program.
-/

namespace Lisplet

open Effect

/-- Writes are only ever added. -/
def Invariant.keepsOutput (output : Array String) : Invariant where
  scope _ := True
  holds w := ∃ written, w.output = output ++ written
  noted _ := id
  written text _ := by
    rintro ⟨written, houtput⟩
    exact ⟨written.push text, by simp [houtput]⟩
  defined _ _ hholds _ := hholds
  assigned _ hholds _ _ := hholds
  enclosed _ _ hholds := ⟨trivial, hholds⟩
  numbered := id

namespace Session

variable {session : Session} {source : Source} {depth depth' : Nat}

theorem exists_written (session : Session) (depth : Nat) (source : Source) :
    ∃ written, (session.run depth source).2.world.output = session.world.output ++ written := by
  unfold run
  split
  · exact ⟨#[], by simp⟩
  · exact (Invariant.keepsOutput session.world.output).evaluateForms_holds depth .nil _ trivial
      ⟨#[], by simp⟩

/-! ## Runs to the end -/

/-- A source runs to its end with an outcome, which is that of all runs that are allowed to
nest deeply enough. -/
structure RunsTo (session : Session) (source : Source)
    (outcome : Except Interruption Node × Session) : Prop where
  ends : outcome.1 ≠ .error (.stopped .exhausted)
  exists_depth : ∃ depth, session.run depth source = outcome
  run_eq {depth : Nat} : (session.run depth source).1 ≠ .error (.stopped .exhausted) →
    session.run depth source = outcome

theorem run_of_read {program : Node} (hread : Program.read source = .ok program) :
    session.run depth source = session.runProgram depth program := by
  rw [run, hread]

theorem run_of_le (hle : depth ≤ depth')
    (hdone : (session.run depth source).1 ≠ .error (.stopped .exhausted)) :
    session.run depth' source = session.run depth source := by
  unfold run at hdone ⊢
  split
  · rfl
  next program hread =>
    simp only [hread] at hdone
    exact runProgram_of_le hle program hdone

/-- One run that is not exhausted settles what all others do. -/
theorem runsTo_run (hdone : (session.run depth source).1 ≠ .error (.stopped .exhausted)) :
    session.RunsTo source (session.run depth source) where
  ends := hdone
  exists_depth := ⟨depth, rfl⟩
  run_eq {depth'} hdone' := by
    rcases Nat.le_total depth depth' with hle | hle
    · exact run_of_le hle hdone
    · exact (run_of_le hle hdone').symm

theorem RunsTo.exists_least {outcome : Except Interruption Node × Session}
    (hruns : session.RunsTo source outcome) :
    ∃ least, ∀ depth, least ≤ depth → session.run depth source = outcome := by
  obtain ⟨least, hleast⟩ := hruns.exists_depth
  refine ⟨least, fun depth hle => ?_⟩
  rw [← hleast]
  exact run_of_le hle (by rw [hleast]; exact hruns.ends)

theorem RunsTo.exists_written {outcome : Except Interruption Node × Session}
    (hruns : session.RunsTo source outcome) :
    ∃ written, outcome.2.world.output = session.world.output ++ written := by
  obtain ⟨depth, rfl⟩ := hruns.exists_depth
  exact session.exists_written depth source

/-! ## Programs in two parts -/

/-- Running the forms of two programs runs the first and then, if there is anything in it,
the second. -/
theorem runProgram_append (session : Session) (depth : Nat) (token : Option Token)
    (program other : Node) :
    session.runProgram depth (.list token (program.items?.getD [] ++ other.items?.getD [])) =
      match session.runProgram depth program with
      | (.ok value, after) =>
        if other.length = 0 then (.ok value, after) else after.runProgram depth other
      | failed => failed := by
  have hitems (items : List Node) : (Node.list token items).items?.getD [] = items := rfl
  simp only [runProgram, act, hitems, evaluateForms_append, runIn_bind]
  generalize (evaluateForms depth session.root .nil (program.items?.getD [])).runIn
    session.world = run
  obtain ⟨stop | value, after⟩ := run
  · rfl
  · cases hforms : other.items?.getD [] with
    | nil =>
        have hempty : other.length = 0 := congrArg List.length hforms
        simp only [Except.mapError, if_pos hempty]
        rfl
    -- where there are forms, it does not matter what value there was before them
    | cons form rest =>
        have hnonempty : other.length ≠ 0 := by simp [Node.length, hforms]
        simp only [Except.mapError, if_neg hnonempty, evaluateForms_cons]

section

variable {first second : Source} {program other : Node}

/-- Running two programs at once runs the first and then, if there is anything in it, the
second with its tokens further down. -/
theorem run_followedBy_eq (hfirst : Program.read first = .ok program)
    (hsecond : Program.read second = .ok other)
    (hmark : Source.leading? second.bytes ≠ some Source.byteOrderMark) (session : Session)
    (depth : Nat) :
    session.run depth (first.followedBy second) =
      match session.run depth first with
      | (.ok value, after) =>
        if other.length = 0 then (.ok value, after)
        else after.runProgram depth
          (other.retoken (Token.lowered (1 + first.deliver.text.count '\n')))
      | failed => failed := by
  obtain ⟨opening, hread⟩ := read_followedBy hfirst hsecond hmark
  rw [← Node.items?_retoken] at hread
  rw [run_of_read hread, run_of_read hfirst, runProgram_append, Node.length_retoken]

theorem run_empty (hsecond : Program.read second = .ok other) (hempty : other.length = 0)
    (session : Session) (depth : Nat) : session.run depth second = (.ok .nil, session) := by
  rw [run_of_read hsecond, runProgram, List.length_eq_zero_iff.mp hempty]
  rfl

theorem readFrom_scan (hsecond : Program.read second = .ok other) :
    ∀ form ∈ other.items?.getD [], form.ReadFrom second.scan.tokens :=
  fun form hform => (readFrom_of_read hsecond (fun _ htoken => htoken) form hform).1

/-- If the first program has a value, running both at once shows the same as running the
second after it, except that a program without forms has no value of its own. -/
theorem showsAs_followedBy (hfirst : Program.read first = .ok program)
    (hsecond : Program.read second = .ok other)
    (hmark : Source.leading? second.bytes ≠ some Source.byteOrderMark) {value : Node}
    {middle : Session} (hbegun : session.run depth first = (.ok value, middle)) :
    let once := session.run depth (first.followedBy second)
    let ended := middle.run depth second
    shownResult once.1 = shownResult (if other.length = 0 then .ok value else ended.1) ∧
      once.2.world.ShowsAs ended.2.world := by
  simp only [run_followedBy_eq hfirst hsecond hmark, hbegun]
  by_cases hempty : other.length = 0
  · rw [if_pos hempty, if_pos hempty, run_empty hsecond hempty]
    exact ⟨rfl, .refl _⟩
  · rw [if_neg hempty, if_neg hempty, run_of_read hsecond]
    have hshown := middle.runProgram_retoken_shown (readFrom_scan hsecond) depth
      (Token.lowered (1 + first.deliver.text.count '\n')) id
    rwa [Node.retoken_id] at hshown

/-- An error of the second program that points at one of its tokens points at it further
down when both programs are run at once, and any other error points where it did. -/
theorem error_followedBy (hsecond : Program.read second = .ok other)
    {error : RuntimeError} (hfails : (session.run depth second).1 =
      .error (.stopped (.problem (.error error)))) (count : Nat) :
    ∃ token token', error.token = some token ∧
      session.FailsWith (other.retoken (Token.lowered count)) { error with token := some token' } ∧
      ((token ∈ second.scan.tokens ∧ session.FailsWithin other error ∧
          token' = token.lowered count) ∨
        (session.FailsOutside other error ∧ token' = token)) := by
  obtain ⟨cause, place⟩ := error
  obtain ⟨token, rfl⟩ := Option.isSome_iff_exists.mp (run_points session depth second hfails)
  rw [run_of_read hsecond] at hfails
  obtain ⟨htoken, hwithin⟩ | houtside := FailsWith.within_or_outside
    (readFrom_scan hsecond) ⟨depth, hfails⟩
  · exact ⟨token, token.lowered count, rfl, hwithin _, .inl ⟨htoken, hwithin, rfl⟩⟩
  · exact ⟨token, token, rfl, houtside _, .inr ⟨houtside, rfl⟩⟩

end

end Session

theorem ends_of_shown {result result' : Except Interruption Node}
    (hshown : shownResult result = shownResult result')
    (hends : result' ≠ .error (.stopped .exhausted)) :
    result ≠ .error (.stopped .exhausted) := by
  rintro rfl
  cases result' with
  | ok value => cases hshown
  | error met =>
      cases met with
      | unreadable error => cases hshown
      | stopped stop =>
          cases stop with
          | problem met => cases met <;> cases hshown
          | fault met => cases hshown
          | exhausted => exact hends rfl

/-- Running two programs one after the other from any session, each to its end, is the same
as running them at once, the second on a new line after the first.

If the first fails, all that happens is what happened then. Otherwise the run at once ends,
too. It writes what the two runs write, leaves scopes that show the same as after them, and
has the result of the second, or of the first if there is nothing in the second. An error
points as many lines further down as the first program has if it points at a token of the
second program, and where it did if the token was read earlier. -/
theorem run_at_once (session : Session) (first second : Source) (program other : Node)
    (begun : Except Interruption Node × Session)
    (hfirst : Program.read first = .ok program) (hsecond : Program.read second = .ok other)
    (hmark : Source.leading? second.bytes ≠ some Source.byteOrderMark)
    (hbegun : session.RunsTo first begun) :
    (∀ interruption, begun.1 = .error interruption →
      session.RunsTo (first.followedBy second) begun) ∧
    ∀ value ended, begun.1 = .ok value → begun.2.RunsTo second ended →
      ∃ once, session.RunsTo (first.followedBy second) once ∧
        (∃ written written', begun.2.world.output = session.world.output ++ written ∧
          ended.2.world.output = begun.2.world.output ++ written' ∧
          once.2.world.output = session.world.output ++ written ++ written') ∧
        once.2.world.ShowsAs ended.2.world ∧
        shownResult once.1 = shownResult (if other.length = 0 then begun.1 else ended.1) ∧
        ∀ error, ended.1 = .error (.stopped (.problem (.error error))) →
          ∃ token token', error.token = some token ∧
            once.1 = .error (.stopped (.problem (.error { error with token := some token' }))) ∧
            ((token ∈ second.scan.tokens ∧ begun.2.FailsWithin other error ∧
                token' = token.lowered (1 + first.deliver.text.count '\n')) ∨
              (begun.2.FailsOutside other error ∧ token' = token)) := by
  have honce := Session.run_followedBy_eq hfirst hsecond hmark session
  obtain ⟨result, middle⟩ := begun
  constructor
  · rintro interruption rfl
    obtain ⟨depth, hdepth⟩ := hbegun.exists_depth
    have hwhole : session.run depth (first.followedBy second) = (.error interruption, middle) := by
      rw [honce, hdepth]
    rw [← hwhole]
    exact Session.runsTo_run (by rw [hwhole]; exact hbegun.ends)
  · rintro value ended rfl hended
    obtain ⟨written, hwritten⟩ := hbegun.exists_written
    obtain ⟨written', hwritten'⟩ := hended.exists_written
    -- a depth at which both runs end
    obtain ⟨least, hleast⟩ := hbegun.exists_least
    obtain ⟨least', hleast'⟩ := hended.exists_least
    obtain ⟨depth, hle, hle'⟩ : ∃ depth, least ≤ depth ∧ least' ≤ depth :=
      ⟨max least least', Nat.le_max_left _ _, Nat.le_max_right _ _⟩
    have hrun := hleast depth hle
    have hlast : middle.run depth second = ended := hleast' depth hle'
    obtain ⟨hresult, hshows⟩ := Session.showsAs_followedBy hfirst hsecond hmark hrun
    rw [hlast] at hresult hshows
    have hends : (session.run depth (first.followedBy second)).1 ≠
        .error (.stopped .exhausted) := by
      refine ends_of_shown hresult ?_
      split
      · nofun
      · exact hended.ends
    refine ⟨_, Session.runsTo_run hends, ⟨written, written', hwritten, hwritten', ?_⟩, hshows,
      hresult, ?_⟩
    · rw [hshows.output_eq, hwritten', hwritten]
    · intro error herror
      have hforms : other.length ≠ 0 := by
        intro hempty
        rw [← hlast, Session.run_empty hsecond hempty] at herror
        cases herror
      rw [← hlast] at herror
      obtain ⟨token, token', htoken, hfails, hcases⟩ := Session.error_followedBy hsecond herror
        (1 + first.deliver.text.count '\n')
      refine ⟨token, token', htoken, ?_, hcases⟩
      rw [honce, hrun] at hends ⊢
      simp only [if_neg hforms] at hends ⊢
      exact hfails.run_eq hends

/-- The error that ended a program. -/
def runtimeError? : Except Interruption Node → Option RuntimeError
  | .error (.stopped (.problem (.error error))) => some error
  | _ => none

theorem eq_error_of_runtimeError? {result : Except Interruption Node} {error : RuntimeError}
    (herror : runtimeError? result = some error) :
    result = .error (.stopped (.problem (.error error))) := by
  unfold runtimeError? at herror
  split at herror
  · cases herror
    rfl
  · cases herror

/-- A program that defines a function and uses it. -/
def openingSample : Source :=
  .ofString "(define first (lambda (x) (car x)))\n(display (first (list 1 2)))"

/-- A program that calls the function with an argument too many. -/
def closingSample : Source := .ofString "(display 3) (first 4 5)"

/-- The error of the call, on the given line. -/
def closingSampleError (line : Int) : RuntimeError where
  cause := .excessArguments "<lambda (x)>" 1 2
  token := some ⟨.opening, "(", ⟨line, 12⟩, "(display 3) (first 4 5)"⟩

/-- The error is on the first line of its program, and on the third when both are run at
once. -/
theorem closingSample_at_once :
    let session := Session.start none .accepting
    let begun := session.run 9 openingSample
    let ended := begun.2.run 9 closingSample
    session.RunsTo openingSample begun ∧ begun.2.RunsTo closingSample ended ∧
      ended.1 = .error (.stopped (.problem (.error (closingSampleError 1)))) ∧
      ∃ once, session.RunsTo (openingSample.followedBy closingSample) once ∧
        once.2.world.output = #["1\n", "3\n"] ∧
        once.1 = .error (.stopped (.problem (.error (closingSampleError 3)))) := by
  intro session begun ended
  have hreads : (Program.read openingSample).toOption.isSome = true := by decide +kernel
  have hsucceeds : begun.1.toOption.isSome = true := by decide +kernel
  have hruns : (Program.read closingSample).toOption.any (fun other =>
      decide (runtimeError? ended.1 = some (closingSampleError 1) ∧
        ended.2.world.output = #["1\n", "3\n"] ∧
        runtimeError? (begun.2.runProgram 9 (other.retoken (Token.lowered 1))).1 =
          some (closingSampleError 2))) = true := by decide +kernel
  have hlines : openingSample.deliver.text.count '\n' = 1 := by decide +kernel
  obtain ⟨program, hfirst⟩ := Option.isSome_iff_exists.mp hreads
  obtain ⟨value, hvalue⟩ := Option.isSome_iff_exists.mp hsucceeds
  obtain ⟨other, hsecond, hruns⟩ := (Option.any_eq_true _ _).mp hruns
  replace hvalue := eq_ok_of_toOption hvalue
  obtain ⟨herror, houtput, hlowered⟩ := of_decide_eq_true hruns
  replace herror := eq_error_of_runtimeError? herror
  have hbegun : session.RunsTo openingSample begun :=
    Session.runsTo_run (by rw [show (session.run 9 openingSample).1 = _ from hvalue]; nofun)
  have hended : begun.2.RunsTo closingSample ended :=
    Session.runsTo_run (by rw [show (begun.2.run 9 closingSample).1 = _ from herror]; nofun)
  obtain ⟨once, honce, -, hshows, -, hplace⟩ := (run_at_once session openingSample closingSample
    program other begun (eq_ok_of_toOption hfirst) (eq_ok_of_toOption hsecond) (by decide)
    hbegun).2 value ended hvalue hended
  refine ⟨hbegun, hended, herror, once, honce, by rw [hshows.output_eq, houtput], ?_⟩
  obtain ⟨token, token', htoken, hfails, ⟨-, -, rfl⟩ | ⟨houtside, -⟩⟩ := hplace _ herror
  · cases htoken
    rw [hlines] at hfails
    exact hfails
  · -- the error follows the tokens of the program
    have hsame := (houtside (Token.lowered 1)).eq ⟨9, eq_error_of_runtimeError? hlowered⟩
    exact absurd hsame (by decide)

end Lisplet
