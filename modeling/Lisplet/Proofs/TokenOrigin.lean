import Lisplet.Proofs.ErrorPlaces
import Lisplet.Proofs.Reading.Joining
import Lisplet.Proofs.Reformatting

/-!
# Where the token of an error comes from

What a program does does not depend on the tokens in it, except for where its errors point.
An error can point at a token of the program, or at one that was read earlier and is still
around in a closure. Since tokens are plain data, the two cannot always be told apart by
looking at the token; but if all tokens of the program are replaced, the error follows in
the first case and stays in the second.
-/

namespace Lisplet

open Effect Coupling

/-! ## Nodes with other tokens -/

namespace Node

mutual

theorem retoken_id : (node : Node) → node.retoken id = node
  | atom token value => by rw [retoken, Option.map_id_fun, id]
  | list token items => by rw [retoken, Option.map_id_fun, id, retokenAll_id items]
  | closure token identity params body home => by
    rw [retoken, Option.map_id_fun, id, retokenAll_id body]

theorem retokenAll_id : (nodes : List Node) → retokenAll id nodes = nodes
  | [] => rfl
  | node :: rest => by rw [retokenAll, retoken_id node, retokenAll_id rest]

end

theorem items?_retoken (change : Token → Token) (node : Node) :
    (node.retoken change).items?.getD [] = retokenAll change (node.items?.getD []) := by
  cases node <;> rfl

theorem length_retoken (change : Token → Token) (node : Node) :
    (node.retoken change).length = node.length := by
  rw [length, length, items?_retoken]
  induction node.items?.getD [] with
  | nil => rfl
  | cons first rest ih => rw [retokenAll, List.length_cons, List.length_cons, ih]

end Node

/-- Nodes that differ in the tokens of a program: the two have them changed in two ways. -/
def Likeness.retokened (own : List Token) (change change' : Token → Token) : Likeness where
  token t t' := t = t' ∨ ∃ token ∈ own, t = some (change token) ∧ t' = some (change' token)
  number a b := a = b
  atom _ := True
  identity i j := i = j
  home s t := s = t
  token_none := .inl rfl
  token_or {t _ _ _} ht hu := by
    rcases ht with rfl | ⟨token, htoken, rfl, rfl⟩
    · cases t with
      | none => exact hu
      | some token => exact .inl rfl
    · exact .inr ⟨token, htoken, rfl, rfl⟩
  number_self _ := rfl
  value_eq := congrArg Decimal.value
  atom_nil := trivial
  atom_bool _ := trivial
  identity_iff := Eq.congr

section

variable {own : List Token} (change change' : Token → Token)

theorem Likeness.retokened_self (node : Node) :
    (Likeness.retokened own change change').Alike node node :=
  alike_self (fun _ _ => ⟨Or.inl rfl, rfl⟩) node (fun _ _ => trivial) (fun _ _ => rfl)

theorem Likeness.retokened_map {token : Option Token} (htoken : ∀ t, token = some t → t ∈ own) :
    (Likeness.retokened own change change').token (token.map change) (token.map change') := by
  cases token with
  | none => exact .inl rfl
  | some t => exact .inr ⟨t, htoken t rfl, rfl, rfl⟩

mutual

theorem alike_retoken : (node : Node) → node.ReadFrom own →
    (Likeness.retokened own change change').Alike (node.retoken change) (node.retoken change')
  | .atom token a, hnode =>
    ⟨Likeness.retokened_map change change' fun _ htoken => hnode.mem_of_token? htoken,
      .of_atom trivial⟩
  | .list token items, hnode => by
    obtain ⟨htoken, hitems⟩ := Node.readFrom_list.mp hnode
    exact ⟨Likeness.retokened_map change change' htoken, allAlike_retokenAll items hitems⟩
  | .closure token identity params body home, hnode => by
    obtain ⟨htoken, hbody⟩ := Node.readFrom_closure.mp hnode
    exact ⟨Likeness.retokened_map change change' htoken, rfl, rfl, fun _ _ => trivial,
      allAlike_retokenAll body hbody, rfl⟩

theorem allAlike_retokenAll : (nodes : List Node) → (∀ node ∈ nodes, node.ReadFrom own) →
    (Likeness.retokened own change change').AllAlike (Node.retokenAll change nodes)
      (Node.retokenAll change' nodes)
  | [], _ => trivial
  | node :: rest, hnodes => by
    rw [List.forall_mem_cons] at hnodes
    exact ⟨alike_retoken node hnodes.1, allAlike_retokenAll rest hnodes.2⟩

end

/-! ## Runs with other tokens -/

/-- No effect of an evaluation depends on tokens. -/
def Simulation.retokened (own : List Token) (change change' : Token → Token) : Simulation :=
  .alongside (.retokened own change change') (· = ·) (fun _ => False) (fun _ => False) Iff.rfl
    (fun _ => trivial) (fun hcounts => ⟨hcounts, congrArg (· + 1) hcounts⟩) (fun _ => id)
    (fun _ => id) fun operation {_ _ _ _} ha hb => by
      cases ha
      cases hb
      exact .inr (agrees_self (fun _ => Or.inl rfl) (fun _ => rfl) _)

theorem retokened_reports : (Simulation.retokened own change change').Reports where
  left_goes_on _ := id
  right_goes_on _ := id
  reported _ hworld := hworld

/-- A program does the same whatever tokens it has, up to these tokens. -/
theorem evaluateForms_retoken {forms : List Node} (hforms : ∀ form ∈ forms, form.ReadFrom own)
    (depth : Nat) (s : ScopeId) (world : World) :
    let run := (evaluateForms depth s .nil (Node.retokenAll change forms)).runIn world
    let run' := (evaluateForms depth s .nil (Node.retokenAll change' forms)).runIn world
    (Simulation.retokened own change change').Agrees
        (Simulation.retokened own change change').Alike run.1 run'.1 ∧
      (Simulation.retokened own change change').world run.2 run'.2 := by
  have hrelated := Simulation.related_evaluateForms (retokened_reports change change')
    (Simulation.perform_carries (fun hlt => absurd hlt (Nat.lt_irrefl depth))
      (fun hlt => absurd hlt (Nat.lt_irrefl depth)))
    (show s = s from rfl) Likeness.alike_nil (allAlike_retokenAll change change' forms hforms)
  have hworld : (Simulation.retokened own change change').world world world :=
    ⟨Likeness.storeAlike_self fun _ _ _ binding _ =>
      ⟨trivial, Likeness.retokened_self change change' binding.2⟩, rfl, rfl, rfl⟩
  obtain (⟨_, _, hquits⟩ | ⟨_, _, hquits⟩) | hagrees := hrelated hworld
  · exact hquits.elim
  · exact hquits.elim
  · exact hagrees

end

/-- Worlds that show the same: what was written and where further writes go, and scopes that
bind the same names to values that show the same. -/
structure World.ShowsAs (w w' : World) : Prop where
  output_eq : w.output = w'.output
  sink_eq : w.sink = w'.sink
  size_eq : w.store.scopes.size = w'.store.scopes.size
  parent_eq (s : ScopeId) : w.store.parent? s = w'.store.parent? s
  bound_eq (s : ScopeId) (name : String) :
    (w.store.local? s name).map Node.shown = (w'.store.local? s name).map Node.shown

theorem World.ShowsAs.refl (w : World) : w.ShowsAs w :=
  ⟨rfl, rfl, rfl, fun _ => rfl, fun _ _ => rfl⟩

/-- A token moved to a line where the given one is not. -/
def Token.aside (token other : Token) : Token :=
  { other with
    position := { other.position with line := 2 * other.position.line + token.position.line + 1 } }

theorem Token.aside_ne (token other : Token) : token ≠ token.aside other := by
  intro heq
  have hline := congrArg (·.position.line) heq
  simp only [aside] at hline
  omega

theorem Token.aside_injective (token : Token) : Function.Injective token.aside := by
  rintro ⟨kind, text, ⟨line, column⟩, source⟩ ⟨kind', text', ⟨line', column'⟩, source'⟩ heq
  simp only [aside, Token.mk.injEq, Position.mk.injEq] at heq ⊢
  obtain ⟨rfl, rfl, ⟨hline, rfl⟩, rfl⟩ := heq
  exact ⟨rfl, rfl, ⟨by omega, rfl⟩, rfl⟩

namespace Session

variable (session : Session) {own : List Token} {program : Node}

/-- Running a program shows the same whatever tokens it has. -/
theorem runProgram_retoken_shown (hprogram : ∀ form ∈ program.items?.getD [], form.ReadFrom own)
    (depth : Nat) (change change' : Token → Token) :
    let run := session.runProgram depth (program.retoken change)
    let run' := session.runProgram depth (program.retoken change')
    shownResult run.1 = shownResult run'.1 ∧ run.2.world.ShowsAs run'.2.world := by
  obtain ⟨hagrees, hstore, houtput, hsink, -⟩ :=
    evaluateForms_retoken change change' hprogram depth session.root session.world
  simp only [runProgram, act, Node.items?_retoken]
  exact ⟨shownResult_eq_of_agrees hagrees, houtput, hsink, hstore.size_eq, hstore.parent?_eq,
    local?_shown_eq hstore⟩

/-- A program fails with an error, at whatever depth that takes. -/
def FailsWith (program : Node) (error : RuntimeError) : Prop :=
  ∃ depth, (session.runProgram depth program).1 = .error (.stopped (.problem (.error error)))

/-- An error of a program that points at a token of the program: it follows the tokens. -/
def FailsWithin (program : Node) (error : RuntimeError) : Prop :=
  ∀ change, session.FailsWith (program.retoken change)
    { error with token := error.token.map change }

/-- An error of a program that points at a token which was read earlier: it stays where it is
whatever tokens the program has. -/
def FailsOutside (program : Node) (error : RuntimeError) : Prop :=
  ∀ change, session.FailsWith (program.retoken change) error

variable {session}

/-- Errors that a program has with two sets of tokens point at the same token, or at what one
token of the program was replaced by. -/
theorem FailsWith.retoken (hprogram : ∀ form ∈ program.items?.getD [], form.ReadFrom own)
    {change : Token → Token} {cause : RuntimeCause} {token : Token}
    (hfails : session.FailsWith (program.retoken change) ⟨cause, some token⟩)
    (change' : Token → Token) :
    ∃ token', session.FailsWith (program.retoken change') ⟨cause, some token'⟩ ∧
      (token' = token ∨ ∃ source ∈ own, token = change source ∧ token' = change' source) := by
  obtain ⟨depth, hfails⟩ := hfails
  have hagrees := (evaluateForms_retoken change change' hprogram depth session.root
    session.world).1
  suffices hsame : ∃ token', (session.runProgram depth (program.retoken change')).1 =
      .error (.stopped (.problem (.error ⟨cause, some token'⟩))) ∧
        (token' = token ∨ ∃ source ∈ own, token = change source ∧ token' = change' source) by
    obtain ⟨token', hfails', hcases⟩ := hsame
    exact ⟨token', ⟨depth, hfails'⟩, hcases⟩
  simp only [runProgram, act, Node.items?_retoken] at hfails ⊢
  generalize ((evaluateForms depth session.root .nil
    (Node.retokenAll change (program.items?.getD []))).runIn session.world).1 = result
    at hfails hagrees
  generalize ((evaluateForms depth session.root .nil
    (Node.retokenAll change' (program.items?.getD []))).runIn session.world).1 = result'
    at hagrees ⊢
  cases hagrees with
  | ok => cases hfails
  | error hstop =>
      cases hstop with
      | error htoken =>
          cases hfails
          rcases htoken with rfl | ⟨source, hsource, htoken, rfl⟩
          · exact ⟨token, rfl, .inl rfl⟩
          · exact ⟨change' source, rfl, .inr ⟨source, hsource, Option.some.inj htoken, rfl⟩⟩
      | failure => cases hfails
      | fault => cases hfails
      | exhausted => cases hfails

theorem FailsWith.run_eq {error : RuntimeError} (hfails : session.FailsWith program error)
    {depth : Nat} (hdone : (session.runProgram depth program).1 ≠ .error (.stopped .exhausted)) :
    (session.runProgram depth program).1 = .error (.stopped (.problem (.error error))) := by
  obtain ⟨depth', hfails⟩ := hfails
  rw [runProgram_eq hdone (by rw [hfails]; nofun), hfails]

theorem FailsWith.eq {error error' : RuntimeError} (hfails : session.FailsWith program error)
    (hfails' : session.FailsWith program error') : error = error' := by
  obtain ⟨depth, hrun⟩ := hfails
  have hrun' := hfails'.run_eq (by rw [hrun]; nofun)
  rw [hrun] at hrun'
  cases hrun'
  rfl

/-- Every error that points somewhere points at a token of the program or at one that was
read earlier. -/
theorem FailsWith.within_or_outside (hprogram : ∀ form ∈ program.items?.getD [], form.ReadFrom own)
    {cause : RuntimeCause} {token : Token}
    (hfails : session.FailsWith program ⟨cause, some token⟩) :
    (token ∈ own ∧ session.FailsWithin program ⟨cause, some token⟩) ∨
      session.FailsOutside program ⟨cause, some token⟩ := by
  rw [← Node.retoken_id program] at hfails
  -- moving the tokens of the program to where this one is not shows which case it is
  obtain ⟨moved, hmoved, rfl | ⟨source, hsource, rfl, rfl⟩⟩ := hfails.retoken hprogram token.aside
  · refine .inr fun change => ?_
    obtain ⟨_, hchanged, rfl | ⟨source, -, hsource, -⟩⟩ := hmoved.retoken hprogram change
    · exact hchanged
    · exact absurd hsource (moved.aside_ne source)
  · refine .inl ⟨hsource, fun change => ?_⟩
    obtain ⟨_, hchanged, rfl | ⟨other, -, rfl, rfl⟩⟩ := hfails.retoken hprogram change
    · -- the error would have stayed in place, so it cannot have moved aside before
      obtain ⟨token, hagain, rfl | ⟨other, -, hother, rfl⟩⟩ := hmoved.retoken hprogram change
      · have heq := hagain.eq hchanged
        cases Token.aside_ne _ _ (Option.some.inj (congrArg RuntimeError.token heq)).symm
      · rw [Token.aside_injective _ hother]
        exact hagain
    · exact hchanged

end Session

end Lisplet
