import Lisplet.Proofs.Simulation.Likeness
import Lisplet.Session

/-!
# Effects side by side

Two effects are related when, from related worlds, they give values or stops that
correspond and leave related worlds. Some stops excuse a run from the comparison:
if one of the two effects stops in such a way, nothing is said of the other.

A simulation is a way to compare runs that everything an evaluation does by itself
respects: arithmetic, looking names up, binding and changing them, making scopes and
closures, writing and logging.
-/

namespace Lisplet

/-! ## What effects do to a world -/

namespace Effect

variable {α β : Type}

theorem runIn_bind (effect : Effect α) (next : α → Effect β) (world : World) :
    (effect >>= next).runIn world =
      match effect.runIn world with
      | (.ok value, after) => (next value).runIn after
      | (.error stop, after) => (.error stop, after) := by
  simp only [runIn, bind, ExceptT.bind, ExceptT.mk, StateT.bind]
  rcases effect world with ⟨_ | _, _⟩ <;> rfl

theorem runIn_get_bind (next : World → Effect β) (world : World) :
    (get >>= next).runIn world = (next world).runIn world := rfl

theorem runIn_located (node : Node) (effect : Effect α) (world : World) :
    (located node effect).runIn world =
      ((effect.runIn world).1.mapError (Stop.locate node.token?), (effect.runIn world).2) := rfl

theorem runIn_attempt (depth : Nat) (s : ScopeId) (form : Node) (world : World) :
    (attempt depth s form).runIn world =
      match (evaluate depth form s).runIn world with
      | (.ok value, after) => (.ok (.ok value), after)
      | (.error (.problem problem), after) =>
        (.ok (.error problem),
          { after with log := after.log.push (ended ("error: " ++ problem.text)) })
      | (.error stop, after) => (.error stop, after) := by
  simp only [attempt, runIn, tryCatch, tryCatchThe, MonadExceptOf.tryCatch, ExceptT.tryCatch,
    Functor.map, ExceptT.map, ExceptT.mk, bind, StateT.bind]
  rcases evaluate depth form s world with ⟨stop | value, after⟩
  · cases stop <;> rfl
  · rfl

end Effect

/-- A stop without the token it points at. -/
def Stop.unplaced : Stop → Stop
  | problem (.error error) => problem (.error { error with token := none })
  | stop => stop

/-! ## Couplings -/

/-- How two runs are compared. -/
structure Coupling extends Likeness where
  /-- Scopes that the two runs evaluate in. -/
  scope : ScopeId → ScopeId → Prop
  /-- Worlds that the two runs are in. -/
  world : World → World → Prop
  /-- Stops of the first run that end the comparison. -/
  leftQuits : Stop → Prop
  /-- Stops of the second run that end the comparison. -/
  rightQuits : Stop → Prop

namespace Coupling

variable {α β γ δ : Type}

/-- Stops that correspond: errors with the same cause whose tokens may stand for each
other, and otherwise the same stop. -/
inductive StopAlike (coupling : Coupling) : Stop → Stop → Prop
  | error {cause : RuntimeCause} {token token' : Option Token}
      (htoken : coupling.token token token') :
      StopAlike coupling (.problem (.error ⟨cause, token⟩)) (.problem (.error ⟨cause, token'⟩))
  | failure (reason : String) :
      StopAlike coupling (.problem (.failure reason)) (.problem (.failure reason))
  | fault (fault : Fault) : StopAlike coupling (.fault fault) (.fault fault)
  | exhausted : StopAlike coupling .exhausted .exhausted

/-- Results that correspond. -/
inductive Agrees (coupling : Coupling) (value : α → β → Prop) :
    Except Stop α → Except Stop β → Prop
  | ok {a : α} {b : β} (hvalue : value a b) : Agrees coupling value (.ok a) (.ok b)
  | error {stop stop' : Stop} (hstop : coupling.StopAlike stop stop') :
      Agrees coupling value (.error stop) (.error stop')

/-- One of two results ends the comparison. -/
def Quits (coupling : Coupling) (result : Except Stop α) (result' : Except Stop β) : Prop :=
  (∃ stop, result = .error stop ∧ coupling.leftQuits stop) ∨
    ∃ stop, result' = .error stop ∧ coupling.rightQuits stop

/-- From related worlds, two effects give results that correspond and leave related
worlds, unless one of them ends the comparison. -/
def Related (coupling : Coupling) (value : α → β → Prop) (effect : Effect α)
    (effect' : Effect β) : Prop :=
  ∀ ⦃world world'⦄, coupling.world world world' →
    coupling.Quits (effect.runIn world).1 (effect'.runIn world').1 ∨
      (coupling.Agrees value (effect.runIn world).1 (effect'.runIn world').1 ∧
        coupling.world (effect.runIn world).2 (effect'.runIn world').2)

variable {coupling : Coupling} {value : α → β → Prop} {value' : γ → δ → Prop}

theorem related_pure {a : α} {b : β} (hvalue : value a b) :
    coupling.Related value (pure a) (pure b) :=
  fun _ _ hworld => .inr ⟨.ok hvalue, hworld⟩

theorem related_throw {stop stop' : Stop} (hstop : coupling.StopAlike stop stop') :
    coupling.Related value (throw stop) (throw stop') :=
  fun _ _ hworld => .inr ⟨.error hstop, hworld⟩

/-- Results without effects that correspond are related as effects. -/
theorem related_lift {result : Except Stop α} {result' : Except Stop β}
    (hresult : coupling.Quits result result' ∨ coupling.Agrees value result result') :
    coupling.Related value (ExceptT.mk (pure result)) (ExceptT.mk (pure result')) :=
  fun _ _ hworld => hresult.imp id fun hagrees => ⟨hagrees, hworld⟩

theorem Related.bind {effect : Effect α} {effect' : Effect β} {next : α → Effect γ}
    {next' : β → Effect δ} (heffect : coupling.Related value effect effect')
    (hnext : ∀ a b, value a b → coupling.Related value' (next a) (next' b)) :
    coupling.Related value' (effect >>= next) (effect' >>= next') := by
  intro world world' hworld
  rw [Effect.runIn_bind, Effect.runIn_bind]
  have hrun := heffect hworld
  rcases hfirst : effect.runIn world with ⟨result, after⟩
  rcases hsecond : effect'.runIn world' with ⟨result', after'⟩
  rw [hfirst, hsecond] at hrun
  -- a run that quits early quits as a whole, so there is nothing left to compare
  obtain (⟨stop, rfl, hquits⟩ | ⟨stop, rfl, hquits⟩) | ⟨hagrees, hafter⟩ := hrun
  · exact .inl (.inl ⟨stop, rfl, hquits⟩)
  · exact .inl (.inr ⟨stop, rfl, hquits⟩)
  · cases hagrees with
    | ok hvalue => exact hnext _ _ hvalue hafter
    | error hstop => exact .inr ⟨.error hstop, hafter⟩

theorem Related.discard {effect : Effect α} {effect' : Effect β}
    (heffect : coupling.Related value effect effect') :
    coupling.Related (fun _ _ => True) (discard effect) (discard effect') :=
  heffect.bind fun _ _ _ => related_pure trivial

theorem related_get_bind {next next' : World → Effect α} {value : α → α → Prop}
    (hnext : ∀ world world', coupling.world world world' →
      coupling.Quits ((next world).runIn world).1 ((next' world').runIn world').1 ∨
        (coupling.Agrees value ((next world).runIn world).1 ((next' world').runIn world').1 ∧
          coupling.world ((next world).runIn world).2 ((next' world').runIn world').2)) :
    coupling.Related value (get >>= next) (get >>= next') := by
  intro world world' hworld
  rw [Effect.runIn_get_bind, Effect.runIn_get_bind]
  exact hnext world world' hworld

/-! ## Results that are equal -/

theorem stopAlike_self (htoken : ∀ token, coupling.token token token) (stop : Stop) :
    coupling.StopAlike stop stop := by
  cases stop with
  | problem met =>
      cases met with
      | error wrong => exact .error (htoken wrong.token)
      | failure reason => exact .failure reason
  | fault met => exact .fault met
  | exhausted => exact .exhausted

theorem agrees_self {value : α → α → Prop} (htoken : ∀ token, coupling.token token token)
    (hvalue : ∀ a, value a a) (result : Except Stop α) : coupling.Agrees value result result := by
  cases result with
  | ok a => exact .ok (hvalue a)
  | error stop => exact .error (stopAlike_self htoken stop)

theorem StopAlike.eq (hexact : coupling.IsExact) {stop stop' : Stop}
    (hstop : coupling.StopAlike stop stop') : stop = stop' := by
  cases hstop with
  | error htoken => rw [hexact.token_eq htoken]
  | failure => rfl
  | fault => rfl
  | exhausted => rfl

/-- Stops that correspond differ at most in the tokens they point at. -/
theorem StopAlike.unplaced_eq {stop stop' : Stop} (hstop : coupling.StopAlike stop stop') :
    stop.unplaced = stop'.unplaced := by
  cases hstop <;> rfl

theorem Agrees.eq (hexact : coupling.IsExact) {result result' : Except Stop Node}
    (hagrees : coupling.Agrees coupling.Alike result result') : result = result' := by
  cases hagrees with
  | ok hvalue => rw [hvalue.eq hexact]
  | error hstop => rw [hstop.eq hexact]

/-! ## Errors -/

theorem related_raise (cause : RuntimeCause) :
    coupling.Related value (Effect.raise cause) (Effect.raise cause) :=
  related_throw (.error coupling.token_none)

theorem related_raiseAt {node node' : Node} (hnode : coupling.Alike node node')
    (cause : RuntimeCause) :
    coupling.Related value (Effect.raiseAt node cause) (Effect.raiseAt node' cause) :=
  related_throw (.error hnode.token_alike)

/-- Nodes that are alike have one text, or both runs break off. -/
theorem related_textOf_bind {node node' : Node} (hnode : coupling.Alike node node')
    {next : String → Effect α} {next' : String → Effect β}
    (hnext : coupling.Related value (next node.text) (next' node.text)) :
    coupling.Related value (Effect.textOf node >>= next) (Effect.textOf node' >>= next') := by
  obtain ⟨htext, hhas⟩ := hnode.text_eq
  have hboth : coupling.Related (fun text text' => text = node.text ∧ text' = node.text)
      (Effect.textOf node) (Effect.textOf node') := by
    unfold Effect.textOf
    rw [← hhas, ← htext]
    split
    · exact related_pure ⟨rfl, rfl⟩
    · exact related_throw (.fault _)
  refine hboth.bind ?_
  rintro _ _ ⟨rfl, rfl⟩
  exact hnext

theorem StopAlike.locate {stop stop' : Stop} {token token' : Option Token}
    (hstop : coupling.StopAlike stop stop') (htoken : coupling.token token token') :
    coupling.StopAlike (stop.locate token) (stop'.locate token') := by
  cases hstop with
  | error herror => exact .error (coupling.token_or herror htoken)
  | failure reason => exact .failure reason
  | fault fault => exact .fault fault
  | exhausted => exact .exhausted

theorem Agrees.locate {result : Except Stop α} {result' : Except Stop β}
    {token token' : Option Token} (hresult : coupling.Agrees value result result')
    (htoken : coupling.token token token') :
    coupling.Agrees value (result.mapError (Stop.locate token))
      (result'.mapError (Stop.locate token')) := by
  cases hresult with
  | ok hvalue => exact .ok hvalue
  | error hstop => exact .error (hstop.locate htoken)

end Coupling

/-! ## Simulations -/

open Effect

/-- A coupling that is respected by what evaluations are made of. -/
structure Simulation extends Coupling where
  home_of_scope {s s' : ScopeId} : scope s s' → home s s'
  leftQuits_locate {stop : Stop} (token : Option Token) :
    leftQuits stop → leftQuits (stop.locate token)
  rightQuits_locate {stop : Stop} (token : Option Token) :
    rightQuits stop → rightQuits (stop.locate token)
  compute (operation : Arithmetic) {a b a' b' : Decimal} : number a a' → number b b' →
    toCoupling.Quits (operation.compute a b) (operation.compute a' b') ∨
      toCoupling.Agrees number (operation.compute a b) (operation.compute a' b')
  noted {w w' : World} (line : String) : world w w' →
    world { w with log := w.log.push line } { w' with log := w'.log.push line }
  sink_eq {w w' : World} : world w w' → w.sink = w'.sink
  written {w w' : World} (text : String) (sink : Sink) : world w w' →
    world { w with output := w.output.push text, sink }
      { w' with output := w'.output.push text, sink }
  found {w w' : World} {s s' : ScopeId} {name : String} : world w w' → scope s s' →
    atom (.symbol name) →
    Option.Rel toLikeness.Alike (w.store.lookup? s name) (w'.store.lookup? s' name)
  defined {w w' : World} {s s' : ScopeId} {name : String} {value value' : Node} : world w w' →
    scope s s' → atom (.symbol name) → toLikeness.Alike value value' →
    world { w with store := w.store.define s name value }
      { w' with store := w'.store.define s' name value' }
  assigned {w w' : World} {s s' : ScopeId} {name : String} {value value' : Node} : world w w' →
    scope s s' → atom (.symbol name) → toLikeness.Alike value value' →
    Option.Rel (fun home home' => world { w with store := w.store.define home name value }
        { w' with store := w'.store.define home' name value' })
      (w.store.resolve? name s) (w'.store.resolve? name s')
  enclosed {w w' : World} {parent parent' : ScopeId} {bindings bindings' : List (String × Node)} :
    world w w' → home parent parent' → toLikeness.BindingsAlike bindings bindings' →
    scope (w.store.enclose (some parent) bindings).2
        (w'.store.enclose (some parent') bindings').2 ∧
      world { w with store := (w.store.enclose (some parent) bindings).1 }
        { w' with store := (w'.store.enclose (some parent') bindings').1 }
  numbered {w w' : World} : world w w' → identity w.closures w'.closures ∧
    world { w with closures := w.closures + 1 } { w' with closures := w'.closures + 1 }
  listed {w w' : World} {s s' : ScopeId} {identity : Nat} {title : String} : world w w' →
    scope s s' → atom (.primitive (.host identity title .names)) →
    (w.store.listing s).map Prod.fst = (w'.store.listing s').map Prod.fst ∧
      ∀ name ∈ (w.store.listing s).map Prod.fst, atom (.symbol name)

namespace Simulation

variable {sim : Simulation} {s s' : ScopeId}

/-! ## Effects on the world -/

theorem related_located {α β : Type} {value : α → β → Prop} {node node' : Node}
    {effect : Effect α} {effect' : Effect β} (hnode : sim.Alike node node')
    (heffect : sim.Related value effect effect') :
    sim.Related value (located node effect) (located node' effect') := by
  intro world world' hworld
  rw [runIn_located, runIn_located]
  rcases heffect hworld with (⟨stop, hstop, hquits⟩ | ⟨stop, hstop, hquits⟩) | ⟨hagrees, hafter⟩
  · rw [hstop]
    exact .inl (.inl ⟨_, rfl, sim.leftQuits_locate _ hquits⟩)
  · rw [hstop]
    exact .inl (.inr ⟨_, rfl, sim.rightQuits_locate _ hquits⟩)
  · exact .inr ⟨hagrees.locate hnode.token_alike, hafter⟩

theorem related_note (line : String) :
    sim.Related (fun _ _ => True) (note line) (note line) :=
  fun _ _ hworld => .inr ⟨.ok trivial, sim.noted _ hworld⟩

theorem related_write (text : String) :
    sim.Related (fun _ _ => True) (write text) (write text) := by
  apply Coupling.related_get_bind
  rintro ⟨store, output, sink, log, closures⟩ ⟨store', output', sink', log', closures'⟩ hworld
  obtain rfl : sink = sink' := sim.sink_eq hworld
  cases sink with
  | accepting => exact .inr ⟨.ok trivial, sim.written text .accepting hworld⟩
  | limited room reason =>
      cases room with
      | zero => exact .inr ⟨.error (.failure reason), hworld⟩
      | succ room => exact .inr ⟨.ok trivial, sim.written text (.limited room reason) hworld⟩

theorem related_lookup {name : String} (hscope : sim.scope s s')
    (hname : sim.atom (.symbol name)) :
    sim.Related sim.Alike (lookup s name) (lookup s' name) := by
  apply Coupling.related_get_bind
  intro world world' hworld
  obtain ⟨hnone, hnone'⟩ | ⟨value, value', hsome, hsome', halike⟩ :=
    rel_cases (sim.found hworld hscope hname)
  · rw [hnone, hnone']
    exact .inr ⟨.error (.error sim.token_none), hworld⟩
  · rw [hsome, hsome']
    exact .inr ⟨.ok halike, hworld⟩

theorem related_define {name : String} {value value' : Node} (hscope : sim.scope s s')
    (hname : sim.atom (.symbol name)) (hvalue : sim.Alike value value') :
    sim.Related (fun _ _ => True) (define s name value) (define s' name value') :=
  fun _ _ hworld => .inr ⟨.ok trivial, sim.defined hworld hscope hname hvalue⟩

theorem related_assign {name : String} {value value' : Node} (hscope : sim.scope s s')
    (hname : sim.atom (.symbol name)) (hvalue : sim.Alike value value') :
    sim.Related (fun _ _ => True) (assign s name value) (assign s' name value') := by
  apply Coupling.related_get_bind
  intro world world' hworld
  obtain ⟨hnone, hnone'⟩ | ⟨home, home', hsome, hsome', hafter⟩ :=
    rel_cases (sim.assigned hworld hscope hname hvalue)
  · rw [hnone, hnone']
    exact .inr ⟨.error (.error sim.token_none), hworld⟩
  · rw [hsome, hsome']
    exact .inr ⟨.ok trivial, hafter⟩

theorem related_enclose {parent parent' : ScopeId} {bindings bindings' : List (String × Node)}
    (hparent : sim.home parent parent') (hbindings : sim.BindingsAlike bindings bindings') :
    sim.Related sim.scope (enclose parent bindings) (enclose parent' bindings') := by
  intro world world' hworld
  obtain ⟨hscope, hafter⟩ := sim.enclosed hworld hparent hbindings
  exact .inr ⟨.ok hscope, hafter⟩

theorem related_freshIdentity : sim.Related sim.identity freshIdentity freshIdentity := by
  intro world world' hworld
  obtain ⟨hidentity, hafter⟩ := sim.numbered hworld
  exact .inr ⟨.ok hidentity, hafter⟩

end Simulation

end Lisplet
