import Lisplet.Proofs.Simulation.Evaluation

/-!
# Invariants of evaluations

A property of worlds holds throughout every evaluation if the single effects of
evaluations preserve it. The property may rely on where evaluations run: in certain
scopes, among them all that are newly made.

How deeply an evaluation may nest does not matter as long as it is not exhausted.
-/

namespace Lisplet

open Effect Coupling

/-- Nothing but equal nodes is alike. -/
def Likeness.equality : Likeness :=
  .exact (fun _ => True) (fun _ => True) trivial (fun _ => trivial)

theorem Likeness.equality_self (node : Node) : Likeness.equality.Alike node node :=
  alike_self (fun _ _ => ⟨rfl, rfl⟩) node (fun _ _ => trivial) (fun _ _ => ⟨rfl, trivial⟩)

theorem Likeness.equality_all_self (nodes : List Node) :
    Likeness.equality.AllAlike nodes nodes :=
  allAlike_self (fun _ _ => ⟨rfl, rfl⟩) nodes (fun _ _ => trivial) (fun _ _ => ⟨rfl, trivial⟩)

/-- A property of worlds that evaluations in certain scopes preserve. -/
structure Invariant where
  /-- The scopes that evaluations run in. -/
  scope : ScopeId → Prop
  /-- The property. -/
  holds : World → Prop
  noted {w : World} (line : String) : holds w → holds { w with log := w.log.push line }
  written {w : World} (text : String) (sink : Sink) : holds w →
    holds { w with output := w.output.push text, sink }
  defined {w : World} {s : ScopeId} (name : String) (value : Node) : holds w → scope s →
    holds { w with store := w.store.define s name value }
  assigned {w : World} {s home : ScopeId} {name : String} (value : Node) : holds w → scope s →
    w.store.resolve? name s = some home →
    holds { w with store := w.store.define home name value }
  enclosed {w : World} (parent : ScopeId) (bindings : List (String × Node)) : holds w →
    scope w.store.scopes.size ∧
      holds { w with store := (w.store.enclose (some parent) bindings).1 }
  numbered {w : World} : holds w → holds { w with closures := w.closures + 1 }

namespace Invariant

variable (invariant : Invariant)

/-- Two runs that are the same, in worlds that have the property, unless the first quits. -/
def coupling (quits : Stop → Prop) : Coupling where
  toLikeness := .equality
  scope s s' := s = s' ∧ invariant.scope s
  world w w' := w = w' ∧ invariant.holds w
  leftQuits := quits
  rightQuits _ := False

theorem rel_self (found : Option Node) : Option.Rel Likeness.equality.Alike found found := by
  cases found with
  | none => exact .none
  | some value => exact .some (Likeness.equality_self value)

def simulation (quits : Stop → Prop)
    (hlocate : ∀ {stop} (token : Option Token), quits stop → quits (stop.locate token)) :
    Simulation where
  toCoupling := invariant.coupling quits
  home_of_scope hscope := ⟨hscope.1, trivial⟩
  leftQuits_locate := hlocate
  rightQuits_locate _ := id
  compute operation {_ _ _ _} ha hb := by
    cases ha
    cases hb
    exact .inr (agrees_self (fun _ => rfl) (fun _ => rfl) _)
  noted line hworld := by
    obtain ⟨rfl, hholds⟩ := hworld
    exact ⟨rfl, invariant.noted line hholds⟩
  sink_eq hworld := by rw [hworld.1]
  written text sink hworld := by
    obtain ⟨rfl, hholds⟩ := hworld
    exact ⟨rfl, invariant.written text sink hholds⟩
  found hworld hscope _ := by
    obtain ⟨rfl, -⟩ := hworld
    obtain ⟨rfl, -⟩ := hscope
    exact rel_self _
  defined hworld hscope _ hvalue := by
    obtain ⟨rfl, hholds⟩ := hworld
    obtain ⟨rfl, hscope⟩ := hscope
    cases hvalue.eq Likeness.exact_isExact
    exact ⟨rfl, invariant.defined _ _ hholds hscope⟩
  assigned {w w' s s' name value value'} hworld hscope _ hvalue := by
    obtain ⟨rfl, hholds⟩ := hworld
    obtain ⟨rfl, hscope⟩ := hscope
    cases hvalue.eq Likeness.exact_isExact
    cases hfound : w.store.resolve? name s with
    | none => exact .none
    | some home => exact .some ⟨rfl, invariant.assigned value hholds hscope hfound⟩
  enclosed hworld hparent hbindings := by
    obtain ⟨rfl, hholds⟩ := hworld
    obtain ⟨rfl, -⟩ := hparent
    cases hbindings.eq Likeness.exact_isExact
    obtain ⟨hscope, hafter⟩ := invariant.enclosed _ _ hholds
    exact ⟨⟨rfl, hscope⟩, rfl, hafter⟩
  numbered hworld := by
    obtain ⟨rfl, hholds⟩ := hworld
    exact ⟨rfl, rfl, invariant.numbered hholds⟩
  listed hworld hscope _ := by
    obtain ⟨rfl, -⟩ := hworld
    obtain ⟨rfl, -⟩ := hscope
    exact ⟨rfl, fun _ _ => trivial⟩

/-- A run beside itself. -/
def alone : Simulation := invariant.simulation (fun _ => False) (fun _ hquits => hquits)

theorem perform_carries (depth : Nat) :
    invariant.alone.Carries (perform depth) (perform depth) :=
  Simulation.perform_carries (fun hlt => absurd hlt (Nat.lt_irrefl depth))
    (fun hlt => absurd hlt (Nat.lt_irrefl depth))

/-- An effect that is related to itself preserves the property. -/
theorem holds_of_related {effect : Effect Node} {world : World}
    (hrelated : invariant.alone.Related invariant.alone.Alike effect effect)
    (hholds : invariant.holds world) : invariant.holds (effect.runIn world).2 := by
  obtain (⟨_, _, hquits⟩ | ⟨_, _, hquits⟩) | ⟨-, -, hafter⟩ := hrelated ⟨rfl, hholds⟩
  · exact hquits.elim
  · exact hquits.elim
  · exact hafter

theorem evaluate_holds (depth : Nat) (expr : Node) {s : ScopeId} {world : World}
    (hscope : invariant.scope s) (hholds : invariant.holds world) :
    invariant.holds ((evaluate depth expr s).runIn world).2 := by
  refine invariant.holds_of_related ?_ hholds
  exact invariant.perform_carries depth (.evaluate (Likeness.equality_self expr)) ⟨rfl, hscope⟩

/-- A call preserves the property from whatever scope it is made, since it runs in a
scope of its own. -/
theorem apply_closure_holds (depth : Nat) (token : Option Token) (identity : Nat)
    (params : List String) (body : List Node) (home : ScopeId) (args : List Node) (s : ScopeId)
    {world : World} (hholds : invariant.holds world) :
    invariant.holds
      ((apply depth (.closure token identity params body home) args s).runIn world).2 := by
  cases depth with
  | zero => exact hholds
  | succ depth =>
      -- the scope of the caller plays no part in the call
      have hcall : invariant.alone.Related invariant.alone.Alike
          (call (perform depth) params body home args)
          (call (perform depth) params body home args) :=
        Simulation.related_call (invariant.perform_carries depth) (fun _ _ => trivial)
          (Likeness.equality_all_self body) ⟨rfl, trivial⟩ (Likeness.equality_all_self args)
      exact invariant.holds_of_related hcall hholds

/-! ## Depth -/

/-- What holds of every world. -/
def always : Invariant where
  scope _ := True
  holds _ := True
  noted _ _ := trivial
  written _ _ _ := trivial
  defined _ _ _ _ := trivial
  assigned _ _ _ _ := trivial
  enclosed _ _ _ := ⟨trivial, trivial⟩
  numbered _ := trivial

end Invariant

theorem isExhausted_locate {stop : Stop} (token : Option Token) (hstop : stop = .exhausted) :
    stop.locate token = .exhausted := by
  rw [hstop]
  rfl

/-- Runs at two depths do the same unless the first is exhausted. -/
theorem carries_of_le {depth depth' : Nat} (hle : depth ≤ depth') :
    (Invariant.always.simulation (· = .exhausted) isExhausted_locate).Carries (perform depth)
      (perform depth') :=
  Simulation.perform_carries (fun _ => rfl) (fun hlt => absurd hle (Nat.not_le.mpr hlt))

/-- Allowing a task to nest more deeply changes nothing if it was not exhausted. -/
theorem perform_of_le {depth depth' : Nat} (hle : depth ≤ depth') (task : Task) (s : ScopeId)
    (world : World) (hdone : ((perform depth task s).runIn world).1 ≠ .error .exhausted) :
    (perform depth' task s).runIn world = (perform depth task s).runIn world := by
  have htask : (Invariant.always.simulation (· = .exhausted) isExhausted_locate).TaskAlike
      task task := by
    cases task with
    | evaluate expr => exact .evaluate (Likeness.equality_self expr)
    | apply function args =>
        exact .apply (Likeness.equality_self function) (Likeness.equality_all_self args)
  obtain (⟨stop, hstop, rfl⟩ | ⟨_, _, hquits⟩) | ⟨hagrees, hworld, -⟩ :=
    carries_of_le hle htask ⟨rfl, trivial⟩ (⟨rfl, trivial⟩ : world = world ∧ True)
  · exact absurd hstop hdone
  · exact hquits.elim
  · exact Prod.ext (hagrees.eq Likeness.exact_isExact).symm hworld.symm

end Lisplet
