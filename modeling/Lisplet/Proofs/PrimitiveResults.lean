import Lisplet.Evaluation.Builtin
import Lisplet.Proofs.Decimal.Value

/-!
# What primitive functions give

Most primitive functions only look at their arguments: what they give depends neither on
the evaluator nor on the scope of the caller, and the world stays as it is. Applied to two
numbers, they compute with the rational numbers the decimals stand for.
-/

namespace Lisplet

namespace Builtin

/-- The function has the value for the arguments, wherever it is called and with no effect. -/
def Gives (function : Builtin) (args : List Node) (value : Node) : Prop :=
  ∀ (evaluator : Evaluator) (scope : ScopeId), function.run evaluator scope args = pure value

/-- The function says that it is so. -/
def Affirms (function : Builtin) (args : List Node) : Prop := function.Gives args (.bool true)

theorem Gives.unique {function : Builtin} {args : List Node} {value other : Node}
    (hvalue : function.Gives args value) (hother : function.Gives args other) : value = other := by
  have heffects : (pure value : Effect Node) = pure other :=
    (hvalue (fun _ _ => pure .nil) 0).symm.trans (hother _ 0)
  have hresults := congrArg (fun effect => (effect.runIn {}).1) heffects
  exact Except.ok.inj hresults

theorem Gives.affirms_iff {function : Builtin} {args : List Node} {answer : Bool}
    (hanswer : function.Gives args (.bool answer)) : function.Affirms args ↔ answer = true := by
  constructor
  · intro haffirms
    have hbool := hanswer.unique haffirms
    simpa [Node.bool] using hbool
  · rintro rfl
    exact hanswer

end Builtin

/-! ## Two numbers -/

/-- The relation of rational numbers that a comparison is about. -/
def Comparison.Relates : Comparison → ℚ → ℚ → Prop
  | greater, x, y => y < x
  | less, x, y => x < y
  | greaterEqual, x, y => y ≤ x
  | lessEqual, x, y => x ≤ y

instance (order : Comparison) (x y : ℚ) : Decidable (order.Relates x y) :=
  match order with
  | .greater => inferInstanceAs (Decidable (y < x))
  | .less => inferInstanceAs (Decidable (x < y))
  | .greaterEqual => inferInstanceAs (Decidable (y ≤ x))
  | .lessEqual => inferInstanceAs (Decidable (x ≤ y))

theorem Comparison.accepts_cmp (order : Comparison) (x y : ℚ) :
    order.accepts (cmp x y) = decide (order.Relates x y) := by
  rcases lt_trichotomy x y with hlt | rfl | hgt
  · rw [(cmp_eq_lt_iff x y).2 hlt]
    cases order <;> simp [accepts, Relates, hlt, hlt.le, hlt.not_gt, hlt.not_ge]
  · rw [cmp_self_eq_eq]
    cases order <;> simp [accepts, Relates]
  · rw [(cmp_eq_gt_iff x y).2 hgt]
    cases order <;> simp [accepts, Relates, hgt, hgt.le, hgt.not_gt, hgt.not_ge]

namespace Builtin

variable (s t : Option Token) (x y : Decimal)

/-- A comparison is the order of the values. -/
theorem comparison_gives_numbers (order : Comparison) :
    (comparison order).Gives [.atom s (.number x), .atom t (.number y)]
      (.bool (decide (order.Relates x.value y.value))) := by
  intro evaluator scope
  rw [← order.accepts_cmp, ← Decimal.compare_eq_cmp]
  rfl

theorem equal_gives_numbers :
    equal.Gives [.atom s (.number x), .atom t (.number y)]
      (.bool (decide (x.value = y.value))) := by
  intro evaluator scope
  have hequal : x.equal y = decide (x.value = y.value) := by
    rw [Bool.eq_iff_iff, decide_eq_true_iff, Decimal.equal_iff]
  simp only [run, List.all_cons, List.all_nil, Bool.and_true, Node.quickSame_eq_same, Node.same,
    Atom.same, hequal]

variable {x y} in
/-- An operation gives what it computes for two numbers. -/
theorem arithmetic_gives_numbers {operation : Arithmetic} {z : Decimal}
    (hcompute : operation.compute x y = .ok z) :
    (arithmetic operation).Gives [.atom s (.number x), .atom t (.number y)] (.number z) := by
  intro evaluator scope
  have hfold : operation.fold x [y] = .ok z := by
    rw [Arithmetic.fold, List.foldlM_cons, hcompute]
    rfl
  change (do
    let value ← Arithmetic.run.liftExcept (operation.fold x [y])
    pure (Node.number value) : Effect Node) = _
  rw [hfold]
  rfl

end Builtin

end Lisplet
