import Lisplet.Proofs.Arithmetic
import Lisplet.Proofs.Equality
import Mathlib.Algebra.BigOperators.Group.List.Basic

/-!
# Arithmetic on many arguments

An operation first looks whether all of its arguments are numbers and then computes with them
from left to right. So an argument that is no number is complained of before any division by
zero. Sums, differences and products are those of the rational numbers that the arguments
stand for, as long as no product on the way needs an exponent out of bounds. The arguments of
a sum or a product can come in any order, and first arguments can be replaced by what the
operation gives for them alone.
-/

namespace Lisplet

namespace Builtin

/-- The function stops in the given way, wherever it is called and with no effect. -/
def Stops (function : Builtin) (args : List Node) (stop : Stop) : Prop :=
  ∀ (evaluator : Evaluator) (scope : ScopeId), function.run evaluator scope args = throw stop

/-- The function stops with an error of the program. -/
def Raises (function : Builtin) (args : List Node) (cause : RuntimeCause) : Prop :=
  function.Stops args (.problem (.error { cause }))

end Builtin

/-! ## Arguments -/

/-- The arguments are these numbers. -/
def AreNumbers (args : List Node) (xs : List Decimal) : Prop :=
  args.map Node.number? = xs.map some

/-- The first argument that is not a number. -/
def firstOther? (args : List Node) : Option Node := args.find? (·.number?.isNone)

section

variable {args others : List Node} {xs ys : List Decimal} {node : Node}

theorem areNumbers_cons {value : Decimal} :
    AreNumbers (node :: args) (value :: xs) ↔ node.number? = some value ∧ AreNumbers args xs := by
  simp [AreNumbers]

theorem AreNumbers.append (hargs : AreNumbers args xs) (hothers : AreNumbers others ys) :
    AreNumbers (args ++ others) (xs ++ ys) := by
  rw [AreNumbers, List.map_append, List.map_append, hargs, hothers]

theorem AreNumbers.eq_filterMap (hargs : AreNumbers args xs) :
    xs = args.filterMap Node.number? := by
  have hsome := congrArg (List.filterMap id) hargs
  simpa [List.filterMap_map] using hsome.symm

theorem AreNumbers.exists_cons (hargs : AreNumbers args xs) (hne : args ≠ []) :
    ∃ first rest, xs = first :: rest := by
  cases xs with
  | nil => exact absurd (List.map_eq_nil_iff.mp hargs) hne
  | cons first rest => exact ⟨first, rest, rfl⟩

theorem numbers_eq_ok_iff : numbers args = .ok xs ↔ AreNumbers args xs := by
  induction args generalizing xs with
  | nil => cases xs <;> simp [numbers, AreNumbers]
  | cons node rest ih =>
      rw [numbers]
      cases hnode : node.number? with
      | none =>
          cases xs with
          | nil => simp [AreNumbers]
          | cons first xs => simp [areNumbers_cons, hnode]
      | some value =>
          cases xs with
          | nil =>
              simp only [AreNumbers, List.map_cons, List.map_nil, reduceCtorEq, iff_false]
              cases numbers rest <;> simp [Except.map]
          | cons first xs =>
              rw [areNumbers_cons, hnode, ← ih]
              cases numbers rest <;> simp [Except.map]

theorem numbers_eq_error_iff : numbers args = .error node ↔ firstOther? args = some node := by
  induction args with
  | nil => simp [numbers, firstOther?]
  | cons other rest ih =>
      rw [numbers, firstOther?, List.find?_cons]
      cases hother : other.number? with
      | none => simp
      | some value =>
          rw [firstOther?] at ih
          simp only [Option.isNone_some, ← ih]
          cases numbers rest <;> simp [Except.map]

theorem AreNumbers.firstOther?_eq_none (hargs : AreNumbers args xs) : firstOther? args = none := by
  cases hother : firstOther? args with
  | none => rfl
  | some node =>
      rw [← numbers_eq_error_iff, numbers_eq_ok_iff.mpr hargs] at hother
      cases hother

end

/-! ## Outcomes -/

namespace Arithmetic

/-- How an operation stops at an argument that is not a number. -/
def refusal (operation : Arithmetic) (node : Node) : Stop :=
  if node.hasText then .problem (.error { cause := .notNumber operation.name node.text })
  else .fault .unknownNode

/-- What an operation comes to. -/
def outcome (operation : Arithmetic) (args : List Node) : Except Stop Node :=
  match numbers args with
  | .error node => .error (operation.refusal node)
  | .ok [] => .error (.problem (.error { cause := .tooFew operation.name 1 0 }))
  | .ok [_] => .ok (args.headD .nil)
  | .ok (first :: rest) => (operation.fold first rest).map .number

variable {operation : Arithmetic} {args : List Node}

theorem run_eq_outcome (operation : Arithmetic) (args : List Node) :
    operation.run args = ExceptT.mk (pure (operation.outcome args)) := by
  unfold run outcome
  cases numbers args with
  | error node =>
      simp only [refusal, Effect.textOf]
      split <;> rfl
  | ok xs =>
      match xs with
      | [] => rfl
      | [_] => rfl
      | first :: second :: rest =>
          simp only
          cases operation.fold first (second :: rest) with
          | error stop => rfl
          | ok z => rfl

/-- Results are seen from a world. -/
theorem lift_inj {α : Type} {result result' : Except Stop α} :
    (ExceptT.mk (pure result) : Effect α) = ExceptT.mk (pure result') ↔ result = result' := by
  constructor
  · exact congrArg fun effect : Effect α => (effect.runIn {}).1
  · rintro rfl
    rfl

theorem gives_iff {value : Node} :
    (Builtin.arithmetic operation).Gives args value ↔ operation.outcome args = .ok value := by
  rw [← lift_inj, ← run_eq_outcome]
  constructor
  · intro hgives
    exact hgives (fun _ _ => pure .nil) 0
  · intro hrun evaluator scope
    exact hrun

theorem stops_iff {stop : Stop} :
    (Builtin.arithmetic operation).Stops args stop ↔ operation.outcome args = .error stop := by
  rw [← lift_inj, ← run_eq_outcome]
  constructor
  · intro hstops
    exact hstops (fun _ _ => pure .nil) 0
  · intro hrun evaluator scope
    exact hrun

theorem outcome_of_two {first second : Decimal} {rest : List Decimal}
    (hargs : AreNumbers args (first :: second :: rest)) :
    operation.outcome args = (operation.fold first (second :: rest)).map .number := by
  rw [outcome, numbers_eq_ok_iff.mpr hargs]

/-- All numbers are folded; a single one is the result of folding no others into it. -/
theorem outcome_of_numbers (operation : Arithmetic) {first : Decimal} {rest : List Decimal}
    (hargs : AreNumbers args (first :: rest)) :
    match operation.fold first rest with
    | .ok z => ∃ result, operation.outcome args = .ok result ∧ result.number? = some z
    | .error stop => operation.outcome args = .error stop := by
  cases rest with
  | nil =>
      obtain ⟨node, rfl⟩ : ∃ node, args = [node] := by
        rw [← List.length_eq_one_iff]
        simpa [AreNumbers] using congrArg List.length hargs
      refine ⟨node, ?_, (areNumbers_cons.mp hargs).1⟩
      rw [outcome, numbers_eq_ok_iff.mpr hargs]
      rfl
  | cons second rest =>
      rw [outcome_of_two hargs]
      cases operation.fold first (second :: rest) with
      | error stop => rfl
      | ok z => exact ⟨.number z, rfl, rfl⟩

theorem outcome_of_other {node : Node} (hnode : firstOther? args = some node) :
    operation.outcome args = .error (operation.refusal node) := by
  rw [outcome, numbers_eq_error_iff.mpr hnode]

/-- Folding numbers gives a value that holds what it comes to. -/
theorem exists_outcome_of_fold {first z : Decimal} {rest : List Decimal}
    (hargs : AreNumbers args (first :: rest)) (hfold : operation.fold first rest = .ok z) :
    ∃ result, operation.outcome args = .ok result ∧ result.number? = some z := by
  have hfolded := outcome_of_numbers operation hargs
  rwa [hfold] at hfolded

theorem outcome_of_fold_error {first : Decimal} {rest : List Decimal} {stop : Stop}
    (hargs : AreNumbers args (first :: rest)) (hfold : operation.fold first rest = .error stop) :
    operation.outcome args = .error stop := by
  have hfolded := outcome_of_numbers operation hargs
  rwa [hfold] at hfolded

/-- A value comes from folding numbers, and is the number that this comes to. -/
theorem exists_fold_of_outcome {result : Node} (hresult : operation.outcome args = .ok result) :
    ∃ first rest z, AreNumbers args (first :: rest) ∧ operation.fold first rest = .ok z ∧
      result.number? = some z := by
  cases hnumbers : numbers args with
  | error node =>
      rw [outcome, hnumbers] at hresult
      cases hresult
  | ok xs =>
      cases xs with
      | nil =>
          rw [outcome, hnumbers] at hresult
          cases hresult
      | cons first rest =>
          have hargs := numbers_eq_ok_iff.mp hnumbers
          have hfolded := outcome_of_numbers operation hargs
          rw [hresult] at hfolded
          cases hfold : operation.fold first rest with
          | error stop => simp [hfold] at hfolded
          | ok z =>
              obtain ⟨other, hother, hz⟩ := by simpa only [hfold] using hfolded
              cases hother
              exact ⟨first, rest, z, hargs, hfold, hz⟩

/-- A stop is the refusal of the first argument that is not a number, or comes from folding. -/
theorem outcome_error_cases (hne : args ≠ []) {stop : Stop}
    (hstop : operation.outcome args = .error stop) :
    (∃ node, firstOther? args = some node ∧ stop = operation.refusal node) ∨
      ∃ first rest, AreNumbers args (first :: rest) ∧ operation.fold first rest = .error stop := by
  cases hnumbers : numbers args with
  | error node =>
      left
      rw [outcome, hnumbers] at hstop
      exact ⟨node, numbers_eq_error_iff.mp hnumbers, (Except.error.inj hstop).symm⟩
  | ok xs =>
      right
      have hargs := numbers_eq_ok_iff.mp hnumbers
      obtain ⟨first, rest, rfl⟩ := hargs.exists_cons hne
      refine ⟨first, rest, hargs, ?_⟩
      cases hfold : operation.fold first rest with
      | error met =>
          rw [outcome_of_fold_error hargs hfold] at hstop
          exact congrArg Except.error (Except.error.inj hstop)
      | ok z =>
          obtain ⟨result, hresult, -⟩ := exists_outcome_of_fold hargs hfold
          rw [hresult] at hstop
          cases hstop

end Arithmetic

/-! ## Errors -/

namespace Arithmetic

variable {operation : Arithmetic} {args : List Node} {cause : RuntimeCause}

/-- What an operation can complain of: the first argument that is not a number, or a divisor
that is zero among numbers. -/
theorem raises_cases (hne : args ≠ [])
    (hraises : (Builtin.arithmetic operation).Raises args cause) :
    (∃ node, firstOther? args = some node ∧ node.hasText = true ∧
      cause = .notNumber operation.name node.text) ∨
    (operation ∈ [divide, remainder] ∧ cause = .dividedByZero operation.name ∧
      ∃ first rest, AreNumbers args (first :: rest) ∧ ∃ b ∈ rest, b.value = 0) := by
  rw [Builtin.Raises, stops_iff] at hraises
  rcases outcome_error_cases hne hraises with ⟨node, hnode, hrefusal⟩ | ⟨first, rest, hargs, hfold⟩
  · left
    unfold refusal at hrefusal
    split at hrefusal
    next htext =>
      cases hrefusal
      exact ⟨node, hnode, htext, rfl⟩
    next => cases hrefusal
  · right
    obtain ⟨a, b, hb, hfails⟩ := Fails.of_fold hfold
    cases hfails with
    | zeroDivisor hoperation hzero =>
        refine ⟨by simpa using hoperation, rfl, first, rest, hargs, b, hb, ?_⟩
        exact (Decimal.isZero_iff b).mp hzero

/-- An argument that is not a number is complained of, the first one if there are several. -/
theorem raises_notNumber_iff (hne : args ≠ []) (hkind : cause.kind = .notNumber) :
    (Builtin.arithmetic operation).Raises args cause ↔
      ∃ node, firstOther? args = some node ∧ node.hasText = true ∧
        cause = .notNumber operation.name node.text := by
  constructor
  · intro hraises
    rcases raises_cases hne hraises with hother | ⟨-, rfl, -⟩
    · exact hother
    · cases hkind
  · rintro ⟨node, hnode, htext, rfl⟩
    rw [Builtin.Raises, stops_iff, outcome_of_other hnode, refusal, if_pos htext]

/-- Division by zero is complained of if all arguments are numbers. -/
theorem raises_dividedByZero_iff (hne : args ≠ []) (hkind : cause.kind = .dividedByZero) :
    (Builtin.arithmetic operation).Raises args cause ↔
      operation ∈ [divide, remainder] ∧ cause = .dividedByZero operation.name ∧
        ∃ first rest, AreNumbers args (first :: rest) ∧ ∃ b ∈ rest, b.value = 0 := by
  constructor
  · intro hraises
    rcases raises_cases hne hraises with ⟨node, -, -, rfl⟩ | hzero
    · cases hkind
    · exact hzero
  · rintro ⟨hoperation, rfl, first, rest, hargs, b, hb, hzero⟩
    have hany : rest.any Decimal.isZero = true :=
      List.any_eq_true.mpr ⟨b, hb, (Decimal.isZero_iff b).mpr hzero⟩
    rw [Builtin.Raises, stops_iff]
    apply outcome_of_fold_error hargs
    simp only [List.mem_cons, List.not_mem_nil, or_false] at hoperation
    obtain rfl | rfl := hoperation
    · rw [fold_divide fun _ _ _ => rfl, unlessZero, if_pos hany]
    · rw [fold_remainder fun _ _ _ => rfl, unlessZero, if_pos hany]

/-- Any error tells which argument is not a number, or else that a divisor is zero. -/
theorem tells_of_raises (hne : args ≠ [])
    (hraises : (Builtin.arithmetic operation).Raises args cause) (token : Option Token) :
    let error := RuntimeError.diagnostic { cause, token }
    (∀ node, firstOther? args = some node →
      error.Tells (operation.name ++ ": cannot calculate with " ++ node.text)) ∧
    (firstOther? args = none → error.Tells (operation.name ++ ": divided by zero")) := by
  intro error
  rcases raises_cases hne hraises with ⟨node, hnode, -, rfl⟩ | ⟨-, rfl, first, rest, hargs, -⟩
  · rw [hnode]
    refine ⟨?_, nofun⟩
    rintro other ⟨⟩
    exact Diagnostic.tells_of_message rfl (by simp)
  · rw [hargs.firstOther?_eq_none]
    refine ⟨nofun, fun _ => ?_⟩
    exact Diagnostic.tells_of_message rfl (by simp)

end Arithmetic

/-! ## Exact results -/

namespace Decimal

/-- The exponents of factors add up to exponents in bounds, from the first factor on. -/
def Multipliable (xs : List Decimal) : Prop :=
  ∀ k, -2147483648 ≤ ((xs.take k).map exponent).sum ∧
    ((xs.take k).map exponent).sum ≤ 2147483647

theorem multipliable_singleton (a : Decimal) : Multipliable [a] := by
  intro k
  cases k with
  | zero => simp
  | succ k => simpa using a.bounded

theorem multipliable_cons_cons {a b : Decimal} {rest : List Decimal} :
    Multipliable (a :: b :: rest) ↔ ∃ c, a.mul b = .ok c ∧ Multipliable (c :: rest) := by
  constructor
  · intro hfactors
    have hbounded : -2147483648 ≤ a.exponent + b.exponent ∧
        a.exponent + b.exponent ≤ 2147483647 := by simpa using hfactors 2
    refine ⟨_, dif_pos hbounded, ?_⟩
    intro k
    cases k with
    | zero => simp
    | succ k => simpa [add_assoc] using hfactors (k + 2)
  · rintro ⟨c, hmul, hfactors⟩ k
    simp only [mul] at hmul
    split at hmul
    next hbounded =>
      cases hmul
      rcases k with _ | _ | k
      · simp
      · simpa using a.bounded
      · simpa [add_assoc] using hfactors (k + 1)
    next => cases hmul

end Decimal

namespace Arithmetic

variable {operation : Arithmetic} {first z : Decimal} {rest : List Decimal}

/-- A product exists if no exponent on the way leaves the bounds, and otherwise overflows. -/
theorem fold_multiply_cases (first : Decimal) (rest : List Decimal) :
    (Decimal.Multipliable (first :: rest) ∧ ∃ z, multiply.fold first rest = .ok z) ∨
      (¬ Decimal.Multipliable (first :: rest) ∧
        ∃ exponent, multiply.fold first rest = .error (.fault (.exponentOverflow exponent))) := by
  induction rest generalizing first with
  | nil => exact .inl ⟨first.multipliable_singleton, first, rfl⟩
  | cons b rest ih =>
      rw [Decimal.multipliable_cons_cons, fold, List.foldlM_cons, compute]
      cases hmul : first.mul b with
      | error exponent => exact .inr ⟨by simp, exponent, rfl⟩
      | ok c =>
          simp only [Except.ok.injEq, exists_eq_left']
          exact ih c

/-- Folding numbers computes with their values, if one step does. -/
theorem value_of_fold (combine : ℚ → ℚ → ℚ)
    (hstep : ∀ a b c, operation.compute a b = .ok c → c.value = combine a.value b.value)
    (hfold : operation.fold first rest = .ok z) :
    z.value = (rest.map Decimal.value).foldl combine first.value := by
  induction rest generalizing first with
  | nil =>
      cases hfold
      rfl
  | cons b rest ih =>
      rw [fold, List.foldlM_cons] at hfold
      cases hcompute : operation.compute first b with
      | error stop =>
          rw [hcompute] at hfold
          cases hfold
      | ok c =>
          rw [hcompute] at hfold
          rw [List.map_cons, List.foldl_cons, ← hstep first b c hcompute]
          exact ih hfold

/-- The exact result of an operation that does not round. -/
def unrounded? : Arithmetic → List ℚ → Option ℚ
  | add, xs => some xs.sum
  | subtract, x :: xs => some (x - xs.sum)
  | multiply, xs => some xs.prod
  | _, _ => none

theorem foldl_sub (x : ℚ) (xs : List ℚ) : xs.foldl (· - ·) x = x - xs.sum := by
  induction xs generalizing x with
  | nil => simp
  | cons y ys ih => rw [List.foldl_cons, ih, List.sum_cons, sub_sub]

/-- Operations that do not round are exact. -/
theorem value_eq_unrounded (hfold : operation.fold first rest = .ok z) {q : ℚ}
    (hexact : operation.unrounded? ((first :: rest).map Decimal.value) = some q) :
    z.value = q := by
  cases operation with
  | add =>
      cases hexact
      rw [value_of_fold (· + ·) ?_ hfold]
      · rw [List.map_cons, List.sum_eq_foldl, List.foldl_cons, zero_add]
      · rintro a b c ⟨⟩
        exact Decimal.value_add a b
  | subtract =>
      cases hexact
      rw [value_of_fold (· - ·) ?_ hfold, foldl_sub]
      rintro a b c ⟨⟩
      exact Decimal.value_sub a b
  | multiply =>
      cases hexact
      rw [value_of_fold (· * ·) ?_ hfold]
      · rw [List.map_cons, List.prod_eq_foldl, List.foldl_cons, one_mul]
      · intro a b c hcompute
        rw [compute] at hcompute
        cases hmul : a.mul b with
        | error exponent =>
            rw [hmul] at hcompute
            cases hcompute
        | ok d =>
            rw [hmul] at hcompute
            cases hcompute
            exact Decimal.value_of_mul_eq_ok hmul
  | divide => cases hexact
  | remainder => cases hexact

/-- An operation has a result if no divisor is zero and no exponent leaves the bounds. -/
theorem exists_fold (hzero : operation ∈ [divide, remainder] → ∀ b ∈ rest, b.value ≠ 0)
    (hbounded : operation = multiply → Decimal.Multipliable (first :: rest)) :
    ∃ z, operation.fold first rest = .ok z := by
  cases hfold : operation.fold first rest with
  | ok z => exact ⟨z, rfl⟩
  | error stop =>
      obtain ⟨a, b, hb, hfails⟩ := Fails.of_fold hfold
      cases hfails with
      | overflow hmul =>
          rcases fold_multiply_cases first rest with ⟨-, z, hz⟩ | ⟨hnot, -⟩
          · rw [hz] at hfold
            cases hfold
          · exact absurd (hbounded rfl) hnot
      | zeroDivisor hoperation hisZero =>
          exact absurd ((Decimal.isZero_iff b).mp hisZero) (hzero (by simpa using hoperation) b hb)

end Arithmetic

/-! ## The order of the arguments -/

theorem Node.same_of_number? {node other : Node} {x y : Decimal} (hnode : node.number? = some x)
    (hother : other.number? = some y) (hvalue : x.value = y.value) : node.same other = true := by
  obtain ⟨s, rfl⟩ : ∃ s, node = .atom s (.number x) := by
    unfold number? at hnode
    split at hnode
    next s value =>
      cases hnode
      exact ⟨s, rfl⟩
    next => cases hnode
  obtain ⟨t, rfl⟩ : ∃ t, other = .atom t (.number y) := by
    unfold number? at hother
    split at hother
    next t value =>
      cases hother
      exact ⟨t, rfl⟩
    next => cases hother
  rw [same, Atom.same, Decimal.equal_iff]
  exact hvalue

namespace Arithmetic

variable {operation : Arithmetic} {args others front rest : List Node} {result result' value : Node}

theorem exists_unrounded?_of_perm (hoperation : operation ∈ [add, multiply]) {xs ys : List ℚ}
    (hperm : xs.Perm ys) :
    ∃ q, operation.unrounded? xs = some q ∧ operation.unrounded? ys = some q := by
  simp only [List.mem_cons, List.not_mem_nil, or_false] at hoperation
  obtain rfl | rfl := hoperation
  · exact ⟨xs.sum, rfl, congrArg some hperm.sum_eq.symm⟩
  · exact ⟨xs.prod, rfl, congrArg some hperm.prod_eq.symm⟩

/-- The order of the arguments of a sum or a product does not matter. -/
theorem same_of_perm (hoperation : operation ∈ [add, multiply]) (hperm : args.Perm others)
    (hresult : operation.outcome args = .ok result)
    (hresult' : operation.outcome others = .ok result') : result.same result' = true := by
  obtain ⟨x, xs, z, hargs, hfold, hz⟩ := exists_fold_of_outcome hresult
  obtain ⟨y, ys, z', hothers, hfold', hz'⟩ := exists_fold_of_outcome hresult'
  have hnumbers : (x :: xs).Perm (y :: ys) := by
    rw [hargs.eq_filterMap, hothers.eq_filterMap]
    exact hperm.filterMap _
  obtain ⟨q, hq, hq'⟩ := exists_unrounded?_of_perm hoperation (hnumbers.map Decimal.value)
  apply Node.same_of_number? hz hz'
  rw [value_eq_unrounded hfold hq, value_eq_unrounded hfold' hq']

/-! ## First arguments -/

theorem fold_append (operation : Arithmetic) (x : Decimal) (xs ys : List Decimal) :
    operation.fold x (xs ++ ys) = operation.fold x xs >>= fun z => operation.fold z ys := by
  rw [fold, List.foldlM_append]
  rfl

theorem firstOther?_append {xs : List Decimal} (hfront : AreNumbers front xs) :
    firstOther? (front ++ rest) = firstOther? rest := by
  rw [firstOther?, List.find?_append, ← firstOther?, ← firstOther?, hfront.firstOther?_eq_none,
    Option.none_or]

/-- First arguments can be replaced by their result. -/
theorem outcome_append (hfront : operation.outcome front = .ok value) (rest : List Node) :
    operation.outcome (front ++ rest) = operation.outcome (value :: rest) := by
  obtain ⟨x, xs, z, hnumbers, hfold, hz⟩ := exists_fold_of_outcome hfront
  have hvalue : AreNumbers [value] [z] := areNumbers_cons.mpr ⟨hz, rfl⟩
  cases hrest : numbers rest with
  | error node =>
      -- both lists have the same first argument that is not a number
      rw [numbers_eq_error_iff] at hrest
      have hothers : firstOther? (value :: rest) = some node := by
        rw [← List.singleton_append, firstOther?_append hvalue, hrest]
      rw [outcome_of_other hothers, outcome_of_other (by rw [firstOther?_append hnumbers, hrest])]
  | ok ys =>
      rw [numbers_eq_ok_iff] at hrest
      have hall : AreNumbers (front ++ rest) (x :: (xs ++ ys)) := hnumbers.append hrest
      have hothers : AreNumbers (value :: rest) (z :: ys) := areNumbers_cons.mpr ⟨hz, hrest⟩
      have hfolds : operation.fold x (xs ++ ys) = operation.fold z ys := by
        rw [fold_append, hfold]
        rfl
      cases ys with
      | nil =>
          obtain rfl : rest = [] := List.map_eq_nil_iff.mp hrest
          rw [List.append_nil, hfront, outcome, numbers_eq_ok_iff.mpr hvalue]
          rfl
      | cons y ys =>
          rw [outcome_of_two hothers, ← hfolds]
          cases xs with
          | nil => exact outcome_of_two hall
          | cons x' xs => exact outcome_of_two hall

/-- First arguments have a result if all of them do. -/
theorem exists_outcome_front (hne : front ≠ [])
    (hresult : operation.outcome (front ++ rest) = .ok result) :
    ∃ value, operation.outcome front = .ok value := by
  cases hfront : operation.outcome front with
  | ok value => exact ⟨value, rfl⟩
  | error stop =>
      exfalso
      obtain ⟨first, others, z, hall, hfold, -⟩ := exists_fold_of_outcome hresult
      rcases outcome_error_cases hne hfront with ⟨node, hnode, -⟩ | ⟨x, xs, hnumbers, herror⟩
      · have hother : firstOther? (front ++ rest) = some node := by
          rw [firstOther?, List.find?_append, ← firstOther?, hnode, Option.some_or]
        rw [hall.firstOther?_eq_none] at hother
        cases hother
      · have hsplit : first :: others = x :: (xs ++ rest.filterMap Node.number?) := by
          rw [hall.eq_filterMap, List.filterMap_append, ← hnumbers.eq_filterMap, List.cons_append]
        obtain ⟨rfl, rfl⟩ := List.cons.inj hsplit
        rw [fold_append, herror] at hfold
        cases hfold

end Arithmetic

/-- An operation on one argument or more. It complains of the first argument that is not a
number, whatever the others are, and otherwise of a divisor that is zero. The message names
the operation, and the argument that is not a number by its text. The operation has a value
unless a product on the way needs an exponent out of bounds, and the value of a sum, a
difference or a product is exact. The arguments of sums and products can come in any order,
and first arguments can be replaced by what the operation gives for them.

A node of a host may lack the text to complain with, and then the call breaks off. -/
theorem arithmetic_folds (operation : Arithmetic) {args : List Node} (hne : args ≠ []) :
    let call := Builtin.arithmetic operation
    (∀ cause : RuntimeCause, cause.kind = .notNumber →
      (call.Raises args cause ↔ ∃ node, firstOther? args = some node ∧ node.hasText = true ∧
        cause = .notNumber operation.name node.text)) ∧
    (∀ node, firstOther? args = some node → node.hasText = false →
      call.Stops args (.fault .unknownNode)) ∧
    (∀ cause : RuntimeCause, cause.kind = .dividedByZero →
      (call.Raises args cause ↔
        operation ∈ [.divide, .remainder] ∧ cause = .dividedByZero operation.name ∧
          ∃ first rest, AreNumbers args (first :: rest) ∧ ∃ b ∈ rest, b.value = 0)) ∧
    (∀ cause : RuntimeCause, call.Raises args cause → ∀ token,
      let error := RuntimeError.diagnostic { cause, token }
      (∀ node, firstOther? args = some node →
        error.Tells (operation.name ++ ": cannot calculate with " ++ node.text)) ∧
      (firstOther? args = none → error.Tells (operation.name ++ ": divided by zero"))) ∧
    (∀ first rest, AreNumbers args (first :: rest) →
      (operation ∈ [.divide, .remainder] → ∀ b ∈ rest, b.value ≠ 0) →
      (operation = .multiply → Decimal.Multipliable (first :: rest)) →
      ∃ result r, call.Gives args result ∧ result.number? = some r ∧
        ∀ q, operation.unrounded? ((first :: rest).map Decimal.value) = some q → r.value = q) ∧
    (∀ xs, AreNumbers args xs → operation = .multiply → ¬ Decimal.Multipliable xs →
      ∃ exponent, call.Stops args (.fault (.exponentOverflow exponent))) ∧
    (∀ others result result', operation ∈ [.add, .multiply] → args.Perm others →
      call.Gives args result → call.Gives others result' → result.same result' = true) ∧
    ∀ front rest, args = front ++ rest → front ≠ [] →
      (∀ value, call.Gives front value → ∀ evaluator scope,
        call.run evaluator scope args = call.run evaluator scope (value :: rest)) ∧
      ∀ result, call.Gives args result →
        ∃ value other, call.Gives front value ∧ call.Gives (value :: rest) other ∧
          result.same other = true := by
  intro call
  refine ⟨?_, ?_, ?_, ?_, ?_, ?_, ?_, ?_⟩
  · intro cause hkind
    exact Arithmetic.raises_notNumber_iff hne hkind
  · intro node hnode htext
    rw [Arithmetic.stops_iff, Arithmetic.outcome_of_other hnode, Arithmetic.refusal]
    simp [htext]
  · intro cause hkind
    exact Arithmetic.raises_dividedByZero_iff hne hkind
  · intro cause hraises token
    exact Arithmetic.tells_of_raises hne hraises token
  · intro first rest hargs hzero hbounded
    obtain ⟨z, hfold⟩ := Arithmetic.exists_fold hzero hbounded
    obtain ⟨result, hresult, hz⟩ := Arithmetic.exists_outcome_of_fold hargs hfold
    refine ⟨result, z, Arithmetic.gives_iff.mpr hresult, hz, ?_⟩
    intro q hexact
    exact Arithmetic.value_eq_unrounded hfold hexact
  · rintro xs hargs rfl hnot
    obtain ⟨first, rest, rfl⟩ := hargs.exists_cons hne
    rcases Arithmetic.fold_multiply_cases first rest with ⟨hfactors, -⟩ | ⟨-, exponent, hfold⟩
    · exact absurd hfactors hnot
    · exact ⟨exponent, Arithmetic.stops_iff.mpr (Arithmetic.outcome_of_fold_error hargs hfold)⟩
  · intro others result result' hoperation hperm hresult hresult'
    rw [Arithmetic.gives_iff] at hresult hresult'
    exact Arithmetic.same_of_perm hoperation hperm hresult hresult'
  · rintro front rest rfl hfront
    constructor
    · intro value hvalue evaluator scope
      rw [Arithmetic.gives_iff] at hvalue
      simp only [call, Builtin.run, Arithmetic.run_eq_outcome, Arithmetic.outcome_append hvalue]
    · intro result hresult
      rw [Arithmetic.gives_iff] at hresult
      obtain ⟨value, hvalue⟩ := Arithmetic.exists_outcome_front hfront hresult
      rw [Arithmetic.outcome_append hvalue] at hresult
      exact ⟨value, result, Arithmetic.gives_iff.mpr hvalue, Arithmetic.gives_iff.mpr hresult,
        Node.same_self result⟩

/-- The numbers 2.5000 and 1.250. -/
def takenSample : List Decimal := [⟨25000, -4, by decide⟩, ⟨1250, -3, by decide⟩]

/-- Dividing 1 by 0 and by a string is refused for the string, and by 0 alone for the 0.
Taking 2.5000 and 1.250 away from 10 leaves 6.25. -/
theorem mixedSample_folds :
    ((Builtin.arithmetic .divide).Raises
      [.number (.ofInt 1), .number (.ofInt 0), .atom none (.string "a")]
      (.notNumber "/" "\"a\"") ∧
      (RuntimeError.diagnostic { cause := .notNumber "/" "\"a\"" }).text =
        "/: cannot calculate with \"a\"") ∧
    (Builtin.arithmetic .divide).Raises [.number (.ofInt 1), .number (.ofInt 0)]
      (.dividedByZero "/") ∧
    ∃ result r, (Builtin.arithmetic .subtract).Gives
        (.number (.ofInt 10) :: takenSample.map .number) result ∧
      result.number? = some r ∧ r.value = 25 / 4 := by
  refine ⟨?_, ?_, ?_⟩
  · obtain ⟨hnotNumber, -, -, htold, -⟩ := arithmetic_folds .divide (List.cons_ne_nil
      (Node.number (.ofInt 1)) [.number (.ofInt 0), .atom none (.string "a")])
    have hraises := (hnotNumber (.notNumber "/" "\"a\"") rfl).mpr
      ⟨_, rfl, rfl, by decide +kernel⟩
    exact ⟨hraises, ((htold _ hraises none).1 _ rfl).trans (by decide +kernel)⟩
  · refine ((arithmetic_folds .divide (by simp)).2.2.1 _ rfl).mpr ⟨by decide, rfl, ?_⟩
    refine ⟨.ofInt 1, [.ofInt 0], rfl, .ofInt 0, by simp, ?_⟩
    simp [Decimal.value, Decimal.ofInt]
  · obtain ⟨-, -, -, -, hgives, -⟩ := arithmetic_folds .subtract
      (List.cons_ne_nil (Node.number (.ofInt 10)) (takenSample.map .number))
    obtain ⟨result, r, hresult, hr, hexact⟩ :=
      hgives (.ofInt 10) takenSample rfl (by simp) (by simp)
    refine ⟨result, r, hresult, hr, ?_⟩
    rw [hexact _ rfl]
    norm_num [Decimal.value, Decimal.ofInt, takenSample]

end Lisplet
