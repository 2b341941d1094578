import Lisplet.Evaluation.Builtin

/-!
# How arithmetic fails

Sums and differences always exist. A product can need an exponent out of bounds, and
nothing is ever divided by zero: the divisor is looked at first.
-/

namespace Lisplet

namespace Arithmetic

/-- Ways for an operation to have no result for two numbers: the product needs an exponent
out of bounds, or the divisor is zero. -/
inductive Fails : Arithmetic → Decimal → Decimal → Stop → Prop
  | overflow {a b : Decimal} {exponent : Int} (hmul : a.mul b = .error exponent) :
      Fails .multiply a b (.fault (.exponentOverflow exponent))
  | zeroDivisor {operation : Arithmetic} {a b : Decimal}
      (hoperation : operation = .divide ∨ operation = .remainder) (hzero : b.isZero = true) :
      Fails operation a b (.problem (.error { cause := .dividedByZero operation.name }))

theorem Fails.of_compute {operation : Arithmetic} {a b : Decimal} {stop : Stop}
    (hcompute : operation.compute a b = .error stop) : operation.Fails a b stop := by
  cases operation with
  | add => cases hcompute
  | subtract => cases hcompute
  | multiply =>
      rw [compute] at hcompute
      cases hmul : a.mul b with
      | ok c =>
          rw [hmul] at hcompute
          cases hcompute
      | error exponent =>
          rw [hmul] at hcompute
          cases hcompute
          exact .overflow hmul
  | divide =>
      rw [compute] at hcompute
      split at hcompute
      next hzero =>
        cases hcompute
        exact .zeroDivisor (.inl rfl) hzero
      next => cases hcompute
  | remainder =>
      rw [compute] at hcompute
      split at hcompute
      next hzero =>
        cases hcompute
        exact .zeroDivisor (.inr rfl) hzero
      next => cases hcompute

/-- A fold fails at one of its steps. -/
theorem Fails.of_fold {operation : Arithmetic} {first : Decimal} {rest : List Decimal}
    {stop : Stop} (hfold : operation.fold first rest = .error stop) :
    ∃ a, ∃ b ∈ rest, operation.Fails a b stop := by
  induction rest generalizing first with
  | nil => cases hfold
  | cons b rest ih =>
      rw [fold, List.foldlM_cons] at hfold
      cases hcompute : operation.compute first b with
      | error met =>
          rw [hcompute] at hfold
          cases hfold
          exact ⟨first, b, List.mem_cons_self, .of_compute hcompute⟩
      | ok c =>
          rw [hcompute] at hfold
          obtain ⟨a, other, hother, hfails⟩ := ih hfold
          exact ⟨a, other, List.mem_cons_of_mem _ hother, hfails⟩

theorem Fails.ne_exhausted {operation : Arithmetic} {a b : Decimal} {stop : Stop}
    (hfails : operation.Fails a b stop) : stop ≠ .exhausted := by
  cases hfails with
  | overflow => exact Stop.noConfusion
  | zeroDivisor => exact Stop.noConfusion

/-- A result of dividing by some numbers, provided that none of them is zero. -/
def unlessZero (operation : Arithmetic) (divisors : List Decimal) (result : Decimal) :
    Except Stop Decimal :=
  if divisors.any Decimal.isZero
  then .error (.problem (.error { cause := .dividedByZero operation.name }))
  else .ok result

/-- An operation that fails at zeros, and otherwise has the given result, computes with other
numbers only. -/
theorem fold_of_guarded {operation : Arithmetic} {result : Decimal → Decimal → Decimal}
    (hcompute : ∀ a b, operation.compute a b = operation.unlessZero [b] (result a b))
    (first : Decimal) (rest : List Decimal) :
    operation.fold first rest = operation.unlessZero rest (rest.foldl result first) := by
  induction rest generalizing first with
  | nil => rfl
  | cons b rest ih =>
      rw [fold, List.foldlM_cons, hcompute, unlessZero, unlessZero, List.any_cons, List.any_cons,
        List.any_nil, List.foldl_cons]
      cases hzero : b.isZero with
      | true => rfl
      | false => exact ih (result first b)

/-- Quotients only depend on what division gives for divisors that are not zero. -/
theorem fold_divide {quotient : Decimal → Decimal → Decimal}
    (hquotient : ∀ a b, b.isZero = false → quotient a b = a.div b) (first : Decimal)
    (rest : List Decimal) :
    divide.fold first rest = divide.unlessZero rest (rest.foldl quotient first) := by
  refine fold_of_guarded (fun a b => ?_) first rest
  cases hzero : b.isZero with
  | true => simp [compute, compute.zeroDivisor, unlessZero, hzero]
  | false => simp [compute, unlessZero, hzero, hquotient a b hzero]

/-- Remainders only depend on what division gives for divisors that are not zero. -/
theorem fold_remainder {modulus : Decimal → Decimal → Decimal}
    (hmodulus : ∀ a b, b.isZero = false → modulus a b = a.mod b) (first : Decimal)
    (rest : List Decimal) :
    remainder.fold first rest = remainder.unlessZero rest (rest.foldl modulus first) := by
  refine fold_of_guarded (fun a b => ?_) first rest
  cases hzero : b.isZero with
  | true => simp [compute, compute.zeroDivisor, unlessZero, hzero]
  | false => simp [compute, unlessZero, hzero, hmodulus a b hzero]

end Arithmetic

end Lisplet
