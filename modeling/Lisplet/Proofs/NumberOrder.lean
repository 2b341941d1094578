import Lisplet.Node.Text
import Lisplet.Proofs.Decimal.Text
import Lisplet.Proofs.PrimitiveResults

/-!
# The order of numbers

Numbers are compared in three ways: by the order of decimals, by equality of nodes and by
the texts they are shown with. All three see nothing of a decimal but the rational number it
stands for, so they agree with each other.
-/

namespace Lisplet

open Builtin

section

variable {s t : Option Token} {x y : Decimal}

theorem comparison_affirms_iff {order : Comparison} :
    (comparison order).Affirms [.atom s (.number x), .atom t (.number y)] ↔
      order.Relates x.value y.value := by
  rw [(comparison_gives_numbers s t x y order).affirms_iff, decide_eq_true_iff]

theorem equal_affirms_iff :
    equal.Affirms [.atom s (.number x), .atom t (.number y)] ↔ x.value = y.value := by
  rw [(equal_gives_numbers s t x y).affirms_iff, decide_eq_true_iff]

/-- Of two numbers, the first is less than the second, equal to it or greater. -/
theorem existsUnique_affirms :
    ∃! function, function ∈ [comparison .less, equal, comparison .greater] ∧
      function.Affirms [.atom s (.number x), .atom t (.number y)] := by
  rcases lt_trichotomy x.value y.value with hlt | heq | hgt
  · refine ⟨comparison .less, ⟨by simp, comparison_affirms_iff.2 hlt⟩, ?_⟩
    rintro function ⟨hfunction, haffirms⟩
    simp only [List.mem_cons, List.not_mem_nil, or_false] at hfunction
    obtain rfl | rfl | rfl := hfunction
    · rfl
    · exact absurd (equal_affirms_iff.1 haffirms) hlt.ne
    · exact absurd (comparison_affirms_iff.1 haffirms) hlt.not_gt
  · refine ⟨equal, ⟨by simp, equal_affirms_iff.2 heq⟩, ?_⟩
    rintro function ⟨hfunction, haffirms⟩
    simp only [List.mem_cons, List.not_mem_nil, or_false] at hfunction
    obtain rfl | rfl | rfl := hfunction
    · exact absurd (comparison_affirms_iff.1 haffirms) heq.not_lt
    · rfl
    · exact absurd (comparison_affirms_iff.1 haffirms) heq.not_gt
  · refine ⟨comparison .greater, ⟨by simp, comparison_affirms_iff.2 hgt⟩, ?_⟩
    rintro function ⟨hfunction, haffirms⟩
    simp only [List.mem_cons, List.not_mem_nil, or_false] at hfunction
    obtain rfl | rfl | rfl := hfunction
    · exact absurd (comparison_affirms_iff.1 haffirms) hgt.not_gt
    · exact absurd (equal_affirms_iff.1 haffirms) hgt.ne'
    · rfl

end

/-- Comparison, equality and text of numbers agree, and the rational numbers decide them:
exactly one of less, equal and greater is affirmed, the other orders are made of these, less
is transitive, and numbers are equal exactly when they have one text. -/
theorem number_order_agrees (s t u : Option Token) (x y z : Decimal) :
    let a : Node := .atom s (.number x)
    let b : Node := .atom t (.number y)
    let c : Node := .atom u (.number z)
    (∀ order, (comparison order).Gives [a, b] (.bool (decide (order.Relates x.value y.value)))) ∧
    equal.Gives [a, b] (.bool (decide (x.value = y.value))) ∧
    (∃! function, function ∈ [comparison .less, equal, comparison .greater] ∧
      function.Affirms [a, b]) ∧
    ((comparison .lessEqual).Affirms [a, b] ↔
      (comparison .less).Affirms [a, b] ∨ equal.Affirms [a, b]) ∧
    ((comparison .greaterEqual).Affirms [a, b] ↔ (comparison .lessEqual).Affirms [b, a]) ∧
    ((comparison .less).Affirms [a, b] → (comparison .less).Affirms [b, c] →
      (comparison .less).Affirms [a, c]) ∧
    (a.text = b.text ↔ equal.Affirms [a, b]) := by
  intro a b c
  refine ⟨comparison_gives_numbers s t x y, equal_gives_numbers s t x y, existsUnique_affirms,
    ?_, ?_, ?_, ?_⟩
  · rw [comparison_affirms_iff, comparison_affirms_iff, equal_affirms_iff]
    exact le_iff_lt_or_eq
  · rw [comparison_affirms_iff, comparison_affirms_iff]
    exact Iff.rfl
  · rw [comparison_affirms_iff, comparison_affirms_iff, comparison_affirms_iff]
    exact lt_trans
  · rw [equal_affirms_iff]
    exact Decimal.text_eq_iff x y

/-- Less is transitive on 1.0, 1.50 and 2. -/
theorem halvesSample_ordered :
    (comparison .less).Affirms [.number ⟨10, -1, by decide⟩, .number ⟨150, -2, by decide⟩] ∧
    (comparison .less).Affirms [.number ⟨150, -2, by decide⟩, .number (.ofInt 2)] ∧
    (comparison .less).Affirms [.number ⟨10, -1, by decide⟩, .number (.ofInt 2)] := by
  have hfirst : (comparison .less).Affirms
      [.number ⟨10, -1, by decide⟩, .number ⟨150, -2, by decide⟩] := fun _ _ => rfl
  have hsecond : (comparison .less).Affirms
      [.number ⟨150, -2, by decide⟩, .number (.ofInt 2)] := fun _ _ => rfl
  obtain ⟨-, -, -, -, -, htrans, -⟩ :=
    number_order_agrees none none none ⟨10, -1, by decide⟩ ⟨150, -2, by decide⟩ (.ofInt 2)
  exact ⟨hfirst, hsecond, htrans hfirst hsecond⟩

end Lisplet
