import Lisplet.Proofs.Equality

/-!
# Lists made by splicing

`cons` does not nest its arguments: the elements of a list take its place, and anything else
stands for itself. So `cons` is associative and the empty list is neutral for lists. Taking a
list apart into its first element and the others and putting them together again gives an
equal list if the first element is not a list. If it is one its elements take its place, and
no finite tree equals the list that holds it alone.
-/

namespace Lisplet

namespace Node

/-- What a node contributes to a list that it is spliced into. -/
inductive Contributes : Node → List Node → Prop
  | elements (token : Option Token) (items : List Node) : Contributes (list token items) items
  | itself {node : Node} (hnode : node.items? = none) : Contributes node [node]

theorem contributes_spliced (node : Node) : node.Contributes node.spliced := by
  cases node with
  | atom => exact .itself rfl
  | list token items => exact .elements token items
  | closure => exact .itself rfl

theorem spliced_of_items? {node : Node} (hnode : node.items? = none) : node.spliced = [node] := by
  rw [spliced, hnode, Option.getD_none]

@[simp]
theorem spliced_list (token : Option Token) (items : List Node) :
    (list token items).spliced = items := rfl

@[simp]
theorem spliced_ofList (items : List Node) : (ofList items).spliced = items := rfl

/-! ## Equality of lists -/

/-- Lists are equal if their elements are, whatever their tokens. -/
theorem same_list_self (token token' : Option Token) (items : List Node) :
    (list token items).same (list token' items) = true := by
  rw [same, sameAll_self]

theorem length_eq_of_sameAll {nodes others : List Node} (hsame : sameAll nodes others = true) :
    nodes.length = others.length := by
  induction nodes generalizing others with
  | nil =>
      cases others with
      | nil => rfl
      | cons other others => simp [sameAll] at hsame
  | cons node nodes ih =>
      cases others with
      | nil => simp [sameAll] at hsame
      | cons other others =>
          rw [sameAll, Bool.and_eq_true] at hsame
          rw [List.length_cons, List.length_cons, ih hsame.2]

/-- No node equals a list with that node as its only element. -/
theorem same_singleton (token : Option Token) :
    (node : Node) → node.same (list token [node]) = false
  | atom .. => by simp [same]
  | closure .. => by simp [same]
  | list _ [] => by simp [same, sameAll]
  -- one list less on both sides leaves the same question about the element
  | list token' [item] => by
      rw [same, sameAll, same_singleton token' item, Bool.false_and]
  | list _ (_ :: _ :: _) => by simp [same, sameAll]

/-- Replacing the first element of a list by what it contributes gives an equal list only if
it contributes itself. -/
theorem same_spliced_first_iff (token : Option Token) (first : Node) (rest : List Node) :
    (ofList (first.spliced ++ rest)).same (list token (first :: rest)) = true ↔
      first.items? = none := by
  constructor
  · intro hsame
    cases first with
    | atom => rfl
    | closure => rfl
    | list token' items =>
        rw [ofList, spliced_list, same] at hsame
        have hone : items.length = 1 := by
          have hlength := length_eq_of_sameAll hsame
          rw [List.length_append, List.length_cons] at hlength
          omega
        obtain ⟨item, rfl⟩ := List.length_eq_one_iff.mp hone
        rw [List.singleton_append, sameAll, same_singleton, Bool.false_and] at hsame
        cases hsame
  · intro hfirst
    rw [spliced_of_items? hfirst]
    exact same_list_self none token (first :: rest)

end Node

/-! ## The primitive functions -/

namespace Builtin

theorem cons_gives (a b : Node) : cons.Gives [a, b] (.ofList (a.spliced ++ b.spliced)) :=
  fun _ _ => rfl

theorem car_gives (token : Option Token) (first : Node) (rest : List Node) :
    car.Gives [.list token (first :: rest)] first :=
  fun _ _ => rfl

theorem cdr_gives (token : Option Token) (first : Node) (rest : List Node) :
    cdr.Gives [.list token (first :: rest)] (.ofList rest) :=
  fun _ _ => rfl

end Builtin

open Builtin

/-- What `cons` gives has the elements that its arguments contribute. It is associative, the
empty list is neutral for lists, and of what `car` and `cdr` take from a list it makes an equal
list exactly when the first element is not a list. -/
theorem cons_algebra (a b c : Node) :
    (∃ xs ys ab, a.Contributes xs ∧ b.Contributes ys ∧ cons.Gives [a, b] ab ∧
      ab.items? = some (xs ++ ys)) ∧
    (∃ ab bc left right, cons.Gives [a, b] ab ∧ cons.Gives [ab, c] left ∧
      cons.Gives [b, c] bc ∧ cons.Gives [a, bc] right ∧ left.same right = true) ∧
    (∀ (token token' : Option Token) (items : List Node),
      let l : Node := .list token items
      let empty : Node := .list token' []
      ∃ left right, cons.Gives [empty, l] left ∧ cons.Gives [l, empty] right ∧
        left.same l = true ∧ right.same l = true) ∧
    ∀ (token : Option Token) (first : Node) (rest : List Node),
      let l : Node := .list token (first :: rest)
      ∃ head tail whole, car.Gives [l] head ∧ cdr.Gives [l] tail ∧
        cons.Gives [head, tail] whole ∧ (whole.same l = true ↔ first.items? = none) := by
  refine ⟨?_, ?_, ?_, ?_⟩
  · exact ⟨a.spliced, b.spliced, _, a.contributes_spliced, b.contributes_spliced,
      cons_gives a b, rfl⟩
  · refine ⟨_, _, _, _, cons_gives a b, cons_gives _ c, cons_gives b c, cons_gives a _, ?_⟩
    rw [Node.spliced_ofList, Node.spliced_ofList, List.append_assoc]
    exact Node.same_self _
  · intro token token' items l empty
    refine ⟨_, _, cons_gives empty l, cons_gives l empty, ?_, ?_⟩
    · exact Node.same_list_self none token items
    · rw [Node.spliced_list, Node.spliced_list, List.append_nil]
      exact Node.same_list_self none token items
  · intro token first rest l
    refine ⟨_, _, _, car_gives token first rest, cdr_gives token first rest, cons_gives _ _, ?_⟩
    rw [Node.spliced_ofList]
    exact Node.same_spliced_first_iff token first rest

end Lisplet
