import Lisplet.Node.Basic

/-!
# Equality of nodes

Two nodes are equal when they are of one kind and hold the same: numbers by
value, lists element by element, functions by identity, everything else by
content. Tokens do not count.

A list can hold another one many times over, and the number of its leaves then
grows much faster than the list. `Node.quickSame` gives the same answers as
`Node.same`, and does not look into lists that are kept at one place.
-/

namespace Lisplet

/-- Equality of atoms. -/
def Atom.same : Atom → Atom → Bool
  | nil, nil => true
  | bool a, bool b => a == b
  | number a, number b => a.equal b
  | string a, string b => a == b
  | symbol a, symbol b => a == b
  | primitive a, primitive b => a == b
  | foreign _ .nil _, nil => true
  | nil, foreign _ .nil _ => true
  | foreign i kind a, foreign j kind' b =>
    kind == kind' && (match kind with
      | .nil => true
      | .function => i == j
      | _ => a == b)
  | blank, blank => true
  | absent, absent => true
  | _, _ => false

/-- Every atom equals itself. -/
@[simp]
theorem Atom.same_self (a : Atom) : a.same a = true := by
  cases a with
  | foreign identity kind text => cases kind <;> simp [same]
  | _ => simp [same]

namespace Node

mutual

/-- Equality of nodes. -/
def same : Node → Node → Bool
  | atom _ a, atom _ b => a.same b
  | list _ items, list _ others => sameAll items others
  | closure _ i _ _ _, closure _ j _ _ _ => i == j
  | _, _ => false

/-- Equality of lists of nodes, element by element. -/
def sameAll : List Node → List Node → Bool
  | [], [] => true
  | node :: rest, other :: others => node.same other && sameAll rest others
  | _, _ => false

end

mutual

/-- Every node equals itself. -/
theorem same_self : (node : Node) → node.same node = true
  | atom _ _ => by simp [same]
  | list _ items => by simp [same, sameAll_self items]
  | closure .. => by simp [same]

/-- Every list of nodes equals itself. -/
theorem sameAll_self : (nodes : List Node) → sameAll nodes nodes = true
  | [] => by simp [sameAll]
  | node :: rest => by simp [sameAll, same_self node, sameAll_self rest]

end

mutual

/-- The answer of `same`, found without a look into lists kept at one place. -/
def decideSame : (a b : Node) → { answer : Bool // answer = a.same b }
  | atom _ a, atom _ b => ⟨a.same b, by rw [same]⟩
  | list _ items, list _ others =>
    ⟨withPtrEq items others (fun _ => (decideSameAll items others).1)
      (fun h => (decideSameAll items others).2.trans (h ▸ sameAll_self items)),
      by rw [same]; exact (decideSameAll items others).2⟩
  | closure _ i _ _ _, closure _ j _ _ _ => ⟨i == j, by rw [same]⟩
  | atom .., list .. => ⟨false, by simp [same]⟩
  | atom .., closure .. => ⟨false, by simp [same]⟩
  | list .., atom .. => ⟨false, by simp [same]⟩
  | list .., closure .. => ⟨false, by simp [same]⟩
  | closure .., atom .. => ⟨false, by simp [same]⟩
  | closure .., list .. => ⟨false, by simp [same]⟩

/-- The answer of `sameAll`, found in the same way. -/
def decideSameAll : (nodes others : List Node) → { answer : Bool // answer = sameAll nodes others }
  | [], [] => ⟨true, by simp [sameAll]⟩
  | node :: rest, other :: others =>
    ⟨(node.decideSame other).1 && (decideSameAll rest others).1,
      by rw [sameAll, (node.decideSame other).2, (decideSameAll rest others).2]⟩
  | [], _ :: _ => ⟨false, by simp [sameAll]⟩
  | _ :: _, [] => ⟨false, by simp [sameAll]⟩

end

/-- Equality of nodes that may hold the same lists. -/
def quickSame (a b : Node) : Bool := (a.decideSame b).1

@[simp]
theorem quickSame_eq_same (a b : Node) : a.quickSame b = a.same b := (a.decideSame b).2

end Node

end Lisplet
