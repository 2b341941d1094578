import Lisplet.Proofs.Decimal.Text
import Lisplet.Proofs.PrimitiveResults

/-!
# Equality is an equivalence

Equality has a rule for each kind of atom and goes through lists element by element. All of
its rules compare what an atom is to a program, so equal nodes are equal to the same nodes,
and equality is symmetric and transitive besides being reflexive. Equal nodes that a program
can make have one text, and comparing the first argument with all others compares all of
them with each other.
-/

namespace Lisplet

/-! ## Atoms -/

namespace Atom

/-- What equality sees of an atom: a number is its value, all that is of kind nil is nil,
and a function of the host is its identity. -/
def essence : Atom → ℚ ⊕ Atom
  | number value => .inl value.value
  | foreign identity kind text =>
    .inr (match kind with
      | .nil => nil
      | .function => foreign identity .function ""
      | _ => foreign 0 kind text)
  | a => .inr a

theorem same_iff (a b : Atom) : a.same b = true ↔ a.essence = b.essence := by
  cases a with
  | foreign i kind text =>
      cases b with
      | foreign j kind' text' => cases kind <;> cases kind' <;> simp [same, essence]
      | _ => cases kind <;> simp [same, essence]
  | number x => cases b <;> simp [same, essence, Decimal.equal_iff]
  | _ =>
      cases b with
      | foreign j kind' text' => cases kind' <;> simp [same, essence]
      | _ => simp [same, essence]

/-- Equal atoms are equal to the same atoms. -/
theorem same_congr {a b : Atom} (hab : a.same b = true) (c : Atom) : a.same c = b.same c := by
  rw [Bool.eq_iff_iff, same_iff, same_iff, (same_iff a b).1 hab]

end Atom

/-! ## Nodes -/

namespace Node

mutual

/-- Equal nodes are equal to the same nodes. -/
theorem same_congr : (a b : Node) → a.same b = true → (c : Node) → a.same c = b.same c
  | atom _ a, atom _ b, hab, atom _ c => by
      rw [same] at hab
      rw [same, same, Atom.same_congr hab]
  | list _ items, list _ others, hab, list _ thirds => by
      rw [same] at hab
      rw [same, same, sameAll_congr items others hab]
  | closure _ i _ _ _, closure _ j _ _ _, hab, closure _ k _ _ _ => by
      rw [same, beq_iff_eq] at hab
      rw [same, same, hab]
  | atom .., atom .., _, list .. => by simp [same]
  | atom .., atom .., _, closure .. => by simp [same]
  | list .., list .., _, atom .. => by simp [same]
  | list .., list .., _, closure .. => by simp [same]
  | closure .., closure .., _, atom .. => by simp [same]
  | closure .., closure .., _, list .. => by simp [same]
  | atom .., list .., hab, _ => by simp [same] at hab
  | atom .., closure .., hab, _ => by simp [same] at hab
  | list .., atom .., hab, _ => by simp [same] at hab
  | list .., closure .., hab, _ => by simp [same] at hab
  | closure .., atom .., hab, _ => by simp [same] at hab
  | closure .., list .., hab, _ => by simp [same] at hab

/-- Equal lists of nodes are equal to the same lists. -/
theorem sameAll_congr : (nodes others : List Node) → sameAll nodes others = true →
    (thirds : List Node) → sameAll nodes thirds = sameAll others thirds
  | [], [], _, _ => rfl
  | a :: nodes, b :: others, hab, [] => by simp [sameAll]
  | a :: nodes, b :: others, hab, c :: thirds => by
      rw [sameAll, Bool.and_eq_true] at hab
      rw [sameAll, sameAll, same_congr a b hab.1, sameAll_congr nodes others hab.2]
  | [], _ :: _, hab, _ => by simp [sameAll] at hab
  | _ :: _, [], hab, _ => by simp [sameAll] at hab

end

theorem same_symm {a b : Node} (hab : a.same b = true) : b.same a = true := by
  rw [← same_congr a b hab, same_self]

theorem same_trans {a b c : Node} (hab : a.same b = true) (hbc : b.same c = true) :
    a.same c = true := by
  rw [same_congr a b hab, hbc]

end Node

/-! ## The text of equal nodes -/

/-- Whether an atom is a value of the language or a primitive function, those of the host
included. -/
def Atom.isOwn : Atom → Bool
  | foreign .. | blank | absent => false
  | _ => true

namespace Node

mutual

/-- Whether a node is made of values of the language, primitive functions, and closures that
have the parameters of their identity. -/
def isOwn (parameters : Nat → List String) : Node → Bool
  | atom _ value => value.isOwn
  | list _ items => areOwn parameters items
  | closure _ identity params _ _ => params == parameters identity

/-- Whether several nodes are made of these. -/
def areOwn (parameters : Nat → List String) : List Node → Bool
  | [] => true
  | node :: rest => node.isOwn parameters && areOwn parameters rest

end

end Node

theorem Atom.hasText_of_isOwn {a : Atom} (ha : a.isOwn = true) : a.hasText = true := by
  cases a with
  | foreign => cases ha
  | blank => cases ha
  | absent => cases ha
  | _ =>
      simp only [hasText, kind]
      decide

theorem Atom.text_eq_of_same {a b : Atom} (ha : a.isOwn = true) (hb : b.isOwn = true)
    (hab : a.same b = true) : a.text = b.text := by
  rw [same_iff] at hab
  cases a with
  | number x =>
      cases b with
      | number y => exact Decimal.text_congr (Sum.inl.inj hab)
      | foreign => cases hb
      | _ => cases hab
  | foreign => cases ha
  | _ =>
      cases b with
      | foreign => cases hb
      | _ => cases hab <;> rfl

namespace Node

variable {parameters : Nat → List String}

mutual

theorem hasText_of_isOwn : (node : Node) → node.isOwn parameters = true → node.hasText = true
  | atom _ _, hnode => by
      rw [isOwn] at hnode
      exact Atom.hasText_of_isOwn hnode
  | list _ items, hnode => by
      rw [isOwn] at hnode
      exact haveText_of_areOwn items hnode
  | closure .., _ => rfl

theorem haveText_of_areOwn : (nodes : List Node) → areOwn parameters nodes = true →
    haveText nodes = true
  | [], _ => rfl
  | node :: rest, hnodes => by
      rw [areOwn, Bool.and_eq_true] at hnodes
      rw [haveText, hasText_of_isOwn node hnodes.1, haveText_of_areOwn rest hnodes.2]
      rfl

end

mutual

/-- Equal nodes are written the same way. -/
theorem text_eq_of_same : (a b : Node) → a.isOwn parameters = true →
    b.isOwn parameters = true → a.same b = true → a.text = b.text
  | atom _ a, atom _ b, ha, hb, hab => by
      rw [isOwn] at ha hb
      rw [same] at hab
      exact Atom.text_eq_of_same ha hb hab
  | list _ items, list _ others, ha, hb, hab => by
      rw [isOwn] at ha hb
      rw [same] at hab
      rw [text, text, texts_eq_of_sameAll items others ha hb hab]
  | closure _ i params _ _, closure _ j params' _ _, ha, hb, hab => by
      rw [isOwn, beq_iff_eq] at ha hb
      rw [same, beq_iff_eq] at hab
      rw [text, text, ha, hb, hab]
  | atom .., list .., _, _, hab => by simp [same] at hab
  | atom .., closure .., _, _, hab => by simp [same] at hab
  | list .., atom .., _, _, hab => by simp [same] at hab
  | list .., closure .., _, _, hab => by simp [same] at hab
  | closure .., atom .., _, _, hab => by simp [same] at hab
  | closure .., list .., _, _, hab => by simp [same] at hab

theorem texts_eq_of_sameAll : (nodes others : List Node) → areOwn parameters nodes = true →
    areOwn parameters others = true → sameAll nodes others = true → texts nodes = texts others
  | [], [], _, _, _ => rfl
  | a :: nodes, b :: others, ha, hb, hab => by
      rw [areOwn, Bool.and_eq_true] at ha hb
      rw [sameAll, Bool.and_eq_true] at hab
      rw [texts, texts, text_eq_of_same a b ha.1 hb.1 hab.1,
        texts_eq_of_sameAll nodes others ha.2 hb.2 hab.2]
  | [], _ :: _, _, _, hab => by simp [sameAll] at hab
  | _ :: _, [], _, _, hab => by simp [sameAll] at hab

end

end Node

/-! ## The primitive function -/

namespace Builtin

/-- Comparing the first argument with all others tells whether all arguments are equal. -/
theorem equal_gives {args : List Node} (hargs : args ≠ []) :
    equal.Gives args (.bool (decide (∀ a ∈ args, ∀ b ∈ args, a.same b = true))) := by
  intro evaluator scope
  obtain ⟨first, rest, rfl⟩ := List.exists_cons_of_ne_nil hargs
  have hdecide : rest.all first.quickSame =
      decide (∀ a ∈ first :: rest, ∀ b ∈ first :: rest, a.same b = true) := by
    rw [Bool.eq_iff_iff, decide_eq_true_iff, List.all_eq_true]
    constructor
    · intro hfirst a ha b hb
      have hall : ∀ node ∈ first :: rest, first.same node = true := by
        intro node hnode
        rcases List.mem_cons.1 hnode with rfl | hnode
        · exact Node.same_self node
        · rw [← Node.quickSame_eq_same]
          exact hfirst node hnode
      exact Node.same_trans (Node.same_symm (hall a ha)) (hall b hb)
    · intro hall node hnode
      rw [Node.quickSame_eq_same]
      exact hall first List.mem_cons_self node (List.mem_cons_of_mem _ hnode)
  rw [run, hdecide]

/-- The order of the arguments does not matter. -/
theorem run_equal_perm {args others : List Node} (hperm : args.Perm others)
    (evaluator : Evaluator) (scope : ScopeId) :
    equal.run evaluator scope args = equal.run evaluator scope others := by
  rcases eq_or_ne args [] with rfl | hargs
  · rw [List.nil_perm.1 hperm]
  · have hothers : others ≠ [] := by
      rintro rfl
      exact hargs hperm.eq_nil
    rw [equal_gives hargs, equal_gives hothers]
    simp only [hperm.mem_iff]

end Builtin

end Lisplet
