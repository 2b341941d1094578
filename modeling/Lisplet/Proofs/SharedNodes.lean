import Lisplet.Forest
import Lisplet.Proofs.Equality
import Mathlib.Data.Finset.Card
import Mathlib.Data.Set.List
import Mathlib.Logic.Relation
import Mathlib.Order.WellFounded

/-!
# Equality of shared nodes

A node that is compared with itself is equal to it without a look at what it holds. For
nodes that stand for finite trees this is no more than a shortcut: however their parts are
shared, the answer is the one for the two trees. So all that holds of equality of trees
holds of equality of shared nodes.
-/

namespace Lisplet

namespace Forest

/-! ## Nodes that stand for trees -/

/-- A node that stands for a finite tree with no element left out. -/
inductive IsTree (forest : Forest) : CellId → Prop
  | atom {id : CellId} {token : Option Token} {value : Atom}
      (hcell : forest.cells[id]? = some ⟨token, .atom value⟩) : forest.IsTree id
  | list {id : CellId} {token : Option Token} {parts : List CellId}
      (hcell : forest.cells[id]? = some ⟨token, .list (parts.map some)⟩)
      (hparts : ∀ part ∈ parts, forest.IsTree part) : forest.IsTree id
  | closure {id : CellId} {token : Option Token} {identity : Nat} {params : List String}
      {body : List Node} {scope : Nat}
      (hcell : forest.cells[id]? = some ⟨token, .closure identity params body scope⟩) :
      forest.IsTree id

/-- A node is an element of another. -/
def Element (forest : Forest) (part id : CellId) : Prop :=
  ∃ token items, forest.cells[id]? = some ⟨token, .list items⟩ ∧ some part ∈ items

variable {forest : Forest}

theorem IsTree.lt_size {id : CellId} (hid : forest.IsTree id) : id < forest.cells.size := by
  cases hid with
  | atom hcell => exact (Array.getElem?_eq_some_iff.1 hcell).1
  | list hcell => exact (Array.getElem?_eq_some_iff.1 hcell).1
  | closure hcell => exact (Array.getElem?_eq_some_iff.1 hcell).1

/-- There is no way down a tree that does not end. -/
theorem IsTree.acc {id : CellId} (hid : forest.IsTree id) : Acc forest.Element id := by
  induction hid with
  | atom hcell =>
      refine ⟨_, fun part hpart => ?_⟩
      obtain ⟨token, items, hlist, -⟩ := hpart
      simp [hcell] at hlist
  | list hcell _ ih =>
      refine ⟨_, fun part hpart => ?_⟩
      obtain ⟨token, items, hlist, hmem⟩ := hpart
      rw [hcell] at hlist
      cases hlist
      exact ih part (by simpa using hmem)
  | closure hcell =>
      refine ⟨_, fun part hpart => ?_⟩
      obtain ⟨token, items, hlist, -⟩ := hpart
      simp [hcell] at hlist

/-- The elements of a list; other nodes have none. -/
def items (forest : Forest) (id : CellId) : List (Option CellId) :=
  match forest.content? id with
  | some (.list items) => items
  | _ => []

/-- Lists only hold nodes that were made before them. -/
def IsOrdered (forest : Forest) : Prop :=
  ∀ id < forest.cells.size, ∀ item ∈ forest.items id, ∃ part < id, item = some part

instance (forest : Forest) : Decidable forest.IsOrdered :=
  inferInstanceAs (Decidable (∀ id < forest.cells.size, _))

/-- Nodes that are made from the elements up stand for trees. -/
theorem IsOrdered.isTree (hordered : forest.IsOrdered) {id : CellId}
    (hid : id < forest.cells.size) : forest.IsTree id := by
  induction id using Nat.strong_induction_on with
  | _ id ih =>
      obtain ⟨⟨token, content⟩, hcell⟩ : ∃ cell, forest.cells[id]? = some cell :=
        ⟨_, Array.getElem?_eq_getElem hid⟩
      have hitems := hordered id hid
      rw [Forest.items, content?, hcell] at hitems
      cases content with
      | atom value => exact .atom hcell
      | list items =>
          obtain ⟨parts, rfl⟩ : items ∈ Set.range (List.map some) := by
            rw [Set.range_list_map]
            intro item hitem
            obtain ⟨part, -, rfl⟩ := hitems item hitem
            exact ⟨part, rfl⟩
          refine .list hcell fun part hpart => ?_
          obtain ⟨other, hlt, hother⟩ := hitems (some part) (List.mem_map_of_mem hpart)
          cases hother
          exact ih part hlt (hlt.trans hid)
      | closure => exact .closure hcell

/-! ## How deep a tree can be -/

open Classical in
/-- The nodes that a node is made of, with itself. -/
noncomputable def below (forest : Forest) (id : CellId) : Finset CellId :=
  (Finset.range forest.cells.size).filter fun part => Relation.ReflTransGen forest.Element part id

theorem mem_below {part id : CellId} :
    part ∈ forest.below id ↔
      part < forest.cells.size ∧ Relation.ReflTransGen forest.Element part id := by
  simp [below]

theorem card_below_le (forest : Forest) (id : CellId) :
    (forest.below id).card ≤ forest.cells.size := by
  have hsubset : forest.below id ⊆ Finset.range forest.cells.size :=
    fun part hpart => Finset.mem_range.2 (mem_below.1 hpart).1
  simpa using Finset.card_le_card hsubset

/-- An element is made of fewer nodes than the list it is in. -/
theorem card_below_lt {id : CellId} {token : Option Token} {parts : List CellId}
    (hcell : forest.cells[id]? = some ⟨token, .list (parts.map some)⟩)
    (hparts : ∀ part ∈ parts, forest.IsTree part) {part : CellId} (hmem : part ∈ parts) :
    (forest.below part).card < (forest.below id).card := by
  have hid : forest.IsTree id := .list hcell hparts
  have hpart : forest.Element part id := ⟨token, _, hcell, List.mem_map_of_mem hmem⟩
  apply Finset.card_lt_card
  refine ⟨fun other hother => ?_, fun hsubset => ?_⟩
  · rw [mem_below] at hother ⊢
    exact ⟨hother.1, hother.2.tail hpart⟩
  -- the list is not part of its element, as it would then be part of itself
  · have hself : id ∈ forest.below id := mem_below.2 ⟨hid.lt_size, .refl⟩
    have hcycle : Relation.TransGen forest.Element id id :=
      .tail' (mem_below.1 (hsubset hself)).2 hpart
    exact (acc_iff_isEmpty_descending_chain.1 hid.acc.transGen).false
      ⟨fun _ => id, rfl, fun _ => hcycle⟩

/-- A node is made of itself at least. -/
theorem IsTree.exists_depth {id : CellId} (hid : forest.IsTree id) {depth : Nat}
    (hdepth : (forest.below id).card ≤ depth) : ∃ rest, depth = rest + 1 := by
  have hpos : 0 < (forest.below id).card :=
    Finset.card_pos.2 ⟨id, mem_below.2 ⟨hid.lt_size, .refl⟩⟩
  exact ⟨depth - 1, by omega⟩

/-! ## Trees -/

theorem treeTo_atom {id : CellId} {token : Option Token} {value : Atom}
    (hcell : forest.cells[id]? = some ⟨token, .atom value⟩) (depth : Nat) :
    forest.treeTo (depth + 1) (some id) = .atom token value := by
  simp only [treeTo, hcell]

theorem treeTo_list {id : CellId} {token : Option Token} {items : List (Option CellId)}
    (hcell : forest.cells[id]? = some ⟨token, .list items⟩) (depth : Nat) :
    forest.treeTo (depth + 1) (some id) = .list token (items.map (forest.treeTo depth)) := by
  simp only [treeTo, hcell]

theorem treeTo_closure {id : CellId} {token : Option Token} {identity : Nat}
    {params : List String} {body : List Node} {scope : Nat}
    (hcell : forest.cells[id]? = some ⟨token, .closure identity params body scope⟩)
    (depth : Nat) :
    forest.treeTo (depth + 1) (some id) = .closure token identity params body scope := by
  simp only [treeTo, hcell]

/-- All of a tree is seen from a depth that its nodes fit in. -/
theorem IsTree.treeTo_eq {id : CellId} (hid : forest.IsTree id) {depth : Nat}
    (hdepth : (forest.below id).card ≤ depth) :
    forest.treeTo depth (some id) = forest.tree (some id) := by
  induction hid generalizing depth with
  | atom hcell =>
      obtain ⟨rest, rfl⟩ := (IsTree.atom hcell).exists_depth hdepth
      rw [tree, treeTo_atom hcell, treeTo_atom hcell]
  | list hcell hparts ih =>
      obtain ⟨rest, rfl⟩ := (IsTree.list hcell hparts).exists_depth hdepth
      rw [tree, treeTo_list hcell, treeTo_list hcell, List.map_map, List.map_map]
      congr 1
      refine List.map_congr_left fun part hpart => ?_
      have hlt := card_below_lt hcell hparts hpart
      have hsize := forest.card_below_le part
      exact (ih part hpart (by omega)).trans (ih part hpart hsize).symm
  | closure hcell =>
      obtain ⟨rest, rfl⟩ := (IsTree.closure hcell).exists_depth hdepth
      rw [tree, treeTo_closure hcell, treeTo_closure hcell]

theorem tree_atom {id : CellId} {token : Option Token} {value : Atom}
    (hcell : forest.cells[id]? = some ⟨token, .atom value⟩) :
    forest.tree (some id) = .atom token value :=
  treeTo_atom hcell _

theorem tree_list {id : CellId} {token : Option Token} {parts : List CellId}
    (hcell : forest.cells[id]? = some ⟨token, .list (parts.map some)⟩)
    (hparts : ∀ part ∈ parts, forest.IsTree part) :
    forest.tree (some id) = .list token (parts.map fun part => forest.tree (some part)) := by
  rw [tree, treeTo_list hcell, List.map_map]
  congr 1
  exact List.map_congr_left fun part hpart =>
    (hparts part hpart).treeTo_eq (forest.card_below_le part)

theorem tree_closure {id : CellId} {token : Option Token} {identity : Nat}
    {params : List String} {body : List Node} {scope : Nat}
    (hcell : forest.cells[id]? = some ⟨token, .closure identity params body scope⟩) :
    forest.tree (some id) = .closure token identity params body scope :=
  treeTo_closure hcell _

/-! ## The shortcut -/

theorem sameTo_self (forest : Forest) (depth : Nat) (id : Option CellId) :
    forest.sameTo depth id id = true := by
  cases depth <;> simp [sameTo]

theorem pairwise_eq_sameAll {agree : Option CellId → Option CellId → Bool}
    {parts others : List CellId}
    (hagree : ∀ part ∈ parts, ∀ other ∈ others,
      agree (some part) (some other) = (forest.tree (some part)).same (forest.tree (some other))) :
    pairwise agree (parts.map some) (others.map some) =
      Node.sameAll (parts.map fun part => forest.tree (some part))
        (others.map fun other => forest.tree (some other)) := by
  induction parts generalizing others with
  | nil => cases others <;> rfl
  | cons part parts ih =>
      cases others with
      | nil => rfl
      | cons other others =>
          simp only [List.map_cons, pairwise, Node.sameAll]
          rw [hagree part List.mem_cons_self other List.mem_cons_self,
            ih fun a ha b hb => hagree a (.tail _ ha) b (.tail _ hb)]

/-- From a depth that the nodes of two trees fit in, the answer is the one for the trees. -/
theorem IsTree.sameTo_eq {i j : CellId} (hi : forest.IsTree i) (hj : forest.IsTree j)
    {depth : Nat} (hidepth : (forest.below i).card ≤ depth)
    (hjdepth : (forest.below j).card ≤ depth) :
    forest.sameTo depth (some i) (some j) =
      (forest.tree (some i)).same (forest.tree (some j)) := by
  induction depth generalizing i j with
  | zero =>
      obtain ⟨rest, hrest⟩ := hi.exists_depth hidepth
      omega
  | succ depth ih =>
      -- a node and itself stand for one tree, and that equals itself
      rcases eq_or_ne i j with rfl | hne
      · rw [sameTo_self, Node.same_self]
      have hshort : (some i == some j) = false := by simpa using hne
      rw [sameTo, hshort, Bool.false_or]
      cases hi with
      | atom hicell =>
          cases hj with
          | atom hjcell =>
              simp only [content?, hicell, hjcell, Option.map_some, tree_atom hicell,
                tree_atom hjcell, Node.same]
          | list hjcell hothers =>
              simp only [content?, hicell, hjcell, Option.map_some, tree_atom hicell,
                tree_list hjcell hothers, Node.same]
          | closure hjcell =>
              simp only [content?, hicell, hjcell, Option.map_some, tree_atom hicell,
                tree_closure hjcell, Node.same]
      | list hicell hparts =>
          cases hj with
          | atom hjcell =>
              simp only [content?, hicell, hjcell, Option.map_some, tree_list hicell hparts,
                tree_atom hjcell, Node.same]
          | list hjcell hothers =>
              simp only [content?, hicell, hjcell, Option.map_some, tree_list hicell hparts,
                tree_list hjcell hothers, Node.same]
              refine pairwise_eq_sameAll fun part hpart other hother => ?_
              have hpartlt := card_below_lt hicell hparts hpart
              have hotherlt := card_below_lt hjcell hothers hother
              exact ih (hparts part hpart) (hothers other hother) (by omega) (by omega)
          | closure hjcell =>
              simp only [content?, hicell, hjcell, Option.map_some, tree_list hicell hparts,
                tree_closure hjcell, Node.same]
      | closure hicell =>
          cases hj with
          | atom hjcell =>
              simp only [content?, hicell, hjcell, Option.map_some, tree_closure hicell,
                tree_atom hjcell, Node.same]
          | list hjcell hothers =>
              simp only [content?, hicell, hjcell, Option.map_some, tree_closure hicell,
                tree_list hjcell hothers, Node.same]
          | closure hjcell =>
              simp only [content?, hicell, hjcell, Option.map_some, tree_closure hicell,
                tree_closure hjcell, Node.same]

/-- Equality of shared nodes is equality of the trees they stand for. -/
theorem IsTree.same_eq {i j : CellId} (hi : forest.IsTree i) (hj : forest.IsTree j) :
    forest.same (some i) (some j) = (forest.tree (some i)).same (forest.tree (some j)) :=
  hi.sameTo_eq hj ((forest.card_below_le i).trans (Nat.le_succ _))
    ((forest.card_below_le j).trans (Nat.le_succ _))

/-- A node together with the reason why it stands for a tree. -/
abbrev Root (forest : Forest) := { id : CellId // forest.IsTree id }

namespace Root

/-- The tree that a node stands for. -/
def tree (root : forest.Root) : Node := forest.tree (some root.1)

/-- Equality of nodes, with the shortcut for a node and itself. -/
def same (a b : forest.Root) : Bool := forest.same (some a.1) (some b.1)

theorem same_eq (a b : forest.Root) : a.same b = a.tree.same b.tree := a.2.same_eq b.2

end Root

end Forest

/-- Equality of shared nodes is an equivalence that gives the answers of equality without its
shortcut. Equal nodes have one text, and the primitive function for equality tells whether
all its arguments are equal to each other, in whatever order they come. -/
theorem shared_equality_sound (forest : Forest) :
    Equivalence (fun a b : forest.Root => a.same b = true) ∧
    (∀ a b : forest.Root, a.same b = a.tree.same b.tree) ∧
    (∀ (parameters : Nat → List String) (a b : forest.Root),
      a.tree.isOwn parameters = true → b.tree.isOwn parameters = true → a.same b = true →
        a.tree.hasText = true ∧ b.tree.hasText = true ∧ a.tree.text = b.tree.text) ∧
    (∀ args : List forest.Root, args ≠ [] →
      Builtin.equal.Gives (args.map Forest.Root.tree)
        (.bool (decide (∀ a ∈ args, ∀ b ∈ args, a.same b = true)))) ∧
    (∀ args : List Node, args ≠ [] →
      Builtin.equal.Gives args (.bool (decide (∀ a ∈ args, ∀ b ∈ args, a.same b = true)))) ∧
    ∀ (args others : List Node), args.Perm others → ∀ (evaluator : Evaluator) (scope : ScopeId),
      Builtin.equal.run evaluator scope args = Builtin.equal.run evaluator scope others := by
  refine ⟨⟨fun a => ?_, fun {a b} hab => ?_, fun {a b c} hab hbc => ?_⟩, fun a b => a.same_eq b,
    fun parameters a b ha hb hab => ?_, fun args hargs => ?_, fun args => Builtin.equal_gives,
    fun args others => Builtin.run_equal_perm⟩
  · rw [a.same_eq]
    exact Node.same_self a.tree
  · rw [Forest.Root.same_eq] at hab ⊢
    exact Node.same_symm hab
  · rw [Forest.Root.same_eq] at hab hbc ⊢
    exact Node.same_trans hab hbc
  · rw [a.same_eq] at hab
    exact ⟨Node.hasText_of_isOwn _ ha, Node.hasText_of_isOwn _ hb,
      Node.text_eq_of_same _ _ ha hb hab⟩
  · have htrees : args.map Forest.Root.tree ≠ [] := by simpa using hargs
    have hequal := Builtin.equal_gives htrees
    simpa only [List.forall_mem_map, Forest.Root.same_eq] using hequal

/-- The number 1 twice, once as 1.0, a function, and lists that share them. -/
def sharingSample : Forest where
  cells := #[⟨none, .atom (.number (.ofInt 1))⟩, ⟨none, .atom (.number ⟨10, -1, by decide⟩)⟩,
    ⟨none, .closure 7 ["x"] [] 0⟩, ⟨none, .list [some 0, some 0, some 2]⟩,
    ⟨none, .list [some 0, some 1, some 2]⟩, ⟨none, .list [some 3, some 3]⟩,
    ⟨none, .list [some 3, some 4]⟩]

theorem sharingSample_isOrdered : sharingSample.IsOrdered := by
  decide +kernel

/-- A list of one shared list. -/
def sharingSample.once : sharingSample.Root := ⟨5, sharingSample_isOrdered.isTree (by decide)⟩

/-- A list of that list and another one. -/
def sharingSample.twice : sharingSample.Root := ⟨6, sharingSample_isOrdered.isTree (by decide)⟩

theorem sharingSample_sound :
    sharingSample.once.same sharingSample.twice = true ∧
    sharingSample.twice.same sharingSample.once = true ∧
    sharingSample.once.tree.text = sharingSample.twice.tree.text ∧
    Builtin.equal.Gives [sharingSample.once.tree, sharingSample.twice.tree] (.bool true) := by
  obtain ⟨hequivalence, -, htext, hequal, -⟩ := shared_equality_sound sharingSample
  have hsame : sharingSample.once.same sharingSample.twice = true := by
    decide +kernel
  have hown := htext (fun _ => ["x"]) sharingSample.once sharingSample.twice (by decide +kernel)
    (by decide +kernel) hsame
  exact ⟨hsame, hequivalence.symm hsame, hown.2.2,
    hequal [sharingSample.once, sharingSample.twice] (by simp)⟩

end Lisplet
