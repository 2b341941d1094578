import Lisplet.Node.Equality
import Lisplet.Node.Text
import Lisplet.Proofs.Decimal.Text
import Lisplet.Store
import Mathlib.Data.List.Forall2

/-!
# Nodes that are alike

Two runs of a program can be compared although they do not handle the very same
nodes. A likeness says what may differ: tokens, the decimals that stand for a
number, the identities of closures and the scopes they were made in. It can also
restrict the atoms that occur at all. Nodes that are alike have the same shape and
the same text, and equality cannot tell a pair of nodes from a pair like it.
-/

namespace Lisplet

theorem rel_cases {α β : Type} {r : α → β → Prop} {found : Option α} {found' : Option β}
    (hrel : Option.Rel r found found') :
    (found = none ∧ found' = none) ∨ ∃ a b, found = some a ∧ found' = some b ∧ r a b := by
  cases hrel with
  | some hab => exact .inr ⟨_, _, rfl, rfl, hab⟩
  | none => exact .inl ⟨rfl, rfl⟩

namespace Node

mutual

/-- The atoms that occur in a node; the parameters of a closure are symbols. -/
def atoms : Node → List Atom
  | atom _ value => [value]
  | list _ items => atomsAll items
  | closure _ _ params body _ => params.map .symbol ++ atomsAll body

/-- The atoms that occur in several nodes. -/
def atomsAll : List Node → List Atom
  | [] => []
  | node :: rest => node.atoms ++ atomsAll rest

end

mutual

/-- The scopes that the closures in a node were made in. -/
def homes : Node → List ScopeId
  | atom .. => []
  | list _ items => homesAll items
  | closure _ _ _ body home => home :: homesAll body

/-- The scopes that the closures in several nodes were made in. -/
def homesAll : List Node → List ScopeId
  | [] => []
  | node :: rest => node.homes ++ homesAll rest

end

mutual

/-- The identities of the closures in a node. -/
def identities : Node → List Nat
  | atom .. => []
  | list _ items => identitiesAll items
  | closure _ identity _ body _ => identity :: identitiesAll body

/-- The identities of the closures in several nodes. -/
def identitiesAll : List Node → List Nat
  | [] => []
  | node :: rest => node.identities ++ identitiesAll rest

end

theorem atomsAll_eq (nodes : List Node) : atomsAll nodes = nodes.flatMap atoms := by
  induction nodes with
  | nil => rfl
  | cons node rest ih => rw [atomsAll, ih, List.flatMap_cons]

theorem homesAll_eq (nodes : List Node) : homesAll nodes = nodes.flatMap homes := by
  induction nodes with
  | nil => rfl
  | cons node rest ih => rw [homesAll, ih, List.flatMap_cons]

theorem identitiesAll_eq (nodes : List Node) : identitiesAll nodes = nodes.flatMap identities := by
  induction nodes with
  | nil => rfl
  | cons node rest ih => rw [identitiesAll, ih, List.flatMap_cons]

end Node

/-- What may differ between nodes that are taken for alike. -/
structure Likeness where
  /-- Tokens that may stand for each other. -/
  token : Option Token → Option Token → Prop
  /-- Decimals that may stand for each other. -/
  number : Decimal → Decimal → Prop
  /-- The atoms, besides numbers, that may occur. -/
  atom : Atom → Prop
  /-- Identities of closures that may stand for each other. -/
  identity : Nat → Nat → Prop
  /-- Scopes of closures that may stand for each other. -/
  home : ScopeId → ScopeId → Prop
  token_none : token none none
  token_or {t t' u u' : Option Token} : token t t' → token u u' → token (t.or u) (t'.or u')
  number_self (a : Decimal) : number a a
  value_eq {a b : Decimal} : number a b → a.value = b.value
  atom_nil : atom .nil
  atom_bool (value : Bool) : atom (.bool value)
  identity_iff {i i' j j' : Nat} : identity i i' → identity j j' → (i = j ↔ i' = j')

namespace Likeness

/-- Atoms that are alike: numbers that may stand for each other, and otherwise the
same atom. -/
def AtomAlike (like : Likeness) : Atom → Atom → Prop
  | .number a, .number b => like.number a b
  | a, b => a = b ∧ like.atom a

mutual

/-- Nodes that are alike. -/
def Alike (like : Likeness) : Node → Node → Prop
  | .atom token a, .atom token' b => like.token token token' ∧ like.AtomAlike a b
  | .list token items, .list token' others => like.token token token' ∧ like.AllAlike items others
  | .closure token identity params body home, .closure token' identity' params' body' home' =>
    like.token token token' ∧ like.identity identity identity' ∧ params = params' ∧
      (∀ name ∈ params, like.atom (.symbol name)) ∧ like.AllAlike body body' ∧
        like.home home home'
  | _, _ => False

/-- Lists of nodes that are alike, element by element. -/
def AllAlike (like : Likeness) : List Node → List Node → Prop
  | [], [] => True
  | node :: rest, other :: others => like.Alike node other ∧ like.AllAlike rest others
  | _, _ => False

end

/-- Bindings that are alike: of the same names, in the same order, to values that
are alike. -/
def BindingsAlike (like : Likeness) (bindings others : List (String × Node)) : Prop :=
  List.Forall₂ (fun a b => a.1 = b.1 ∧ like.atom (.symbol a.1) ∧ like.Alike a.2 b.2)
    bindings others

variable {like : Likeness}

/-! ## Lists of nodes -/

theorem allAlike_iff {nodes others : List Node} :
    like.AllAlike nodes others ↔ List.Forall₂ like.Alike nodes others := by
  induction nodes generalizing others with
  | nil => cases others <;> simp [AllAlike]
  | cons node rest ih => cases others <;> simp [AllAlike, ih]

theorem AllAlike.length_eq {nodes others : List Node} (halike : like.AllAlike nodes others) :
    nodes.length = others.length :=
  (allAlike_iff.mp halike).length_eq

theorem AllAlike.append {nodes others nodes' others' : List Node}
    (hfirst : like.AllAlike nodes nodes') (hsecond : like.AllAlike others others') :
    like.AllAlike (nodes ++ others) (nodes' ++ others') :=
  allAlike_iff.mpr (List.rel_append (allAlike_iff.mp hfirst) (allAlike_iff.mp hsecond))

/-- A list like the empty list is empty. -/
theorem AllAlike.eq_nil {others : List Node} (halike : like.AllAlike [] others) : others = [] := by
  cases others with
  | nil => rfl
  | cons => exact halike.elim

/-- A list like one that is not empty is not empty either. -/
theorem AllAlike.exists_cons {node : Node} {rest others : List Node}
    (halike : like.AllAlike (node :: rest) others) :
    ∃ other rest', others = other :: rest' ∧ like.Alike node other ∧ like.AllAlike rest rest' := by
  cases others with
  | nil => exact halike.elim
  | cons other rest' => exact ⟨other, rest', rfl, halike⟩

/-! ## Atoms -/

/-- Atoms that are alike are the same atom or both numbers. -/
theorem AtomAlike.cases {a b : Atom} (halike : like.AtomAlike a b) :
    (∃ x y, a = .number x ∧ b = .number y ∧ like.number x y) ∨
      (a = b ∧ like.atom a ∧ ∀ x, a ≠ .number x) := by
  unfold AtomAlike at halike
  split at halike
  next x y => exact .inl ⟨x, y, rfl, rfl, halike⟩
  next hnumber =>
    obtain ⟨rfl, hatom⟩ := halike
    exact .inr ⟨rfl, hatom, fun x heq => hnumber x x heq heq⟩

theorem AtomAlike.of_atom {a : Atom} (hatom : like.atom a) : like.AtomAlike a a := by
  cases a with
  | number x => exact like.number_self x
  | _ => exact ⟨rfl, hatom⟩

theorem AtomAlike.kind_eq {a b : Atom} (halike : like.AtomAlike a b) : a.kind = b.kind := by
  obtain ⟨x, y, rfl, rfl, -⟩ | ⟨rfl, -⟩ := halike.cases
  · rfl
  · rfl

theorem AtomAlike.text_eq {a b : Atom} (halike : like.AtomAlike a b) : a.text = b.text := by
  obtain ⟨x, y, rfl, rfl, hnumber⟩ | ⟨rfl, -⟩ := halike.cases
  · exact Decimal.text_congr (like.value_eq hnumber)
  · rfl

theorem AtomAlike.hasText_eq {a b : Atom} (halike : like.AtomAlike a b) :
    a.hasText = b.hasText := by
  obtain ⟨x, y, rfl, rfl, -⟩ | ⟨rfl, -⟩ := halike.cases
  · rfl
  · rfl

theorem equal_congr {a b x y : Decimal} (hx : like.number a x) (hy : like.number b y) :
    a.equal b = x.equal y := by
  rw [Bool.eq_iff_iff, Decimal.equal_iff, Decimal.equal_iff, like.value_eq hx, like.value_eq hy]

theorem same_number_left {a : Decimal} {b : Atom} (hb : ∀ x, b ≠ .number x) :
    (Atom.number a).same b = false := by
  cases b with
  | number x => exact absurd rfl (hb x)
  | _ => rfl

theorem same_number_right {a : Atom} {b : Decimal} (ha : ∀ x, a ≠ .number x) :
    a.same (.number b) = false := by
  cases a with
  | number x => exact absurd rfl (ha x)
  | foreign identity kind text => cases kind <;> rfl
  | _ => rfl

theorem AtomAlike.same_congr {a b x y : Atom} (hx : like.AtomAlike a x) (hy : like.AtomAlike b y) :
    a.same b = x.same y := by
  obtain ⟨m, m', rfl, rfl, hm⟩ | ⟨rfl, -, hm⟩ := hx.cases <;>
    obtain ⟨n, n', rfl, rfl, hn⟩ | ⟨rfl, -, hn⟩ := hy.cases
  · exact equal_congr hm hn
  · rw [same_number_left hn, same_number_left hn]
  · rw [same_number_right hm, same_number_right hm]
  · rfl

/-! ## What alike nodes have in common -/

/-- Nodes that are alike are of one shape. -/
theorem Alike.cases {node other : Node} (halike : like.Alike node other) :
    (∃ token token' a b, node = .atom token a ∧ other = .atom token' b ∧
        like.token token token' ∧ like.AtomAlike a b) ∨
      (∃ token token' items items', node = .list token items ∧ other = .list token' items' ∧
        like.token token token' ∧ like.AllAlike items items') ∨
      ∃ token token' identity identity' params body body' home home',
        node = .closure token identity params body home ∧
        other = .closure token' identity' params body' home' ∧ like.token token token' ∧
        like.identity identity identity' ∧ (∀ name ∈ params, like.atom (.symbol name)) ∧
        like.AllAlike body body' ∧ like.home home home' := by
  cases node with
  | atom token a =>
      cases other with
      | atom token' b => exact .inl ⟨_, _, _, _, rfl, rfl, halike⟩
      | list => exact halike.elim
      | closure => exact halike.elim
  | list token items =>
      cases other with
      | atom => exact halike.elim
      | list token' items' => exact .inr (.inl ⟨_, _, _, _, rfl, rfl, halike⟩)
      | closure => exact halike.elim
  | closure token identity params body home =>
      cases other with
      | atom => exact halike.elim
      | list => exact halike.elim
      | closure token' identity' params' body' home' =>
          obtain ⟨htoken, hidentity, rfl, hparams, hbody, hhome⟩ := halike
          exact .inr (.inr ⟨_, _, _, _, _, _, _, _, _, rfl, rfl, htoken, hidentity, hparams, hbody,
            hhome⟩)

/-- A node like an atom that is no number is that atom. -/
theorem Alike.exists_atom {token : Option Token} {a : Atom} {other : Node}
    (halike : like.Alike (.atom token a) other) (hnumber : ∀ x, a ≠ .number x) :
    ∃ token', other = .atom token' a ∧ like.token token token' ∧ like.atom a := by
  obtain ⟨_, token', _, b, hnode, rfl, htoken, hatom⟩ | ⟨_, _, _, _, hnode, -⟩ |
    ⟨_, _, _, _, _, _, _, _, _, hnode, -⟩ := halike.cases
  · cases hnode
    obtain ⟨x, -, rfl, -⟩ | ⟨rfl, hadmitted, -⟩ := hatom.cases
    · exact absurd rfl (hnumber x)
    · exact ⟨token', rfl, htoken, hadmitted⟩
  · cases hnode
  · cases hnode

mutual

/-- Nodes that are alike have the same text, if they have one. -/
theorem Alike.text_eq : {node other : Node} → like.Alike node other →
    node.text = other.text ∧ node.hasText = other.hasText
  | .atom .., .atom .., halike => by
    simp only [Node.text, Node.hasText, halike.2.text_eq, halike.2.hasText_eq, and_self]
  | .list .., .list .., halike => by
    obtain ⟨htexts, hhave⟩ := AllAlike.texts_eq halike.2
    simp only [Node.text, Node.hasText, htexts, hhave, and_self]
  | .closure .., .closure .., halike => by
    simp only [Node.text, Node.hasText, halike.2.2.1, and_self]
  | .atom .., .list .., halike | .atom .., .closure .., halike => halike.elim
  | .list .., .atom .., halike | .list .., .closure .., halike => halike.elim
  | .closure .., .atom .., halike | .closure .., .list .., halike => halike.elim

theorem AllAlike.texts_eq : {nodes others : List Node} → like.AllAlike nodes others →
    Node.texts nodes = Node.texts others ∧ Node.haveText nodes = Node.haveText others
  | [], [], _ => ⟨rfl, rfl⟩
  | _ :: _, _ :: _, halike => by
    obtain ⟨htext, hhas⟩ := Alike.text_eq halike.1
    obtain ⟨htexts, hhave⟩ := AllAlike.texts_eq halike.2
    simp only [Node.texts, Node.haveText, htext, hhas, htexts, hhave, and_self]
  | [], _ :: _, halike | _ :: _, [], halike => halike.elim

end

mutual

/-- Equality does not tell nodes from nodes like them. -/
theorem Alike.same_congr : {a b x y : Node} → like.Alike a x → like.Alike b y →
    a.same b = x.same y
  | .atom .., b, .atom .., y, ha, hb => by
    obtain ⟨_, _, _, _, rfl, rfl, -, hatom⟩ | ⟨_, _, _, _, rfl, rfl, -⟩ |
      ⟨_, _, _, _, _, _, _, _, _, rfl, rfl, -⟩ := hb.cases
    · simp only [Node.same, ha.2.same_congr hatom]
    · rfl
    · rfl
  | .list .., b, .list .., y, ha, hb => by
    obtain ⟨_, _, _, _, rfl, rfl, -⟩ | ⟨_, _, _, _, rfl, rfl, -, hitems⟩ |
      ⟨_, _, _, _, _, _, _, _, _, rfl, rfl, -⟩ := hb.cases
    · rfl
    · simp only [Node.same, AllAlike.sameAll_congr ha.2 hitems]
    · rfl
  | .closure .., b, .closure .., y, ha, hb => by
    obtain ⟨_, _, _, _, rfl, rfl, -⟩ | ⟨_, _, _, _, rfl, rfl, -⟩ |
      ⟨_, _, _, _, _, _, _, _, _, rfl, rfl, -, hidentity, -⟩ := hb.cases
    · rfl
    · rfl
    -- closures are told apart by their identities, which need not be the same in both runs
    · rw [Node.same, Node.same, Bool.eq_iff_iff, beq_iff_eq, beq_iff_eq]
      exact like.identity_iff ha.2.1 hidentity
  | .atom .., _, .list .., _, halike, _ | .atom .., _, .closure .., _, halike, _ => halike.elim
  | .list .., _, .atom .., _, halike, _ | .list .., _, .closure .., _, halike, _ => halike.elim
  | .closure .., _, .atom .., _, halike, _ | .closure .., _, .list .., _, halike, _ => halike.elim

theorem AllAlike.sameAll_congr : {as bs xs ys : List Node} → like.AllAlike as xs →
    like.AllAlike bs ys → Node.sameAll as bs = Node.sameAll xs ys
  | [], bs, [], ys, _, hbs => by
    cases bs with
    | nil => rw [hbs.eq_nil]
    | cons b bs =>
        obtain ⟨y, ys, rfl, -, -⟩ := hbs.exists_cons
        rfl
  | _ :: _, bs, _ :: _, ys, has, hbs => by
    cases bs with
    | nil =>
        rw [hbs.eq_nil]
        rfl
    | cons b bs =>
        obtain ⟨y, ys, rfl, hb, hbs⟩ := hbs.exists_cons
        rw [Node.sameAll, Node.sameAll, Alike.same_congr has.1 hb,
          AllAlike.sameAll_congr has.2 hbs]
  | [], _, _ :: _, _, halike, _ | _ :: _, _, [], _, halike, _ => halike.elim

end

theorem Alike.token_alike {node other : Node} (halike : like.Alike node other) :
    like.token node.token? other.token? := by
  obtain ⟨_, _, _, _, rfl, rfl, htoken, -⟩ | ⟨_, _, _, _, rfl, rfl, htoken, -⟩ |
    ⟨_, _, _, _, _, _, _, _, _, rfl, rfl, htoken, -⟩ := halike.cases
  · exact htoken
  · exact htoken
  · exact htoken

theorem Alike.kind_eq {node other : Node} (halike : like.Alike node other) :
    node.kind = other.kind := by
  obtain ⟨_, _, _, _, rfl, rfl, -, hatom⟩ | ⟨_, _, _, _, rfl, rfl, -⟩ |
    ⟨_, _, _, _, _, _, _, _, _, rfl, rfl, -⟩ := halike.cases
  · exact hatom.kind_eq
  · rfl
  · rfl

/-- The truth value and the name in a node, and whether it can be applied, are the
same in a node like it. -/
theorem Alike.observed_eq {node other : Node} (halike : like.Alike node other) :
    node.bool? = other.bool? ∧ node.symbol? = other.symbol? ∧
      node.isCallable = other.isCallable := by
  obtain ⟨_, _, a, _, rfl, rfl, -, hatom⟩ | ⟨_, _, _, _, rfl, rfl, -⟩ |
    ⟨_, _, _, _, _, _, _, _, _, rfl, rfl, -⟩ := halike.cases
  · obtain ⟨_, _, rfl, rfl, -⟩ | ⟨rfl, -⟩ := hatom.cases
    · exact ⟨rfl, rfl, rfl⟩
    · cases a <;> exact ⟨rfl, rfl, rfl⟩
  · exact ⟨rfl, rfl, rfl⟩
  · exact ⟨rfl, rfl, rfl⟩

theorem Alike.isFalsy_eq {node other : Node} (halike : like.Alike node other) :
    node.isFalsy = other.isFalsy := by
  rw [Node.isFalsy, Node.isFalsy, halike.kind_eq, halike.observed_eq.1]

/-- A name that occurs is one of those that may occur. -/
theorem Alike.name_admitted {node other : Node} (halike : like.Alike node other) {name : String}
    (hname : node.symbol? = some name) : like.atom (.symbol name) := by
  unfold Node.symbol? at hname
  split at hname
  · cases hname
    obtain ⟨-, -, -, hadmitted⟩ := halike.exists_atom (by simp)
    exact hadmitted
  · cases hname

/-- Either both of two nodes that are alike are lists, or neither. -/
theorem Alike.items_alike {node other : Node} (halike : like.Alike node other) :
    (node.items? = none ∧ other.items? = none) ∨
      ∃ items items', node.items? = some items ∧ other.items? = some items' ∧
        like.AllAlike items items' := by
  obtain ⟨_, _, _, _, rfl, rfl, -⟩ | ⟨_, _, items, items', rfl, rfl, -, hitems⟩ |
    ⟨_, _, _, _, _, _, _, _, _, rfl, rfl, -⟩ := halike.cases
  · exact .inl ⟨rfl, rfl⟩
  · exact .inr ⟨items, items', rfl, rfl, hitems⟩
  · exact .inl ⟨rfl, rfl⟩

/-- Either both of two nodes that are alike are numbers, or neither. -/
theorem Alike.number_alike {node other : Node} (halike : like.Alike node other) :
    (node.number? = none ∧ other.number? = none) ∨
      ∃ x y, node.number? = some x ∧ other.number? = some y ∧ like.number x y := by
  obtain ⟨_, _, _, _, rfl, rfl, -, hatom⟩ | ⟨_, _, _, _, rfl, rfl, -⟩ |
    ⟨_, _, _, _, _, _, _, _, _, rfl, rfl, -⟩ := halike.cases
  · obtain ⟨x, y, rfl, rfl, hnumber⟩ | ⟨rfl, -, hnumber⟩ := hatom.cases
    · exact .inr ⟨x, y, rfl, rfl, hnumber⟩
    · refine .inl ?_
      unfold Node.number?
      split
      · next heq => cases heq; exact absurd rfl (hnumber _)
      · split
        · next heq => cases heq; exact absurd rfl (hnumber _)
        · exact ⟨rfl, rfl⟩
  · exact .inl ⟨rfl, rfl⟩
  · exact .inl ⟨rfl, rfl⟩

theorem Alike.displayText_eq {node other : Node} (halike : like.Alike node other) :
    node.displayText = other.displayText := by
  obtain ⟨_, _, a, _, rfl, rfl, -, hatom⟩ | ⟨_, _, _, _, rfl, rfl, -⟩ |
    ⟨_, _, _, _, _, _, _, _, _, rfl, rfl, -⟩ := halike.cases
  · obtain ⟨_, _, rfl, rfl, -⟩ | ⟨rfl, -⟩ := hatom.cases
    · exact halike.text_eq.1
    · cases a <;> rfl
  · exact halike.text_eq.1
  · exact halike.text_eq.1

/-! ## Nodes that are like themselves -/

mutual

/-- A node is like itself if the atoms in it may occur and the identities and scopes of
the closures in it may stand for themselves. -/
theorem alike_self_of (htoken : ∀ token, like.token token token) :
    (node : Node) → (∀ a ∈ node.atoms, like.atom a) →
      (∀ identity ∈ node.identities, like.identity identity identity) →
      (∀ scope ∈ node.homes, like.home scope scope) → like.Alike node node
  | .atom token a, hatoms, _, _ => ⟨htoken token, .of_atom (hatoms a List.mem_cons_self)⟩
  | .list token items, hatoms, hidentities, hhomes =>
    ⟨htoken token, allAlike_self_of htoken items hatoms hidentities hhomes⟩
  | .closure token identity params body home, hatoms, hidentities, hhomes => by
    simp only [Node.atoms, List.mem_append, List.mem_map] at hatoms
    simp only [Node.identities, List.mem_cons] at hidentities
    simp only [Node.homes, List.mem_cons] at hhomes
    refine ⟨htoken token, hidentities identity (.inl rfl), rfl, ?_, ?_, hhomes home (.inl rfl)⟩
    · intro name hname
      exact hatoms _ (.inl ⟨name, hname, rfl⟩)
    · exact allAlike_self_of htoken body (fun a ha => hatoms a (.inr ha))
        (fun i hi => hidentities i (.inr hi)) (fun s hs => hhomes s (.inr hs))

/-- The same for lists of nodes. -/
theorem allAlike_self_of (htoken : ∀ token, like.token token token) :
    (nodes : List Node) → (∀ a ∈ Node.atomsAll nodes, like.atom a) →
      (∀ identity ∈ Node.identitiesAll nodes, like.identity identity identity) →
      (∀ scope ∈ Node.homesAll nodes, like.home scope scope) → like.AllAlike nodes nodes
  | [], _, _, _ => trivial
  | node :: rest, hatoms, hidentities, hhomes => by
    simp only [Node.atomsAll, List.mem_append] at hatoms
    simp only [Node.identitiesAll, List.mem_append] at hidentities
    simp only [Node.homesAll, List.mem_append] at hhomes
    constructor
    · exact alike_self_of htoken node (fun a ha => hatoms a (.inl ha))
        (fun i hi => hidentities i (.inl hi)) (fun s hs => hhomes s (.inl hs))
    · exact allAlike_self_of htoken rest (fun a ha => hatoms a (.inr ha))
        (fun i hi => hidentities i (.inr hi)) (fun s hs => hhomes s (.inr hs))

end

theorem alike_self (hself : ∀ token identity, like.token token token ∧
    like.identity identity identity) (node : Node) (hatoms : ∀ a ∈ node.atoms, like.atom a)
    (hhomes : ∀ scope ∈ node.homes, like.home scope scope) : like.Alike node node :=
  alike_self_of (fun token => (hself token 0).1) node hatoms (fun i _ => (hself none i).2) hhomes

theorem allAlike_self (hself : ∀ token identity, like.token token token ∧
    like.identity identity identity) (nodes : List Node)
    (hatoms : ∀ a ∈ Node.atomsAll nodes, like.atom a)
    (hhomes : ∀ scope ∈ Node.homesAll nodes, like.home scope scope) : like.AllAlike nodes nodes :=
  allAlike_self_of (fun token => (hself token 0).1) nodes hatoms (fun i _ => (hself none i).2) hhomes

/-! ## Likenesses under which nothing differs -/

/-- A likeness that only takes things for alike that are equal. -/
structure IsExact (like : Likeness) : Prop where
  token_eq {token token' : Option Token} : like.token token token' → token = token'
  number_eq {a b : Decimal} : like.number a b → a = b
  identity_eq {i j : Nat} : like.identity i j → i = j
  home_eq {s t : ScopeId} : like.home s t → s = t

/-- Equal nodes with atoms and closures of the given sorts. -/
def exact (atom : Atom → Prop) (home : ScopeId → Prop) (hnil : atom .nil)
    (hbool : ∀ value, atom (.bool value)) : Likeness where
  token t t' := t = t'
  number a b := a = b
  atom := atom
  identity i j := i = j
  home s s' := s = s' ∧ home s
  token_none := rfl
  token_or ht hu := by rw [ht, hu]
  number_self _ := rfl
  value_eq hnumber := by rw [hnumber]
  atom_nil := hnil
  atom_bool := hbool
  identity_iff := Eq.congr

theorem exact_isExact {atom : Atom → Prop} {home : ScopeId → Prop} {hnil : atom .nil}
    {hbool : ∀ value, atom (.bool value)} : (exact atom home hnil hbool).IsExact where
  token_eq htoken := htoken
  number_eq hnumber := hnumber
  identity_eq hidentity := hidentity
  home_eq hhome := hhome.1

theorem AtomAlike.eq (hexact : like.IsExact) {a b : Atom} (halike : like.AtomAlike a b) :
    a = b := by
  obtain ⟨x, y, rfl, rfl, hnumber⟩ | ⟨rfl, -⟩ := halike.cases
  · rw [hexact.number_eq hnumber]
  · rfl

mutual

theorem Alike.eq (hexact : like.IsExact) : {node other : Node} → like.Alike node other →
    node = other
  | .atom .., .atom .., halike => by rw [hexact.token_eq halike.1, halike.2.eq hexact]
  | .list .., .list .., halike => by rw [hexact.token_eq halike.1, AllAlike.eq hexact halike.2]
  | .closure .., .closure .., halike => by
    obtain ⟨htoken, hidentity, hparams, -, hbody, hhome⟩ := halike
    rw [hexact.token_eq htoken, hexact.identity_eq hidentity, hparams, AllAlike.eq hexact hbody,
      hexact.home_eq hhome]
  | .atom .., .list .., halike | .atom .., .closure .., halike => halike.elim
  | .list .., .atom .., halike | .list .., .closure .., halike => halike.elim
  | .closure .., .atom .., halike | .closure .., .list .., halike => halike.elim

theorem AllAlike.eq (hexact : like.IsExact) : {nodes others : List Node} →
    like.AllAlike nodes others → nodes = others
  | [], [], _ => rfl
  | _ :: _, _ :: _, halike => by rw [Alike.eq hexact halike.1, AllAlike.eq hexact halike.2]
  | [], _ :: _, halike | _ :: _, [], halike => halike.elim

end

theorem eq_of_rel (hexact : like.IsExact) {found found' : Option Node}
    (hrel : Option.Rel like.Alike found found') : found = found' := by
  cases hrel with
  | some halike => rw [halike.eq hexact]
  | none => rfl

theorem BindingsAlike.eq (hexact : like.IsExact) {bindings others : List (String × Node)}
    (halike : like.BindingsAlike bindings others) : bindings = others := by
  induction halike with
  | nil => rfl
  | cons hfirst _ ih => rw [ih, Prod.ext hfirst.1 (hfirst.2.2.eq hexact)]

/-! ## Nodes made by a program -/

theorem alike_nil : like.Alike .nil .nil := ⟨like.token_none, .of_atom like.atom_nil⟩

theorem alike_bool (value : Bool) : like.Alike (.bool value) (.bool value) :=
  ⟨like.token_none, .of_atom (like.atom_bool value)⟩

theorem alike_number {a b : Decimal} (hnumber : like.number a b) :
    like.Alike (.number a) (.number b) :=
  ⟨like.token_none, hnumber⟩

theorem alike_ofList {items items' : List Node} (hitems : like.AllAlike items items') :
    like.Alike (.ofList items) (.ofList items') :=
  ⟨like.token_none, hitems⟩

end Likeness

end Lisplet
