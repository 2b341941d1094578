import Lisplet.Proofs.Reading.Grammar
import Mathlib.Algebra.BigOperators.Group.List.Basic
import Mathlib.Algebra.Order.Ring.Int

/-!
# What is wrong with a sequence of tokens

Whether tokens can be read, and what is wrong with them if not, is settled by two
places: where the bracket that opens the program is closed, and where the first token
stands that no program can hold. Whichever comes first decides. Tokens that can be read
are the tokens of the tree in order, and of no other tree.
-/

namespace Lisplet

namespace Program

/-! ## The verdict -/

/-- By how much a token changes the number of open lists. -/
def bracket (token : Token) : Int :=
  match token.kind with
  | .opening => 1
  | .closing => -1
  | _ => 0

/-- How many more lists are opened than closed. -/
def level (tokens : List Token) : Int := (tokens.map bracket).sum

/-- Whether no program can hold a token: a number or a symbol that is not written like
one, and anything that is no bracket, number, string or symbol. -/
def isBad (token : Token) : Bool :=
  match token.kind with
  | .opening | .closing | .string => false
  | .number => (Decimal.ofText? token.text).isNone
  | .symbol => !isSymbolName token.text.toList
  | _ => true

/-- The first place where as many lists are closed as were opened. -/
def closingIndex? (tokens : List Token) : Option Nat :=
  (List.range tokens.length).find? fun i => level (tokens.take (i + 1)) = 0

/-- The first place after the first token where a bad one stands. -/
def badIndex? (tokens : List Token) : Option Nat :=
  (List.range tokens.length).find? fun i => decide (1 ≤ i) && tokens[i]?.any isBad

/-- What is wrong with a bad token. -/
def badCause (token : Token) : SyntaxCause :=
  if token.kind = .number then .number else .unexpectedToken

/-- What is wrong with a sequence of tokens. -/
def verdict? (tokens : List Token) : Option SyntaxError :=
  match tokens.head? with
  | none => some ⟨.parenthesis, none⟩
  | some first =>
    if first.kind ≠ .opening then some ⟨.parenthesis, some first⟩
    else
      match (badIndex? tokens).filter fun b => (closingIndex? tokens).all (b < ·) with
      | some b => tokens[b]?.map fun token => ⟨badCause token, some token⟩
      | none =>
        match closingIndex? tokens with
        | none => some ⟨.unclosed, tokens.getLast?⟩
        | some j => if j + 1 < tokens.length then some ⟨.unopened, tokens[j - 1]?⟩ else none

/-! ## Levels -/

@[simp]
theorem level_nil : level [] = 0 := rfl

@[simp]
theorem level_cons (token : Token) (rest : List Token) :
    level (token :: rest) = bracket token + level rest := by
  simp [level]

theorem level_take_succ {tokens : List Token} {i : Nat} {token : Token}
    (htoken : tokens[i]? = some token) :
    level (tokens.take (i + 1)) = level (tokens.take i) + bracket token := by
  simp [level, List.take_add_one, htoken]

theorem neg_one_le_bracket (token : Token) : -1 ≤ bracket token := by
  unfold bracket
  split <;> decide

theorem kind_of_bracket_neg {token : Token} (hneg : bracket token < 0) :
    token.kind = .closing ∧ bracket token = -1 := by
  unfold bracket at hneg ⊢
  split at hneg
  · exact absurd hneg (by decide)
  next hkind => simp [hkind]
  · exact absurd hneg (by decide)

/-- As long as the list that the first token opens is not closed, it stays open. -/
theorem level_pos {tokens : List Token} {first : Token} (hfirst : tokens[0]? = some first)
    (hopening : first.kind = .opening) {n : Nat} (hn : n < tokens.length)
    (hopen : ∀ i ≤ n, level (tokens.take (i + 1)) ≠ 0) : 0 < level (tokens.take (n + 1)) := by
  induction n with
  | zero =>
      rw [level_take_succ hfirst]
      simp [bracket, hopening]
  | succ n ih =>
      have hbefore := ih (by omega) fun i hi => hopen i (by omega)
      have hhere := hopen (n + 1) (Nat.le_refl _)
      rw [level_take_succ (List.getElem?_eq_getElem hn)] at hhere ⊢
      have hstep := neg_one_le_bracket tokens[n + 1]
      omega

/-! ## Tokens that can and cannot be read -/

theorem exists_atom_of_not_isBad {token : Token} (hgood : isBad token = false)
    (hopening : token.kind ≠ .opening) (hclosing : token.kind ≠ .closing) :
    ∃ atom, atom? token = .ok atom := by
  unfold isBad at hgood
  unfold atom?
  cases hkind : token.kind with
  | opening => exact absurd hkind hopening
  | closing => exact absurd hkind hclosing
  | number =>
      rw [hkind] at hgood
      obtain ⟨value, hvalue⟩ := Option.isSome_iff_exists.mp (by simpa using hgood)
      exact ⟨.number value, by simp [hvalue]⟩
  | string => exact ⟨_, rfl⟩
  | symbol =>
      rw [hkind] at hgood
      exact ⟨.symbol token.text, by simpa using hgood⟩
  | unknown => simp [hkind] at hgood
  | other code => simp [hkind] at hgood

theorem atom?_of_isBad {token : Token} (hbad : isBad token = true) :
    token.kind ≠ .opening ∧ token.kind ≠ .closing ∧ atom? token = .error (badCause token) := by
  unfold isBad at hbad
  unfold atom? badCause
  cases hkind : token.kind with
  | opening => simp [hkind] at hbad
  | closing => simp [hkind] at hbad
  | string => simp [hkind] at hbad
  | number =>
      rw [hkind] at hbad
      have hnone : Decimal.ofText? token.text = none := by simpa using hbad
      simp [hnone]
  | symbol =>
      rw [hkind] at hbad
      have hname : isSymbolName token.text.toList = false := by simpa using hbad
      simp [hname]
  | unknown => simp
  | other code => simp

theorem bracket_of_not_bracket {token : Token} (hopening : token.kind ≠ .opening)
    (hclosing : token.kind ≠ .closing) : bracket token = 0 := by
  unfold bracket
  split
  next hkind => exact absurd hkind hopening
  next hkind => exact absurd hkind hclosing
  · rfl

/-! ## Reading up to a place -/

/-- Reading passes over good tokens that close none of the lists around them, and the
number of lists around what comes next is told by their level. -/
theorem exists_readOn_append (inner : List Token) :
    ∀ (table : SymbolTable) (frame : Frame) (outer : List Frame) (previous : Token)
      (rest : List Token), (∀ token ∈ inner, isBad token = false) →
      (∀ i, 0 ≤ outer.length + level (inner.take i)) →
      ∃ table' frame' outer', (outer'.length : Int) = outer.length + level inner ∧
        readOn table frame outer previous (inner ++ rest) =
          readOn table' frame' outer' (inner.getLastD previous) rest := by
  induction inner with
  | nil => exact fun table frame outer previous rest _ _ => ⟨table, frame, outer, by simp, rfl⟩
  | cons token inner ih =>
      intro table frame outer previous rest hgood hinside
      have hhead := hgood token List.mem_cons_self
      have htail : ∀ other ∈ inner, isBad other = false :=
        fun other hother => hgood other (List.mem_cons_of_mem _ hother)
      have hafter : ∀ i, 0 ≤ outer.length + (bracket token + level (inner.take i)) := by
        intro i
        simpa using hinside (i + 1)
      rw [List.cons_append, List.getLastD_cons, level_cons]
      by_cases hopening : token.kind = .opening
      · have hbracket : bracket token = 1 := by simp [bracket, hopening]
        rw [hbracket] at hafter ⊢
        obtain ⟨table', frame', outer', hlength, hread⟩ :=
          ih table ⟨token, []⟩ (frame :: outer) token rest htail fun i => by
            have hi := hafter i
            rw [List.length_cons]
            omega
        refine ⟨table', frame', outer', ?_, by rw [readOn_opening hopening, hread]⟩
        rw [List.length_cons] at hlength
        omega
      by_cases hclosing : token.kind = .closing
      · have hbracket : bracket token = -1 := by simp [bracket, hclosing]
        rw [hbracket] at hafter ⊢
        -- the list that is closed here has one around it
        obtain ⟨parent, outer, rfl⟩ : ∃ parent others, outer = parent :: others := by
          cases outer with
          | nil => simpa using hafter 0
          | cons parent others => exact ⟨parent, others, rfl⟩
        rw [List.length_cons] at hafter ⊢
        obtain ⟨table', frame', outer', hlength, hread⟩ :=
          ih table (parent.push frame.close) outer token rest htail fun i => by
            have hi := hafter i
            omega
        refine ⟨table', frame', outer', ?_, by rw [readOn_closing hclosing, hread]⟩
        omega
      · rw [bracket_of_not_bracket hopening hclosing] at hafter ⊢
        obtain ⟨atom, hatom⟩ := exists_atom_of_not_isBad hhead hopening hclosing
        obtain ⟨table', frame', outer', hlength, hread⟩ :=
          ih (note table atom) (frame.push (.atom (some token) atom)) outer token rest htail
            fun i => by simpa using hafter i
        exact ⟨table', frame', outer', by simpa using hlength, by rw [readOn_atom hatom, hread]⟩

/-- Tokens are read up to any place that neither a bad token nor the end of the program
comes before. -/
theorem exists_readOn_drop {tokens : List Token} {first : Token} (hfirst : tokens[0]? = some first)
    (hopening : first.kind = .opening) {n : Nat} (hn : n < tokens.length)
    (hopen : ∀ i ≤ n, level (tokens.take (i + 1)) ≠ 0)
    (hgood : ∀ i, 1 ≤ i → i ≤ n → ∀ token, tokens[i]? = some token → isBad token = false) :
    ∃ table frame outer previous, tokens[n]? = some previous ∧
      (outer.length : Int) + 1 = level (tokens.take (n + 1)) ∧
        readTokens tokens = readOn table frame outer previous (tokens.drop (n + 1)) := by
  cases tokens with
  | nil => cases hfirst
  | cons head others =>
      obtain rfl : head = first := by simpa using hfirst
      have hbracket : bracket head = 1 := by simp [bracket, hopening]
      have hinner : ∀ token ∈ others.take n, isBad token = false := by
        intro token htoken
        obtain ⟨i, hi, rfl⟩ := List.mem_take_iff_getElem.mp htoken
        exact hgood (i + 1) (by omega) (by omega) _ (by simp)
      have hinside : ∀ i, 0 ≤ ([] : List Frame).length + level ((others.take n).take i) := by
        intro i
        have hpos := level_pos hfirst hopening (n := min i n) (by omega)
          fun k hk => hopen k (by omega)
        rw [List.take_succ_cons, level_cons, hbracket] at hpos
        rw [List.take_take, List.length_nil]
        omega
      obtain ⟨table, frame, outer, hlength, hread⟩ :=
        exists_readOn_append (others.take n) .empty ⟨head, []⟩ [] head (others.drop n) hinner hinside
      refine ⟨table, frame, outer, (others.take n).getLastD head, ?_, ?_, ?_⟩
      · cases n with
        | zero => simp
        | succ n =>
            rw [List.length_cons] at hn
            rw [List.getElem?_cons_succ, List.getLastD_eq_getLast?, List.getLast?_take]
            simp [List.getElem?_eq_getElem (by omega : n < others.length)]
      · rw [List.take_succ_cons, level_cons, hbracket, hlength]
        simp [Int.add_comm]
      · rw [List.take_append_drop] at hread
        rw [readTokens, hopening, List.drop_succ_cons]
        exact hread

/-! ## The two places -/

variable {tokens : List Token}

theorem closingIndex?_eq_some_iff {j : Nat} : closingIndex? tokens = some j ↔
    j < tokens.length ∧ level (tokens.take (j + 1)) = 0 ∧
      ∀ i < j, level (tokens.take (i + 1)) ≠ 0 := by
  rw [closingIndex?, List.find?_range_eq_some]
  simp only [decide_eq_true_eq, List.mem_range, Bool.not_eq_true', decide_eq_false_iff_not]
  tauto

theorem closingIndex?_eq_none_iff : closingIndex? tokens = none ↔
    ∀ i < tokens.length, level (tokens.take (i + 1)) ≠ 0 := by
  simp [closingIndex?]

theorem badIndex?_eq_some {b : Nat} (hbad : badIndex? tokens = some b) :
    1 ≤ b ∧ (∃ token, tokens[b]? = some token ∧ isBad token = true) ∧
      ∀ i, 1 ≤ i → i < b → ∀ token, tokens[i]? = some token → isBad token = false := by
  rw [badIndex?, List.find?_range_eq_some] at hbad
  obtain ⟨hhere, -, hbefore⟩ := hbad
  rw [Bool.and_eq_true, decide_eq_true_eq, Option.any_eq_true] at hhere
  refine ⟨hhere.1, hhere.2, ?_⟩
  intro i hone hi token htoken
  simpa [hone, htoken] using hbefore i hi

theorem badIndex?_eq_none (hbad : badIndex? tokens = none) :
    ∀ i, 1 ≤ i → ∀ token, tokens[i]? = some token → isBad token = false := by
  rw [badIndex?, List.find?_range_eq_none] at hbad
  intro i hone token htoken
  obtain ⟨hi, -⟩ := List.getElem?_eq_some_iff.mp htoken
  simpa [hone, htoken] using hbad i hi

variable {first : Token}

/-- A bad token before the end of the program is the error. -/
theorem readTokens_of_bad (hfirst : tokens[0]? = some first) (hopening : first.kind = .opening)
    {b : Nat} (hbad : badIndex? tokens = some b)
    (hend : ∀ j, closingIndex? tokens = some j → b < j) :
    ∃ token, tokens[b]? = some token ∧
      (readTokens tokens).1 = .error ⟨badCause token, some token⟩ := by
  obtain ⟨hone, ⟨token, htoken, hisBad⟩, hgood⟩ := badIndex?_eq_some hbad
  obtain ⟨hb, hget⟩ := List.getElem?_eq_some_iff.mp htoken
  have hopen : ∀ i ≤ b - 1, level (tokens.take (i + 1)) ≠ 0 := by
    intro i hi
    cases hclosing : closingIndex? tokens with
    | none => exact closingIndex?_eq_none_iff.mp hclosing i (by omega)
    | some j =>
        have hj := hend j hclosing
        exact (closingIndex?_eq_some_iff.mp hclosing).2.2 i (by omega)
  obtain ⟨table, frame, outer, previous, -, -, hread⟩ :=
    exists_readOn_drop hfirst hopening (by omega : b - 1 < tokens.length) hopen
      fun i hi hle => hgood i hi (by omega)
  obtain ⟨hnotOpening, hnotClosing, hatom⟩ := atom?_of_isBad hisBad
  refine ⟨token, htoken, ?_⟩
  rw [hread, Nat.sub_add_cancel hone, List.drop_eq_getElem_cons hb, hget,
    readOn_error hnotOpening hnotClosing hatom]

/-- Good tokens that never close the program end inside it. -/
theorem readTokens_of_open (hfirst : tokens[0]? = some first) (hopening : first.kind = .opening)
    (hbad : badIndex? tokens = none) (hend : closingIndex? tokens = none) :
    (readTokens tokens).1 = .error ⟨.unclosed, tokens.getLast?⟩ := by
  obtain ⟨hlength, -⟩ := List.getElem?_eq_some_iff.mp hfirst
  obtain ⟨table, frame, outer, previous, hprevious, -, hread⟩ :=
    exists_readOn_drop hfirst hopening (by omega : tokens.length - 1 < tokens.length)
      (fun i hi => closingIndex?_eq_none_iff.mp hend i (by omega))
      (fun i hi _ => badIndex?_eq_none hbad i hi)
  rw [hread, Nat.sub_add_cancel hlength, List.drop_length, readOn, List.getLast?_eq_getElem?,
    hprevious]

/-- Where the program is closed before any bad token, it has to be the end of the tokens. -/
theorem readTokens_of_closed (hfirst : tokens[0]? = some first) (hopening : first.kind = .opening)
    {j : Nat} (hend : closingIndex? tokens = some j)
    (hbad : ∀ b, badIndex? tokens = some b → j ≤ b) :
    if j + 1 < tokens.length then (readTokens tokens).1 = .error ⟨.unopened, tokens[j - 1]?⟩
    else ∃ root, (readTokens tokens).1 = .ok root := by
  obtain ⟨hj, hzero, hopen⟩ := closingIndex?_eq_some_iff.mp hend
  have hpositive : 1 ≤ j := by
    by_contra hnot
    obtain rfl : j = 0 := by omega
    rw [level_take_succ hfirst] at hzero
    simp [bracket, hopening] at hzero
  have hgood : ∀ i, 1 ≤ i → i ≤ j - 1 → ∀ token, tokens[i]? = some token → isBad token = false := by
    intro i hi hle
    cases hindex : badIndex? tokens with
    | none => exact badIndex?_eq_none hindex i hi
    | some b =>
        have hb := hbad b hindex
        exact (badIndex?_eq_some hindex).2.2 i hi (by omega)
  obtain ⟨table, frame, outer, previous, hprevious, hlevel, hread⟩ :=
    exists_readOn_drop hfirst hopening (by omega : j - 1 < tokens.length)
      (fun i hi => hopen i (by omega)) hgood
  rw [Nat.sub_add_cancel hpositive] at hlevel hread
  -- only the outermost list is open here, and this token closes it
  rw [level_take_succ (List.getElem?_eq_getElem hj), ← hlevel] at hzero
  obtain ⟨hclosing, hone⟩ := kind_of_bracket_neg (by omega : bracket tokens[j] < 0)
  obtain rfl : outer = [] := List.eq_nil_of_length_eq_zero (by omega)
  rw [hread, List.drop_eq_getElem_cons hj, readOn_closing_root hclosing, hprevious]
  split
  next hmore => rw [if_neg (by simpa [List.isEmpty_iff] using hmore)]
  next hlast =>
    rw [if_pos (by simpa [List.isEmpty_iff] using hlast)]
    exact ⟨_, rfl⟩

end Program

/-! ## Trees and their tokens -/

/-- Whether an atom is what a token stands for. -/
def Atom.IsOf (token : Token) : Atom → Prop
  | number value => token.kind = .number ∧ Decimal.ofText? token.text = some value
  | string text => token.kind = .string ∧ token.text = text
  | symbol name => token.kind = .symbol ∧ token.text = name ∧ isSymbolName name.toList = true
  | _ => False

namespace Node

mutual

/-- The tokens of a tree in order. A list does not keep the token that closes it, so
nothing but its place is left of that. -/
def flatten : Node → List (Option Token)
  | atom token _ => [token]
  | list token items => token :: (flattenAll items ++ [none])
  | closure .. => []

/-- The tokens of several trees in order. -/
def flattenAll : List Node → List (Option Token)
  | [] => []
  | node :: rest => node.flatten ++ flattenAll rest

end

mutual

/-- Whether all parts of a tree are what their tokens stand for. -/
def IsAsWritten : Node → Prop
  | atom (some token) value => value.IsOf token
  | list (some token) items => token.kind = .opening ∧ AreAsWritten items
  | _ => False

/-- Whether all parts of several trees are what their tokens stand for. -/
def AreAsWritten : List Node → Prop
  | [] => True
  | node :: rest => node.IsAsWritten ∧ AreAsWritten rest

end

end Node

/-- What the tree keeps of a token. -/
def Token.kept? (token : Token) : Option Token :=
  if token.kind = .closing then none else some token

namespace Program

theorem atom?_eq_ok_iff {token : Token} {atom : Atom} :
    atom? token = .ok atom ↔ atom.IsOf token := by
  unfold atom?
  cases hkind : token.kind with
  | number =>
      cases hvalue : Decimal.ofText? token.text <;> cases atom <;> simp [Atom.IsOf, hkind, hvalue]
  | symbol =>
      cases hname : isSymbolName token.text.toList with
      | true =>
          cases atom <;> simp [Atom.IsOf, hkind]
          rintro rfl
          exact hname
      | false =>
          cases atom <;> simp [Atom.IsOf, hkind]
          rintro rfl
          exact hname
  | _ => cases atom <;> simp [Atom.IsOf, hkind]

/-- Trees that tokens spell keep these tokens in order. -/
theorem Spells.flattenAll_eq {tokens : List Token} {nodes : List Node}
    (hspells : Spells tokens nodes) :
    Node.AreAsWritten nodes ∧ Node.flattenAll nodes = tokens.map Token.kept? := by
  induction hspells with
  | nil => exact ⟨trivial, rfl⟩
  | @atom token atom rest nodes hatom _ ih =>
      obtain ⟨hwritten, hflatten⟩ := ih
      have hkept : token.kept? = some token := if_neg (kind_of_atom? hatom).2
      refine ⟨⟨atom?_eq_ok_iff.mp hatom, hwritten⟩, ?_⟩
      simp [Node.flattenAll, Node.flatten, hflatten, hkept]
  | @list opening closing inner rest items nodes hopening hclosing _ _ ihinner ihrest =>
      obtain ⟨hinner, hflatten⟩ := ihinner
      obtain ⟨hwritten, hflatten'⟩ := ihrest
      have hkept : opening.kept? = some opening := if_neg (by simp [hopening])
      have hnone : closing.kept? = none := if_pos hclosing
      refine ⟨⟨⟨hopening, hinner⟩, hwritten⟩, ?_⟩
      simp [Node.flattenAll, Node.flatten, hflatten, hflatten', hkept, hnone]

theorem eq_of_kept? {token kept : Token} (hkept : token.kept? = some kept) : token = kept := by
  unfold Token.kept? at hkept
  split at hkept
  · cases hkept
  · exact Option.some.inj hkept

theorem kind_of_kept? {token : Token} (hkept : token.kept? = none) : token.kind = .closing := by
  unfold Token.kept? at hkept
  split at hkept
  next hkind => exact hkind
  next => cases hkept

mutual

/-- A tree is spelled by any tokens that it keeps in order. -/
theorem exists_spells_of_flatten : (node : Node) → node.IsAsWritten →
    ∀ (tokens : List Token) (rest : List (Option Token)),
      node.flatten ++ rest = tokens.map Token.kept? →
      ∃ first others, tokens = first ++ others ∧ Spells first [node] ∧
        rest = others.map Token.kept?
  | .atom (some token) value, hwritten => by
    rintro (_ | ⟨first, others⟩) rest hflatten
    · cases hflatten
    obtain ⟨hfirst, hrest⟩ := List.cons.inj hflatten
    obtain rfl := eq_of_kept? hfirst.symm
    exact ⟨[first], others, rfl, .atom (atom?_eq_ok_iff.mpr hwritten) .nil, hrest⟩
  | .list (some opening) items, hwritten => by
    rintro (_ | ⟨first, others⟩) rest hflatten
    · cases hflatten
    obtain ⟨hfirst, hrest⟩ := List.cons.inj hflatten
    obtain rfl := eq_of_kept? hfirst.symm
    obtain ⟨inner, others, rfl, hinner, hothers⟩ :=
      exists_spells_of_flattenAll items hwritten.2 others (none :: rest)
        (by rw [← hrest]; simp)
    cases others with
    | nil => cases hothers
    | cons closing others =>
        obtain ⟨hclosing, hrest⟩ := List.cons.inj hothers
        refine ⟨first :: (inner ++ [closing]), others, by simp, ?_, hrest⟩
        exact .list hwritten.1 (kind_of_kept? hclosing.symm) hinner .nil
  | .atom none _, hwritten | .list none _, hwritten | .closure .., hwritten => hwritten.elim

theorem exists_spells_of_flattenAll : (nodes : List Node) → Node.AreAsWritten nodes →
    ∀ (tokens : List Token) (rest : List (Option Token)),
      Node.flattenAll nodes ++ rest = tokens.map Token.kept? →
      ∃ first others, tokens = first ++ others ∧ Spells first nodes ∧
        rest = others.map Token.kept?
  | [], _ => fun tokens _ hflatten => ⟨[], tokens, rfl, .nil, hflatten⟩
  | node :: nodes, hwritten => by
    intro tokens rest hflatten
    rw [Node.flattenAll, List.append_assoc] at hflatten
    obtain ⟨first, others, rfl, hnode, hothers⟩ :=
      exists_spells_of_flatten node hwritten.1 tokens _ hflatten
    obtain ⟨second, others, rfl, hnodes, hrest⟩ :=
      exists_spells_of_flattenAll nodes hwritten.2 others rest hothers
    exact ⟨first ++ second, others, (List.append_assoc ..).symm, hnode.append hnodes, hrest⟩

end

/-- The program that tokens spell is the only tree that keeps them in order. -/
theorem spellsProgram_iff_flatten {first : Token} {others : List Token}
    (hopening : first.kind = .opening) {program : Node} :
    SpellsProgram (first :: others) program ↔
      program.IsAsWritten ∧ program.flatten = (first :: others).map Token.kept? := by
  constructor
  · rintro ⟨opening, closing, inner, items, htokens, hkind, hclosing, hinner, rfl⟩
    obtain ⟨⟨hwritten, -⟩, hflatten⟩ :=
      (Spells.list hkind hclosing hinner .nil).flattenAll_eq
    rw [htokens]
    exact ⟨hwritten, by simpa [Node.flattenAll] using hflatten⟩
  · rintro ⟨hwritten, hflatten⟩
    obtain ⟨tokens, rest, htokens, hspells, hrest⟩ :=
      exists_spells_of_flatten program hwritten (first :: others) [] (by simpa using hflatten)
    obtain rfl : rest = [] := by simpa using hrest.symm
    rw [List.append_nil] at htokens
    subst htokens
    cases hspells with
    | atom hatom _ => exact absurd hopening (kind_of_atom? hatom).1
    | list hkind hclosing hinner hnil =>
        cases hnil
        exact ⟨_, _, _, _, rfl, hkind, hclosing, hinner, rfl⟩

/-- What is read from tokens is the only tree that keeps them in order. -/
theorem flatten_iff_of_readTokens {first : Token} {others : List Token}
    (hopening : first.kind = .opening) {root : Node}
    (hread : (readTokens (first :: others)).1 = .ok root) (tree : Node) :
    (tree.IsAsWritten ∧ tree.flatten = (first :: others).map Token.kept?) ↔ tree = root := by
  rw [← spellsProgram_iff_flatten hopening]
  constructor
  · intro hspells
    rw [readTokens_of_spells hspells] at hread
    exact Except.ok.inj hread
  · rintro rfl
    exact spells_of_readTokens hread

/-- Tokens with nothing wrong are read as the one tree that keeps them in order; all
others give the error that the verdict names. -/
theorem readTokens_verdict (tokens : List Token) :
    match verdict? tokens with
    | some error => (readTokens tokens).1 = .error error
    | none => ∃ root, (readTokens tokens).1 = .ok root ∧
        ∀ tree : Node, (tree.IsAsWritten ∧ tree.flatten = tokens.map Token.kept?) ↔ tree = root := by
  cases tokens with
  | nil => rfl
  | cons first others =>
      by_cases hopening : first.kind = .opening
      · simp only [verdict?, List.head?_cons, hopening, ne_eq, not_true_eq_false, if_false]
        have hfirst : (first :: others)[0]? = some first := rfl
        cases hfilter : (badIndex? (first :: others)).filter
            fun b => (closingIndex? (first :: others)).all (b < ·) with
        | some b =>
            obtain ⟨hbad, hbefore⟩ := Option.filter_eq_some_iff.mp hfilter
            rw [Option.all_eq_true] at hbefore
            obtain ⟨token, htoken, hread⟩ := readTokens_of_bad hfirst hopening hbad
              fun j hj => of_decide_eq_true (hbefore j hj)
            simp only [htoken, Option.map_some]
            exact hread
        | none =>
            rw [Option.filter_eq_none_iff] at hfilter
            cases hend : closingIndex? (first :: others) with
            | none =>
                have hbad : badIndex? (first :: others) = none := by
                  refine Option.eq_none_iff_forall_ne_some.mpr ?_
                  exact fun b hb => hfilter b hb (by rw [hend, Option.all_none])
                exact readTokens_of_open hfirst hopening hbad hend
            | some j =>
                have hclosed := readTokens_of_closed hfirst hopening hend fun b hb => by
                  simpa [hend] using hfilter b hb
                dsimp only
                split at hclosed
                next hmore =>
                  rw [if_pos hmore]
                  exact hclosed
                next hlast =>
                  obtain ⟨root, hread⟩ := hclosed
                  rw [if_neg hlast]
                  exact ⟨root, hread, flatten_iff_of_readTokens hopening hread⟩
      · simp only [verdict?, List.head?_cons, hopening, ne_eq, not_false_eq_true, if_true]
        rw [readTokens]
        split
        next hkind => exact absurd hkind hopening
        next => rfl

end Program

end Lisplet
