import Lisplet.Program

/-!
# The grammar of programs

A sequence of tokens spells a sequence of nodes: one token for an atom, and an
opening and a closing bracket around the tokens of its elements for a list. Reading
gives a program exactly for the sequences of tokens that spell one list, and it is
the list that they spell.
-/

namespace Lisplet.Program

/-- The nodes that a sequence of tokens stands for. -/
inductive Spells : List Token → List Node → Prop
  | nil : Spells [] []
  | atom {token : Token} {atom : Atom} {rest : List Token} {nodes : List Node} :
      atom? token = .ok atom → Spells rest nodes →
        Spells (token :: rest) (.atom (some token) atom :: nodes)
  | list {opening closing : Token} {inner rest : List Token} {items nodes : List Node} :
      opening.kind = .opening → closing.kind = .closing → Spells inner items →
        Spells rest nodes →
          Spells (opening :: (inner ++ closing :: rest)) (.list (some opening) items :: nodes)

/-- The program that a sequence of tokens stands for. -/
def SpellsProgram (tokens : List Token) (program : Node) : Prop :=
  ∃ opening closing inner items, tokens = opening :: (inner ++ [closing]) ∧
    opening.kind = .opening ∧ closing.kind = .closing ∧ Spells inner items ∧
      program = .list (some opening) items

theorem Spells.append {first second : List Token} {nodes others : List Node}
    (hfirst : Spells first nodes) (hsecond : Spells second others) :
    Spells (first ++ second) (nodes ++ others) := by
  induction hfirst with
  | nil => exact hsecond
  | atom hatom _ ih => exact .atom hatom ih
  | list hopening hclosing hinner _ _ ih =>
      rw [List.cons_append, List.append_assoc, List.cons_append]
      exact .list hopening hclosing hinner ih

theorem kind_of_atom? {token : Token} {atom : Atom} (hatom : atom? token = .ok atom) :
    token.kind ≠ .opening ∧ token.kind ≠ .closing := by
  constructor
  · intro hkind
    simp [atom?, hkind] at hatom
  · intro hkind
    simp [atom?, hkind] at hatom

/-! ## One token at a time -/

theorem readOn_opening {table : SymbolTable} {frame : Frame} {outer : List Frame}
    {previous token : Token} {rest : List Token} (hkind : token.kind = .opening) :
    readOn table frame outer previous (token :: rest) =
      readOn table ⟨token, []⟩ (frame :: outer) token rest := by
  rw [readOn.eq_def]
  simp only [hkind]

theorem readOn_closing {table : SymbolTable} {frame parent : Frame} {outer : List Frame}
    {previous token : Token} {rest : List Token} (hkind : token.kind = .closing) :
    readOn table frame (parent :: outer) previous (token :: rest) =
      readOn table (parent.push frame.close) outer token rest := by
  rw [readOn, hkind]

theorem readOn_closing_root {table : SymbolTable} {frame : Frame} {previous token : Token}
    {rest : List Token} (hkind : token.kind = .closing) :
    readOn table frame [] previous (token :: rest) =
      if rest.isEmpty then (.ok frame.close, table)
      else (.error ⟨.unopened, some previous⟩, table) := by
  rw [readOn, hkind]

theorem readOn_atom {table : SymbolTable} {frame : Frame} {outer : List Frame}
    {previous token : Token} {rest : List Token} {atom : Atom} (hatom : atom? token = .ok atom) :
    readOn table frame outer previous (token :: rest) =
      readOn (note table atom) (frame.push (.atom (some token) atom)) outer token rest := by
  obtain ⟨hopening, hclosing⟩ := kind_of_atom? hatom
  rw [readOn.eq_def]
  simp only [hatom]

theorem readOn_error {table : SymbolTable} {frame : Frame} {outer : List Frame}
    {previous token : Token} {rest : List Token} {cause : SyntaxCause}
    (hopening : token.kind ≠ .opening) (hclosing : token.kind ≠ .closing)
    (hatom : atom? token = .error cause) :
    readOn table frame outer previous (token :: rest) = (.error ⟨cause, some token⟩, table) := by
  rw [readOn.eq_def]
  simp only [hatom]

/-! ## Spelled programs are read -/

/-- Reading passes over tokens that spell nodes and adds the nodes to the list that
is being read. -/
theorem readOn_of_spells {inner : List Token} {items : List Node} (hspells : Spells inner items) :
    ∀ (table : SymbolTable) (frame : Frame) (outer : List Frame) (previous : Token)
      (rest : List Token), ∃ table' previous',
      readOn table frame outer previous (inner ++ rest) =
        readOn table' ⟨frame.token, items.reverse ++ frame.reversed⟩ outer previous' rest := by
  induction hspells with
  | nil => exact fun table frame outer previous rest => ⟨table, previous, rfl⟩
  | @atom token atom _ nodes hatom _ ih =>
      intro table frame outer previous rest
      obtain ⟨table', previous', hread⟩ :=
        ih (note table atom) (frame.push (.atom (some token) atom)) outer token rest
      refine ⟨table', previous', ?_⟩
      rw [List.cons_append, readOn_atom hatom, hread]
      simp [Frame.push]
  | @list opening closing inner tokens items nodes hopening hclosing _ _ ihinner ihrest =>
      intro table frame outer previous rest
      obtain ⟨table₁, previous₁, hinner⟩ :=
        ihinner table ⟨opening, []⟩ (frame :: outer) opening (closing :: (tokens ++ rest))
      obtain ⟨table₂, previous₂, hrest⟩ :=
        ihrest table₁ (frame.push (.list (some opening) items)) outer closing rest
      refine ⟨table₂, previous₂, ?_⟩
      rw [List.cons_append, List.append_assoc, List.cons_append, readOn_opening hopening, hinner,
        readOn_closing hclosing]
      simp only [Frame.close, List.append_nil, List.reverse_reverse]
      rw [hrest]
      simp [Frame.push]

/-- The program that tokens spell is read from them. -/
theorem readTokens_of_spells {tokens : List Token} {program : Node}
    (hspells : SpellsProgram tokens program) : (readTokens tokens).1 = .ok program := by
  obtain ⟨opening, closing, inner, items, rfl, hopening, hclosing, hinner, rfl⟩ := hspells
  obtain ⟨table, previous, hread⟩ :=
    readOn_of_spells hinner .empty ⟨opening, []⟩ [] opening [closing]
  rw [readTokens, hopening]
  simp only
  rw [hread, readOn_closing_root hclosing]
  simp [Frame.close]

/-! ## What is read was spelled -/

/-- The tokens still to come complete the lists that are being read, from the
innermost one outwards, to the given program. -/
def Completes (program : Node) : Frame → List Frame → List Token → Prop
  | frame, [], tokens =>
    ∃ closing inner items, tokens = inner ++ [closing] ∧ closing.kind = .closing ∧
      Spells inner items ∧
        program = .list (some frame.token) (frame.reversed.reverse ++ items)
  | frame, parent :: outer, tokens =>
    ∃ closing inner items rest, tokens = inner ++ closing :: rest ∧ closing.kind = .closing ∧
      Spells inner items ∧
        Completes program
          (parent.push (.list (some frame.token) (frame.reversed.reverse ++ items))) outer rest

/-- Tokens that spell a node may stand in the place of that node. -/
theorem Completes.of_push {program node : Node} {frame : Frame} {outer : List Frame}
    {first rest : List Token} (hspells : Spells first [node])
    (hcompletes : Completes program (frame.push node) outer rest) :
    Completes program frame outer (first ++ rest) := by
  cases outer with
  | nil =>
      obtain ⟨closing, inner, items, rfl, hclosing, hinner, rfl⟩ := hcompletes
      refine ⟨closing, first ++ inner, node :: items, ?_, hclosing, hspells.append hinner, ?_⟩
      · rw [List.append_assoc]
      · simp [Frame.push]
  | cons parent outer =>
      obtain ⟨closing, inner, items, rest, rfl, hclosing, hinner, hrest⟩ := hcompletes
      refine ⟨closing, first ++ inner, node :: items, rest, ?_, hclosing, hspells.append hinner, ?_⟩
      · rw [List.append_assoc]
      · simpa [Frame.push] using hrest

/-- When reading succeeds, the tokens read complete the lists that were begun. -/
theorem completes_of_readOn {program : Node} (tokens : List Token) :
    ∀ (table : SymbolTable) (frame : Frame) (outer : List Frame) (previous : Token),
      (readOn table frame outer previous tokens).1 = .ok program →
        Completes program frame outer tokens := by
  induction tokens with
  | nil =>
      intro table frame outer previous hread
      rw [readOn] at hread
      cases hread
  | cons token rest ih =>
      intro table frame outer previous hread
      by_cases hopening : token.kind = .opening
      · -- The list opened here is completed first, and is then one element more.
        rw [readOn_opening hopening] at hread
        obtain ⟨closing, inner, items, more, rfl, hclosing, hinner, hmore⟩ :=
          ih table ⟨token, []⟩ (frame :: outer) token hread
        have hlist : Spells (token :: (inner ++ [closing])) [.list (some token) items] :=
          .list hopening hclosing hinner .nil
        simpa using Completes.of_push hlist hmore
      by_cases hclosing : token.kind = .closing
      · cases outer with
        | nil =>
            rw [readOn_closing_root hclosing] at hread
            split at hread
            next hempty =>
              cases hread
              rw [List.isEmpty_iff.mp hempty]
              exact ⟨token, [], [], rfl, hclosing, .nil, by simp [Frame.close]⟩
            next => cases hread
        | cons parent outer =>
            rw [readOn_closing hclosing] at hread
            refine ⟨token, [], [], rest, rfl, hclosing, .nil, ?_⟩
            simpa [Frame.close] using ih table _ outer token hread
      · cases hatom : atom? token with
        | error cause =>
            rw [readOn_error hopening hclosing hatom] at hread
            cases hread
        | ok atom =>
            rw [readOn_atom hatom] at hread
            exact Completes.of_push (.atom hatom .nil) (ih _ _ outer token hread)

/-- A program that is read from tokens is the one they spell. -/
theorem spells_of_readTokens {tokens : List Token} {program : Node}
    (hread : (readTokens tokens).1 = .ok program) : SpellsProgram tokens program := by
  cases tokens with
  | nil => cases hread
  | cons opening rest =>
      rw [readTokens] at hread
      split at hread
      next hopening =>
        obtain ⟨closing, inner, items, rfl, hclosing, hinner, rfl⟩ :=
          completes_of_readOn rest .empty ⟨opening, []⟩ [] opening hread
        exact ⟨opening, closing, inner, items, rfl, hopening, hclosing, hinner, by simp⟩
      next => cases hread

end Lisplet.Program
