import Lisplet.Proofs.Reading.Delivery
import Lisplet.Proofs.Reading.Grammar
import Lisplet.Proofs.Reading.Lexeme
import Lisplet.Proofs.Simulation.Likeness

/-!
# Written programs read back

The trees that reading can give are those whose leaves can be written: numbers that
are not negative, strings without a zero character that lack one of the two quotes,
and symbols. The text of any such tree reads as a tree that is equal to it and has
the same text.
-/

namespace Lisplet

open Text

/-- Whether an atom can stand in the text of a program. -/
def Atom.isWritable : Atom → Bool
  | number value => decide (0 ≤ value.coefficient)
  | string text =>
    !text.toList.contains '\x00' && !(text.toList.contains '"' && text.toList.contains '\x27')
  | symbol name => isSymbolName name.toList && !name.toList.head?.any Char.isDigit
  | _ => false

namespace Node

mutual

/-- Whether all leaves of a node can be written. -/
def isWritable : Node → Bool
  | atom _ value => value.isWritable
  | list _ items => areWritable items
  | closure .. => false

/-- Whether all leaves of several nodes can be written. -/
def areWritable : List Node → Bool
  | [] => true
  | node :: rest => node.isWritable && areWritable rest

end

/-- Whether a node is a list of forms that can be written. -/
def isProgram : Node → Bool
  | list _ items => areWritable items
  | _ => false

end Node

/-- Nodes that differ at most in their tokens and in the decimals that stand for
their numbers. -/
def Likeness.byValue : Likeness where
  token _ _ := True
  number a b := a.value = b.value
  atom _ := True
  identity i j := i = j
  home s t := s = t
  token_none := trivial
  token_or _ _ := trivial
  number_self _ := rfl
  value_eq := id
  atom_nil := trivial
  atom_bool _ := trivial
  identity_iff := Eq.congr

/-! ## What is read can be written -/

/-- The tokens of the pieces of a text from the given place on. -/
def tokensOf (lines : Array String) (start : Position) (pieces : List Piece) : List Token :=
  (Scan.place start pieces).filterMap (Scan.token? lines)

theorem tokensOf_cons (lines : Array String) (start : Position) (piece : Piece)
    (rest : List Piece) :
    tokensOf lines start (piece :: rest) =
      (Scan.token? lines (start, piece)).toList ++
        tokensOf lines (start.afterAll piece.raw) rest := by
  rw [tokensOf, Scan.place, List.filterMap_cons]
  cases Scan.token? lines (start, piece) <;> rfl

theorem tokensOf_append (lines : Array String) (start : Position) (first second : List Piece) :
    tokensOf lines start (first ++ second) = tokensOf lines start first ++
      tokensOf lines (start.afterAll (first.flatMap Piece.raw)) second := by
  induction first generalizing start with
  | nil => rfl
  | cons piece rest ih =>
      rw [List.cons_append, tokensOf_cons, tokensOf_cons, ih, List.append_assoc,
        List.flatMap_cons, Position.afterAll_append]

/-- Each token comes from a piece. -/
theorem exists_piece_of_mem_tokensOf {lines : Array String} {start : Position}
    {pieces : List Piece} {token : Token} (htoken : token ∈ tokensOf lines start pieces) :
    ∃ piece ∈ pieces, piece.kind? = some token.kind ∧ token.text = String.ofList piece.content := by
  induction pieces generalizing start with
  | nil => cases htoken
  | cons piece rest ih =>
      rw [tokensOf_cons, List.mem_append, Option.mem_toList] at htoken
      rcases htoken with hfirst | hrest
      · refine ⟨piece, List.mem_cons_self, ?_⟩
        obtain ⟨kind, hkind, rfl⟩ := Option.map_eq_some_iff.mp hfirst
        exact ⟨hkind, rfl⟩
      · obtain ⟨found, hfound, hpiece⟩ := ih hrest
        exact ⟨found, List.mem_cons_of_mem _ hfound, hpiece⟩

/-- The number that a piece of a text stands for is not negative. -/
theorem coefficient_nonneg_of_ofText? {whole : List Char} {fraction : Option (List Char)}
    {value : Decimal} (hconforms : (Piece.number whole fraction).Conforms)
    (hread : Decimal.ofText? (String.ofList (Piece.number whole fraction).raw) = some value) :
    0 ≤ value.coefficient := by
  obtain ⟨hne, hwhole, hfraction⟩ := hconforms
  rw [Decimal.ofText?, String.toList_ofList] at hread
  cases fraction with
  | none =>
      rw [Piece.raw, Decimal.ofChars?_whole hne hwhole] at hread
      rw [Decimal.coefficient_of_ofParts? hread]
      exact Int.natCast_nonneg _
  | some digits =>
      rw [Piece.raw, Decimal.ofChars?_point hne hwhole (hfraction digits rfl)] at hread
      rw [Decimal.coefficient_of_ofParts? hread]
      exact Int.natCast_nonneg _

/-- An atom that is read from a piece of a text without zero characters can be
written. -/
theorem isWritable_of_atom? {piece : Piece} {token : Token} {atom : Atom}
    (hconforms : piece.Conforms) (hnul : '\x00' ∉ piece.content)
    (hkind : piece.kind? = some token.kind) (htext : token.text = String.ofList piece.content)
    (hatom : Program.atom? token = .ok atom) : atom.isWritable = true := by
  unfold Program.atom? at hatom
  cases piece with
  | blank c => cases hkind
  | number whole fraction =>
      rw [← Option.some.inj hkind, htext] at hatom
      simp only at hatom
      split at hatom
      next value hread =>
        cases hatom
        simpa [Atom.isWritable] using coefficient_nonneg_of_ofText? hconforms hread
      next => cases hatom
  | quoted quote inner =>
      rw [← Option.some.inj hkind, htext] at hatom
      cases hatom
      obtain ⟨hquote, hinner⟩ := hconforms
      have hcontent : '\x00' ∉ inner := hnul
      simp only [isQuote, Bool.or_eq_true, beq_iff_eq] at hquote
      -- whichever quote stands around the text does not occur in it
      rcases hquote with rfl | rfl
      · simp [Atom.isWritable, Piece.content, hcontent, hinner]
      · simp [Atom.isWritable, Piece.content, hcontent, hinner]
  | symbol name =>
      rw [← Option.some.inj hkind, htext] at hatom
      simp only at hatom
      split at hatom
      next hname =>
        cases hatom
        obtain ⟨hne, -, hdigit⟩ := hconforms
        obtain ⟨c, rest, rfl⟩ := List.exists_cons_of_ne_nil hne
        have hfirst : c.isDigit = false := hdigit c rfl
        rw [String.toList_ofList] at hname
        rw [Atom.isWritable, String.toList_ofList, Bool.and_eq_true]
        exact ⟨hname, by simp [Piece.content, Piece.raw, hfirst]⟩
      next => cases hatom
  | _ =>
      rw [← Option.some.inj hkind] at hatom
      cases hatom

theorem areWritable_of_spells {tokens : List Token} {nodes : List Node}
    (hspells : Program.Spells tokens nodes)
    (htokens : ∀ token ∈ tokens, ∀ atom, Program.atom? token = .ok atom → atom.isWritable = true) :
    Node.areWritable nodes = true := by
  induction hspells with
  | nil => rfl
  | atom hatom _ ih =>
      rw [Node.areWritable, Node.isWritable, htokens _ List.mem_cons_self _ hatom]
      exact ih fun token htoken => htokens token (List.mem_cons_of_mem _ htoken)
  | list _ _ _ _ ihinner ihrest =>
      rw [Node.areWritable, Node.isWritable, ihinner, ihrest]
      · rfl
      · intro token htoken
        exact htokens token (List.mem_cons_of_mem _ (List.mem_append_right _
          (List.mem_cons_of_mem _ htoken)))
      · intro token htoken
        exact htokens token (List.mem_cons_of_mem _ (List.mem_append_left _ htoken))

/-- The tokens of a source without defect, between the two brackets around them. -/
theorem exists_scan_tokens {source : Source} (hdefect : source.deliver.defect = none) :
    ∃ lines opening closing, opening.kind = .opening ∧ closing.kind = .closing ∧
      source.scan.tokens = opening ::
        (tokensOf lines Position.start (Piece.pieces source.deliver.text) ++ [closing]) := by
  simp only [Source.scan, Delivery.scan, Scan.extent, hdefect]
  refine ⟨_, _, _, ?_, ?_, rfl⟩
  · rfl
  · rfl

theorem scan_defect_eq_none_iff (source : Source) :
    source.scan.defect = none ↔ source.deliver.defect = none := by
  simp [Source.scan, Delivery.scan]

/-- A program that is read from a source is spelled by the tokens of a delivery
without defect. -/
theorem spells_of_read {source : Source} {program : Node}
    (hread : Program.read source = .ok program) :
    source.deliver.defect = none ∧ Program.SpellsProgram source.scan.tokens program := by
  rw [Program.read, Program.readSource] at hread
  split at hread
  next => cases hread
  next hdefect =>
    exact ⟨(scan_defect_eq_none_iff source).mp hdefect, Program.spells_of_readTokens hread⟩

theorem isProgram_of_read {source : Source} {program : Node}
    (hread : Program.read source = .ok program) : program.isProgram = true := by
  obtain ⟨hdefect, opening, closing, inner, items, htokens, -, -, hinner, rfl⟩ :=
    spells_of_read hread
  obtain ⟨lines, opening', closing', -, -, hscan⟩ := exists_scan_tokens hdefect
  rw [hscan] at htokens
  obtain ⟨rfl, -⟩ := List.append_inj' (List.cons.inj htokens).2 rfl
  refine areWritable_of_spells hinner ?_
  intro token htoken atom hatom
  obtain ⟨piece, hpiece, hkind, htext⟩ := exists_piece_of_mem_tokensOf htoken
  refine isWritable_of_atom? (Piece.pieces_conform _ piece hpiece) ?_ hkind htext hatom
  exact fun hnul =>
    Source.nul_notMem_of_deliver hdefect (Piece.mem_text_of_mem_content hpiece hnul)

/-! ## The pieces of a written tree -/

/-- The piece that an atom is written as, if it can be written. -/
def Atom.piece : Atom → Piece
  | number value =>
    .number (Decimal.digits (value.magnitude / 10 ^ value.places))
      (if (Decimal.fractionDigits value.magnitude value.places).isEmpty then none
        else some (Decimal.fractionDigits value.magnitude value.places))
  | string text => .quoted (if text.toList.contains '"' then '\x27' else '"') text.toList
  | symbol name => .symbol name.toList
  | _ => .stray []

namespace Node

mutual

/-- The pieces that a node is written as. -/
def pieces : Node → List Piece
  | atom _ value => [value.piece]
  | list _ items => .opening '(' :: (piecesAll items ++ [.closing ')'])
  | closure .. => []

/-- The pieces that several nodes are written as, with a blank between nodes. -/
def piecesAll : List Node → List Piece
  | [] => []
  | [node] => node.pieces
  | node :: other :: rest => node.pieces ++ .blank ' ' :: piecesAll (other :: rest)

end

end Node

theorem Atom.raw_piece {a : Atom} (ha : a.isWritable = true) : a.piece.raw = a.text.toList := by
  cases a with
  | number value =>
      have hsign : ¬ value.coefficient < 0 := by simpa [isWritable] using ha
      rw [text, Decimal.text, String.toList_ofList, Decimal.chars_eq, if_neg hsign, List.nil_append,
        Decimal.plain, piece]
      split
      · rw [Piece.raw, List.append_nil]
      · rfl
  | string content =>
      rw [piece, Piece.raw, text, enquote]
      split <;> simp [String.toList_append]
  | symbol name => rfl
  | _ => cases ha

theorem Atom.piece_conforms {a : Atom} (ha : a.isWritable = true) : a.piece.Conforms := by
  cases a with
  | number value =>
      refine ⟨Decimal.digits_ne_nil _, fun c => Decimal.isDigit_of_mem_digits, ?_⟩
      split
      · rintro digits ⟨⟩
      · rintro digits ⟨⟩
        exact fun c => Decimal.isDigit_of_mem_fractionDigits
  | string content =>
      simp only [isWritable, Bool.and_eq_true, Bool.not_eq_true', Bool.and_eq_false_iff] at ha
      rw [piece]
      split
      next hdouble =>
        rw [hdouble] at ha
        exact ⟨by decide, by simpa using ha.2⟩
      next hdouble => exact ⟨by decide, by simpa using hdouble⟩
  | symbol name =>
      simp only [isWritable, Bool.and_eq_true, Bool.not_eq_true', Option.any_eq_false] at ha
      obtain ⟨hname, hdigit⟩ := ha
      refine ⟨?_, fun c hc => (outside_nameRanges (isSymbolBody_of_mem hname hc)).1, ?_⟩
      · intro hnil
        rw [hnil] at hname
        cases hname
      · intro c hc
        simpa using hdigit c hc
  | _ => cases ha

/-- A written atom is over where a symbol would be over. -/
theorem Atom.piece_endsBefore {a : Atom} (ha : a.isWritable = true) {rest : List Char}
    (hrest : ∀ c ∈ rest.head?, isBreak c = true) : a.piece.EndsBefore rest := by
  have hdigit : ∀ c ∈ rest.head?, c.isDigit = false := by
    intro c hc
    cases hc' : c.isDigit with
    | false => rfl
    | true => exact absurd (hrest c hc) (by simp [isBreak_of_isDigit hc'])
  cases a with
  | number value =>
      rw [piece]
      split
      · refine fun c hc => ⟨hdigit c hc, ?_⟩
        rintro rfl
        exact absurd (hrest '.' hc) (by decide)
      · exact hdigit
  | string content => trivial
  | symbol name => exact hrest
  | _ => cases ha

theorem spaced_texts_cons (node other : Node) (rest : List Node) :
    spaced (Node.texts (node :: other :: rest)) =
      node.text ++ " " ++ spaced (Node.texts (other :: rest)) := rfl

mutual

/-- The text of a node that can be written is cut into the pieces it is written as. -/
theorem pieces_text : {node : Node} → node.isWritable = true → ∀ rest : List Char,
    (∀ c ∈ rest.head?, isBreak c = true) →
      Piece.pieces (node.text.toList ++ rest) = node.pieces ++ Piece.pieces rest
  | .atom _ value, hnode, rest, hrest => by
    rw [Node.text, ← Atom.raw_piece hnode,
      Piece.pieces_raw_append _ _ (Atom.piece_conforms hnode) (Atom.piece_endsBefore hnode hrest)]
    rfl
  | .list _ items, hnode, rest, hrest => by
    have hitems : Node.areWritable items = true := hnode
    have hinner := pieces_texts hitems (')' :: rest) (by rintro c ⟨⟩; decide)
    have hopening := Piece.pieces_raw_append (.opening '(')
      ((spaced (Node.texts items)).toList ++ ')' :: rest)
      (show isOpening '(' = true by decide) trivial
    have hclosing := Piece.pieces_raw_append (.closing ')') rest
      (show isClosing ')' = true by decide) trivial
    rw [Node.text, Node.pieces, String.toList_append, String.toList_append, List.append_assoc,
      List.append_assoc]
    calc Piece.pieces ("(".toList ++ ((spaced (Node.texts items)).toList ++ (")".toList ++ rest)))
        = .opening '(' :: Piece.pieces ((spaced (Node.texts items)).toList ++ ')' :: rest) :=
          hopening
      _ = .opening '(' :: (Node.piecesAll items ++ .closing ')' :: Piece.pieces rest) := by
          rw [hinner, ← hclosing]
          rfl
      _ = .opening '(' :: (Node.piecesAll items ++ [.closing ')']) ++ Piece.pieces rest := by
          simp

/-- The same for several nodes with a blank between them. -/
theorem pieces_texts : {nodes : List Node} → Node.areWritable nodes = true → ∀ rest : List Char,
    (∀ c ∈ rest.head?, isBreak c = true) →
      Piece.pieces ((spaced (Node.texts nodes)).toList ++ rest) =
        Node.piecesAll nodes ++ Piece.pieces rest
  | [], _, rest, _ => by simp [Node.texts, spaced, Node.piecesAll]
  | [node], hnodes, rest, hrest => by
    rw [Node.areWritable, Bool.and_eq_true] at hnodes
    exact pieces_text hnodes.1 rest hrest
  | node :: other :: more, hnodes, rest, hrest => by
    rw [Node.areWritable, Bool.and_eq_true] at hnodes
    -- the blank after the first node ends it, and is a piece of its own
    have hmore := pieces_texts hnodes.2 rest hrest
    have hfirst := pieces_text hnodes.1
      (' ' :: ((spaced (Node.texts (other :: more))).toList ++ rest)) (by rintro c ⟨⟩; decide)
    have hblank := Piece.pieces_raw_append (.blank ' ')
      ((spaced (Node.texts (other :: more))).toList ++ rest)
      (show isBlank ' ' = true by decide) trivial
    rw [spaced_texts_cons, String.toList_append, String.toList_append, List.append_assoc,
      List.append_assoc]
    calc Piece.pieces (node.text.toList ++
          (" ".toList ++ ((spaced (Node.texts (other :: more))).toList ++ rest)))
        = node.pieces ++
          Piece.pieces (' ' :: ((spaced (Node.texts (other :: more))).toList ++ rest)) := hfirst
      _ = node.pieces ++ .blank ' ' ::
          (Node.piecesAll (other :: more) ++ Piece.pieces rest) := by
          rw [← hmore, ← hblank]
          rfl
      _ = Node.piecesAll (node :: other :: more) ++ Piece.pieces rest := by
          simp [Node.piecesAll]

end

/-! ## Reading the pieces of a written tree -/

/-- The token of a written atom reads as an atom like it. -/
theorem exists_atom_of_token {a : Atom} (ha : a.isWritable = true) (lines : Array String)
    (start : Position) : ∃ token b, Scan.token? lines (start, a.piece) = some token ∧
      Program.atom? token = .ok b ∧ Likeness.byValue.AtomAlike a b := by
  have hraw := Atom.raw_piece ha
  cases a with
  | number value =>
      have hnonneg : 0 ≤ value.coefficient := by simpa [Atom.isWritable] using ha
      obtain ⟨again, hread, hvalue⟩ := Decimal.ofText?_text hnonneg
      refine ⟨_, .number again, rfl, ?_, hvalue.symm⟩
      have htext : String.ofList (Atom.number value).piece.content = value.text := by
        rw [← String.ofList_toList (s := value.text)]
        exact congrArg String.ofList hraw
      simp only [Atom.piece] at htext
      simp only [Program.atom?, Atom.piece, htext, hread]
  | string content =>
      refine ⟨_, .string content, rfl, ?_, rfl, trivial⟩
      simp only [Program.atom?, Atom.piece, Piece.content, String.ofList_toList]
  | symbol name =>
      refine ⟨_, .symbol name, rfl, ?_, rfl, trivial⟩
      simp only [Atom.isWritable, Bool.and_eq_true] at ha
      simp only [Program.atom?, Atom.piece, Piece.content, Piece.raw, String.ofList_toList, ha.1,
        if_true]
  | _ => cases ha

mutual

/-- The tokens of a node that can be written spell a node like it. -/
theorem spells_pieces : {node : Node} → node.isWritable = true →
    ∀ (lines : Array String) (start : Position), ∃ again,
      Program.Spells (tokensOf lines start node.pieces) [again] ∧
        Likeness.byValue.Alike node again
  | .atom _ value, hnode, lines, start => by
    obtain ⟨token, b, htoken, hatom, halike⟩ := exists_atom_of_token hnode lines start
    refine ⟨.atom (some token) b, ?_, trivial, halike⟩
    rw [Node.pieces, tokensOf_cons, htoken]
    exact .atom hatom .nil
  | .list _ items, hnode, lines, start => by
    have hitems : Node.areWritable items = true := hnode
    obtain ⟨again, hspells, halike⟩ := spells_piecesAll hitems lines
      (start.afterAll ['('])
    rw [Node.pieces, tokensOf_cons, Piece.raw, tokensOf_append, tokensOf_cons]
    exact ⟨_, .list rfl rfl hspells .nil, trivial, halike⟩

/-- The tokens of several nodes that can be written spell nodes like them. -/
theorem spells_piecesAll : {nodes : List Node} → Node.areWritable nodes = true →
    ∀ (lines : Array String) (start : Position), ∃ again,
      Program.Spells (tokensOf lines start (Node.piecesAll nodes)) again ∧
        Likeness.byValue.AllAlike nodes again
  | [], _, _, _ => ⟨[], .nil, trivial⟩
  | [node], hnodes, lines, start => by
    rw [Node.areWritable, Bool.and_eq_true] at hnodes
    obtain ⟨again, hspells, halike⟩ := spells_pieces hnodes.1 lines start
    exact ⟨[again], hspells, halike, trivial⟩
  | node :: other :: more, hnodes, lines, start => by
    rw [Node.areWritable, Bool.and_eq_true] at hnodes
    obtain ⟨first, hfirst, hnode⟩ := spells_pieces hnodes.1 lines start
    obtain ⟨rest, hrest, hothers⟩ := spells_piecesAll hnodes.2 lines
      ((start.afterAll (node.pieces.flatMap Piece.raw)).afterAll [' '])
    refine ⟨first :: rest, ?_, hnode, hothers⟩
    rw [Node.piecesAll, tokensOf_append, tokensOf_cons]
    exact hfirst.append hrest

end

/-! ## Delivering the text of a written tree -/

/-- A text that reaches the reader unchanged: it holds no zero character and does
not begin with a byte order mark. -/
def IsDelivered (text : List Char) : Prop :=
  '\x00' ∉ text ∧ text.head? ≠ some Source.byteOrderMark

theorem IsDelivered.append {first second : List Char} (hfirst : IsDelivered first)
    (hsecond : IsDelivered second) : IsDelivered (first ++ second) := by
  constructor
  · rw [List.mem_append]
    exact fun hmem => hmem.elim hfirst.1 hsecond.1
  · cases first with
    | nil => exact hsecond.2
    | cons c rest => exact hfirst.2

theorem isDelivered_of_digits {text : List Char}
    (hdigits : ∀ c ∈ text, c.isDigit = true ∨ c = '.') : IsDelivered text := by
  constructor
  · intro hmem
    exact absurd (hdigits _ hmem) (by decide)
  · intro hhead
    exact absurd (hdigits _ (List.mem_of_mem_head? hhead)) (by decide)

theorem Atom.isDelivered_text {a : Atom} (ha : a.isWritable = true) :
    IsDelivered a.text.toList := by
  rw [← Atom.raw_piece ha]
  have hconforms := Atom.piece_conforms ha
  cases a with
  | number value =>
      obtain ⟨-, hwhole, hfraction⟩ := hconforms
      apply isDelivered_of_digits
      intro c hc
      rw [piece] at hc
      split at hc
      · exact .inl (hwhole c hc)
      next hsome =>
        rcases List.mem_append.mp hc with hc | hc
        · exact .inl (hwhole c hc)
        · rcases List.mem_cons.mp hc with rfl | hc
          · exact .inr rfl
          · exact .inl (Decimal.isDigit_of_mem_fractionDigits hc)
  | string content =>
      simp only [isWritable, Bool.and_eq_true, Bool.not_eq_true', List.contains_eq_mem,
        decide_eq_false_iff_not] at ha
      have hquote : ∀ quote, isQuote quote = true →
          IsDelivered (quote :: (content.toList ++ [quote])) := by
        intro quote hquote
        simp only [isQuote, Bool.or_eq_true, beq_iff_eq] at hquote
        constructor
        · rcases hquote with rfl | rfl <;> simp [ha.1]
        · rcases hquote with rfl | rfl <;> simp [Source.byteOrderMark]
      exact hquote _ hconforms.1
  | symbol name =>
      simp only [isWritable, Bool.and_eq_true] at ha
      constructor
      · intro hmem
        exact (outside_nameRanges (isSymbolBody_of_mem ha.1 hmem)).2.1 rfl
      · intro hhead
        exact (outside_nameRanges (isSymbolBody_of_mem ha.1 (List.mem_of_mem_head? hhead))).2.2 rfl
  | _ => cases ha

theorem isDelivered_of_forall {text : List Char} (h : ∀ c ∈ text, c ≠ '\x00' ∧ c ≠ '\uFEFF') :
    IsDelivered text :=
  ⟨fun hmem => (h _ hmem).1 rfl, fun hhead => (h _ (List.mem_of_mem_head? hhead)).2 rfl⟩

mutual

theorem isDelivered_text : {node : Node} → node.isWritable = true → IsDelivered node.text.toList
  | .atom .., hnode => Atom.isDelivered_text hnode
  | .list _ items, hnode => by
    rw [Node.text, String.toList_append, String.toList_append]
    exact ((isDelivered_of_forall (by simp)).append (isDelivered_texts hnode)).append
      (isDelivered_of_forall (by simp))

theorem isDelivered_texts : {nodes : List Node} → Node.areWritable nodes = true →
    IsDelivered (spaced (Node.texts nodes)).toList
  | [], _ => isDelivered_of_forall (by simp [Node.texts, spaced])
  | [node], hnodes => by
    rw [Node.areWritable, Bool.and_eq_true] at hnodes
    exact isDelivered_text hnodes.1
  | node :: other :: more, hnodes => by
    rw [Node.areWritable, Bool.and_eq_true] at hnodes
    rw [spaced_texts_cons, String.toList_append, String.toList_append]
    exact ((isDelivered_text hnodes.1).append (isDelivered_of_forall (by simp))).append
      (isDelivered_texts hnodes.2)

end

/-- The text of a program reads as a program like it. -/
theorem exists_read_programText {program : Node} (hprogram : program.isProgram = true) :
    ∃ again, Program.read (.ofString program.programText) = .ok again ∧
      Likeness.byValue.Alike program again := by
  cases program with
  | atom => cases hprogram
  | closure => cases hprogram
  | list token items =>
      obtain ⟨hnul, hmark⟩ := isDelivered_texts hprogram
      have hdeliver := Source.deliver_ofString hnul hmark
      have hdefect : (Source.ofString (spaced (Node.texts items))).deliver.defect = none := by
        rw [hdeliver]
      obtain ⟨lines, opening, closing, hopening, hclosing, hscan⟩ := exists_scan_tokens hdefect
      obtain ⟨again, hspells, halike⟩ := spells_piecesAll hprogram lines Position.start
      have hpieces : Piece.pieces (spaced (Node.texts items)).toList = Node.piecesAll items := by
        simpa [Piece.pieces] using pieces_texts hprogram [] (by simp)
      rw [hdeliver, hpieces] at hscan
      refine ⟨.list (some opening) again, ?_, trivial, halike⟩
      rw [Program.read, Program.readSource, Node.programText,
        (scan_defect_eq_none_iff _).mpr hdefect]
      exact Program.readTokens_of_spells
        ⟨opening, closing, _, again, hscan, hopening, hclosing, hspells, rfl⟩

/-! ## Texts of trees that can be written -/

mutual

theorem hasText_of_isWritable : {node : Node} → node.isWritable = true → node.hasText = true
  | .atom _ value, hnode => by
    cases value with
    | number => exact show Kind.number.isValue = true by decide
    | string => exact show Kind.string.isValue = true by decide
    | symbol => exact show Kind.symbol.isValue = true by decide
    | _ => cases hnode
  | .list _ items, hnode => by
    have hitems : Node.areWritable items = true := hnode
    exact haveText_of_areWritable hitems

theorem haveText_of_areWritable : {nodes : List Node} → Node.areWritable nodes = true →
    Node.haveText nodes = true
  | [], _ => rfl
  | _ :: _, hnodes => by
    rw [Node.areWritable, Bool.and_eq_true] at hnodes
    rw [Node.haveText, hasText_of_isWritable hnodes.1, haveText_of_areWritable hnodes.2]
    rfl

end

theorem hasText_of_isProgram {program : Node} (hprogram : program.isProgram = true) :
    program.hasText = true := by
  cases program with
  | atom => cases hprogram
  | closure => cases hprogram
  | list token items =>
      have hitems : Node.areWritable items = true := hprogram
      exact haveText_of_areWritable hitems

theorem Likeness.Alike.programText_eq {like : Likeness} {node other : Node}
    (halike : like.Alike node other) : node.programText = other.programText := by
  obtain ⟨_, _, _, _, rfl, rfl, -⟩ | ⟨_, _, _, _, rfl, rfl, -, hitems⟩ |
    ⟨_, _, _, _, _, _, _, _, _, rfl, rfl, -⟩ := halike.cases
  · exact halike.text_eq.1
  · rw [Node.programText, Node.programText, hitems.texts_eq.1]
  · exact halike.text_eq.1

theorem Likeness.byValue_self (node : Node) : Likeness.byValue.Alike node node :=
  alike_self (fun _ _ => ⟨trivial, rfl⟩) node (fun _ _ => trivial) (fun _ _ => rfl)

/-- Equality does not look at tokens or at the decimals that stand for numbers. -/
theorem same_of_alike {node other : Node} (halike : Likeness.byValue.Alike node other) :
    node.same other = true := by
  rw [← Likeness.Alike.same_congr (Likeness.byValue_self node) halike]
  exact Node.same_self node

/-- Reading gives programs that can be written, and the text of every such program
reads as a program that is equal to it and has the same text. -/
theorem read_programText_inverse :
    (∀ (source : Source) (program : Node),
      Program.read source = .ok program → program.isProgram = true) ∧
    ∀ program : Node, program.isProgram = true →
      program.hasText = true ∧
      ∃ again, Program.read (.ofString program.programText) = .ok again ∧
        program.same again = true ∧ again.programText = program.programText := by
  constructor
  · intro source program hread
    exact isProgram_of_read hread
  · intro program hprogram
    obtain ⟨again, hread, halike⟩ := exists_read_programText hprogram
    exact ⟨hasText_of_isProgram hprogram, again, hread, same_of_alike halike,
      halike.programText_eq.symm⟩

/-- A program with a number that ends in a zero and strings of both kinds. -/
def roundTripSample : Node :=
  .list none [.list none [.atom none (.symbol "define"), .atom none (.symbol "x"),
    .list none [.atom none (.number ⟨250, -2, by decide⟩), .atom none (.string "a \"b\""),
      .list none []]], .atom none (.string "it\x27s")]

/-- The sample can be written, its text reads as a program equal to it, and what was
read can be written again. -/
theorem roundTripSample_reads :
    roundTripSample.isProgram = true ∧
      ∃ again, Program.read (.ofString roundTripSample.programText) = .ok again ∧
        roundTripSample.same again = true ∧ again.isProgram = true := by
  have hprogram : roundTripSample.isProgram = true := by decide +kernel
  obtain ⟨-, again, hread, hsame, -⟩ := read_programText_inverse.2 roundTripSample hprogram
  exact ⟨hprogram, again, hread, hsame, read_programText_inverse.1 _ again hread⟩

end Lisplet
