import Lisplet.Proofs.Reading.Places

/-!
# Joined sources

A source may follow another one on a new line. If both read as programs, so does the whole:
its forms are those of the first, with their tokens as they were, and then those of the
second, whose tokens stand as many lines further down as the first has.

What makes this work is that no piece of the first text reaches across the newline, and that
neither the places nor the lines of its tokens depend on what follows.
-/

namespace Lisplet

/-! ## Joined texts -/

/-- A source with another one after it, on a new line. -/
def Source.followedBy (first second : Source) : Source :=
  { bytes := first.bytes ++ 0x0A :: second.bytes, failure := second.failure }

namespace Source

theorem ofString_followedBy (first second : String) :
    (ofString first).followedBy (ofString second) = ofString (first ++ "\n" ++ second) := by
  have hnewline : String.utf8EncodeChar '\n' = [0x0A] := by decide
  have hbytes : (ofString (first ++ "\n" ++ second)).bytes =
      (ofString first).bytes ++ 0x0A :: (ofString second).bytes := by
    simp [ofString_bytes, String.toList_append, hnewline]
  rw [followedBy, ← hbytes]
  rfl

theorem unmarked_append_newline (first second : List Char) :
    unmarked (first ++ '\n' :: second) = unmarked first ++ '\n' :: second := by
  cases first with
  | nil => rfl
  | cons c rest =>
      by_cases hmark : c = byteOrderMark
      · simp [unmarked, hmark]
      · simp [unmarked, hmark]

theorem unmarked_of_leading? {text : String}
    (hmark : leading? (ofString text).bytes ≠ some byteOrderMark) :
    unmarked text.toList = text.toList := by
  rw [ofString_bytes] at hmark
  rw [unmarked, if_neg]
  intro hhead
  obtain ⟨rest, hrest⟩ := List.head?_eq_some_iff.mp hhead
  rw [hrest, List.flatMap_cons, leading?_utf8EncodeChar] at hmark
  exact hmark rfl

/-- Sources without defects are delivered one after the other. -/
theorem deliver_followedBy {first second : Source} (hfirst : first.deliver.defect = none)
    (hsecond : second.deliver.defect = none)
    (hmark : leading? second.bytes ≠ some byteOrderMark) :
    (first.followedBy second).deliver =
      ⟨first.deliver.text ++ '\n' :: second.deliver.text, none⟩ := by
  obtain ⟨text, rfl, hnul⟩ := exists_text_of_deliver hfirst
  obtain ⟨other, rfl, hother⟩ := exists_text_of_deliver hsecond
  have hjoined : '\x00' ∉ (text ++ "\n" ++ other).toList := by
    simp [String.toList_append, hnul, hother]
  have hlist : (text ++ "\n" ++ other).toList = text.toList ++ '\n' :: other.toList := by
    simp [String.toList_append]
  rw [ofString_followedBy, deliver_ofString_unmarked hjoined, deliver_ofString_unmarked hnul,
    deliver_ofString_unmarked hother, hlist, unmarked_append_newline, unmarked_of_leading? hmark]

/-- A source that does not begin with the bytes of a byte order mark begins with another
character, or with none. -/
theorem leading?_ne_mark {bytes : List UInt8} (hmark : ¬ [0xEF, 0xBB, 0xBF] <+: bytes) :
    leading? bytes ≠ some byteOrderMark := by
  have hencode : String.utf8EncodeChar byteOrderMark = [0xEF, 0xBB, 0xBF] := by decide
  intro hlead
  have hbytes := eq_append_of_leading? hlead
  rw [hencode] at hbytes
  exact hmark ⟨_, hbytes.symm⟩

theorem count_unmarked {c : Char} (hc : c ≠ byteOrderMark) (text : List Char) :
    (unmarked text).count c = text.count c := by
  cases text with
  | nil => rfl
  | cons first rest =>
      by_cases hmark : first = byteOrderMark
      · have hne : first ≠ c := fun heq => hc (heq.symm.trans hmark)
        rw [List.count_cons_of_ne hne]
        simp [unmarked, hmark]
      · simp [unmarked, hmark]

/-- The newlines of a delivered text are the newline bytes of its source. -/
theorem count_newline {source : Source} (hdefect : source.deliver.defect = none) :
    source.deliver.text.count '\n' = source.bytes.count 0x0A := by
  obtain ⟨text, rfl, hnul⟩ := exists_text_of_deliver hdefect
  rw [deliver_ofString_unmarked hnul, count_unmarked (by decide), ofString_bytes]
  exact (count_utf8 (by decide) text.toList).symm

end Source

namespace Piece

/-- A piece that is over where a text begins is over where a newline and more follow. -/
theorem EndsBefore.append_newline {piece : Piece} {rest : List Char} (hends : piece.EndsBefore rest)
    (hkind : piece.kind? ≠ some .unknown) (more : List Char) :
    piece.EndsBefore (rest ++ '\n' :: more) := by
  have hhead : (rest ++ '\n' :: more).head? = rest.head?.or (some '\n') := by
    rw [List.head?_append, List.head?_cons]
  cases piece with
  | number whole fraction =>
      cases fraction with
      | none =>
          intro c hc
          rw [hhead, Option.mem_def, Option.or_eq_some_iff] at hc
          rcases hc with hrest | ⟨-, hnewline⟩
          · exact hends c hrest
          · cases hnewline
            decide
      | some digits =>
          intro c hc
          rw [hhead, Option.mem_def, Option.or_eq_some_iff] at hc
          rcases hc with hrest | ⟨-, hnewline⟩
          · exact hends c hrest
          · cases hnewline
            decide
  | symbol name =>
      intro c hc
      rw [hhead, Option.mem_def, Option.or_eq_some_iff] at hc
      rcases hc with hrest | ⟨-, hnewline⟩
      · exact hends c hrest
      · cases hnewline
        decide
  | unclosed quote inner => exact absurd rfl hkind
  | stray run => exact absurd rfl hkind
  | _ => trivial

theorem Cuts.append_newline {text : List Char} {pieces : List Piece} (hcuts : Cuts text pieces)
    (hknown : ∀ piece ∈ pieces, piece.kind? ≠ some .unknown) (more : List Char) :
    Cuts (text ++ '\n' :: more) (pieces ++ .blank '\n' :: Piece.pieces more) := by
  induction hcuts with
  | nil =>
      have hblank : (blank '\n').Conforms := show Text.isBlank '\n' = true by decide
      exact .cons hblank trivial (cuts_pieces more)
  | cons hconforms hends _ ih =>
      rw [List.forall_mem_cons] at hknown
      rw [List.append_assoc]
      exact .cons hconforms (hends.append_newline hknown.1 more) (ih hknown.2)

end Piece

/-! ## Joined tokens -/

/-- A place as many lines further down. -/
def Position.lowered (count : Nat) (place : Position) : Position :=
  { place with line := place.line + count }

/-- A token as many lines further down. -/
def Token.lowered (count : Nat) (token : Token) : Token :=
  { token with position := token.position.lowered count }

theorem Position.afterAll_lowered (count : Nat) (place : Position) (text : List Char) :
    (place.lowered count).afterAll text = (place.afterAll text).lowered count := by
  induction text generalizing place with
  | nil => rfl
  | cons c rest ih =>
      have hafter : (place.lowered count).after c = (place.after c).lowered count := by
        unfold after
        split
        · simp [lowered, Int.add_right_comm]
        · rfl
      rw [afterAll_cons, afterAll_cons, hafter, ih]

theorem Token.lowered_lexeme (count : Nat) (token : Token) :
    (token.lowered count).lexeme = token.lexeme := rfl

theorem Token.lowered_zero : Token.lowered 0 = id := by
  funext token
  simp [lowered, Position.lowered]

/-- Where the same lines are found further down, there are the same tokens further down. -/
theorem tokensOf_lowered {lines lines' : Array String} {start : Position} {pieces : List Piece}
    (count : Nat)
    (hlines : ∀ before after, pieces.flatMap Piece.raw = before ++ after →
      Scan.lineAt lines' ((start.lowered count).afterAll before) =
        Scan.lineAt lines (start.afterAll before)) :
    tokensOf lines' (start.lowered count) pieces =
      (tokensOf lines start pieces).map (Token.lowered count) := by
  induction pieces generalizing start with
  | nil => rfl
  | cons piece rest ih =>
      have hline := hlines [] ((piece :: rest).flatMap Piece.raw) rfl
      have hfirst : Scan.token? lines' (start.lowered count, piece) =
          (Scan.token? lines (start, piece)).map (Token.lowered count) := by
        rw [Position.afterAll_nil, Position.afterAll_nil] at hline
        rw [Scan.token?, Scan.token?, Option.map_map, hline]
        rfl
      have hrest : tokensOf lines' ((start.afterAll piece.raw).lowered count) rest =
          (tokensOf lines (start.afterAll piece.raw) rest).map (Token.lowered count) := by
        refine ih fun before after hsplit => ?_
        have hfound := hlines (piece.raw ++ before) after (by
          rw [List.flatMap_cons, hsplit, List.append_assoc])
        rwa [Position.afterAll_append, Position.afterAll_append,
          Position.afterAll_lowered count start] at hfound
      rw [tokensOf_cons, tokensOf_cons, List.map_append, Position.afterAll_lowered, hfirst, hrest]
      congr 1
      cases Scan.token? lines (start, piece) <;> rfl

namespace Text

theorem takeWhile_append_newline (first second : List Char) :
    (first ++ '\n' :: second).takeWhile (· != '\n') = first.takeWhile (· != '\n') := by
  induction first with
  | nil => rfl
  | cons c rest ih =>
      rw [List.cons_append, List.takeWhile_cons, List.takeWhile_cons, ih]

theorem lastLine_append_newline (first second : List Char) :
    lastLine (first ++ '\n' :: second) = lastLine second := by
  induction second using List.reverseRecOn with
  | nil => exact lastLine_newline first
  | append_singleton second c ih =>
      rw [← List.cons_append, ← List.append_assoc]
      by_cases hc : c = '\n'
      · rw [hc, lastLine_newline, lastLine_newline]
      · rw [lastLine_concat _ hc, lastLine_concat _ hc, ih]

end Text

/-- The place after a text and a newline is as many lines down as the text has. -/
theorem Position.afterAll_newline (first : List Char) :
    (start.afterAll first).afterAll ['\n'] = start.lowered (1 + first.count '\n') := by
  rw [← afterAll_append, afterAll_start, Text.lastLine_newline, List.count_append,
    List.count_singleton_self, lowered, start]
  simp [Nat.add_comm]

section

variable (first second : List Char)

/-- What follows a text on a new line changes neither the places nor the lines in it. -/
theorem tokensOf_first_line :
    tokensOf (Scan.lineTable (first ++ '\n' :: second)) Position.start (Piece.pieces first) =
      tokensOf (Scan.lineTable first) Position.start (Piece.pieces first) := by
  have hlowered : tokensOf (Scan.lineTable (first ++ '\n' :: second)) (Position.start.lowered 0)
      (Piece.pieces first) =
        (tokensOf (Scan.lineTable first) Position.start (Piece.pieces first)).map
          (Token.lowered 0) := by
    refine tokensOf_lowered 0 fun before after hsplit => ?_
    have hplace : Position.start.lowered 0 = Position.start := rfl
    rw [Piece.flatMap_raw_pieces] at hsplit
    rw [hplace, hsplit, List.append_assoc, Scan.lineAt_afterAll, Scan.lineAt_afterAll,
      Text.takeWhile_append_newline]
  rw [Token.lowered_zero, List.map_id] at hlowered
  exact hlowered

/-- In a text that follows another one on a new line, the lines are the same further down. -/
theorem tokensOf_second_line :
    tokensOf (Scan.lineTable (first ++ '\n' :: second))
        (Position.start.lowered (1 + first.count '\n')) (Piece.pieces second) =
      (tokensOf (Scan.lineTable second) Position.start (Piece.pieces second)).map
        (Token.lowered (1 + first.count '\n')) := by
  refine tokensOf_lowered _ fun before after hsplit => ?_
  rw [Piece.flatMap_raw_pieces] at hsplit
  have hwhole : first ++ '\n' :: second = (first ++ '\n' :: before) ++ after := by
    rw [hsplit, List.append_assoc, List.cons_append]
  have hplace : (Position.start.lowered (1 + first.count '\n')).afterAll before =
      Position.start.afterAll (first ++ '\n' :: before) := by
    rw [← Position.afterAll_newline, ← Position.afterAll_append, ← Position.afterAll_append,
      List.singleton_append]
  rw [hplace, hwhole, Scan.lineAt_afterAll, Text.lastLine_append_newline, hsplit,
    Scan.lineAt_afterAll]

end

/-- The tokens of a text and of one that follows it on a new line. -/
theorem tokensOf_append_newline {first : List Char}
    (hknown : ∀ piece ∈ Piece.pieces first, piece.kind? ≠ some .unknown) (second : List Char) :
    tokensOf (Scan.lineTable (first ++ '\n' :: second)) Position.start
        (Piece.pieces (first ++ '\n' :: second)) =
      tokensOf (Scan.lineTable first) Position.start (Piece.pieces first) ++
        (tokensOf (Scan.lineTable second) Position.start (Piece.pieces second)).map
          (Token.lowered (1 + first.count '\n')) := by
  have hpieces := ((Piece.cuts_pieces first).append_newline hknown second).eq_pieces
  have hblank : ∀ (lines : Array String) (start : Position),
      Scan.token? lines (start, .blank '\n') = none := fun _ _ => rfl
  rw [← hpieces, tokensOf_append, tokensOf_first_line, Piece.flatMap_raw_pieces, tokensOf_cons,
    hblank, Piece.raw, Position.afterAll_newline, tokensOf_second_line]
  rfl

/-! ## Joined programs -/

namespace Node

mutual

/-- A node with all tokens in it replaced. -/
def retoken (change : Token → Token) : Node → Node
  | atom token value => atom (token.map change) value
  | list token items => list (token.map change) (retokenAll change items)
  | closure token identity params body home =>
    closure (token.map change) identity params (retokenAll change body) home

/-- Several nodes with all tokens in them replaced. -/
def retokenAll (change : Token → Token) : List Node → List Node
  | [] => []
  | node :: rest => node.retoken change :: retokenAll change rest

end

end Node

namespace Program

/-- Tokens of unknown kind spell nothing. -/
theorem Spells.kind_ne_unknown {tokens : List Token} {nodes : List Node}
    (hspells : Spells tokens nodes) : ∀ token ∈ tokens, token.kind ≠ .unknown := by
  induction hspells with
  | nil => simp
  | atom hatom _ ih =>
      refine List.forall_mem_cons.mpr ⟨?_, ih⟩
      intro hkind
      simp [atom?, hkind] at hatom
  | list hopening hclosing _ _ ihinner ihrest =>
      simp only [List.forall_mem_cons, List.forall_mem_append]
      refine ⟨?_, ihinner, ?_, ihrest⟩
      · rw [hopening]
        decide
      · rw [hclosing]
        decide

/-- Tokens of the same kinds and texts spell the same nodes, but for the tokens. -/
theorem Spells.retoken {change : Token → Token}
    (hchange : ∀ token, (change token).lexeme = token.lexeme)
    {tokens : List Token} {nodes : List Node} (hspells : Spells tokens nodes) :
    Spells (tokens.map change) (Node.retokenAll change nodes) := by
  induction hspells with
  | nil => exact .nil
  | @atom token atom rest nodes hatom _ ih =>
      obtain ⟨hkind, htext⟩ := Prod.ext_iff.mp (hchange token)
      refine .atom ?_ ih
      rw [← hatom, atom?, atom?, show (change token).kind = token.kind from hkind,
        show (change token).text = token.text from htext]
  | @list opening closing _ _ _ _ hopening hclosing _ _ ihinner ihrest =>
      rw [List.map_cons, List.map_append, List.map_cons]
      refine .list ?_ ?_ ihinner ihrest
      · exact (congrArg Prod.fst (hchange opening)).trans hopening
      · exact (congrArg Prod.fst (hchange closing)).trans hclosing

end Program

/-- What reading a source gives is spelled by the tokens of the pieces of its text. -/
theorem exists_spells_of_read {source : Source} {program : Node}
    (hread : Program.read source = .ok program) :
    source.deliver.defect = none ∧ ∃ opening items, program = .list (some opening) items ∧
      Program.Spells (tokensOf (Scan.lineTable source.deliver.text) Position.start
        (Piece.pieces source.deliver.text)) items := by
  obtain ⟨hdefect, opening, closing, inner, items, htokens, -, -, hinner, hprogram⟩ :=
    spells_of_read hread
  obtain ⟨opening', closing', -, -, -, hscan⟩ := exists_brackets hdefect
  rw [hscan] at htokens
  obtain ⟨rfl, -⟩ := List.append_inj' (List.cons.inj htokens).2 rfl
  exact ⟨hdefect, opening, items, hprogram, hinner⟩

theorem exists_read_of_spells {source : Source} (hdefect : source.deliver.defect = none)
    {items : List Node}
    (hspells : Program.Spells (tokensOf (Scan.lineTable source.deliver.text) Position.start
      (Piece.pieces source.deliver.text)) items) :
    ∃ opening, Program.read source = .ok (.list (some opening) items) := by
  obtain ⟨opening, closing, hbrackets, -, -, hscan⟩ := exists_brackets hdefect
  refine ⟨opening, ?_⟩
  rw [Program.read, Program.readSource, (scan_defect_eq_none_iff source).mpr hdefect]
  exact Program.readTokens_of_spells ⟨opening, closing, _, items, hscan, hbrackets.opening_kind,
    hbrackets.closing_kind, hspells, rfl⟩

/-- All pieces of a text whose tokens spell nodes are of a known kind. -/
theorem kind?_ne_unknown_of_spells {lines : Array String} {start : Position} {pieces : List Piece}
    {items : List Node} (hspells : Program.Spells (tokensOf lines start pieces) items) :
    ∀ piece ∈ pieces, piece.kind? ≠ some .unknown := by
  intro piece hpiece hkind
  have hlexeme : (TokenKind.unknown, String.ofList piece.content) ∈
      (tokensOf lines start pieces).map Token.lexeme := by
    rw [map_lexeme_tokensOf, List.mem_filterMap]
    exact ⟨piece, hpiece, by simp [Piece.lexeme?, hkind]⟩
  obtain ⟨token, htoken, heq⟩ := List.mem_map.mp hlexeme
  exact hspells.kind_ne_unknown token htoken (congrArg Prod.fst heq)

/-- A program that follows another one on a new line is read with it: the forms of the first,
and then those of the second with their tokens as many lines further down as the first has. -/
theorem read_followedBy {first second : Source} {program other : Node}
    (hfirst : Program.read first = .ok program) (hsecond : Program.read second = .ok other)
    (hmark : Source.leading? second.bytes ≠ some Source.byteOrderMark) :
    ∃ opening, Program.read (first.followedBy second) = .ok (.list (some opening)
      (program.items?.getD [] ++ Node.retokenAll
        (Token.lowered (1 + first.deliver.text.count '\n')) (other.items?.getD []))) := by
  obtain ⟨hdefect, -, items, rfl, hspells⟩ := exists_spells_of_read hfirst
  obtain ⟨hdefect', -, others, rfl, hspells'⟩ := exists_spells_of_read hsecond
  have hdeliver := Source.deliver_followedBy hdefect hdefect' hmark
  refine exists_read_of_spells (by rw [hdeliver]) ?_
  rw [hdeliver]
  simp only
  rw [tokensOf_append_newline (kind?_ne_unknown_of_spells hspells)]
  exact hspells.append (hspells'.retoken (Token.lowered_lexeme _))

/-- Reading is compositional. The bytes of two programs with a newline between them read as
one program, whose forms are those of the first as they were and those of the second with
every token in them, at any depth, as many lines further down as the first has. -/
theorem reading_composes (first second : List UInt8) (program other : Node)
    (hfirst : Program.read { bytes := first } = .ok program)
    (hsecond : Program.read { bytes := second } = .ok other)
    (hmark : ¬ [0xEF, 0xBB, 0xBF] <+: second) :
    ∃ items others joined, program.items? = some items ∧ other.items? = some others ∧
      Program.read { bytes := first ++ 0x0A :: second } = .ok joined ∧
      joined.items? =
        some (items ++ Node.retokenAll (Token.lowered (1 + first.count 0x0A)) others) := by
  obtain ⟨_, hjoined⟩ := read_followedBy hfirst hsecond (Source.leading?_ne_mark hmark)
  obtain ⟨hdefect, _, items, rfl, -⟩ := exists_spells_of_read hfirst
  obtain ⟨-, _, others, rfl, -⟩ := exists_spells_of_read hsecond
  rw [Source.count_newline hdefect] at hjoined
  exact ⟨items, others, _, rfl, rfl, hjoined, rfl⟩

/-- Two lines that begin with a byte order mark and end inside a number. -/
def numberSample : List UInt8 := (Source.ofString "\uFEFF(f\n 'x') 1.").bytes

/-- Two lines, of which the first is empty. -/
def braceSample : List UInt8 := (Source.ofString "\n\x7bg ()\x7d h").bytes

theorem eq_ok_of_toOption {ε α : Type} {result : Except ε α} {a : α}
    (hsome : result.toOption = some a) : result = .ok a := by
  cases result with
  | error => cases hsome
  | ok b => rw [Option.some.inj hsome]

/-- The second program stands two lines further down than on its own. -/
theorem braceSample_after_numberSample :
    ¬ [0xEF, 0xBB, 0xBF] <+: braceSample ∧ ∃ program other items others joined,
      Program.read { bytes := numberSample } = .ok program ∧
      Program.read { bytes := braceSample } = .ok other ∧
      Program.read { bytes := numberSample ++ 0x0A :: braceSample } = .ok joined ∧
      program.items? = some items ∧ other.items? = some others ∧
      joined.items? = some (items ++ Node.retokenAll (Token.lowered 2) others) ∧
      others.map (fun form => form.token?.map Token.position) = [some ⟨2, 0⟩, some ⟨2, 7⟩] := by
  have hmark : ¬ [0xEF, 0xBB, 0xBF] <+: braceSample := by decide
  have hcount : 1 + numberSample.count 0x0A = 2 := by decide
  have hreads : (Program.read { bytes := numberSample }).toOption.isSome = true := by
    decide +kernel
  have hother : (Program.read { bytes := braceSample }).toOption.any (fun other =>
      decide (other.items?.map (·.map fun form => form.token?.map Token.position) =
        some [some ⟨2, 0⟩, some ⟨2, 7⟩])) = true := by decide +kernel
  rw [Option.isSome_iff_exists] at hreads
  rw [Option.any_eq_true] at hother
  obtain ⟨program, hprogram⟩ := hreads
  obtain ⟨other, hother, hplaces⟩ := hother
  obtain ⟨items, others, joined, hitems, hothers, hjoined, hforms⟩ :=
    reading_composes numberSample braceSample program other
      (eq_ok_of_toOption hprogram) (eq_ok_of_toOption hother) hmark
  rw [hcount] at hforms
  rw [hothers] at hplaces
  exact ⟨hmark, program, other, items, others, joined, eq_ok_of_toOption hprogram,
    eq_ok_of_toOption hother, hjoined, hitems, hothers, hforms,
    Option.some_inj.mp (of_decide_eq_true hplaces)⟩

end Lisplet
