import Lisplet.Proofs.Reading.Cutting

/-!
# Blanks between lexemes

Blanks have no meaning but to keep lexemes apart. The lexemes of a text may be written again
with any blanks before the first, after the last and between any two of them, and next to a
bracket with none at all: the tokens have the same kinds and texts.
-/

namespace Lisplet

namespace Piece

open Text

/-- Whether a piece is a bracket. -/
def isBracket : Piece → Bool
  | opening _ => true
  | closing _ => true
  | _ => false

/-- The text is made of the raw texts of the lexemes, each with blanks after it. There may be
none after the last one, and none where one of two neighbours is a bracket. -/
inductive Spaced : List Piece → List Char → Prop
  | nil : Spaced [] []
  | cons {lexeme : Piece} {gap text : List Char} {rest : List Piece}
      (hblank : ∀ c ∈ gap, isBlank c = true)
      (happart : gap ≠ [] ∨ lexeme.isBracket = true ∨ ∀ next ∈ rest.head?, next.isBracket = true)
      (hrest : Spaced rest text) : Spaced (lexeme :: rest) (lexeme.raw ++ (gap ++ text))

/-! ## What keeps lexemes apart -/

/-- A character that ends every lexeme but an open string: a blank or a bracket. -/
def isSeparator (c : Char) : Bool := isBlank c || isOpening c || isClosing c

theorem isBreak_of_isSeparator {c : Char} (hc : isSeparator c = true) : isBreak c = true := by
  simp only [isBreak, show (isBlank c || isOpening c || isClosing c) = true from hc, Bool.true_or]

theorem isDigit_of_isSeparator {c : Char} (hc : isSeparator c = true) : c.isDigit = false := by
  by_contra hdigit
  rw [Bool.not_eq_false] at hdigit
  have hbreak := isBreak_of_isSeparator hc
  rw [isBreak_of_isDigit hdigit] at hbreak
  cases hbreak

/-- Every piece but an open string is over before a separator and at the end of a text. -/
theorem endsBefore_of_isSeparator {piece : Piece} {rest : List Char}
    (hclosed : ∀ quote inner, piece ≠ unclosed quote inner)
    (hrest : ∀ c ∈ rest.head?, isSeparator c = true) : piece.EndsBefore rest := by
  cases piece with
  | number whole fraction =>
      cases fraction with
      | none =>
          intro c hc
          refine ⟨isDigit_of_isSeparator (hrest c hc), ?_⟩
          rintro rfl
          exact absurd (hrest '.' hc) (by decide)
      | some digits => exact fun c hc => isDigit_of_isSeparator (hrest c hc)
  | unclosed quote inner => exact absurd rfl (hclosed quote inner)
  | stray run =>
      rintro c hc rfl
      exact absurd (hrest '\\' hc) (by decide)
  | symbol name => exact fun c hc => isBreak_of_isSeparator (hrest c hc)
  | _ => trivial

theorem endsBefore_of_isBracket {piece : Piece} (hbracket : piece.isBracket = true)
    (rest : List Char) : piece.EndsBefore rest := by
  cases piece with
  | opening c => trivial
  | closing c => trivial
  | _ => cases hbracket

theorem isSeparator_of_isBracket {piece : Piece} (hconforms : piece.Conforms)
    (hbracket : piece.isBracket = true) : ∃ c, piece.raw = [c] ∧ isSeparator c = true := by
  cases piece with
  | opening c => exact ⟨c, rfl, by simp [isSeparator, show isOpening c = true from hconforms]⟩
  | closing c => exact ⟨c, rfl, by simp [isSeparator, show isClosing c = true from hconforms]⟩
  | _ => cases hbracket

/-- Spaced lexemes of which the first is a bracket begin with a separator. -/
theorem Spaced.isSeparator_head {lexemes : List Piece} {text : List Char}
    (hspaced : Spaced lexemes text) (hconform : ∀ lexeme ∈ lexemes, lexeme.Conforms)
    (hbracket : ∀ first ∈ lexemes.head?, first.isBracket = true) :
    ∀ c ∈ text.head?, isSeparator c = true := by
  cases hspaced with
  | nil =>
      intro c hc
      cases hc
  | @cons lexeme gap _ _ hblank _ _ =>
      obtain ⟨c, hraw, hc⟩ :=
        isSeparator_of_isBracket (hconform lexeme List.mem_cons_self) (hbracket lexeme rfl)
      rw [hraw]
      rintro first ⟨⟩
      exact hc

/-- Each lexeme is over where its blanks and the next lexeme follow. -/
theorem Spaced.endsBefore {lexeme : Piece} {gap text : List Char} {rest : List Piece}
    (hspaced : Spaced rest text) (hconform : ∀ next ∈ rest, next.Conforms)
    (hclosed : ∀ quote inner, lexeme ≠ unclosed quote inner)
    (hblank : ∀ c ∈ gap, isBlank c = true)
    (happart : gap ≠ [] ∨ lexeme.isBracket = true ∨
      ∀ next ∈ rest.head?, next.isBracket = true) : lexeme.EndsBefore (gap ++ text) := by
  cases gap with
  | cons c more =>
      refine endsBefore_of_isSeparator hclosed ?_
      rintro first ⟨⟩
      rw [isSeparator, hblank c List.mem_cons_self, Bool.true_or, Bool.true_or]
  | nil =>
      rcases happart with hgap | hbracket | hnext
      · exact absurd rfl hgap
      · exact endsBefore_of_isBracket hbracket _
      · exact endsBefore_of_isSeparator hclosed (hspaced.isSeparator_head hconform hnext)

/-! ## Cutting a spaced text -/

/-- Blanks in front of a text are cut off one by one. -/
theorem Cuts.append_blanks {text : List Char} {pieces : List Piece} (hcuts : Cuts text pieces)
    {gap : List Char} (hblank : ∀ c ∈ gap, isBlank c = true) :
    Cuts (gap ++ text) (gap.map blank ++ pieces) := by
  induction gap with
  | nil => exact hcuts
  | cons c rest ih =>
      rw [List.forall_mem_cons] at hblank
      have hconforms : (blank c).Conforms := hblank.1
      exact .cons hconforms trivial (ih hblank.2)

theorem filterMap_lexeme?_blanks (gap : List Char) (pieces : List Piece) :
    (gap.map blank ++ pieces).filterMap lexeme? = pieces.filterMap lexeme? := by
  induction gap with
  | nil => rfl
  | cons c rest ih => exact ih

theorem filterMap_lexeme?_filter (pieces : List Piece) :
    (pieces.filter (·.kind?.isSome)).filterMap lexeme? = pieces.filterMap lexeme? := by
  rw [List.filterMap_filter]
  congr 1
  funext piece
  cases hkind : piece.kind? <;> simp [lexeme?, hkind]

/-- Lexemes with blanks between them are cut out again. -/
theorem Spaced.exists_cuts {lexemes : List Piece} {text : List Char} (hspaced : Spaced lexemes text)
    (hconform : ∀ lexeme ∈ lexemes, lexeme.Conforms)
    (hclosed : ∀ quote inner, unclosed quote inner ∉ lexemes) :
    ∃ pieces, Cuts text pieces ∧ pieces.filterMap lexeme? = lexemes.filterMap lexeme? := by
  induction hspaced with
  | nil => exact ⟨[], .nil, rfl⟩
  | @cons lexeme gap text rest hblank happart hrest ih =>
      rw [List.forall_mem_cons] at hconform
      simp only [List.mem_cons, not_or] at hclosed
      obtain ⟨pieces, hcuts, hlexemes⟩ := ih hconform.2 fun quote inner => (hclosed quote inner).2
      have hends : lexeme.EndsBefore (gap ++ text) :=
        hrest.endsBefore hconform.2 (fun quote inner => Ne.symm (hclosed quote inner).1) hblank
          happart
      refine ⟨lexeme :: (gap.map blank ++ pieces),
        .cons hconform.1 hends (hcuts.append_blanks hblank), ?_⟩
      rw [List.filterMap_cons, List.filterMap_cons, filterMap_lexeme?_blanks, hlexemes]

theorem Spaced.mem_or_isBlank {lexemes : List Piece} {text : List Char}
    (hspaced : Spaced lexemes text) {c : Char} (hc : c ∈ text) :
    (∃ lexeme ∈ lexemes, c ∈ lexeme.raw) ∨ isBlank c = true := by
  induction hspaced with
  | nil => cases hc
  | cons hblank _ _ ih =>
      rw [List.mem_append, List.mem_append] at hc
      rcases hc with hraw | hgap | htext
      · exact .inl ⟨_, List.mem_cons_self, hraw⟩
      · exact .inr (hblank c hgap)
      · rcases ih htext with ⟨lexeme, hmem, hraw⟩ | hc
        · exact .inl ⟨lexeme, List.mem_cons_of_mem _ hmem, hraw⟩
        · exact .inr hc

end Piece

/-- The lexemes of a source without defect and without an open string may be written again with
any blanks around them, as long as two neighbours are kept apart of which neither is a bracket.
The new text scans without defect to tokens of the same kinds and texts, unless it happens to
begin with a byte order mark. -/
theorem scan_spaced (source : Source) (hdefect : source.scan.defect = none)
    (hclosed : ∀ quote inner, Piece.unclosed quote inner ∉ Piece.pieces source.deliver.text)
    (before text : List Char) (hbefore : ∀ c ∈ before, Text.isBlank c = true)
    (hspaced : Piece.Spaced ((Piece.pieces source.deliver.text).filter (·.kind?.isSome)) text)
    (hmark : (before ++ text).head? ≠ some Source.byteOrderMark) :
    let again := (Source.ofString (String.ofList (before ++ text))).scan
    again.defect = none ∧ again.tokens.map Token.lexeme = source.scan.tokens.map Token.lexeme := by
  intro again
  rw [scan_defect_eq_none_iff] at hdefect
  have hnul : '\x00' ∉ before ++ text := by
    have hblank : Text.isBlank '\x00' = false := by decide
    intro hmem
    rcases List.mem_append.mp hmem with hmem | hmem
    · rw [hbefore _ hmem] at hblank
      cases hblank
    · rcases hspaced.mem_or_isBlank hmem with ⟨lexeme, hlexeme, hraw⟩ | hc
      · refine Source.nul_notMem_of_deliver hdefect ?_
        rw [← Piece.flatMap_raw_pieces source.deliver.text]
        exact List.mem_flatMap.mpr ⟨lexeme, (List.mem_filter.mp hlexeme).1, hraw⟩
      · rw [hc] at hblank
        cases hblank
  have hdelivery : (Source.ofString (String.ofList (before ++ text))).deliver =
      ⟨before ++ text, none⟩ := by
    rw [Source.deliver_ofString (by rwa [String.toList_ofList]) (by rwa [String.toList_ofList]),
      String.toList_ofList]
  have hagain : (Source.ofString (String.ofList (before ++ text))).deliver.defect = none := by
    rw [hdelivery]
  obtain ⟨pieces, hcuts, hlexemes⟩ := hspaced.exists_cuts
    (fun lexeme hmem => Piece.pieces_conform _ lexeme (List.mem_filter.mp hmem).1)
    (fun quote inner hmem => hclosed quote inner (List.mem_filter.mp hmem).1)
  refine ⟨(scan_defect_eq_none_iff _).mpr hagain, ?_⟩
  rw [map_lexeme_scan hagain, map_lexeme_scan hdefect, hdelivery,
    ← (hcuts.append_blanks hbefore).eq_pieces, Piece.filterMap_lexeme?_blanks, hlexemes,
    Piece.filterMap_lexeme?_filter]

/-- Lexemes of every kind close together: a symbol, a number and a string over two lines between
brackets, and backslashes. -/
def crowdedSample : Source := .ofString "\uFEFFf(1.5'b\nc')\\\\"

/-- The same lexemes after a wide blank, with blanks of several kinds between them. -/
def spreadSample : List Char := "f (1.5\t'b\nc'\u00A0)\\\\\r\n".toList

theorem spreadSample_spaced :
    Piece.Spaced ((Piece.pieces crowdedSample.deliver.text).filter (·.kind?.isSome))
      spreadSample := by
  have hlexemes : (Piece.pieces crowdedSample.deliver.text).filter (·.kind?.isSome) =
      [.symbol ['f'], .opening '(', .number ['1'] (some ['5']), .quoted '\x27' ['b', '\n', 'c'],
        .closing ')', .stray ['\\', '\\']] := by decide +kernel
  rw [hlexemes]
  have hblank : ∀ gap : List Char, gap.all Text.isBlank = true → ∀ c ∈ gap, Text.isBlank c = true :=
    fun _ => List.all_eq_true.mp
  exact @Piece.Spaced.cons _ [' '] _ _ (hblank _ rfl) (by decide) <|
    @Piece.Spaced.cons _ [] _ _ (hblank _ rfl) (by decide) <|
    @Piece.Spaced.cons _ ['\t'] _ _ (hblank _ rfl) (by decide) <|
    @Piece.Spaced.cons _ ['\u00A0'] _ _ (hblank _ rfl) (by decide) <|
    @Piece.Spaced.cons _ [] _ _ (hblank _ rfl) (by decide) <|
    @Piece.Spaced.cons _ ['\r', '\n'] _ _ (hblank _ rfl) (by decide) .nil

theorem spreadSample_scans :
    crowdedSample.scan.defect = none ∧
      (∀ quote inner, Piece.unclosed quote inner ∉ Piece.pieces crowdedSample.deliver.text) ∧
      (Source.ofString (String.ofList ('\u3000' :: spreadSample))).scan.defect = none ∧
      (Source.ofString (String.ofList ('\u3000' :: spreadSample))).scan.tokens.map Token.lexeme =
        [(.opening, ""), (.symbol, "f"), (.opening, "("), (.number, "1.5"), (.string, "b\nc"),
          (.closing, ")"), (.unknown, "\\\\"), (.closing, "")] := by
  have hdefect : crowdedSample.scan.defect = none := by decide +kernel
  have hclosed : ∀ quote inner,
      Piece.unclosed quote inner ∉ Piece.pieces crowdedSample.deliver.text := by
    intro quote inner hmem
    have hkinds : (Piece.pieces crowdedSample.deliver.text).all fun piece =>
        match piece with
        | .unclosed _ _ => false
        | _ => true := by decide +kernel
    cases List.all_eq_true.mp hkinds _ hmem
  obtain ⟨hagain, htokens⟩ := scan_spaced crowdedSample hdefect hclosed ['\u3000'] spreadSample
    (List.all_eq_true.mp rfl) spreadSample_spaced (by decide)
  refine ⟨hdefect, hclosed, hagain, htokens.trans ?_⟩
  decide +kernel

end Lisplet
