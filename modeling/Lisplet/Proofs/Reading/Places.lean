import Lisplet.Proofs.Reading.Cutting
import Mathlib.Data.List.DropRight

/-!
# Where tokens stand

The place of a token is counted from the text before it: its line is one more than the
newlines there, and its column is the number of characters after the last of them. A
token shows the line that it stands on, whole and without its newline, so the character
in the column of a token is the first of the token itself. Tokens come in the order of
their places.
-/

namespace Lisplet

namespace Text

/-! ## Lines -/

/-- The line that a text breaks off in: what stands after its last newline. -/
def lastLine (text : List Char) : List Char := text.rtakeWhile (· != '\n')

/-- The line of a text with the given number: the stretch without newlines between two
newlines or an end of the text, with one line less before it than its number. -/
def IsLine (text : List Char) (number : Int) (line : List Char) : Prop :=
  ∃ before after, text = before ++ line ++ after ∧ number = 1 + before.count '\n' ∧
    '\n' ∉ line ∧ (∀ c ∈ before.getLast?, c = '\n') ∧ ∀ c ∈ after.head?, c = '\n'

theorem lastLine_newline (text : List Char) : lastLine (text ++ ['\n']) = [] :=
  List.rtakeWhile_concat_neg _ _ _ (by simp)

theorem lastLine_concat (text : List Char) {c : Char} (hc : c ≠ '\n') :
    lastLine (text ++ [c]) = lastLine text ++ [c] :=
  List.rtakeWhile_concat_pos _ _ _ (by simpa using hc)

/-- The line around a place in a text. -/
theorem isLine_around (before after : List Char) :
    IsLine (before ++ after) (1 + before.count '\n')
      (lastLine before ++ after.takeWhile (· != '\n')) := by
  have hbefore : before.rdropWhile (· != '\n') ++ lastLine before = before :=
    List.rdropWhile_append_rtakeWhile
  have hafter := List.takeWhile_append_dropWhile (p := (· != '\n')) (l := after)
  have hlast : '\n' ∉ lastLine before := fun hmem => by
    simpa using List.mem_rtakeWhile_imp hmem
  refine ⟨before.rdropWhile (· != '\n'), after.dropWhile (· != '\n'), ?_, ?_, ?_, ?_, ?_⟩
  · calc before ++ after
        = before.rdropWhile (· != '\n') ++ lastLine before ++
            (after.takeWhile (· != '\n') ++ after.dropWhile (· != '\n')) := by
          rw [hbefore, hafter]
      _ = _ := by simp only [List.append_assoc]
  · have hcount := congrArg (List.count '\n') hbefore
    rw [List.count_append, List.count_eq_zero.mpr hlast, Nat.add_zero] at hcount
    rw [hcount]
  · rw [List.mem_append, not_or]
    exact ⟨hlast, fun hmem => by simpa using List.mem_takeWhile_imp hmem⟩
  · intro c hc
    obtain ⟨hne, rfl⟩ := List.mem_getLast?_eq_getLast hc
    simpa using List.rdropWhile_last_not _ _ hne
  · intro c hc
    simpa using Piece.head?_dropWhile (· != '\n') after hc

theorem lines_append_newline (first second : List Char) :
    lines (first ++ '\n' :: second) = lines first ++ lines second := by
  induction first with
  | nil => simp [lines]
  | cons c rest ih =>
      rw [List.cons_append, lines, lines]
      split
      · rw [ih, List.cons_append]
      · rw [ih]
        cases hrest : lines rest with
        | nil => exact absurd hrest (lines_ne_nil rest)
        | cons line more => rfl

theorem length_lines (text : List Char) : (lines text).length = 1 + text.count '\n' := by
  induction text with
  | nil => rfl
  | cons c rest ih =>
      rw [lines]
      split
      next hc =>
        rw [List.length_cons, ih, hc, List.count_cons_self]
        omega
      next hc =>
        rw [List.count_cons_of_ne hc, ← ih]
        cases hrest : lines rest with
        | nil => exact absurd hrest (lines_ne_nil rest)
        | cons line more => rfl

theorem head?_lines (text : List Char) :
    (lines text).head? = some (text.takeWhile (· != '\n')) := by
  induction text with
  | nil => rfl
  | cons c rest ih =>
      rw [lines]
      split
      next hc => simp [hc]
      next hc =>
        rw [List.takeWhile_cons_of_pos (by simpa using hc)]
        cases hrest : lines rest with
        | nil => exact absurd hrest (lines_ne_nil rest)
        | cons line more =>
            rw [hrest, List.head?_cons, Option.some.injEq] at ih
            rw [ih, List.head?_cons]

/-- The line around a place is found by counting the newlines before it. -/
theorem getElem?_lines (before after : List Char) :
    (lines (before ++ after))[before.count '\n']? =
      some (lastLine before ++ after.takeWhile (· != '\n')) := by
  induction before using List.reverseRecOn generalizing after with
  | nil =>
      rw [List.nil_append, List.count_nil, ← List.head?_eq_getElem?, head?_lines]
      rfl
  | append_singleton before c ih =>
      rw [List.append_assoc, List.singleton_append, List.count_append]
      by_cases hc : c = '\n'
      · subst hc
        have hlength := length_lines before
        rw [lines_append_newline, lastLine_newline, List.count_singleton_self,
          List.getElem?_append_right (by omega), hlength, Nat.add_comm, Nat.sub_self,
          ← List.head?_eq_getElem?, head?_lines]
        rfl
      · rw [List.count_singleton, if_neg (by simpa using hc), Nat.add_zero, ih,
          lastLine_concat before hc, List.takeWhile_cons_of_pos (by simpa using hc),
          List.append_assoc, List.singleton_append]

end Text

/-! ## Places -/

namespace Position

/-- One place comes before another, on an earlier line or further left on the same. -/
def Before (place other : Position) : Prop :=
  place.line < other.line ∨ (place.line = other.line ∧ place.column < other.column)

theorem Before.trans {first second third : Position} (hfirst : first.Before second)
    (hsecond : second.Before third) : first.Before third := by
  unfold Before at *
  omega

theorem before_after (place : Position) (c : Char) : place.Before (place.after c) := by
  unfold after
  split
  · exact .inl (Int.lt_succ _)
  · exact .inr ⟨rfl, Int.lt_succ _⟩

theorem before_afterAll (place : Position) {text : List Char} (hne : text ≠ []) :
    place.Before (place.afterAll text) := by
  induction text generalizing place with
  | nil => exact absurd rfl hne
  | cons c rest ih =>
      rw [afterAll_cons]
      cases rest with
      | nil => exact before_after place c
      | cons d more => exact (before_after place c).trans (ih _ (List.cons_ne_nil d more))

/-- A place is told by the newlines before it and the characters since the last. -/
theorem afterAll_start (before : List Char) :
    start.afterAll before = ⟨1 + before.count '\n', (Text.lastLine before).length⟩ := by
  induction before using List.reverseRecOn with
  | nil => rfl
  | append_singleton before c ih =>
      rw [afterAll_append, ih, afterAll_cons, afterAll_nil, after, List.count_append]
      by_cases hc : c = '\n'
      · subst hc
        rw [if_pos rfl, Text.lastLine_newline, List.count_singleton_self]
        simp [Int.add_assoc]
      · rw [if_neg hc, Text.lastLine_concat before hc, List.count_singleton,
          if_neg (by simpa using hc)]
        simp

end Position

namespace Scan

/-- The lines of a text in the form in which a scan looks them up. -/
def lineTable (text : List Char) : Array String := ((Text.lines text).map String.ofList).toArray

/-- At the place that a text reaches, the line around this place is found. -/
theorem lineAt_afterAll (before after : List Char) :
    lineAt (lineTable (before ++ after)) (Position.start.afterAll before) =
      String.ofList (Text.lastLine before ++ after.takeWhile (· != '\n')) := by
  rw [Position.afterAll_start, lineAt, if_neg (by simp only; omega), lineTable]
  have hindex : ((1 : Int) + before.count '\n' - 1).toNat = before.count '\n' := by omega
  simp only [hindex, List.getElem?_toArray, List.getElem?_map, Text.getElem?_lines,
    Option.map_some, Option.getD_some]

end Scan

/-! ## Tokens that stand in a text -/

/-- A token stands somewhere in a text and shows the line around it. -/
def Token.StandsIn (text : List Char) (token : Token) : Prop :=
  ∃ before after, text = before ++ after ∧ token.position = Position.start.afterAll before ∧
    token.source = String.ofList (Text.lastLine before ++ after.takeWhile (· != '\n'))

section

variable {text : List Char} {token : Token}

theorem Token.StandsIn.line_bounds (hstands : token.StandsIn text) :
    1 ≤ token.position.line ∧ token.position.line ≤ 1 + text.count '\n' := by
  obtain ⟨before, after, rfl, hplace, -⟩ := hstands
  rw [hplace, Position.afterAll_start, List.count_append]
  simp only
  omega

/-- The column of a token is at most one place beyond the line that it shows. -/
theorem Token.StandsIn.column_bounds (hstands : token.StandsIn text) :
    0 ≤ token.position.column ∧ token.position.column ≤ token.source.toList.length := by
  obtain ⟨before, after, rfl, hplace, hsource⟩ := hstands
  rw [hplace, Position.afterAll_start, hsource, String.toList_ofList, List.length_append]
  simp only
  omega

theorem Token.StandsIn.isLine (hstands : token.StandsIn text) :
    Text.IsLine text token.position.line token.source.toList := by
  obtain ⟨before, after, rfl, hplace, hsource⟩ := hstands
  rw [hplace, Position.afterAll_start, hsource, String.toList_ofList]
  exact Text.isLine_around before after

/-- What a scan marks at a place of a text that it knows the lines of stands there. -/
theorem standsIn_of_lineAt {before after : List Char} (htext : text = before ++ after)
    (hplace : token.position = Position.start.afterAll before)
    (hsource : token.source = Scan.lineAt (Scan.lineTable text) token.position) :
    token.StandsIn text := by
  refine ⟨before, after, htext, hplace, ?_⟩
  rw [hsource, hplace, htext, Scan.lineAt_afterAll]

end

/-! ## Tokens of pieces -/

namespace Piece

/-- The pieces that give tokens, each with the text before it, if the first of the pieces
stands after the given text. -/
def lexemes (before : List Char) : List Piece → List (List Char × Piece)
  | [] => []
  | piece :: rest =>
    if piece.kind?.isSome then (before, piece) :: lexemes (before ++ piece.raw) rest
    else lexemes (before ++ piece.raw) rest

/-- A piece that gives a token does not begin with a newline. -/
theorem exists_head_of_kind? {piece : Piece} {kind : TokenKind} (hconforms : piece.Conforms)
    (hkind : piece.kind? = some kind) : ∃ c more, piece.raw = c :: more ∧ c ≠ '\n' := by
  have hbreak : Text.isBreak '\n' = true := by decide
  cases piece with
  | blank c => cases hkind
  | opening c =>
      refine ⟨c, [], rfl, ?_⟩
      rintro rfl
      exact absurd (show Text.isOpening '\n' = true from hconforms) (by decide)
  | closing c =>
      refine ⟨c, [], rfl, ?_⟩
      rintro rfl
      exact absurd (show Text.isClosing '\n' = true from hconforms) (by decide)
  | number whole fraction =>
      obtain ⟨hne, hwhole, -⟩ := hconforms
      obtain ⟨c, more, rfl⟩ := List.exists_cons_of_ne_nil hne
      have hc : c ≠ '\n' := by
        rintro rfl
        exact absurd (hwhole '\n' List.mem_cons_self) (by decide)
      cases fraction with
      | none => exact ⟨c, more, rfl, hc⟩
      | some digits => exact ⟨c, more ++ '.' :: digits, rfl, hc⟩
  | quoted quote inner =>
      refine ⟨quote, inner ++ [quote], rfl, ?_⟩
      rintro rfl
      exact absurd hconforms.1 (by decide)
  | unclosed quote inner =>
      refine ⟨quote, inner, rfl, ?_⟩
      rintro rfl
      exact absurd hconforms.1 (by decide)
  | stray run =>
      obtain ⟨hne, hrun⟩ := hconforms
      obtain ⟨c, more, rfl⟩ := List.exists_cons_of_ne_nil hne
      refine ⟨c, more, rfl, ?_⟩
      rw [hrun c List.mem_cons_self]
      decide
  | symbol name =>
      obtain ⟨hne, hname, -⟩ := hconforms
      obtain ⟨c, more, rfl⟩ := List.exists_cons_of_ne_nil hne
      refine ⟨c, more, rfl, ?_⟩
      rintro rfl
      rw [hname '\n' List.mem_cons_self] at hbreak
      cases hbreak

end Piece

/-- A token marks a piece of a text that stands after the given beginning of it. -/
structure Token.Marks (text before : List Char) (piece : Piece) (token : Token) : Prop where
  kind_eq : piece.kind? = some token.kind
  text_eq : token.text = String.ofList piece.content
  line_eq : token.position.line = 1 + before.count '\n'
  column_eq : token.position.column = (Text.lastLine before).length
  isLine : Text.IsLine text token.position.line token.source.toList
  /-- In its column the token begins. -/
  getElem?_column : token.source.toList[token.position.column.toNat]? = piece.raw.head?

section

variable {text : List Char}

theorem marks_of_token? {before after : List Char} {piece : Piece} {token : Token}
    (hconforms : piece.Conforms) (htext : text = before ++ (piece.raw ++ after))
    (htoken : Scan.token? (Scan.lineTable text) (Position.start.afterAll before, piece) =
      some token) : token.Marks text before piece := by
  obtain ⟨kind, hkind, rfl⟩ := Option.map_eq_some_iff.mp htoken
  obtain ⟨c, more, hraw, hc⟩ := Piece.exists_head_of_kind? hconforms hkind
  have hline : Scan.lineAt (Scan.lineTable text) (Position.start.afterAll before) =
      String.ofList (Text.lastLine before ++ (piece.raw ++ after).takeWhile (· != '\n')) := by
    rw [htext, Scan.lineAt_afterAll]
  constructor
  case kind_eq => exact hkind
  case text_eq => rfl
  case line_eq => simp only [Position.afterAll_start]
  case column_eq => simp only [Position.afterAll_start]
  case isLine => exact (standsIn_of_lineAt htext rfl rfl).isLine
  case getElem?_column =>
    have hcolumn : (Position.start.afterAll before).column.toNat =
        (Text.lastLine before).length := by
      rw [Position.afterAll_start, Int.toNat_natCast]
    simp only [hline, hcolumn, String.toList_ofList]
    rw [List.getElem?_append_right (Nat.le_refl _), Nat.sub_self, hraw, List.cons_append,
      List.takeWhile_cons_of_pos (by simpa using hc)]
    rfl

/-- The tokens of a text mark the pieces of it that give tokens, one by one. -/
theorem forall₂_marks {before : List Char} {pieces : List Piece}
    (hconform : ∀ piece ∈ pieces, piece.Conforms)
    (htext : text = before ++ pieces.flatMap Piece.raw) :
    List.Forall₂ (fun lexeme token => Token.Marks text lexeme.1 lexeme.2 token)
      (Piece.lexemes before pieces)
      (tokensOf (Scan.lineTable text) (Position.start.afterAll before) pieces) := by
  induction pieces generalizing before with
  | nil => exact .nil
  | cons piece rest ih =>
      rw [List.forall_mem_cons] at hconform
      rw [List.flatMap_cons] at htext
      have hsplit : text = (before ++ piece.raw) ++ rest.flatMap Piece.raw := by
        rw [htext, List.append_assoc]
      have hrest := ih hconform.2 hsplit
      rw [Position.afterAll_append] at hrest
      rw [tokensOf_cons, Piece.lexemes]
      cases htoken : Scan.token? (Scan.lineTable text) (Position.start.afterAll before, piece) with
      | none =>
          have hkind : piece.kind? = none := Option.map_eq_none_iff.mp htoken
          simpa [hkind] using hrest
      | some token =>
          have hmarks := marks_of_token? hconform.1 htext htoken
          rw [hmarks.kind_eq, Option.isSome_some, if_pos rfl, Option.toList_some,
            List.singleton_append]
          exact .cons hmarks hrest

/-- Each token stands at the place that some beginning of the pieces reaches. -/
theorem exists_place_of_mem_tokensOf {lines : Array String} {start : Position}
    {pieces : List Piece} {token : Token} (htoken : token ∈ tokensOf lines start pieces) :
    ∃ before after, pieces.flatMap Piece.raw = before ++ after ∧
      token.position = start.afterAll before ∧
      token.source = Scan.lineAt lines token.position := by
  induction pieces generalizing start with
  | nil => cases htoken
  | cons piece rest ih =>
      rw [tokensOf_cons, List.mem_append, Option.mem_toList] at htoken
      rcases htoken with hfirst | hrest
      · obtain ⟨kind, -, rfl⟩ := Option.map_eq_some_iff.mp hfirst
        exact ⟨[], _, rfl, rfl, rfl⟩
      · obtain ⟨before, after, hsplit, hplace, hsource⟩ := ih hrest
        refine ⟨piece.raw ++ before, after, ?_, ?_, hsource⟩
        · rw [List.flatMap_cons, hsplit, List.append_assoc]
        · rw [hplace, Position.afterAll_append]

/-- Tokens come in the order of their places. -/
theorem pairwise_tokensOf (lines : Array String) (start : Position) {pieces : List Piece}
    (hconform : ∀ piece ∈ pieces, piece.Conforms) :
    (tokensOf lines start pieces).Pairwise fun token other =>
      token.position.Before other.position := by
  induction pieces generalizing start with
  | nil => exact .nil
  | cons piece rest ih =>
      rw [List.forall_mem_cons] at hconform
      rw [tokensOf_cons]
      cases hfirst : Scan.token? lines (start, piece) with
      | none => exact ih _ hconform.2
      | some token =>
          obtain ⟨kind, hkind, rfl⟩ := Option.map_eq_some_iff.mp hfirst
          obtain ⟨c, more, hraw, -⟩ := Piece.exists_head_of_kind? hconform.1 hkind
          refine List.pairwise_cons.mpr ⟨?_, ih _ hconform.2⟩
          intro other hother
          obtain ⟨before, after, -, hplace, -⟩ := exists_place_of_mem_tokensOf hother
          rw [hplace, ← Position.afterAll_append]
          exact start.before_afterAll (by simp [hraw])

end

/-! ## Scans without defect -/

/-- The two brackets around the tokens of a text that were not written. -/
structure Scan.Brackets (text : List Char) (opening closing : Token) : Prop where
  opening_kind : opening.kind = .opening
  opening_place : opening.position = ⟨1, 0⟩
  opening_line : Text.IsLine text 1 opening.source.toList
  closing_kind : closing.kind = .closing
  /-- The closing bracket stands at the last character of the text. -/
  closing_place : closing.position =
    ⟨1 + text.dropLast.count '\n', (Text.lastLine text.dropLast).length⟩
  closing_line : Text.IsLine text closing.position.line closing.source.toList

/-- A scan without defect gives the tokens of the pieces of the text, between two brackets
that were not written. -/
theorem exists_brackets {source : Source} (hdefect : source.deliver.defect = none) :
    ∃ opening closing, Scan.Brackets source.deliver.text opening closing ∧
      opening.StandsIn source.deliver.text ∧ closing.StandsIn source.deliver.text ∧
      source.scan.tokens = opening :: (tokensOf (Scan.lineTable source.deliver.text) Position.start
        (Piece.pieces source.deliver.text) ++ [closing]) := by
  simp only [Source.scan, Delivery.scan, Scan.extent, hdefect]
  generalize source.deliver.text = text
  rw [List.take_length]
  obtain ⟨after, hlast⟩ := List.dropLast_prefix text
  have hopening : ∀ kind : TokenKind, Token.StandsIn text ⟨kind, "", Position.start,
      Scan.lineAt (Scan.lineTable text) Position.start⟩ :=
    fun kind => standsIn_of_lineAt (List.nil_append text).symm rfl rfl
  have hclosing : ∀ kind : TokenKind, Token.StandsIn text ⟨kind, "", Scan.lastPlace text,
      Scan.lineAt (Scan.lineTable text) (Scan.lastPlace text)⟩ :=
    fun kind => standsIn_of_lineAt hlast.symm rfl rfl
  refine ⟨_, _, ?_, hopening .opening, hclosing .closing, rfl⟩
  constructor
  case opening_kind => rfl
  case opening_place => rfl
  case opening_line => exact (hopening .opening).isLine
  case closing_kind => rfl
  case closing_place => exact Position.afterAll_start text.dropLast
  case closing_line => exact (hclosing .closing).isLine

/-- All tokens of a scan without defect stand in the text. -/
theorem standsIn_of_mem_scan {source : Source} (hdefect : source.deliver.defect = none)
    {token : Token} (htoken : token ∈ source.scan.tokens) : token.StandsIn source.deliver.text := by
  obtain ⟨opening, closing, -, hopening, hclosing, htokens⟩ := exists_brackets hdefect
  rw [htokens, List.mem_cons, List.mem_append, List.mem_singleton] at htoken
  rcases htoken with rfl | hinner | rfl
  · exact hopening
  · obtain ⟨before, after, hsplit, hplace, hsource⟩ := exists_place_of_mem_tokensOf hinner
    rw [Piece.flatMap_raw_pieces] at hsplit
    exact standsIn_of_lineAt hsplit hplace hsource
  · exact hclosing

/-- A source that scans without defect is a text, less a byte order mark in front of it. Its
tokens mark the pieces of the text: each stands on the line after as many newlines as there
are before it and in the column after as many characters as there are since the last of
them, shows that line, and begins in its column. They come in the order of their places,
between an opening bracket at the beginning and a closing bracket at the last character,
which show their lines as well. -/
theorem scan_places (source : Source) (hdefect : source.scan.defect = none) :
    let text := source.deliver.text
    (∃ input : String, source = .ofString input ∧ text = Source.unmarked input.toList) ∧
      ∃ (pieces : List Piece) (opening closing : Token) (tokens : List Token),
        Piece.Cuts text pieces ∧ source.scan.tokens = opening :: (tokens ++ [closing]) ∧
        List.Forall₂ (fun lexeme token => Token.Marks text lexeme.1 lexeme.2 token)
          (Piece.lexemes [] pieces) tokens ∧
        tokens.Pairwise (fun token other => token.position.Before other.position) ∧
        Scan.Brackets text opening closing := by
  intro text
  rw [scan_defect_eq_none_iff] at hdefect
  obtain ⟨input, hsource, hnul⟩ := Source.exists_text_of_deliver hdefect
  obtain ⟨opening, closing, hbrackets, -, -, htokens⟩ := exists_brackets hdefect
  have hconform := Piece.pieces_conform text
  have hsplit : text = [] ++ (Piece.pieces text).flatMap Piece.raw :=
    (Piece.flatMap_raw_pieces text).symm
  have hmarks := forall₂_marks hconform hsplit
  refine ⟨⟨input, hsource, ?_⟩, _, opening, closing, _, Piece.cuts_pieces text, htokens, hmarks,
    pairwise_tokensOf _ _ hconform, hbrackets⟩
  rw [show text = source.deliver.text from rfl, hsource, Source.deliver_ofString_unmarked hnul]

/-- Tokens that mark pieces stand where the text before these leads. -/
theorem map_position_of_marks {text : List Char} {lexemes : List (List Char × Piece)}
    {tokens : List Token}
    (hmarks : List.Forall₂ (fun lexeme token => Token.Marks text lexeme.1 lexeme.2 token) lexemes
      tokens) :
    tokens.map Token.position = lexemes.map fun lexeme => Position.start.afterAll lexeme.1 := by
  induction hmarks with
  | nil => rfl
  | @cons lexeme token lexemes tokens hfirst _ ih =>
      rw [List.map_cons, List.map_cons, ih, Position.afterAll_start, ← hfirst.line_eq,
        ← hfirst.column_eq]

/-- A symbol, a string over two lines and a number, with newlines in between and at the
end. -/
def linesSample : Source := .ofString "a\n\x27b\nc\x27 7\n"

theorem linesSample_places :
    linesSample.scan.defect = none ∧
      ∃ opening closing tokens, linesSample.scan.tokens = opening :: (tokens ++ [closing]) ∧
        tokens.map Token.position = [⟨1, 0⟩, ⟨2, 0⟩, ⟨3, 3⟩] ∧ closing.position = ⟨3, 4⟩ ∧
        Text.IsLine linesSample.deliver.text 3 closing.source.toList := by
  have hdefect : linesSample.scan.defect = none := by decide +kernel
  obtain ⟨-, pieces, opening, closing, tokens, hcuts, htokens, hmarks, -, hbrackets⟩ :=
    scan_places linesSample hdefect
  have hclosing : closing.position = ⟨3, 4⟩ := by
    rw [hbrackets.closing_place]
    decide +kernel
  have hline := hbrackets.closing_line
  rw [hclosing] at hline
  refine ⟨hdefect, opening, closing, tokens, htokens, ?_, hclosing, hline⟩
  rw [map_position_of_marks hmarks, hcuts.eq_pieces]
  decide +kernel

end Lisplet
