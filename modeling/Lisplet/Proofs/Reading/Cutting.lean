import Lisplet.Proofs.Reading.Delivery
import Lisplet.Proofs.Reading.RoundTrip

/-!
# The one way to cut a text

A cutting of a text names pieces, each of the form of its kind and over where the next
one begins, whose raw texts one after the other are the text. Every text has exactly
one cutting, and the tokens of a scan are those of its pieces.
-/

namespace Lisplet

namespace Piece

open Text

/-- The pieces cut a text: each has the form of its kind, and what follows it cannot
make it longer. -/
inductive Cuts : List Char → List Piece → Prop
  | nil : Cuts [] []
  | cons {piece : Piece} {rest : List Char} {pieces : List Piece} (hconforms : piece.Conforms)
      (hends : piece.EndsBefore rest) (hrest : Cuts rest pieces) :
      Cuts (piece.raw ++ rest) (piece :: pieces)

theorem head?_dropWhile (p : Char → Bool) (text : List Char) {c : Char}
    (hc : c ∈ (text.dropWhile p).head?) : p c = false := by
  have hhead := List.head?_dropWhile_not p text
  rw [Option.mem_def.mp hc] at hhead
  simpa using hhead

/-- The piece that is cut off is over where the rest begins. -/
theorem lead_endsBefore (c : Char) (rest : List Char) :
    (lead c rest).1.EndsBefore (lead c rest).2 := by
  unfold lead
  split; · trivial
  split; · trivial
  split; · trivial
  split
  · split
    · rfl
    · trivial
  split
  · split
    · exact fun d hd => head?_dropWhile Char.isDigit _ hd
    next more hpoint =>
      intro d hd
      refine ⟨head?_dropWhile Char.isDigit rest hd, ?_⟩
      rintro rfl
      obtain ⟨after, hafter⟩ : ∃ after, rest.dropWhile Char.isDigit = '.' :: after := by
        cases hdrop : rest.dropWhile Char.isDigit with
        | nil => simp [hdrop] at hd
        | cons first after =>
            rw [hdrop] at hd
            cases hd
            exact ⟨after, rfl⟩
      exact hpoint after hafter
  split
  · intro d hd
    simpa using head?_dropWhile (· == '\\') rest hd
  · intro d hd
    simpa using head?_dropWhile (!isBreak ·) rest hd

theorem cuts_pieces (text : List Char) : Cuts text (pieces text) := by
  induction text using pieces.induct with
  | case1 =>
      rw [pieces]
      exact .nil
  | case2 c rest ih =>
      rw [pieces]
      have hcuts := Cuts.cons (lead_conforms c rest) (lead_endsBefore c rest) ih
      rwa [raw_lead] at hcuts

/-- No two cuttings of a text differ: where a piece ends is settled by the text. -/
theorem Cuts.eq_pieces {text : List Char} {others : List Piece} (hcuts : Cuts text others) :
    others = pieces text := by
  induction hcuts with
  | nil => rw [pieces]
  | cons hconforms hends _ ih => rw [pieces_raw_append _ _ hconforms hends, ← ih]

/-- The kind and the text of the token that a piece gives. -/
def lexeme? (piece : Piece) : Option (TokenKind × String) :=
  piece.kind?.map fun kind => (kind, String.ofList piece.content)

end Piece

/-- The kind and the text of a token. -/
def Token.lexeme (token : Token) : TokenKind × String := (token.kind, token.text)

theorem map_lexeme_tokensOf (lines : Array String) (start : Position) (pieces : List Piece) :
    (tokensOf lines start pieces).map Token.lexeme = pieces.filterMap Piece.lexeme? := by
  induction pieces generalizing start with
  | nil => rfl
  | cons piece rest ih =>
      rw [tokensOf_cons, List.map_append, ih, List.filterMap_cons]
      cases hkind : piece.kind? with
      | none => simp [Scan.token?, Piece.lexeme?, hkind]
      | some kind => simp [Scan.token?, Piece.lexeme?, Token.lexeme, hkind]

theorem map_lexeme_scan {source : Source} (hdefect : source.deliver.defect = none) :
    source.scan.tokens.map Token.lexeme =
      (.opening, "") :: ((Piece.pieces source.deliver.text).filterMap Piece.lexeme? ++
        [(.closing, "")]) := by
  simp only [Source.scan, Delivery.scan, Scan.extent, hdefect, List.map_cons, List.map_append,
    List.map_nil, Token.lexeme]
  rw [← map_lexeme_tokensOf]
  rfl

/-- A text without zero characters is scanned without defect. There is one way to cut it,
less a byte order mark in front, into pieces; these leave nothing out, and between the two
brackets that were not written the scan gives the tokens of the pieces in order. -/
theorem scan_cuts_uniquely (text : String) (hnul : '\x00' ∉ text.toList) :
    let input := Source.unmarked text.toList
    let scan := (Source.ofString text).scan
    scan.defect = none ∧
      ∃ pieces : List Piece,
        Piece.Cuts input pieces ∧ (∀ others, Piece.Cuts input others → others = pieces) ∧
          pieces.flatMap Piece.raw = input ∧
          scan.tokens.map Token.lexeme =
            (.opening, "") :: (pieces.filterMap Piece.lexeme? ++ [(.closing, "")]) := by
  intro input scan
  have hdelivery := Source.deliver_ofString_unmarked hnul
  have hdefect : (Source.ofString text).deliver.defect = none := by rw [hdelivery]
  refine ⟨(scan_defect_eq_none_iff _).mpr hdefect, Piece.pieces input, Piece.cuts_pieces input, ?_,
    Piece.flatMap_raw_pieces input, ?_⟩
  · exact fun others hcuts => hcuts.eq_pieces
  · have htokens := map_lexeme_scan hdefect
    rwa [hdelivery] at htokens

/-- After a byte order mark, a number with two points, a string up against a symbol,
backslashes up against a number and a string that is never closed. -/
def adjacentSample : String := "\uFEFF1.5.x (a'b'\\\\7\"c)"

theorem adjacentSample_cut :
    '\x00' ∉ adjacentSample.toList ∧
      Piece.Cuts (Source.unmarked adjacentSample.toList)
        [.number ['1'] (some ['5']), .symbol ['.', 'x'], .blank ' ', .opening '(', .symbol ['a'],
          .quoted '\x27' ['b'], .stray ['\\', '\\'], .number ['7'] none,
          .unclosed '"' ['c', ')']] ∧
      (Source.ofString adjacentSample).scan.tokens.map Token.lexeme =
        [(.opening, ""), (.number, "1.5"), (.symbol, ".x"), (.opening, "("), (.symbol, "a"),
          (.string, "b"), (.unknown, "\\\\"), (.number, "7"), (.unknown, "\"c)"),
          (.closing, "")] := by
  have hnul : '\x00' ∉ adjacentSample.toList := by decide +kernel
  obtain ⟨-, pieces, hcuts, -, -, htokens⟩ := scan_cuts_uniquely adjacentSample hnul
  have hpieces : Piece.pieces (Source.unmarked adjacentSample.toList) =
      [.number ['1'] (some ['5']), .symbol ['.', 'x'], .blank ' ', .opening '(', .symbol ['a'],
        .quoted '\x27' ['b'], .stray ['\\', '\\'], .number ['7'] none,
        .unclosed '"' ['c', ')']] := by decide +kernel
  rw [← hcuts.eq_pieces] at hpieces
  subst hpieces
  refine ⟨hnul, hcuts, htokens.trans ?_⟩
  decide +kernel

end Lisplet
