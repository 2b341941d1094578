import Lisplet.Proofs.Reading.Defects
import Lisplet.Proofs.Reading.Places

/-!
# Scans that break off

A scan breaks off at the first defect of its source. The error stands at the character
before the defect, and what is left of the tokens is the beginning of those that all
delivered characters would give: the tokens that begin before the place of the error. The
last of them is whole, even where it goes on behind the defect. Reading reports the defect
with the words that describe it.
-/

namespace Lisplet

/-- What a token tells apart from the line that it shows: its kind, its text and its place. -/
def Token.placed (token : Token) : (TokenKind × String) × Position :=
  (token.lexeme, token.position)

theorem map_placed_tokensOf (lines lines' : Array String) (start : Position)
    (pieces : List Piece) :
    (tokensOf lines start pieces).map Token.placed =
      (tokensOf lines' start pieces).map Token.placed := by
  induction pieces generalizing start with
  | nil => rfl
  | cons piece rest ih =>
      rw [tokensOf_cons, tokensOf_cons, List.map_append, List.map_append, ih]
      cases hkind : piece.kind? with
      | none => simp [Scan.token?, hkind]
      | some kind => simp [Scan.token?, hkind, Token.placed, Token.lexeme]

namespace Position

theorem Before.irrefl (place : Position) : ¬ place.Before place := by
  unfold Before
  omega

/-- Of two places in a text, the one with less text before it comes before the other. -/
theorem before_iff_length_lt {text first second : List Char} (hfirst : first <+: text)
    (hsecond : second <+: text) :
    (start.afterAll first).Before (start.afterAll second) ↔ first.length < second.length := by
  constructor
  · intro hbefore
    by_contra hle
    obtain ⟨more, rfl⟩ :=
      List.prefix_of_prefix_length_le hsecond hfirst (Nat.le_of_not_lt hle)
    cases more with
    | nil =>
        rw [List.append_nil] at hbefore
        exact Before.irrefl _ hbefore
    | cons c rest =>
        rw [afterAll_append] at hbefore
        exact Before.irrefl _ (hbefore.trans (before_afterAll _ (List.cons_ne_nil c rest)))
  · intro hlt
    obtain ⟨more, rfl⟩ := List.prefix_of_prefix_length_le hfirst hsecond (Nat.le_of_lt hlt)
    rw [afterAll_append]
    refine before_afterAll _ ?_
    rintro rfl
    simp at hlt

end Position

/-- A token stands in a text behind so many characters as a condition allows. -/
def Token.StandsBehind (text : List Char) (allowed : Nat → Prop) (token : Token) : Prop :=
  ∃ before, before <+: text ∧ token.position = Position.start.afterAll before ∧
    allowed before.length

theorem Token.StandsBehind.imp {text : List Char} {allowed allowed' : Nat → Prop} {token : Token}
    (himp : ∀ count, allowed count → allowed' count) (hstands : token.StandsBehind text allowed) :
    token.StandsBehind text allowed' := by
  obtain ⟨before, hfront, hplace, hcount⟩ := hstands
  exact ⟨before, hfront, hplace, himp _ hcount⟩

/-- The token of a piece stands right behind the text before it. -/
theorem standsBehind_of_token? {lines : Array String} {before : List Char} {piece : Piece}
    {token : Token} (after : List Char)
    (htoken : token ∈ (Scan.token? lines (Position.start.afterAll before, piece)).toList) :
    token.StandsBehind (before ++ after) (· = before.length) := by
  obtain ⟨kind, -, rfl⟩ := Option.map_eq_some_iff.mp (Option.mem_toList.mp htoken)
  exact ⟨before, List.prefix_append _ _, rfl, rfl⟩

/-- The tokens of pieces stand behind the text before these. -/
theorem standsBehind_of_mem_tokensOf {lines : Array String} {before : List Char}
    {pieces : List Piece} {token : Token}
    (htoken : token ∈ tokensOf lines (Position.start.afterAll before) pieces) :
    token.StandsBehind (before ++ pieces.flatMap Piece.raw) (before.length ≤ ·) := by
  obtain ⟨between, after, hsplit, hplace, -⟩ := exists_place_of_mem_tokensOf htoken
  refine ⟨before ++ between, ⟨after, ?_⟩, ?_, ?_⟩
  · rw [hsplit, List.append_assoc]
  · rw [hplace, Position.afterAll_append]
  · rw [List.length_append]
    omega

namespace Scan

/-- Pieces are kept from the first on, as long as they begin before the character that a
defect is noticed at. -/
theorem exists_keep (lines : Array String) (stop : Nat) (before : List Char)
    (pieces : List Piece) :
    ∃ kept dropped, (keep stop before.length pieces).1 = kept ∧ pieces = kept ++ dropped ∧
      (∀ token ∈ tokensOf lines (Position.start.afterAll before) kept,
        token.StandsBehind (before ++ pieces.flatMap Piece.raw) (· + 1 < stop)) ∧
      ∀ token ∈ tokensOf lines (Position.start.afterAll (before ++ kept.flatMap Piece.raw)) dropped,
        token.StandsBehind (before ++ pieces.flatMap Piece.raw) (stop ≤ · + 1) := by
  induction pieces generalizing before with
  | nil => exact ⟨[], [], rfl, rfl, nofun, nofun⟩
  | cons piece rest ih =>
      have hlength : before.length + piece.raw.length = (before ++ piece.raw).length :=
        List.length_append.symm
      have hwhole : before ++ (piece :: rest).flatMap Piece.raw =
          (before ++ piece.raw) ++ rest.flatMap Piece.raw := by
        rw [List.flatMap_cons, List.append_assoc]
      rw [keep, hlength]
      by_cases hbegins : before.length + 1 < stop
      · have hfirst : ∀ token ∈ (token? lines (Position.start.afterAll before, piece)).toList,
            token.StandsBehind (before ++ (piece :: rest).flatMap Piece.raw) (· + 1 < stop) :=
          fun token htoken => (standsBehind_of_token? _ htoken).imp (by rintro _ rfl; exact hbegins)
        rw [if_pos hbegins]
        by_cases hpast : (before ++ piece.raw).length < stop
        · obtain ⟨kept, dropped, hkeep, rfl, hkept, hdropped⟩ := ih (before ++ piece.raw)
          rw [if_pos hpast]
          refine ⟨piece :: kept, dropped, congrArg (piece :: ·) hkeep, rfl, ?_, ?_⟩
          · rw [tokensOf_cons, List.forall_mem_append, ← Position.afterAll_append]
            rw [hwhole] at hfirst ⊢
            exact ⟨hfirst, hkept⟩
          · rw [List.flatMap_cons, ← List.append_assoc, hwhole]
            exact hdropped
        · -- the piece reaches the defect: it is the last one kept
          rw [if_neg hpast]
          refine ⟨[piece], rest, rfl, rfl, ?_, ?_⟩
          · rw [tokensOf_cons, List.forall_mem_append]
            exact ⟨hfirst, nofun⟩
          · intro token htoken
            rw [List.flatMap_singleton] at htoken
            rw [hwhole]
            exact (standsBehind_of_mem_tokensOf htoken).imp fun count hcount => by omega
      · rw [if_neg hbegins]
        refine ⟨[], piece :: rest, rfl, rfl, nofun, ?_⟩
        intro token htoken
        rw [List.flatMap_nil, List.append_nil] at htoken
        exact (standsBehind_of_mem_tokensOf htoken).imp fun count hcount => by omega

end Scan

/-- The tokens of a scan but for the lines that they show. -/
theorem map_placed_scan (delivery : Delivery) (lines : Array String) :
    ∃ place, delivery.scan.tokens.map Token.placed =
      ((.opening, ""), ⟨1, 0⟩) ::
        ((tokensOf lines Position.start (Scan.extent delivery).1).map Token.placed ++
          [((.closing, ""), place)]) := by
  refine ⟨Scan.lastPlace (delivery.text.take (Scan.extent delivery).2), ?_⟩
  rw [Delivery.scan, map_placed_tokensOf lines]
  simp only [List.map_cons, List.map_append, List.map_nil]
  rfl

/-- The error of a scan stands at the last character before the defect. -/
theorem error_of_scan {delivery : Delivery} {defect : Defect} {error : Token}
    (hscan : delivery.scan.defect = some (defect, error)) :
    ∃ index, delivery.defect = some (index, defect) ∧ error.lexeme = (.unknown, "") ∧
      error.position =
        Position.start.afterAll (delivery.text.take (Scan.noticedAt index)).dropLast := by
  obtain ⟨⟨index, other⟩, hdefect, heq⟩ := Option.map_eq_some_iff.mp hscan
  cases heq
  exact ⟨index, hdefect, rfl, rfl⟩

/-- The character that a defect is noticed at is the last before the defect. -/
theorem take_noticedAt {clean text : List Char} (hclean : clean <+: text) :
    (text.take (Scan.noticedAt clean.length)).dropLast = clean.dropLast ∧
      clean.dropLast.length + 1 = Scan.noticedAt clean.length := by
  obtain ⟨rest, rfl⟩ := hclean
  cases clean with
  | nil => cases rest <;> exact ⟨rfl, rfl⟩
  | cons c more =>
      have hstop : Scan.noticedAt (c :: more).length = (c :: more).length :=
        Nat.max_eq_right (Nat.le_add_left 1 more.length)
      rw [hstop, List.take_left]
      exact ⟨rfl, by simp⟩

/-- The words that describe a defect. A failure to read on is given in its own words. -/
inductive Defect.DescribedBy : Defect → String → Prop
  | nul : DescribedBy .nul "invalid character NUL"
  | malformed : DescribedBy .malformed "invalid UTF-8 encoding"
  | unreadable (reason : String) : DescribedBy (.unreadable reason) reason

theorem Defect.exists_describedBy (defect : Defect) :
    ∃ words, defect.DescribedBy words ∧ defect.message = "tokenizing error: " ++ words := by
  cases defect with
  | nul => exact ⟨_, .nul, rfl⟩
  | malformed => exact ⟨_, .malformed, rfl⟩
  | unreadable reason => exact ⟨_, .unreadable reason, rfl⟩

/-- Reading reports the defect of a scan, with the message of the defect. -/
theorem read_of_scan_defect {source : Source} {defect : Defect} {error : Token}
    (hscan : source.scan.defect = some (defect, error)) :
    Program.read source = .error ⟨.tokenizing defect, some error⟩ ∧
      (SyntaxError.diagnostic ⟨.tokenizing defect, some error⟩).Tells defect.message := by
  constructor
  · rw [Program.read, Program.readSource, hscan]
  · obtain ⟨words, -, hmessage⟩ := defect.exists_describedBy
    refine Diagnostic.tells_of_message rfl ?_
    rw [hmessage]
    simp

/-- A scan ends without a defect if its source can be read to its end and is valid UTF-8
without zero bytes. Otherwise its error stands at the last character of the text before the
first defect, or at the beginning if there is none, and its tokens are those that all
delivered characters would give, up to the place of the error. The error describes that
defect, and reading reports it in the same words. -/
theorem scan_breaks_off (source : Source) :
    (source.scan.defect = none ↔
      source.failure = none ∧ source.bytes.toByteArray.IsValidUTF8 ∧ 0 ∉ source.bytes) ∧
    ∀ defect error, source.scan.defect = some (defect, error) →
      ∃ clean, source.BreaksAfter clean defect ∧
        let text := source.deliver.text
        let before := (Source.unmarked clean).dropLast
        Source.unmarked clean <+: text ∧ error.lexeme = (.unknown, "") ∧
        error.position = ⟨1 + before.count '\n', (Text.lastLine before).length⟩ ∧
        (∃ words, defect.DescribedBy words ∧ defect.message = "tokenizing error: " ++ words) ∧
        Program.read source = .error ⟨.tokenizing defect, some error⟩ ∧
        (SyntaxError.diagnostic ⟨.tokenizing defect, some error⟩).Tells defect.message ∧
        ∃ (kept dropped : List ((TokenKind × String) × Position)) (place last : Position),
          source.scan.tokens.map Token.placed =
            ((.opening, ""), ⟨1, 0⟩) :: (kept ++ [((.closing, ""), place)]) ∧
          (Delivery.scan ⟨text, none⟩).tokens.map Token.placed =
            ((.opening, ""), ⟨1, 0⟩) :: (kept ++ dropped ++ [((.closing, ""), last)]) ∧
          (∀ lexeme ∈ kept, lexeme.2.Before error.position) ∧
          ∀ lexeme ∈ dropped, ¬ lexeme.2.Before error.position := by
  refine ⟨(scan_defect_eq_none_iff source).trans (Source.defect_eq_none_iff source), ?_⟩
  intro defect error hscan
  obtain ⟨index, hdefect, hlexeme, hposition⟩ := error_of_scan hscan
  obtain ⟨clean, hbreaks, rfl⟩ := Source.breaksAfter_of_defect hdefect
  obtain ⟨hfront, -⟩ := hbreaks.deliver
  obtain ⟨hlast, hstop⟩ := take_noticedAt hfront
  rw [hlast] at hposition
  have hbefore : (Source.unmarked clean).dropLast <+: source.deliver.text :=
    (List.dropLast_prefix _).trans hfront
  obtain ⟨kept, dropped, hkeep, hpieces, hkept, hdropped⟩ := Scan.exists_keep #[]
    (Scan.noticedAt (Source.unmarked clean).length) [] (Piece.pieces source.deliver.text)
  obtain ⟨place, htokens⟩ := map_placed_scan source.deliver #[]
  obtain ⟨last, hwhole⟩ := map_placed_scan ⟨source.deliver.text, none⟩ #[]
  have hextent : (Scan.extent source.deliver).1 = kept := by
    rw [Scan.extent, hdefect]
    exact hkeep
  rw [hextent] at htokens
  rw [show (Scan.extent ⟨source.deliver.text, none⟩).1 = kept ++ dropped from hpieces,
    tokensOf_append, List.map_append] at hwhole
  rw [List.nil_append, Piece.flatMap_raw_pieces] at hkept hdropped
  obtain ⟨hread, htold⟩ := read_of_scan_defect hscan
  refine ⟨clean, hbreaks, hfront, hlexeme, ?_, defect.exists_describedBy, hread, htold, _, _,
    place, last, htokens, hwhole, ?_, ?_⟩
  · rw [hposition, Position.afterAll_start]
  · intro lexeme hmem
    obtain ⟨token, htoken, rfl⟩ := List.mem_map.mp hmem
    obtain ⟨before, htext, hplace, hcount⟩ := hkept token htoken
    rw [Token.placed, hplace, hposition, Position.before_iff_length_lt htext hbefore]
    omega
  · intro lexeme hmem
    obtain ⟨token, htoken, rfl⟩ := List.mem_map.mp hmem
    obtain ⟨before, htext, hplace, hcount⟩ := hdropped token htoken
    rw [Token.placed, hplace, hposition, Position.before_iff_length_lt htext hbefore]
    omega

/-- A call and a string in which reading fails inside a character. -/
def tornSample : Source where
  bytes := (Source.ofString "f (g) \x27a").bytes ++ [0xE2, 0x82]
  failure := some "broken pipe"

/-- The string was begun before the failure was noticed, so it is kept with all that was
delivered. The report gives the failure in its own words, above the place where it was
noticed. -/
theorem tornSample_breaks_off :
    ∃ error clean kept place, tornSample.scan.defect = some (.unreadable "broken pipe", error) ∧
      error.position = ⟨1, 7⟩ ∧ tornSample.BreaksAfter clean (.unreadable "broken pipe") ∧
      tornSample.scan.tokens.map Token.placed =
        ((.opening, ""), ⟨1, 0⟩) :: (kept ++ [((.closing, ""), place)]) ∧
      kept = [((.symbol, "f"), ⟨1, 0⟩), ((.opening, "("), ⟨1, 2⟩), ((.symbol, "g"), ⟨1, 3⟩),
        ((.closing, ")"), ⟨1, 4⟩), ((.unknown, "\x27a\uFFFD\uFFFD"), ⟨1, 6⟩)] ∧
      (∀ lexeme ∈ kept, lexeme.2.Before ⟨1, 7⟩) ∧
      Program.read tornSample = .error ⟨.tokenizing (.unreadable "broken pipe"), some error⟩ ∧
      (SyntaxError.diagnostic ⟨.tokenizing (.unreadable "broken pipe"), some error⟩).text =
        "tokenizing error: broken pipe\nCode at [1:7]\nf (g) \x27a\uFFFD\uFFFD\n       ^" := by
  have hscan : tornSample.scan.defect = some (.unreadable "broken pipe",
      ⟨.unknown, "", ⟨1, 7⟩, "f (g) \x27a\uFFFD\uFFFD"⟩) := by decide +kernel
  obtain ⟨clean, hbreaks, -, -, -, -, hread, htold, kept, -, place, -, htokens, -, hkept, -⟩ :=
    (scan_breaks_off tornSample).2 _ _ hscan
  refine ⟨_, clean, kept, place, hscan, rfl, hbreaks, htokens, ?_, hkept, hread,
    htold.trans (by decide +kernel)⟩
  have hlexemes : tornSample.scan.tokens.map Token.placed =
      ((.opening, ""), ⟨1, 0⟩) :: ([((.symbol, "f"), ⟨1, 0⟩), ((.opening, "("), ⟨1, 2⟩),
        ((.symbol, "g"), ⟨1, 3⟩), ((.closing, ")"), ⟨1, 4⟩),
        ((.unknown, "\x27a\uFFFD\uFFFD"), ⟨1, 6⟩)] ++ [((.closing, ""), ⟨1, 9⟩)]) := by
    decide +kernel
  rw [htokens] at hlexemes
  exact (List.append_inj' (List.cons.inj hlexemes).2 rfl).1

end Lisplet
