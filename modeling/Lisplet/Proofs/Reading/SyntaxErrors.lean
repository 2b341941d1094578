import Lisplet.Proofs.Reading.Places

/-!
# Errors of reading

An error of reading a source always points at a token, and this token stands in the text:
on one of its lines, in a column that is at most one place beyond the line shown. Since a
scan puts brackets around its tokens and cuts numbers that are written like numbers, only
four kinds of errors can arise: a defect of the source, a token without meaning, and too
few or too many closing brackets.
-/

namespace Lisplet

/-! ## Errors of reading tokens -/

namespace Program

theorem cause_of_atom? {token : Token} {cause : SyntaxCause} (hatom : atom? token = .error cause) :
    (cause = .number ∧ token.kind = .number ∧ Decimal.ofText? token.text = none) ∨
      cause = .unexpectedToken := by
  unfold atom? at hatom
  split at hatom
  next hkind =>
    split at hatom
    next => cases hatom
    next hread =>
      cases hatom
      exact .inl ⟨rfl, hkind, hread⟩
  next => cases hatom
  next =>
    split at hatom
    · cases hatom
    · cases hatom
      exact .inr rfl
  next =>
    cases hatom
    exact .inr rfl

/-- Reading on goes wrong at the end of the tokens, at a bracket that closes too much, or at a
token that stands for no atom. -/
theorem error_of_readOn {table : SymbolTable} {frame : Frame} {outer : List Frame}
    {previous : Token} {tokens : List Token} {error : SyntaxError}
    (herror : (readOn table frame outer previous tokens).1 = .error error) :
    ∃ token ∈ previous :: tokens, error.token = some token ∧
      (error.cause = .unclosed ∨ error.cause = .unopened ∨ atom? token = .error error.cause) := by
  induction tokens generalizing table frame outer previous with
  | nil =>
      cases herror
      exact ⟨previous, List.mem_cons_self, rfl, .inl rfl⟩
  | cons token rest ih =>
      -- whatever is read on from this token goes wrong at it or after it
      have hlater : (∃ found ∈ token :: rest, error.token = some found ∧
          (error.cause = .unclosed ∨ error.cause = .unopened ∨
            atom? found = .error error.cause)) →
          ∃ found ∈ previous :: token :: rest, error.token = some found ∧
            (error.cause = .unclosed ∨ error.cause = .unopened ∨
              atom? found = .error error.cause) := by
        rintro ⟨found, hfound, hcause⟩
        exact ⟨found, List.mem_cons_of_mem _ hfound, hcause⟩
      rw [readOn.eq_def] at herror
      simp only at herror
      split at herror
      next => exact hlater (ih herror)
      next =>
        split at herror
        next => exact hlater (ih herror)
        next =>
          split at herror
          · cases herror
          · cases herror
            exact ⟨previous, List.mem_cons_self, rfl, .inr (.inl rfl)⟩
      next =>
        split at herror
        next => exact hlater (ih herror)
        next cause hatom =>
          cases herror
          exact ⟨token, by simp, rfl, .inr (.inr hatom)⟩

end Program

/-! ## Numbers of a text -/

/-- How many characters a token has after its first point. -/
def Token.places (token : Token) : Nat := (token.text.toList.dropWhile (· != '.')).tail.length

/-- A number that a text was cut into can be read, unless it has too many places. -/
theorem exists_ofText?_of_mem_tokensOf {lines : Array String} {start : Position}
    {pieces : List Piece} (hconform : ∀ piece ∈ pieces, piece.Conforms) {token : Token}
    (htoken : token ∈ tokensOf lines start pieces) (hkind : token.kind = .number)
    (hplaces : token.places < 2 ^ 31) : ∃ value, Decimal.ofText? token.text = some value := by
  obtain ⟨piece, hpiece, hpieceKind, htext⟩ := exists_piece_of_mem_tokensOf htoken
  have hform := hconform piece hpiece
  rw [hkind] at hpieceKind
  cases piece with
  | number whole fraction =>
      obtain ⟨hne, hwhole, hfraction⟩ := hform
      rw [Decimal.ofText?, htext, String.toList_ofList]
      cases fraction with
      | none =>
          have hread := Decimal.ofChars?_whole hne hwhole
          rw [Decimal.ofParts?_eq_some (by decide)] at hread
          exact ⟨_, hread⟩
      | some digits =>
          have hpoint : ∀ c ∈ whole, (c != '.') = true := fun c hc => by
            simp [Decimal.ne_point_of_isDigit (hwhole c hc)]
          have hcount : token.places = digits.length := by
            simp [Token.places, htext, Piece.content, Piece.raw,
              List.dropWhile_append_of_pos hpoint]
          have hread := Decimal.ofChars?_point hne hwhole (hfraction digits rfl)
          rw [Decimal.ofParts?_eq_some (by omega)] at hread
          exact ⟨_, hread⟩
  | _ => simp [Piece.kind?] at hpieceKind

/-! ## Defects of a source -/

namespace Scan

/-- A scan that takes notice of a defect has taken the character noted, or all there are. -/
theorem le_taken_keep (stop offset : Nat) (pieces : List Piece) :
    stop ≤ (keep stop offset pieces).2 ∨
      offset + (pieces.flatMap Piece.raw).length ≤ (keep stop offset pieces).2 := by
  induction pieces generalizing offset with
  | nil => exact .inr (Nat.le_refl _)
  | cons piece rest ih =>
      rw [keep]
      split
      next =>
        simp only
        split
        next =>
          have hrest := ih (offset + piece.raw.length)
          rwa [Nat.add_assoc, ← List.length_append, ← List.flatMap_cons] at hrest
        next hpast => exact .inl (Nat.le_of_not_lt hpast)
      next hlast => exact .inl (Nat.le_of_not_lt hlast)

/-- A defect is shown at a token that stands in what was taken of the text. -/
theorem standsIn_of_defect {source : Source} {defect : Defect} {token : Token}
    (hdefect : source.scan.defect = some (defect, token)) :
    ∃ taken, taken <+: source.deliver.text ∧ token.StandsIn taken := by
  obtain ⟨⟨index, met⟩, hmet, htoken⟩ := Option.map_eq_some_iff.mp hdefect
  have hcount := le_taken_keep (noticedAt index) 0 (Piece.pieces source.deliver.text)
  rw [Piece.flatMap_raw_pieces, Nat.zero_add] at hcount
  simp only [hmet] at htoken
  generalize (keep (noticedAt index) 0 (Piece.pieces source.deliver.text)).2 = count at hcount htoken
  generalize source.deliver.text = text at hcount htoken ⊢
  have hnoticed : text.take (noticedAt index) <+: text.take count := by
    rcases hcount with hstop | hall
    · exact List.take_prefix_take_left hstop
    · rw [List.take_of_length_le hall]
      exact List.take_prefix _ _
  obtain ⟨after, hafter⟩ := (List.dropLast_prefix _).trans hnoticed
  obtain rfl := (Prod.mk.inj htoken).2
  exact ⟨text.take count, List.take_prefix _ _, standsIn_of_lineAt hafter.symm rfl rfl⟩

end Scan

/-! ## Errors of reading a source -/

/-- The excerpt of a token ends in the line shown and a caret below it, under one of its
characters or one place after the last. -/
def Token.ShowsCaret (token : Token) : Prop :=
  ∃ (head shown : String) (column : Nat),
    token.excerpt =
      head ++ "\n" ++ shown ++ "\n" ++ String.ofList (List.replicate column ' ') ++ "^" ∧
    '\n' ∉ shown.toList ∧ shown.length = token.source.length ∧ column ≤ shown.length

theorem Token.StandsIn.showsCaret {text : List Char} {token : Token}
    (hstands : token.StandsIn text) : token.ShowsCaret := by
  have hcolumn := hstands.column_bounds
  obtain ⟨-, -, -, -, hline, -⟩ := hstands.isLine
  have hend : "]\n" = "]" ++ "\n" := by decide
  refine ⟨"Code at [" ++ token.position.text ++ "]",
    String.ofList (token.source.toList.map fun c => if c = '\t' then ' ' else c),
    token.position.column.toNat, ?_, ?_, ?_, ?_⟩
  · rw [excerpt, hend, ← String.append_assoc]
  · rw [String.toList_ofList, List.mem_map]
    rintro ⟨c, hc, hshown⟩
    split at hshown
    · cases hshown
    · exact hline (hshown ▸ hc)
  · rw [String.length_ofList, List.length_map, String.length_toList]
  · rw [String.length_ofList, List.length_map]
    omega

/-- Whatever error reading a source ends with, a token shows where: it stands in what was
taken of the text, which is all of it unless the source has a defect. -/
theorem error_of_read {source : Source} {error : SyntaxError}
    (herror : Program.read source = .error error) :
    ∃ token, error.token = some token ∧
      ((∃ defect taken, error.cause = .tokenizing defect ∧ taken <+: source.deliver.text ∧
          token.StandsIn taken) ∨
        (source.deliver.defect = none ∧ token ∈ source.scan.tokens ∧
          token.StandsIn source.deliver.text ∧
          (error.cause = .unclosed ∨ error.cause = .unopened ∨
            Program.atom? token = .error error.cause))) := by
  unfold Program.read Program.readSource at herror
  simp only at herror
  split at herror
  next defect token hdefect =>
    cases herror
    obtain ⟨taken, htaken, hstands⟩ := Scan.standsIn_of_defect hdefect
    exact ⟨token, rfl, .inl ⟨defect, taken, rfl, htaken, hstands⟩⟩
  next hdefect =>
    rw [scan_defect_eq_none_iff] at hdefect
    obtain ⟨opening, closing, hbrackets, -, -, htokens⟩ := exists_brackets hdefect
    rw [htokens, Program.readTokens, hbrackets.opening_kind] at herror
    obtain ⟨token, htoken, hshown, hcause⟩ := Program.error_of_readOn herror
    rw [← htokens] at htoken
    exact ⟨token, hshown, .inr ⟨hdefect, htoken, standsIn_of_mem_scan hdefect htoken, hcause⟩⟩

theorem places_of_number {source : Source} (hdefect : source.deliver.defect = none)
    {token : Token} (htoken : token ∈ source.scan.tokens)
    (hatom : Program.atom? token = .error .number) :
    token.kind = .number ∧ 2 ^ 31 ≤ token.places := by
  obtain ⟨-, hkind, hread⟩ | hcause := Program.cause_of_atom? hatom
  · refine ⟨hkind, ?_⟩
    by_contra hplaces
    obtain ⟨opening, closing, hbrackets, -, -, htokens⟩ := exists_brackets hdefect
    rw [htokens, List.mem_cons, List.mem_append, List.mem_singleton] at htoken
    rcases htoken with rfl | hinner | rfl
    · rw [hbrackets.opening_kind] at hkind
      cases hkind
    · obtain ⟨value, hvalue⟩ := exists_ofText?_of_mem_tokensOf (Piece.pieces_conform _) hinner hkind
        (Nat.lt_of_not_le hplaces)
      rw [hread] at hvalue
      cases hvalue
    · rw [hbrackets.closing_kind] at hkind
      cases hkind
  · cases hcause

/-- The kinds of errors that reading a source can end with. -/
theorem kind_of_read {source : Source} {error : SyntaxError}
    (herror : Program.read source = .error error) :
    error.cause.kind ∈ [.tokenizing, .unexpectedToken, .unclosed, .unopened] ∨
      (error.cause.kind = .number ∧
        ∃ token ∈ source.scan.tokens, token.kind = .number ∧ 2 ^ 31 ≤ token.places) := by
  obtain ⟨token, -, ⟨defect, taken, hcause, -⟩ | ⟨hdefect, htoken, -, hcause⟩⟩ :=
    error_of_read herror
  · simp [hcause, SyntaxCause.kind]
  · rcases hcause with hcause | hcause | hatom
    · simp [hcause, SyntaxCause.kind]
    · simp [hcause, SyntaxCause.kind]
    · obtain ⟨hcause, -⟩ | hcause := Program.cause_of_atom? hatom
      · rw [hcause] at hatom ⊢
        exact .inr ⟨rfl, token, htoken, places_of_number hdefect htoken hatom⟩
      · simp [hcause, SyntaxCause.kind]

/-- An error of reading a source comes from a defect of the source, from a token without
meaning, or from too few or too many closing brackets, provided that no number has too many
places. It points at a token on one of the lines of the text, and the caret in its excerpt
is at most one place after the line shown. Unless the source has a defect, this line is a
whole line of the text. -/
theorem syntax_errors_shown (source : Source) (error : SyntaxError)
    (herror : Program.read source = .error error) :
    ((∀ token ∈ source.scan.tokens, token.kind = .number → token.places < 2 ^ 31) →
      error.diagnostic.kind ∈ [.tokenizing, .unexpectedToken, .unclosed, .unopened]) ∧
    error.diagnostic.kind ≠ .parenthesis ∧
    ∃ token, error.diagnostic.token = some token ∧
      1 ≤ token.position.line ∧ token.position.line ≤ 1 + source.deliver.text.count '\n' ∧
      token.position.column ≤ token.source.length ∧ token.ShowsCaret ∧
      (error.diagnostic.kind ≠ .tokenizing →
        Text.IsLine source.deliver.text token.position.line token.source.toList) := by
  have hkind := kind_of_read herror
  refine ⟨?_, ?_, ?_⟩
  · intro hplaces
    rcases hkind with hkind | ⟨-, token, htoken, hnumber, hlong⟩
    · exact hkind
    · exact absurd (hplaces token htoken hnumber) (Nat.not_lt.mpr hlong)
  · rcases hkind with hkind | ⟨hkind, -⟩
    · intro hparenthesis
      rw [show error.cause.kind = .parenthesis from hparenthesis] at hkind
      exact absurd hkind (by decide)
    · rw [show error.diagnostic.kind = .number from hkind]
      decide
  · obtain ⟨token, htoken, ⟨defect, taken, hcause, htaken, hstands⟩ | ⟨-, -, hstands, -⟩⟩ :=
      error_of_read herror
    · have hcount : taken.count '\n' ≤ source.deliver.text.count '\n' :=
        htaken.sublist.count_le _
      have hlines := hstands.line_bounds
      refine ⟨token, htoken, hlines.1, by omega, hstands.column_bounds.2, hstands.showsCaret, ?_⟩
      intro hother
      exact absurd (congrArg SyntaxCause.kind hcause) hother
    · exact ⟨token, htoken, hstands.line_bounds.1, hstands.line_bounds.2, hstands.column_bounds.2,
        hstands.showsCaret, fun _ => hstands.isLine⟩

/-- A program with a bracket on its second line that closes nothing. -/
def bracketSample : Source := .ofString "(a 1.5)\n\tb) c"

/-- The token before that bracket. -/
def bracketSampleToken : Token := ⟨.symbol, "b", ⟨2, 1⟩, "\tb) c"⟩

theorem bracketSample_shown :
    Program.read bracketSample = .error ⟨.unopened, some bracketSampleToken⟩ ∧
      (∀ token ∈ bracketSample.scan.tokens, token.kind = .number → token.places < 2 ^ 31) ∧
      ErrorKind.unopened ∈ [ErrorKind.tokenizing, .unexpectedToken, .unclosed, .unopened] ∧
      bracketSampleToken.ShowsCaret ∧
      Text.IsLine bracketSample.deliver.text 2 bracketSampleToken.source.toList := by
  have hfails : (match Program.read bracketSample with
      | .error error => some error
      | .ok _ => none) = some ⟨.unopened, some bracketSampleToken⟩ := by decide +kernel
  have herror : Program.read bracketSample = .error ⟨.unopened, some bracketSampleToken⟩ := by
    split at hfails
    next error hread => rw [hread, Option.some.inj hfails]
    next => cases hfails
  have hplaces : ∀ token ∈ bracketSample.scan.tokens,
      token.kind = .number → token.places < 2 ^ 31 := by decide +kernel
  obtain ⟨hkinds, -, token, htoken, -, -, -, hcaret, hline⟩ :=
    syntax_errors_shown bracketSample _ herror
  obtain rfl : bracketSampleToken = token := Option.some.inj htoken
  exact ⟨herror, hplaces, hkinds hplaces, hcaret, hline ErrorKind.noConfusion⟩

end Lisplet
