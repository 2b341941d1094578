import Lisplet.Piece
import Lisplet.SymbolTable
import Mathlib.Data.List.TakeWhile

/-!
# The lexical grammar, piece by piece

Each kind of piece has a form of its own, and every piece that a text is cut into
has the form of its kind. A piece of the right form is cut off again from any text
that begins with it, provided that the text after it cannot make it longer.
-/

namespace Lisplet

namespace Text

/-! ## Classes of characters -/

/-- Whether two ranges have no character in common. -/
def CharRange.isApartFrom (range other : CharRange) : Bool :=
  range.last < other.first || other.last < range.first

/-- Classes made of ranges that are apart from each other have no character in
common. -/
theorem any_holds_eq_false {ranges others : List CharRange} {c : Char}
    (hapart : (ranges.all fun range => others.all range.isApartFrom) = true)
    (hc : ranges.any (·.holds c) = true) : others.any (·.holds c) = false := by
  obtain ⟨range, hrange, hin⟩ := List.any_eq_true.mp hc
  refine List.any_eq_false.mpr ?_
  intro other hother hin'
  have hdisjoint := List.all_eq_true.mp (List.all_eq_true.mp hapart range hrange) other hother
  simp only [CharRange.isApartFrom, CharRange.holds, Bool.or_eq_true, Bool.and_eq_true,
    decide_eq_true_eq] at hdisjoint hin hin'
  omega

/-- The characters that end a symbol: blanks, quotes, brackets and the backslash. -/
def breakRanges : List CharRange :=
  blankRanges ++ [⟨0x22, 0x22⟩, ⟨0x27, 0x29⟩, ⟨0x5B, 0x5D⟩, ⟨0x7B, 0x7B⟩, ⟨0x7D, 0x7D⟩]

theorem isBreak_eq (c : Char) : isBreak c = breakRanges.any (·.holds c) := by
  rw [breakRanges, List.any_append, ← isBlank, Bool.eq_iff_iff]
  simp only [isBreak, isOpening, isClosing, isQuote, Bool.or_eq_true, beq_iff_eq, List.any_cons,
    List.any_nil, CharRange.holds, Bool.and_eq_true, decide_eq_true_eq, Bool.false_eq_true,
    or_false, ← Char.toNat_inj, Char.reduceToNat]
  grind

theorem isBreak_of_isDigit {c : Char} (hc : c.isDigit = true) : isBreak c = false := by
  have hdigit : [(⟨0x30, 0x39⟩ : CharRange)].any (·.holds c) = true := by
    simpa [CharRange.holds] using Char.isDigit_iff_toNat.mp hc
  rw [isBreak_eq]
  exact any_holds_eq_false (by decide) hdigit

/-- The characters of symbol names. -/
def nameRanges : List CharRange :=
  letterRanges ++ (digitRanges ++ [⟨0x21, 0x21⟩, ⟨0x25, 0x25⟩, ⟨0x2A, 0x2B⟩, ⟨0x2D, 0x2F⟩,
    ⟨0x3C, 0x3F⟩, ⟨0x5F, 0x5F⟩])

theorem any_nameRanges_of_isSymbolBody {c : Char} (hc : isSymbolBody c = true) :
    nameRanges.any (·.holds c) = true := by
  rw [nameRanges, List.any_append, List.any_append, ← isLetter, ← isDecimalDigit]
  simp only [isSymbolBody, isSymbolStart, String.reduceToList, List.contains_cons, List.contains_nil,
    Bool.or_eq_true, beq_iff_eq, Bool.false_eq_true, or_false, ← Char.toNat_inj,
    Char.reduceToNat] at hc
  simp only [List.any_cons, List.any_nil, CharRange.holds, Bool.or_eq_true, Bool.and_eq_true,
    decide_eq_true_eq, Bool.false_eq_true, or_false]
  rcases hc with ((hletter | hdigit) | hsign) | hsign
  · exact .inl hletter
  · exact .inr (.inl hdigit)
  · exact .inr (.inr (by omega))
  · exact .inr (.inr (by omega))

/-- A character of a symbol name ends no symbol, and is neither the zero character
nor the byte order mark. -/
theorem outside_nameRanges {c : Char} (hc : isSymbolBody c = true) :
    isBreak c = false ∧ c ≠ '\x00' ∧ c ≠ '\uFEFF' := by
  -- one pass over the tables decides it for all characters
  have hapart : (nameRanges.all fun range =>
      (breakRanges ++ [(⟨0, 0⟩ : CharRange), ⟨0xFEFF, 0xFEFF⟩]).all range.isApartFrom) = true := by
    decide +kernel
  have hfalse := any_holds_eq_false hapart (any_nameRanges_of_isSymbolBody hc)
  rw [List.any_append, ← isBreak_eq, Bool.or_eq_false_iff] at hfalse
  refine ⟨hfalse.1, ?_, ?_⟩ <;> rintro rfl <;> exact absurd hfalse.2 (by decide)

theorem isSymbolBody_of_isSymbolStart {c : Char} (hc : isSymbolStart c = true) :
    isSymbolBody c = true := by
  rw [isSymbolBody, hc, Bool.true_or]

theorem isSymbolBody_of_mem {name : List Char} (hname : isSymbolName name = true) {c : Char}
    (hc : c ∈ name) : isSymbolBody c = true := by
  cases name with
  | nil => cases hc
  | cons first rest =>
      obtain ⟨hfirst, hrest⟩ := Bool.and_eq_true_iff.mp hname
      rcases List.mem_cons.mp hc with rfl | hc
      · exact isSymbolBody_of_isSymbolStart hfirst
      · exact List.all_eq_true.mp hrest c hc

end Text

namespace Piece

open Text

/-! ## The form of a piece -/

/-- The form that the text of a piece has. -/
def Conforms : Piece → Prop
  | blank c => isBlank c = true
  | opening c => isOpening c = true
  | closing c => isClosing c = true
  | number whole fraction =>
    whole ≠ [] ∧ (∀ c ∈ whole, c.isDigit = true) ∧
      ∀ digits ∈ fraction, ∀ c ∈ digits, c.isDigit = true
  | quoted quote inner => isQuote quote = true ∧ quote ∉ inner
  | unclosed quote inner => isQuote quote = true ∧ quote ∉ inner
  | stray run => run ≠ [] ∧ ∀ c ∈ run, c = '\\'
  | symbol name =>
    name ≠ [] ∧ (∀ c ∈ name, isBreak c = false) ∧ ∀ c ∈ name.head?, c.isDigit = false

/-- Whether a piece is over where the given text begins: no character of the text
could still belong to it. -/
def EndsBefore (rest : List Char) : Piece → Prop
  | number _ none => ∀ c ∈ rest.head?, c.isDigit = false ∧ c ≠ '.'
  | number _ (some _) => ∀ c ∈ rest.head?, c.isDigit = false
  | unclosed _ _ => rest = []
  | stray _ => ∀ c ∈ rest.head?, c ≠ '\\'
  | symbol _ => ∀ c ∈ rest.head?, isBreak c = true
  | _ => True

theorem takeWhile_of_head (p : Char → Bool) (first rest : List Char)
    (hfirst : ∀ c ∈ first, p c = true) (hrest : ∀ c ∈ rest.head?, p c = false) :
    (first ++ rest).takeWhile p = first ∧ (first ++ rest).dropWhile p = rest := by
  rw [List.takeWhile_append_of_pos hfirst, List.dropWhile_append_of_pos hfirst]
  cases rest with
  | nil => simp
  | cons c more => simp [hrest c rfl]

/-- A character that does not end a symbol is of none of the classes that pieces
other than numbers and symbols begin with. -/
theorem classes_of_not_isBreak {c : Char} (hc : isBreak c = false) :
    isBlank c = false ∧ isOpening c = false ∧ isClosing c = false ∧ isQuote c = false ∧
      (c == '\\') = false := by
  simp only [isBreak, Bool.or_eq_false_iff] at hc
  obtain ⟨⟨⟨⟨hblank, hopening⟩, hclosing⟩, hquote⟩, hstray⟩ := hc
  exact ⟨hblank, hopening, hclosing, hquote, hstray⟩

theorem isBlank_of_isQuote {c : Char} (hc : isQuote c = true) :
    isBlank c = false ∧ isOpening c = false ∧ isClosing c = false := by
  simp only [isQuote, Bool.or_eq_true, beq_iff_eq] at hc
  rcases hc with rfl | rfl <;> decide

/-- A piece of the right form is cut off from a text that begins with it and cannot
make it longer. -/
theorem lead_of_conforms {piece : Piece} {rest : List Char} (hconforms : piece.Conforms)
    (hends : piece.EndsBefore rest) :
    ∃ c more, piece.raw = c :: more ∧ lead c (more ++ rest) = (piece, rest) := by
  cases piece with
  | blank c => exact ⟨c, [], rfl, by simp [lead, show isBlank c = true from hconforms]⟩
  | opening c =>
      have hblank : isBlank c = false := by
        simp only [Conforms, isOpening, Bool.or_eq_true, beq_iff_eq] at hconforms
        rcases hconforms with (rfl | rfl) | rfl <;> decide
      exact ⟨c, [], rfl, by simp [lead, hblank, show isOpening c = true from hconforms]⟩
  | closing c =>
      have hblank : isBlank c = false ∧ isOpening c = false := by
        simp only [Conforms, isClosing, Bool.or_eq_true, beq_iff_eq] at hconforms
        rcases hconforms with (rfl | rfl) | rfl <;> decide
      exact ⟨c, [], rfl, by simp [lead, hblank, show isClosing c = true from hconforms]⟩
  | number whole fraction =>
      obtain ⟨hne, hwhole, hfraction⟩ := hconforms
      obtain ⟨c, more, rfl⟩ := List.exists_cons_of_ne_nil hne
      have hfirst : c.isDigit = true := hwhole c List.mem_cons_self
      have hmore : ∀ d ∈ more, d.isDigit = true := fun d hd => hwhole d (List.mem_cons_of_mem _ hd)
      have hclasses := classes_of_not_isBreak (isBreak_of_isDigit hfirst)
      cases fraction with
      | none =>
          refine ⟨c, more, rfl, ?_⟩
          obtain ⟨htake, hdrop⟩ := takeWhile_of_head _ _ _ hmore fun d hd => (hends d hd).1
          simp only [lead, hclasses, hfirst, htake, hdrop, Bool.false_eq_true, if_false, if_true]
          split
          · exact absurd rfl (hends '.' rfl).2
          · rfl
      | some digits =>
          refine ⟨c, more ++ '.' :: digits, rfl, ?_⟩
          have hdigits : ∀ d ∈ digits, d.isDigit = true := hfraction digits rfl
          obtain ⟨htake, hdrop⟩ := takeWhile_of_head _ _ ('.' :: (digits ++ rest)) hmore
            (by rintro d ⟨⟩; decide)
          obtain ⟨htake', hdrop'⟩ := takeWhile_of_head _ _ _ hdigits hends
          rw [List.append_assoc, List.cons_append]
          simp [lead, hclasses, hfirst, htake, hdrop, htake', hdrop']
  | quoted quote inner =>
      obtain ⟨hquote, hinner⟩ := hconforms
      obtain ⟨hblank, hopening, hclosing⟩ := isBlank_of_isQuote hquote
      obtain ⟨htake, hdrop⟩ := takeWhile_of_head (· != quote) inner (quote :: rest)
        (fun c hc => by simpa using fun heq : c = quote => hinner (heq ▸ hc))
        (by simp)
      refine ⟨quote, inner ++ [quote], rfl, ?_⟩
      rw [List.append_assoc, List.singleton_append]
      simp [lead, hblank, hopening, hclosing, hquote, htake, hdrop]
  | unclosed quote inner =>
      obtain ⟨hquote, hinner⟩ := hconforms
      obtain ⟨hblank, hopening, hclosing⟩ := isBlank_of_isQuote hquote
      obtain rfl : rest = [] := hends
      obtain ⟨htake, hdrop⟩ := takeWhile_of_head (· != quote) inner []
        (fun c hc => by simpa using fun heq : c = quote => hinner (heq ▸ hc)) (by simp)
      refine ⟨quote, inner, rfl, ?_⟩
      simp only [lead, hblank, hopening, hclosing, hquote, htake, hdrop]
      rfl
  | stray run =>
      obtain ⟨hne, hrun⟩ := hconforms
      obtain ⟨c, more, rfl⟩ := List.exists_cons_of_ne_nil hne
      obtain rfl := hrun c List.mem_cons_self
      obtain ⟨htake, hdrop⟩ := takeWhile_of_head (· == '\\') more rest
        (fun c hc => by simpa using hrun c (List.mem_cons_of_mem _ hc))
        (fun c hc => by simpa using hends c hc)
      refine ⟨'\\', more, rfl, ?_⟩
      have hclasses : isBlank '\\' = false ∧ isOpening '\\' = false ∧ isClosing '\\' = false ∧
          isQuote '\\' = false ∧ '\\'.isDigit = false := by decide
      simp [lead, hclasses, htake, hdrop]
  | symbol name =>
      obtain ⟨hne, hbreak, hdigit⟩ := hconforms
      obtain ⟨c, more, rfl⟩ := List.exists_cons_of_ne_nil hne
      have hclasses := classes_of_not_isBreak (hbreak c List.mem_cons_self)
      have hfirst : c.isDigit = false := hdigit c rfl
      obtain ⟨htake, hdrop⟩ := takeWhile_of_head (!isBreak ·) more rest
        (fun d hd => by simpa using hbreak d (List.mem_cons_of_mem _ hd))
        (fun d hd => by simpa using hends d hd)
      refine ⟨c, more, rfl, ?_⟩
      simp only [lead, hclasses, hfirst, htake, hdrop]
      simp

/-- Cutting a text that begins with a piece of the right form. -/
theorem pieces_raw_append (piece : Piece) (rest : List Char) (hconforms : piece.Conforms)
    (hends : piece.EndsBefore rest) : pieces (piece.raw ++ rest) = piece :: pieces rest := by
  obtain ⟨c, more, hraw, hlead⟩ := lead_of_conforms hconforms hends
  rw [hraw, List.cons_append, pieces, hlead]

/-- The piece that is cut off has the form of its kind. -/
theorem lead_conforms (c : Char) (rest : List Char) : (lead c rest).1.Conforms := by
  unfold lead
  split
  next hblank => exact hblank
  split
  next hopening => exact hopening
  split
  next hclosing => exact hclosing
  split
  next hquote =>
    have hinner : c ∉ rest.takeWhile (· != c) := fun hmem => by
      simpa using List.mem_takeWhile_imp hmem
    split
    · exact ⟨hquote, hinner⟩
    · exact ⟨hquote, hinner⟩
  next hquote =>
  split
  next hdigit =>
    have hwhole : ∀ d ∈ c :: rest.takeWhile Char.isDigit, d.isDigit = true := by
      intro d hd
      rcases List.mem_cons.mp hd with rfl | hd
      · exact hdigit
      · exact List.mem_takeWhile_imp hd
    split
    · refine ⟨List.cons_ne_nil _ _, hwhole, ?_⟩
      rintro digits ⟨⟩ d hd
      exact List.mem_takeWhile_imp hd
    · refine ⟨List.cons_ne_nil _ _, hwhole, ?_⟩
      rintro digits ⟨⟩
  next hdigit =>
  split
  next hstray =>
    refine ⟨List.cons_ne_nil _ _, ?_⟩
    intro d hd
    rcases List.mem_cons.mp hd with rfl | hd
    · simpa using hstray
    · simpa using List.mem_takeWhile_imp hd
  next hstray =>
    refine ⟨List.cons_ne_nil _ _, ?_, ?_⟩
    · intro d hd
      rcases List.mem_cons.mp hd with rfl | hd
      · simp_all [isBreak]
      · simpa using List.mem_takeWhile_imp hd
    · rintro d ⟨⟩
      simpa using hdigit

/-- All pieces of a text have the form of their kind. -/
theorem pieces_conform (text : List Char) : ∀ piece ∈ pieces text, piece.Conforms := by
  induction text using pieces.induct with
  | case1 => simp [pieces]
  | case2 c rest ih =>
      rw [pieces]
      intro piece hpiece
      rcases List.mem_cons.mp hpiece with rfl | hpiece
      · exact lead_conforms c rest
      · exact ih piece hpiece

theorem mem_raw_of_mem_content {piece : Piece} {c : Char} (hc : c ∈ piece.content) :
    c ∈ piece.raw := by
  cases piece with
  | quoted quote inner => exact List.mem_cons_of_mem _ (List.mem_append_left _ hc)
  | _ => exact hc

/-- The characters of a piece are characters of the text it was cut from. -/
theorem mem_text_of_mem_content {text : List Char} {piece : Piece} (hpiece : piece ∈ pieces text)
    {c : Char} (hc : c ∈ piece.content) : c ∈ text := by
  rw [← flatMap_raw_pieces text]
  exact List.mem_flatMap.mpr ⟨piece, hpiece, mem_raw_of_mem_content hc⟩

end Piece

end Lisplet
