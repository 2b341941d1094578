import Lisplet.Proofs.Reading.Verdict
import Lisplet.Proofs.Simulation.Likeness
import Mathlib.Data.Set.Card

/-!
# The names that reading takes note of

Reading notes the name of every symbol it passes, at whatever depth, and forgets none when
it fails. So the table holds the names of the symbols before the place where reading stops,
each once, and nothing of what comes after that place. If reading succeeds these are the
names in the program.
-/

namespace Lisplet

/-! ## The table -/

namespace SymbolTable

theorem holds_iff {table : SymbolTable} {name : String} :
    table.holds name = true ↔ name ∈ table.names := by
  rw [holds, List.contains_iff_mem]

theorem mem_intern {table : SymbolTable} {name other : String} :
    other ∈ (table.intern name).names ↔ other ∈ table.names ∨ other = name := by
  unfold intern
  split
  next hheld =>
    constructor
    · exact Or.inl
    · rintro (hother | rfl)
      · exact hother
      · exact holds_iff.mp hheld
  next => simp

theorem nodup_intern {table : SymbolTable} (hnodup : table.names.Nodup) (name : String) :
    (table.intern name).names.Nodup := by
  unfold intern
  split
  next => exact hnodup
  next hnew =>
    rw [holds_iff] at hnew
    rw [← List.concat_eq_append]
    exact hnodup.concat hnew

end SymbolTable

namespace Program

/-- The names met so far after one more token. -/
def noteToken (table : SymbolTable) (token : Token) : SymbolTable :=
  match atom? token with
  | .ok atom => note table atom
  | .error _ => table

section

variable {table : SymbolTable} {name : String}

theorem mem_noteToken {token : Token} :
    name ∈ (noteToken table token).names ↔
      name ∈ table.names ∨ atom? token = .ok (.symbol name) := by
  unfold noteToken
  cases hatom : atom? token with
  | error cause => simp
  | ok atom =>
      cases atom with
      | symbol other => simp [note, SymbolTable.mem_intern, eq_comm]
      | _ => simp [note]

theorem nodup_noteToken (hnodup : table.names.Nodup) (token : Token) :
    (noteToken table token).names.Nodup := by
  unfold noteToken
  cases atom? token with
  | error cause => exact hnodup
  | ok atom =>
      cases atom with
      | symbol other => exact SymbolTable.nodup_intern hnodup other
      | _ => exact hnodup

/-- The table after several tokens holds the names of the symbols among them as well. -/
theorem mem_foldl_noteToken {tokens : List Token} :
    name ∈ (tokens.foldl noteToken table).names ↔
      name ∈ table.names ∨ ∃ token ∈ tokens, atom? token = .ok (.symbol name) := by
  induction tokens generalizing table with
  | nil => simp
  | cons token rest ih =>
      rw [List.foldl_cons, ih, mem_noteToken]
      simp [or_assoc]

theorem nodup_foldl_noteToken (hnodup : table.names.Nodup) (tokens : List Token) :
    (tokens.foldl noteToken table).names.Nodup := by
  induction tokens generalizing table with
  | nil => exact hnodup
  | cons token rest ih => exact ih (nodup_noteToken hnodup token)

theorem noteToken_of_bracket {token : Token}
    (hbracket : token.kind = .opening ∨ token.kind = .closing) :
    noteToken table token = table := by
  unfold noteToken
  cases hatom : atom? token with
  | error cause => rfl
  | ok atom =>
      obtain ⟨hopening, hclosing⟩ := kind_of_atom? hatom
      exact absurd hbracket (not_or.mpr ⟨hopening, hclosing⟩)

end

/-! ## Where reading stops -/

/-- The place where reading stops: the first bad token, the bracket that closes the program
or the end of the tokens, whichever comes first. Without an opening bracket in front it does
not begin. -/
def stopIndex (tokens : List Token) : Nat :=
  if tokens.head?.any (·.kind = .opening) then
    min ((badIndex? tokens).getD tokens.length) ((closingIndex? tokens).getD tokens.length)
  else 0

/-- The name is that of a symbol before the place where reading stops. -/
def IsMet (tokens : List Token) (name : String) : Prop :=
  ∃ i < stopIndex tokens, ∃ token, tokens[i]? = some token ∧ token.kind = .symbol ∧
    isSymbolName token.text.toList = true ∧ token.text = name

/-- From inside a number of lists, reading passes the first tokens and stops at the others:
at a bad token or at the bracket that closes the outermost list. -/
structure StopsAfter (around : Nat) (before after : List Token) : Prop where
  good (token : Token) : token ∈ before → isBad token = false
  inside (i : Nat) : 0 ≤ around + level (before.take i)
  stops (token : Token) : after.head? = some token →
    isBad token = true ∨ (token.kind = .closing ∧ around + level before = 0)

theorem StopsAfter.nil {around : Nat} {after : List Token}
    (hstops : ∀ token, after.head? = some token →
      isBad token = true ∨ (token.kind = .closing ∧ around = 0)) :
    StopsAfter around [] after where
  good token htoken := by simp at htoken
  inside i := by simp
  stops token htoken := by simpa using hstops token htoken

theorem StopsAfter.cons {around around' : Nat} {token : Token} {before after : List Token}
    (hgood : isBad token = false) (haround : (around' : Int) = around + bracket token)
    (hrest : StopsAfter around' before after) : StopsAfter around (token :: before) after where
  good other hother := by
    rcases List.mem_cons.mp hother with rfl | hother
    · exact hgood
    · exact hrest.good other hother
  inside i := by
    cases i with
    | zero => simp
    | succ i =>
        have hinside := hrest.inside i
        rw [List.take_succ_cons, level_cons]
        omega
  stops other hother := by
    have hstops := hrest.stops other hother
    rwa [level_cons, ← add_assoc, ← haround]

theorem isBad_of_bracket {token : Token}
    (hbracket : token.kind = .opening ∨ token.kind = .closing) : isBad token = false := by
  rcases hbracket with hkind | hkind
  · simp [isBad, hkind]
  · simp [isBad, hkind]

theorem isBad_of_atom? {token : Token} {atom : Atom} (hatom : atom? token = .ok atom) :
    isBad token = false := by
  by_contra hbad
  obtain ⟨-, -, herror⟩ := atom?_of_isBad (Bool.eq_true_of_not_eq_false hbad)
  rw [hatom] at herror
  cases herror

/-- Reading on takes note of the tokens up to the place where it stops, and succeeds only at
the last token. -/
theorem exists_stopsAfter (tokens : List Token) :
    ∀ (table : SymbolTable) (frame : Frame) (outer : List Frame) (previous : Token),
      ∃ before after, tokens = before ++ after ∧ StopsAfter outer.length before after ∧
        (readOn table frame outer previous tokens).2 = before.foldl noteToken table ∧
        ∀ program, (readOn table frame outer previous tokens).1 = .ok program →
          after.length = 1 := by
  induction tokens with
  | nil =>
      intro table frame outer previous
      refine ⟨[], [], rfl, .nil (by simp), rfl, ?_⟩
      intro program hread
      cases hread
  | cons token rest ih =>
      intro table frame outer previous
      by_cases hopening : token.kind = .opening
      · obtain ⟨before, after, rfl, hstops, htable, hlast⟩ :=
          ih table ⟨token, []⟩ (frame :: outer) token
        have hbracket : bracket token = 1 := by simp [bracket, hopening]
        refine ⟨token :: before, after, rfl, ?_, ?_, ?_⟩
        · exact hstops.cons (isBad_of_bracket (.inl hopening)) (by simp [hbracket])
        · rw [readOn_opening hopening, htable, List.foldl_cons,
            noteToken_of_bracket (.inl hopening)]
        · rwa [readOn_opening hopening]
      by_cases hclosing : token.kind = .closing
      · cases outer with
        | nil =>
            refine ⟨[], token :: rest, rfl, .nil ?_, ?_, ?_⟩
            · intro other hother
              obtain rfl : token = other := by simpa using hother
              exact .inr ⟨hclosing, rfl⟩
            · rw [readOn_closing_root hclosing]
              split <;> rfl
            · intro program hread
              rw [readOn_closing_root hclosing] at hread
              split at hread
              next hempty => rw [List.isEmpty_iff.mp hempty, List.length_singleton]
              next => cases hread
        | cons parent outer =>
            obtain ⟨before, after, rfl, hstops, htable, hlast⟩ :=
              ih table (parent.push frame.close) outer token
            have hbracket : bracket token = -1 := by simp [bracket, hclosing]
            refine ⟨token :: before, after, rfl, ?_, ?_, ?_⟩
            · exact hstops.cons (isBad_of_bracket (.inr hclosing)) (by simp [hbracket])
            · rw [readOn_closing hclosing, htable, List.foldl_cons,
                noteToken_of_bracket (.inr hclosing)]
            · rwa [readOn_closing hclosing]
      · cases hatom : atom? token with
        | error cause =>
            rw [readOn_error hopening hclosing hatom]
            refine ⟨[], token :: rest, rfl, .nil ?_, rfl, ?_⟩
            · intro other hother
              obtain rfl : token = other := by simpa using hother
              by_contra hgood
              rw [not_or, Bool.not_eq_true] at hgood
              obtain ⟨atom, hok⟩ := exists_atom_of_not_isBad hgood.1 hopening hclosing
              rw [hok] at hatom
              cases hatom
            · intro program hread
              cases hread
        | ok atom =>
            obtain ⟨before, after, rfl, hstops, htable, hlast⟩ :=
              ih (note table atom) (frame.push (.atom (some token) atom)) outer token
            refine ⟨token :: before, after, rfl, ?_, ?_, ?_⟩
            · refine hstops.cons (isBad_of_atom? hatom) ?_
              rw [bracket_of_not_bracket hopening hclosing, add_zero]
            · rw [readOn_atom hatom, htable, List.foldl_cons, noteToken, hatom]
            · rwa [readOn_atom hatom]

/-- The place where reading stops is the first one that a bad token or the end of the program
stands at. -/
theorem stopIndex_eq {tokens : List Token} {first : Token} (hfirst : tokens[0]? = some first)
    (hopening : first.kind = .opening) {n : Nat} (hn : n ≤ tokens.length)
    (hgood : ∀ i, 1 ≤ i → i < n → ∀ token, tokens[i]? = some token → isBad token = false)
    (hopen : ∀ i < n, level (tokens.take (i + 1)) ≠ 0)
    (hstop : ∀ token, tokens[n]? = some token →
      (1 ≤ n ∧ isBad token = true) ∨ level (tokens.take (n + 1)) = 0) :
    stopIndex tokens = n := by
  have hbegins : tokens.head?.any (·.kind = .opening) = true := by
    rw [List.head?_eq_getElem?, hfirst]
    simp [hopening]
  rw [stopIndex, if_pos hbegins]
  apply le_antisymm
  · -- one of the two places is not behind the given one
    rcases hn.eq_or_lt with rfl | hlt
    · rw [min_le_iff]
      left
      cases hbad : badIndex? tokens with
      | none => simp
      | some b =>
          obtain ⟨-, ⟨token, htoken, -⟩, -⟩ := badIndex?_eq_some hbad
          exact (List.getElem?_eq_some_iff.mp htoken).1.le
    · have htoken := List.getElem?_eq_getElem hlt
      rw [min_le_iff]
      rcases hstop _ htoken with ⟨hone, hisBad⟩ | hlevel
      · left
        cases hbad : badIndex? tokens with
        | none => simp [badIndex?_eq_none hbad n hone _ htoken] at hisBad
        | some b =>
            by_contra hbehind
            have hbefore := (badIndex?_eq_some hbad).2.2 n hone (by simpa using hbehind) _ htoken
            rw [hbefore] at hisBad
            cases hisBad
      · right
        cases hclosing : closingIndex? tokens with
        | none => exact absurd hlevel (closingIndex?_eq_none_iff.mp hclosing n hlt)
        | some j =>
            by_contra hbehind
            exact (closingIndex?_eq_some_iff.mp hclosing).2.2 n (by simpa using hbehind) hlevel
  · -- and neither is before it
    apply le_min
    · cases hbad : badIndex? tokens with
      | none => exact hn
      | some b =>
          obtain ⟨hone, ⟨token, htoken, hisBad⟩, -⟩ := badIndex?_eq_some hbad
          by_contra hbehind
          rw [hgood b hone (by simpa using hbehind) token htoken] at hisBad
          cases hisBad
    · cases hclosing : closingIndex? tokens with
      | none => exact hn
      | some j =>
          by_contra hbehind
          exact hopen j (by simpa using hbehind) (closingIndex?_eq_some_iff.mp hclosing).2.1

/-- In a sequence of tokens that begins with an opening bracket, reading stops where it does
from inside the list that this bracket opens. -/
theorem StopsAfter.stopIndex_eq {first : Token} (hopening : first.kind = .opening)
    {before after : List Token} (hstops : StopsAfter 0 before after) :
    stopIndex (first :: (before ++ after)) = before.length + 1 := by
  have hbracket : bracket first = 1 := by simp [bracket, hopening]
  have hfirst : (first :: (before ++ after))[0]? = some first := rfl
  apply Program.stopIndex_eq hfirst hopening (by simp)
  · intro i hone hi token htoken
    obtain ⟨i, rfl⟩ : ∃ k, i = k + 1 := ⟨i - 1, by omega⟩
    rw [List.getElem?_cons_succ, List.getElem?_append_left (by omega)] at htoken
    exact hstops.good token (List.mem_of_getElem? htoken)
  · intro i hi
    have hinside := hstops.inside i
    rw [List.take_succ_cons, level_cons, hbracket, List.take_append_of_le_length (by omega)]
    omega
  · intro token hhere
    have hhead : after.head? = some token := by
      rwa [List.getElem?_cons_succ, List.getElem?_append_right (le_refl _), Nat.sub_self,
        ← List.head?_eq_getElem?] at hhere
    rcases hstops.stops token hhead with hbad | ⟨hclosing, hlevel⟩
    · exact .inl ⟨by omega, hbad⟩
    · right
      have hneg : bracket token = -1 := by simp [bracket, hclosing]
      rw [level_take_succ hhere, List.take_succ_cons, List.take_left, level_cons, hbracket, hneg]
      omega

/-! ## What the table holds -/

section

variable {tokens : List Token}

/-- Tokens that begin with an opening bracket are this bracket, those that reading passes and
those that it stops at. -/
theorem exists_split_of_opening {first : Token} (hopening : first.kind = .opening)
    (others : List Token) :
    ∃ before after, others = before ++ after ∧
      stopIndex (first :: others) = before.length + 1 ∧
      (readTokens (first :: others)).2 = before.foldl noteToken .empty ∧
      ∀ program, (readTokens (first :: others)).1 = .ok program → after.length = 1 := by
  obtain ⟨before, after, rfl, hstops, htable, hlast⟩ :=
    exists_stopsAfter others .empty ⟨first, []⟩ [] first
  have hread : readTokens (first :: (before ++ after)) =
      readOn .empty ⟨first, []⟩ [] first (before ++ after) := by
    rw [readTokens, hopening]
  rw [hread]
  exact ⟨before, after, rfl, hstops.stopIndex_eq hopening, htable, hlast⟩

theorem stopIndex_of_not_opening (hfirst : tokens.head?.any (·.kind = .opening) = false) :
    stopIndex tokens = 0 := by
  rw [stopIndex, hfirst]
  rfl

/-- Reading takes note of the tokens before the place where it stops, and of no others. -/
theorem readTokens_table (tokens : List Token) :
    (readTokens tokens).2 = (tokens.take (stopIndex tokens)).foldl noteToken .empty := by
  cases tokens with
  | nil => rfl
  | cons first others =>
      by_cases hopening : first.kind = .opening
      · obtain ⟨before, after, rfl, hstop, htable, -⟩ := exists_split_of_opening hopening others
        rw [htable, hstop, List.take_succ_cons, List.take_left, List.foldl_cons,
          noteToken_of_bracket (.inl hopening)]
      · rw [stopIndex_of_not_opening (by simpa using hopening), readTokens]
        split
        next hkind => exact absurd hkind hopening
        next => rfl

theorem isMet_iff {name : String} :
    IsMet tokens name ↔
      ∃ token ∈ tokens.take (stopIndex tokens), atom? token = .ok (.symbol name) := by
  unfold IsMet
  constructor
  · rintro ⟨i, hi, token, htoken, hkind, hname, rfl⟩
    refine ⟨token, ?_, atom?_eq_ok_iff.mpr ⟨hkind, rfl, hname⟩⟩
    rw [← List.getElem?_take_of_lt hi] at htoken
    exact List.mem_of_getElem? htoken
  · rintro ⟨token, htoken, hatom⟩
    obtain ⟨hkind, rfl, hname⟩ := atom?_eq_ok_iff.mp hatom
    obtain ⟨i, hi⟩ := List.mem_iff_getElem?.mp htoken
    rw [List.getElem?_take] at hi
    split at hi
    next hlt => exact ⟨i, hlt, token, hi, hkind, hname, rfl⟩
    next => cases hi

theorem mem_names_readTokens {name : String} :
    name ∈ (readTokens tokens).2.names ↔ IsMet tokens name := by
  rw [readTokens_table, mem_foldl_noteToken, isMet_iff]
  simp [SymbolTable.empty]

theorem nodup_names_readTokens (tokens : List Token) : (readTokens tokens).2.names.Nodup := by
  rw [readTokens_table]
  exact nodup_foldl_noteToken List.nodup_nil _

/-- The names of the symbols among tokens are those in the trees that they spell. -/
theorem Spells.symbol_mem_atomsAll {nodes : List Node} (hspells : Spells tokens nodes)
    (name : String) :
    .symbol name ∈ Node.atomsAll nodes ↔ ∃ token ∈ tokens, atom? token = .ok (.symbol name) := by
  induction hspells with
  | nil => simp [Node.atomsAll]
  | atom hatom _ ih => simp [Node.atomsAll, Node.atoms, ih, hatom, eq_comm]
  | @list opening closing inner rest items nodes hopening hclosing _ _ ihinner ihrest =>
      have hnone : ∀ token, (token.kind = .opening ∨ token.kind = .closing) →
          atom? token ≠ .ok (.symbol name) := by
        intro token hbracket hatom
        obtain ⟨hnotOpening, hnotClosing⟩ := kind_of_atom? hatom
        exact hbracket.elim hnotOpening hnotClosing
      simp only [Node.atomsAll, Node.atoms, List.mem_append, ihinner, ihrest, List.mem_cons,
        or_and_right, exists_or, exists_eq_left, hnone opening (.inl hopening),
        hnone closing (.inr hclosing), false_or]

/-- A program that is read has the names that were met in its symbols. -/
theorem isMet_iff_mem_atoms {program : Node} (hread : (readTokens tokens).1 = .ok program)
    (name : String) : IsMet tokens name ↔ .symbol name ∈ program.atoms := by
  obtain ⟨opening, closing, inner, items, rfl, hopening, hclosing, hspells, rfl⟩ :=
    spells_of_readTokens hread
  obtain ⟨before, after, hsplit, hstop, -, hlast⟩ :=
    exists_split_of_opening hopening (inner ++ [closing])
  obtain ⟨rfl, -⟩ := List.append_inj' hsplit (by simp [hlast _ hread])
  have hopeningAtom : atom? opening ≠ .ok (.symbol name) :=
    fun hatom => (kind_of_atom? hatom).1 hopening
  rw [isMet_iff, hstop, List.take_succ_cons, List.take_left, Node.atoms,
    hspells.symbol_mem_atomsAll]
  simp [hopeningAtom]

end

/-- The table holds the names of the symbols before the place where reading stops, and its
size is how many there are. If a program is read, these are the names in the program. -/
theorem symbols_noted (tokens : List Token) :
    let table := (readTokens tokens).2
    (∀ name, table.holds name = true ↔ IsMet tokens name) ∧
    table.size = {name | IsMet tokens name}.ncard ∧
    ∀ program, (readTokens tokens).1 = .ok program →
      ∀ name, table.holds name = true ↔ .symbol name ∈ program.atoms := by
  intro table
  have hholds : ∀ name, table.holds name = true ↔ IsMet tokens name := by
    intro name
    rw [SymbolTable.holds_iff, mem_names_readTokens]
  refine ⟨hholds, ?_, ?_⟩
  · have hnames : {name | IsMet tokens name} = (table.names.toFinset : Set String) := by
      ext name
      rw [Set.mem_ofPred_eq, ← mem_names_readTokens, List.coe_toFinset, Set.mem_ofPred_eq]
    rw [hnames, Set.ncard_coe_finset, List.toFinset_card_of_nodup (nodup_names_readTokens tokens),
      SymbolTable.size]
  · intro program hread name
    rw [hholds, isMet_iff_mem_atoms hread]

/-- The tokens of `(f (g f)) h)`: the list that the first bracket opens is closed before `h`. -/
def closedEarlySample : List Token :=
  [(.opening, "("), (.symbol, "f"), (.opening, "("), (.symbol, "g"), (.symbol, "f"),
    (.closing, ")"), (.closing, ")"), (.symbol, "h"), (.closing, ")")].map
    fun (kind, text) => ⟨kind, text, .start, ""⟩

/-- Reading fails behind the program, and has met `f` and `g` but not `h`. -/
theorem closedEarlySample_noted :
    IsMet closedEarlySample "g" ∧ ¬ IsMet closedEarlySample "h" ∧
      {name | IsMet closedEarlySample name}.ncard = 2 := by
  obtain ⟨hholds, hsize, -⟩ := symbols_noted closedEarlySample
  rw [← hholds, ← hholds, ← hsize]
  decide +kernel

end Program

end Lisplet
