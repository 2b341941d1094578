import Lisplet.Source

/-!
# What a source delivers

The UTF-8 form of a text is delivered as that text, without a defect unless a zero
character occurs in it. Conversely, a source that is delivered without a defect is the
UTF-8 form of a text, and delivers no zero character.
-/

namespace Lisplet.Source

/-- How a character that was well encoded arrives. -/
def arrivalOf (c : Char) : Arrival := ⟨c, if c = '\x00' then some .nul else none⟩

/-- The bytes of a character are recognised, whatever comes after them. -/
theorem leading?_utf8EncodeChar (c : Char) (rest : List UInt8) :
    leading? (String.utf8EncodeChar c ++ rest) = some c := by
  have hlength : (String.utf8EncodeChar c).length ≤ 4 := by
    rw [String.length_utf8EncodeChar]
    exact c.utf8Size_le_four
  rw [leading?, List.take_append, List.take_of_length_le hlength, List.toByteArray_append]
  exact ByteArray.utf8DecodeChar?_utf8EncodeChar_append

/-- Decoding goes on after the bytes of a character. -/
theorem decode_utf8EncodeChar (failure : Option String) (c : Char) (rest : List UInt8) :
    decode failure (String.utf8EncodeChar c ++ rest) = arrivalOf c :: decode failure rest := by
  -- the first byte is taken off before the length of the character is used
  have hlead := leading?_utf8EncodeChar c rest
  have hlength := String.length_utf8EncodeChar c
  cases hbytes : String.utf8EncodeChar c with
  | nil => exact absurd hbytes String.utf8EncodeChar_ne_nil
  | cons first others =>
      rw [hbytes, List.cons_append] at hlead
      rw [hbytes, List.length_cons] at hlength
      rw [List.cons_append, decode, hlead]
      simp only [arrivalOf]
      rw [← hlength, Nat.add_sub_cancel, List.drop_left]

/-- Decoding goes on after the UTF-8 form of a text. -/
theorem decode_utf8_append (failure : Option String) (text : List Char) (rest : List UInt8) :
    decode failure (text.flatMap String.utf8EncodeChar ++ rest) =
      text.map arrivalOf ++ decode failure rest := by
  induction text with
  | nil => rfl
  | cons c more ih =>
      rw [List.flatMap_cons, List.append_assoc, decode_utf8EncodeChar, ih, List.map_cons,
        List.cons_append]

/-- The UTF-8 form of a text decodes to its characters. -/
theorem decode_utf8 (failure : Option String) (text : List Char) :
    decode failure (text.flatMap String.utf8EncodeChar) = text.map arrivalOf := by
  have hdecode := decode_utf8_append failure text []
  rwa [List.append_nil, decode, List.append_nil] at hdecode

theorem ofString_bytes (text : String) :
    (ofString text).bytes = text.toList.flatMap String.utf8EncodeChar := by
  have hencoded : text.toByteArray = text.toList.utf8Encode := String.utf8Encode_toList.symm
  rw [ofString, String.toUTF8_eq_toByteArray, hencoded, List.utf8Encode]
  simp

/-- A source that can be read to its end and is the UTF-8 form of a text is that text. -/
theorem eq_ofString {source : Source} {text : List Char} (hfailure : source.failure = none)
    (hbytes : source.bytes = text.flatMap String.utf8EncodeChar) :
    source = ofString (String.ofList text) := by
  have hsame := ofString_bytes (String.ofList text)
  rw [String.toList_ofList, ← hbytes] at hsame
  obtain ⟨bytes, failure⟩ := source
  simp only at hfailure hsame
  rw [hfailure, ← hsame]
  rfl

theorem firstDefect_eq_none_iff (failure : Option String) (arrivals : List Arrival) :
    firstDefect failure arrivals = none ↔
      failure = none ∧ ∀ arrival ∈ arrivals, arrival.defect = none := by
  induction arrivals with
  | nil => simp [firstDefect]
  | cons arrival rest ih =>
      rw [firstDefect]
      cases hdefect : arrival.defect with
      | none => simp [hdefect, ih]
      | some defect => simp [hdefect]

/-- A text without the byte order mark that may stand in front of it. -/
def unmarked (text : List Char) : List Char :=
  if text.head? = some byteOrderMark then text.tail else text

/-- A byte order mark is only taken off the text, if what follows begins with none. -/
theorem dropMark_append (text : List Char) {arrivals : List Arrival}
    (hdrop : dropMark arrivals = arrivals) :
    dropMark (text.map arrivalOf ++ arrivals) = (unmarked text).map arrivalOf ++ arrivals := by
  cases text with
  | nil => exact hdrop
  | cons c rest =>
      by_cases hmark : c = byteOrderMark
      · simp [dropMark, unmarked, arrivalOf, hmark]
      · simp [dropMark, unmarked, arrivalOf, hmark]

theorem dropMark_map_arrivalOf (text : List Char) :
    dropMark (text.map arrivalOf) = (unmarked text).map arrivalOf := by
  have hdrop := @dropMark_append text [] rfl
  rwa [List.append_nil, List.append_nil] at hdrop

theorem mem_of_mem_unmarked {text : List Char} {c : Char} (hc : c ∈ unmarked text) : c ∈ text := by
  unfold unmarked at hc
  split at hc
  · exact List.mem_of_mem_tail hc
  · exact hc

/-- A first defect stands further back behind a text that has none. -/
theorem firstDefect_append {failure : Option String} {text : List Char} (hnul : '\x00' ∉ text)
    (arrivals : List Arrival) :
    firstDefect failure (text.map arrivalOf ++ arrivals) =
      (firstDefect failure arrivals).map fun (index, defect) => (index + text.length, defect) := by
  induction text with
  | nil => simp
  | cons c rest ih =>
      rw [List.mem_cons, not_or] at hnul
      have hclean : (arrivalOf c).defect = none := if_neg (Ne.symm hnul.1)
      rw [List.map_cons, List.cons_append, firstDefect, hclean]
      simp only [ih hnul.2, Option.map_map, List.length_cons]
      rfl

/-- A text without zero characters is delivered as it is, but for a byte order mark in
front of it. -/
theorem deliver_ofString_unmarked {text : String} (hnul : '\x00' ∉ text.toList) :
    (ofString text).deliver = ⟨unmarked text.toList, none⟩ := by
  have hclean : '\x00' ∉ unmarked text.toList := fun hmem => hnul (mem_of_mem_unmarked hmem)
  have hdefect : firstDefect none ((unmarked text.toList).map arrivalOf) = none := by
    have hfirst := @firstDefect_append none _ hclean []
    rwa [List.append_nil] at hfirst
  have hdecode : decode (ofString text).failure (ofString text).bytes =
      text.toList.map arrivalOf := by
    rw [ofString_bytes, decode_utf8]
  have hid : (fun arrival : Arrival => arrival.char) ∘ arrivalOf = id := rfl
  rw [deliver, hdecode, dropMark_map_arrivalOf, List.map_map, hid, List.map_id]
  rw [show (ofString text).failure = none from rfl, hdefect]

/-- A text without zero characters that does not begin with a byte order mark is
delivered as it is. -/
theorem deliver_ofString {text : String} (hnul : '\x00' ∉ text.toList)
    (hmark : text.toList.head? ≠ some byteOrderMark) :
    (ofString text).deliver = ⟨text.toList, none⟩ := by
  rw [deliver_ofString_unmarked hnul, unmarked, if_neg hmark]

/-- Where a zero character arrives, it is taken for a defect. -/
theorem defect_of_mem_decode (failure : Option String) (bytes : List UInt8) :
    ∀ arrival ∈ decode failure bytes, arrival.defect = none → arrival.char ≠ '\x00' := by
  induction bytes using decode.induct with
  | case1 => simp [decode]
  | case2 b rest c hlead ih =>
      rw [decode, hlead]
      intro arrival harrival hdefect
      rcases List.mem_cons.mp harrival with rfl | hrest
      · simpa using hdefect
      · exact ih arrival hrest hdefect
  | case3 b rest hlead ih =>
      rw [decode, hlead]
      intro arrival harrival hdefect
      rcases List.mem_cons.mp harrival with rfl | hrest
      · simp at hdefect
      · exact ih arrival hrest hdefect

theorem mem_of_mem_dropMark {arrivals : List Arrival} {arrival : Arrival}
    (hmem : arrival ∈ dropMark arrivals) : arrival ∈ arrivals := by
  cases arrivals with
  | nil => exact hmem
  | cons first rest =>
      rw [dropMark] at hmem
      split at hmem
      · exact List.mem_cons_of_mem _ hmem
      · exact hmem

/-- What is delivered without a defect holds no zero character. -/
theorem nul_notMem_of_deliver {source : Source} (hdefect : source.deliver.defect = none) :
    '\x00' ∉ source.deliver.text := by
  intro hmem
  obtain ⟨arrival, harrival, hchar⟩ := List.mem_map.mp hmem
  have hnone := ((firstDefect_eq_none_iff _ _).1 hdefect).2 arrival harrival
  exact defect_of_mem_decode _ _ arrival (mem_of_mem_dropMark harrival) hnone hchar

/-- Bytes that begin with a character begin with the UTF-8 form of it. -/
theorem eq_append_of_leading? {bytes : List UInt8} {c : Char} (hlead : leading? bytes = some c) :
    bytes = String.utf8EncodeChar c ++ bytes.drop c.utf8Size := by
  have hencoded := String.toByteArray_utf8EncodeChar_of_utf8DecodeChar?_eq_some hlead
  have hbytes : String.utf8EncodeChar c = bytes.take c.utf8Size := by
    have hlist := congrArg (fun array : ByteArray => array.data.toList) hencoded
    have hle := c.utf8Size_le_four
    simpa [List.take_take, Nat.min_eq_left hle] using hlist
  rw [hbytes, List.take_append_drop]

/-- A character that is decoded is taken off the bytes in its UTF-8 form. -/
theorem cons_eq_of_leading? {b : UInt8} {rest : List UInt8} {c : Char}
    (hlead : leading? (b :: rest) = some c) :
    b :: rest = String.utf8EncodeChar c ++ rest.drop (c.utf8Size - 1) := by
  have hpos := c.utf8Size_pos
  have hdrop : (b :: rest).drop c.utf8Size = rest.drop (c.utf8Size - 1) := by
    obtain ⟨size, hsize⟩ : ∃ size, c.utf8Size = size + 1 := ⟨c.utf8Size - 1, by omega⟩
    rw [hsize, List.drop_succ_cons, Nat.add_sub_cancel]
  rw [← hdrop]
  exact eq_append_of_leading? hlead

/-- Bytes that decode without a defect are the UTF-8 form of a text. -/
theorem exists_text_of_decode {failure : Option String} {bytes : List UInt8}
    (hdefect : ∀ arrival ∈ decode failure bytes, arrival.defect = none) :
    ∃ text : List Char, bytes = text.flatMap String.utf8EncodeChar := by
  induction bytes using decode.induct with
  | case1 => exact ⟨[], rfl⟩
  | case2 b rest c hlead ih =>
      rw [decode, hlead, List.forall_mem_cons] at hdefect
      obtain ⟨text, hrest⟩ := ih hdefect.2
      exact ⟨c :: text, by rw [cons_eq_of_leading? hlead, hrest, List.flatMap_cons]⟩
  | case3 b rest hlead ih =>
      rw [decode, hlead] at hdefect
      exact absurd (hdefect _ List.mem_cons_self) (by simp)

/-- A byte order mark is never taken for a defect. -/
theorem defect_eq_none_of_mark {failure : Option String} {bytes : List UInt8} {arrival : Arrival}
    (harrival : arrival ∈ decode failure bytes) (hmark : arrival.char = byteOrderMark) :
    arrival.defect = none := by
  induction bytes using decode.induct with
  | case1 => simp [decode] at harrival
  | case2 b rest c hlead ih =>
      rw [decode, hlead] at harrival
      rcases List.mem_cons.mp harrival with rfl | hrest
      · obtain rfl : c = byteOrderMark := hmark
        rfl
      · exact ih hrest
  | case3 b rest hlead ih =>
      rw [decode, hlead] at harrival
      rcases List.mem_cons.mp harrival with rfl | hrest
      · have hother : replacement ≠ byteOrderMark := by decide
        exact absurd hmark hother
      · exact ih hrest

theorem mem_dropMark {arrivals : List Arrival} {arrival : Arrival} (hmem : arrival ∈ arrivals)
    (hmark : arrival.char ≠ byteOrderMark) : arrival ∈ dropMark arrivals := by
  cases arrivals with
  | nil => exact hmem
  | cons first rest =>
      rw [dropMark]
      split
      next hfirst =>
        rcases List.mem_cons.mp hmem with rfl | hrest
        · exact absurd hfirst hmark
        · exact hrest
      next => exact hmem

/-- A source that is delivered without a defect is the UTF-8 form of a text. -/
theorem exists_text_of_deliver {source : Source} (hdefect : source.deliver.defect = none) :
    ∃ text : String, source = ofString text ∧ '\x00' ∉ text.toList := by
  obtain ⟨hfailure, hclean⟩ := (firstDefect_eq_none_iff _ _).mp hdefect
  have hall : ∀ arrival ∈ decode source.failure source.bytes, arrival.defect = none := by
    intro arrival harrival
    by_cases hmark : arrival.char = byteOrderMark
    · exact defect_eq_none_of_mark harrival hmark
    · exact hclean arrival (mem_dropMark harrival hmark)
  obtain ⟨text, hbytes⟩ := exists_text_of_decode hall
  refine ⟨String.ofList text, eq_ofString hfailure hbytes, ?_⟩
  rw [String.toList_ofList]
  intro hnul
  have harrival : arrivalOf '\x00' ∈ decode source.failure source.bytes := by
    rw [hbytes, decode_utf8]
    exact List.mem_map_of_mem hnul
  exact absurd (hall _ harrival) (by decide)

/-! ## Bytes of ASCII characters -/

theorem utf8EncodeChar_of_lt {c : Char} (hc : c.toNat < 128) :
    String.utf8EncodeChar c = [UInt8.ofNat c.toNat] := by
  have hsmall : c.val.toNat ≤ 127 := Nat.le_of_lt_succ hc
  rw [String.utf8EncodeChar, if_pos hsmall]
  rfl

/-- The bytes of a character that is not ASCII are not those of ASCII characters. -/
theorem le_of_mem_utf8EncodeChar {c : Char} (hc : 128 ≤ c.toNat) {b : UInt8}
    (hb : b ∈ String.utf8EncodeChar c) : 128 ≤ b.toNat := by
  have hlarge : ¬ c.val.toNat ≤ 127 := Nat.not_le.mpr hc
  have hbyte : ∀ n : Nat, 128 ≤ n → n < 256 → 128 ≤ (UInt8.ofNat n).toNat := by
    intro n hle hlt
    rwa [UInt8.toNat_ofNat', Nat.mod_eq_of_lt hlt]
  rw [String.utf8EncodeChar, if_neg hlarge] at hb
  split at hb
  · simp only [List.mem_cons, List.not_mem_nil, or_false] at hb
    rcases hb with rfl | rfl
    all_goals exact hbyte _ (by omega) (by omega)
  split at hb
  · simp only [List.mem_cons, List.not_mem_nil, or_false] at hb
    rcases hb with rfl | rfl | rfl
    all_goals exact hbyte _ (by omega) (by omega)
  · simp only [List.mem_cons, List.not_mem_nil, or_false] at hb
    rcases hb with rfl | rfl | rfl | rfl
    all_goals exact hbyte _ (by omega) (by omega)

/-- The byte of an ASCII character occurs in the UTF-8 form of a text as often as the
character occurs in the text. -/
theorem count_utf8 {d : Char} (hd : d.toNat < 128) (text : List Char) :
    (text.flatMap String.utf8EncodeChar).count (UInt8.ofNat d.toNat) = text.count d := by
  have hbyte : (UInt8.ofNat d.toNat).toNat = d.toNat := by
    rw [UInt8.toNat_ofNat', Nat.mod_eq_of_lt (by omega)]
  induction text with
  | nil => rfl
  | cons c rest ih =>
      rw [List.flatMap_cons, List.count_append, ih]
      by_cases hc : c.toNat < 128
      · have hsame : UInt8.ofNat c.toNat = UInt8.ofNat d.toNat ↔ c = d := by
          rw [← UInt8.toNat_inj, hbyte, UInt8.toNat_ofNat', Nat.mod_eq_of_lt (by omega),
            Char.toNat_inj]
        rw [utf8EncodeChar_of_lt hc, List.count_singleton, List.count_cons, Nat.add_comm]
        simp only [beq_iff_eq, hsame]
      · have hnot : UInt8.ofNat d.toNat ∉ String.utf8EncodeChar c := by
          intro hmem
          have hle := le_of_mem_utf8EncodeChar (Nat.le_of_not_lt hc) hmem
          omega
        have hne : c ≠ d := by
          rintro rfl
          exact hc hd
        rw [List.count_eq_zero.mpr hnot, List.count_cons_of_ne hne, Nat.zero_add]

end Lisplet.Source
