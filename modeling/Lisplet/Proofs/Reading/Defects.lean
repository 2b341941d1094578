import Lisplet.Proofs.Reading.Delivery
import Mathlib.Data.List.Basic
import Mathlib.Tactic.SplitIfs

/-!
# The first defect of a source

A source without a defect is the UTF-8 form of a text without zero characters. Any other
source begins with such a form, perhaps an empty one, up to the first defect: a zero byte,
bytes that no character begins with, or the end of what could be read. Where bytes break
off inside a character, a failure to read on comes before the bad encoding.
-/

namespace Lisplet.Source

/-! ## Characters that are cut short -/

/-- The bytes begin a character and end before it does. -/
def Unfinished (bytes : List UInt8) : Prop :=
  ∃ c more, more ≠ [] ∧ String.utf8EncodeChar c = bytes ++ more

theorem isTail_iff {b : UInt8} : isTail b = true ↔ 0x80 ≤ b.toNat ∧ b.toNat ≤ 0xBF := by
  simp [isTail, UInt8.le_iff_toNat_le]

theorem isSecond_iff {a b : UInt8} :
    isSecond a b = true ↔ 0x80 ≤ b.toNat ∧ b.toNat ≤ 0xBF ∧ (a.toNat = 0xE0 → 0xA0 ≤ b.toNat) ∧
      (a.toNat = 0xED → b.toNat ≤ 0x9F) ∧ (a.toNat = 0xF0 → 0x90 ≤ b.toNat) ∧
      (a.toNat = 0xF4 → b.toNat ≤ 0x8F) := by
  simp only [isSecond, apply_ite (· = true), Bool.and_eq_true, decide_eq_true_eq, isTail_iff,
    beq_iff_eq, ← UInt8.toNat_inj, UInt8.le_iff_toNat_le, UInt8.reduceToNat]
  split_ifs <;> omega

theorem isTruncated_one {a : UInt8} :
    isTruncated [a] = true ↔ 0xC2 ≤ a.toNat ∧ a.toNat ≤ 0xF4 := by
  simp [isTruncated, UInt8.le_iff_toNat_le]

theorem isTruncated_two {a b : UInt8} :
    isTruncated [a, b] = true ↔ (0xE0 ≤ a.toNat ∧ a.toNat ≤ 0xF4) ∧ isSecond a b = true := by
  simp [isTruncated, UInt8.le_iff_toNat_le]

theorem isTruncated_three {a b c : UInt8} :
    isTruncated [a, b, c] = true ↔
      ((0xF0 ≤ a.toNat ∧ a.toNat ≤ 0xF4) ∧ isSecond a b = true) ∧ isTail c = true := by
  simp [isTruncated, UInt8.le_iff_toNat_le]

/-- The beginning of what begins a character begins it too. -/
theorem Unfinished.of_append {bytes : List UInt8} (more : List UInt8)
    (hunfinished : Unfinished (bytes ++ more)) : Unfinished bytes := by
  obtain ⟨c, rest, hrest, hencode⟩ := hunfinished
  refine ⟨c, more ++ rest, ?_, by rw [hencode, List.append_assoc]⟩
  exact fun hnil => hrest (List.append_eq_nil_iff.mp hnil).2

theorem val_ofNat {n : Nat} (hvalid : n.isValidChar) : (Char.ofNat n).val.toNat = n := by
  rw [Char.ofNat, dif_pos hvalid]
  rfl

theorem ofNat_eq {n : Nat} {a : UInt8} (h : n = a.toNat) : UInt8.ofNat n = a := by
  rw [h, UInt8.ofNat_toNat]

/-- A first byte of a character of two bytes begins one. -/
theorem unfinished_one {a : UInt8} (hlow : 0xC2 ≤ a.toNat) (hhigh : a.toNat ≤ 0xDF) :
    Unfinished [a] := by
  obtain ⟨n, hn⟩ : ∃ n, n = (a.toNat - 0xC0) * 64 := ⟨_, rfl⟩
  have hvalid : n.isValidChar := .inl (by omega)
  refine ⟨Char.ofNat n, [0x80], by simp, ?_⟩
  rw [String.utf8EncodeChar, val_ofNat hvalid, if_neg (by omega), if_pos (by omega)]
  exact congrArg₂ _ (ofNat_eq (by omega)) (congrArg₂ _ (ofNat_eq (by simp; omega)) rfl)

/-- Two bytes of a character of three begin one. -/
theorem unfinished_two {a b : UInt8} (hlow : 0xE0 ≤ a.toNat) (hhigh : a.toNat ≤ 0xEF)
    (hb : isSecond a b = true) : Unfinished [a, b] := by
  rw [isSecond_iff] at hb
  obtain ⟨n, hn⟩ : ∃ n, n = (a.toNat - 0xE0) * 4096 + (b.toNat - 0x80) * 64 := ⟨_, rfl⟩
  have hvalid : n.isValidChar := by
    unfold Nat.isValidChar
    omega
  refine ⟨Char.ofNat n, [0x80], by simp, ?_⟩
  rw [String.utf8EncodeChar, val_ofNat hvalid, if_neg (by omega), if_neg (by omega),
    if_pos (by omega)]
  refine congrArg₂ _ (ofNat_eq (by omega)) (congrArg₂ _ (ofNat_eq (by omega)) ?_)
  exact congrArg₂ _ (ofNat_eq (by simp; omega)) rfl

/-- Three bytes of a character of four begin one. -/
theorem unfinished_three {a b c : UInt8} (hlow : 0xF0 ≤ a.toNat) (hhigh : a.toNat ≤ 0xF4)
    (hb : isSecond a b = true) (hc : isTail c = true) : Unfinished [a, b, c] := by
  rw [isSecond_iff] at hb
  rw [isTail_iff] at hc
  obtain ⟨n, hn⟩ : ∃ n, n = (a.toNat - 0xF0) * 262144 + (b.toNat - 0x80) * 4096 +
      (c.toNat - 0x80) * 64 := ⟨_, rfl⟩
  have hvalid : n.isValidChar := .inr (by omega)
  refine ⟨Char.ofNat n, [0x80], by simp, ?_⟩
  rw [String.utf8EncodeChar, val_ofNat hvalid, if_neg (by omega), if_neg (by omega),
    if_neg (by omega)]
  refine congrArg₂ _ (ofNat_eq (by omega)) (congrArg₂ _ (ofNat_eq (by omega)) ?_)
  exact congrArg₂ _ (ofNat_eq (by omega)) (congrArg₂ _ (ofNat_eq (by simp; omega)) rfl)

/-- Bytes that break off inside a character are told by their ranges. -/
theorem isTruncated_of_unfinished {b : UInt8} {rest : List UInt8}
    (hunfinished : Unfinished (b :: rest)) : isTruncated (b :: rest) = true := by
  obtain ⟨c, more, hmore, hencode⟩ := hunfinished
  have hvalid : c.val.toNat < 0xD800 ∨ 0xDFFF < c.val.toNat ∧ c.val.toNat < 0x110000 := c.valid
  obtain ⟨m, more, rfl⟩ := List.exists_cons_of_ne_nil hmore
  rw [String.utf8EncodeChar] at hencode
  generalize c.val.toNat = n at hvalid hencode
  -- by the length of the character and by how many of its bytes there are
  split at hencode
  · rcases rest with _ | ⟨b₂, rest⟩ <;> cases hencode
  split at hencode
  · rcases rest with _ | ⟨b₂, _ | ⟨b₃, rest⟩⟩ <;> cases hencode
    rw [isTruncated_one]
    simp only [UInt8.toNat_ofNat']
    omega
  split at hencode
  · rcases rest with _ | ⟨b₂, _ | ⟨b₃, _ | ⟨b₄, rest⟩⟩⟩ <;> cases hencode
    · rw [isTruncated_one]
      simp only [UInt8.toNat_ofNat']
      omega
    · rw [isTruncated_two, isSecond_iff]
      simp only [UInt8.toNat_ofNat']
      omega
  · rcases rest with _ | ⟨b₂, _ | ⟨b₃, _ | ⟨b₄, _ | ⟨b₅, rest⟩⟩⟩⟩ <;> cases hencode
    · rw [isTruncated_one]
      simp only [UInt8.toNat_ofNat']
      omega
    · rw [isTruncated_two, isSecond_iff]
      simp only [UInt8.toNat_ofNat']
      omega
    · rw [isTruncated_three, isSecond_iff, isTail_iff]
      simp only [UInt8.toNat_ofNat']
      omega

/-- Some byte may follow any first byte of a character of three or more bytes. -/
theorem exists_isSecond (a : UInt8) : ∃ b, isSecond a b = true := by
  simp only [isSecond_iff]
  by_cases hlow : a.toNat = 0xE0 ∨ a.toNat = 0xF0
  · refine ⟨0xA0, ?_⟩
    simp
    omega
  · refine ⟨0x80, ?_⟩
    simp
    omega

theorem unfinished_of_isTruncated {bytes : List UInt8} (htruncated : isTruncated bytes = true) :
    Unfinished bytes := by
  have htwo : ∀ a : UInt8, 0xE0 ≤ a.toNat → a.toNat ≤ 0xF4 → ∀ b, isSecond a b = true →
      Unfinished [a, b] := by
    intro a hlow hhigh b hb
    by_cases hsmall : a.toNat ≤ 0xEF
    · exact unfinished_two hlow hsmall hb
    · have hfour := unfinished_three (c := 0x80) (by omega) hhigh hb (by decide)
      exact Unfinished.of_append [0x80] hfour
  rcases bytes with _ | ⟨a, _ | ⟨b, _ | ⟨c, _ | ⟨d, rest⟩⟩⟩⟩
  · cases htruncated
  · obtain ⟨hlow, hhigh⟩ := isTruncated_one.mp htruncated
    by_cases hsmall : a.toNat ≤ 0xDF
    · exact unfinished_one hlow hsmall
    · obtain ⟨b, hb⟩ := exists_isSecond a
      exact Unfinished.of_append [b] (htwo a (by omega) hhigh b hb)
  · obtain ⟨⟨hlow, hhigh⟩, hb⟩ := isTruncated_two.mp htruncated
    exact htwo a hlow hhigh b hb
  · obtain ⟨⟨⟨hlow, hhigh⟩, hb⟩, hc⟩ := isTruncated_three.mp htruncated
    exact unfinished_three hlow hhigh hb hc
  · cases htruncated

/-- The ranges of bytes tell exactly where bytes break off inside a character. -/
theorem isTruncated_iff {b : UInt8} {rest : List UInt8} :
    isTruncated (b :: rest) = true ↔ Unfinished (b :: rest) :=
  ⟨unfinished_of_isTruncated, isTruncated_of_unfinished⟩

theorem leading?_eq_none_iff {bytes : List UInt8} :
    leading? bytes = none ↔ ∀ c rest, bytes ≠ String.utf8EncodeChar c ++ rest := by
  constructor
  · rintro hnone c rest rfl
    rw [leading?_utf8EncodeChar] at hnone
    cases hnone
  · intro hnot
    cases hlead : leading? bytes with
    | none => rfl
    | some c => exact absurd (eq_append_of_leading? hlead) (hnot c _)

/-- No character is complete in bytes that break off inside one. -/
theorem Unfinished.leading?_eq_none {bytes : List UInt8} (hunfinished : Unfinished bytes) :
    leading? bytes = none := by
  obtain ⟨c, more, hmore, hencode⟩ := hunfinished
  rw [leading?_eq_none_iff]
  rintro d rest rfl
  have hsame : c = d := by
    have hlead := leading?_utf8EncodeChar c []
    rw [List.append_nil, hencode, List.append_assoc, leading?_utf8EncodeChar] at hlead
    exact (Option.some.inj hlead).symm
  subst hsame
  have hrest : rest ++ more = [] := by
    rwa [List.append_assoc, List.self_eq_append_right] at hencode
  exact hmore (List.append_eq_nil_iff.mp hrest).2

/-! ## What is wrong first -/

/-- The bytes begin with a defect. -/
inductive Faulty (failure : Option String) : List UInt8 → Defect → Prop
  | nul (rest : List UInt8) : Faulty failure (0 :: rest) .nul
  /-- No character begins here, and it is not that the rest of one could not be read. -/
  | malformed {bytes : List UInt8} (hne : bytes ≠ [])
      (hnone : ∀ c rest, bytes ≠ String.utf8EncodeChar c ++ rest)
      (hread : failure.isSome → ¬ Unfinished bytes) : Faulty failure bytes .malformed
  /-- No bytes are left, or too few for the character that they begin. -/
  | unreadable {bytes : List UInt8} {reason : String} (hfailure : failure = some reason)
      (hunfinished : Unfinished bytes) : Faulty failure bytes (.unreadable reason)

theorem utf8EncodeChar_nul : String.utf8EncodeChar '\x00' = [0] := by decide

section

variable {failure : Option String} {bytes : List UInt8} {defect : Defect}

theorem decode_of_leading?_eq_none (failure : Option String) (hne : bytes ≠ [])
    (hlead : leading? bytes = none) :
    ∃ rest, decode failure bytes = ⟨replacement, some (defectAt failure bytes)⟩ :: rest := by
  obtain ⟨b, rest, rfl⟩ := List.exists_cons_of_ne_nil hne
  rw [decode, hlead]
  exact ⟨_, rfl⟩

/-- The defect that bytes begin with is noticed at once. -/
theorem Faulty.firstDefect_decode (hfaulty : Faulty failure bytes defect) :
    firstDefect failure (decode failure bytes) = some (0, defect) := by
  cases hfaulty with
  | nul rest =>
      have hdecode := decode_utf8EncodeChar failure '\x00' rest
      rw [utf8EncodeChar_nul, List.singleton_append] at hdecode
      rw [hdecode]
      rfl
  | malformed hne hnone hread =>
      obtain ⟨rest, hdecode⟩ :=
        decode_of_leading?_eq_none failure hne (leading?_eq_none_iff.mpr hnone)
      rw [hdecode, firstDefect]
      cases failure with
      | none => rfl
      | some reason =>
          obtain ⟨b, more, rfl⟩ := List.exists_cons_of_ne_nil hne
          have hwhole : ¬ isTruncated (b :: more) = true := fun htruncated =>
            hread rfl (isTruncated_iff.mp htruncated)
          simp only [defectAt, hwhole, Bool.false_eq_true, if_false]
  | @unreadable _ reason hfailure hunfinished =>
      rw [hfailure]
      rcases bytes with _ | ⟨b, more⟩
      · rw [decode]
        rfl
      · obtain ⟨rest, hdecode⟩ := decode_of_leading?_eq_none (some reason)
          (List.cons_ne_nil b more) hunfinished.leading?_eq_none
        rw [hdecode, firstDefect]
        simp only [defectAt, isTruncated_iff.mpr hunfinished, if_true]

/-- Bytes that begin with a defect do not begin with a byte order mark. -/
theorem Faulty.dropMark_decode (hfaulty : Faulty failure bytes defect) :
    dropMark (decode failure bytes) = decode failure bytes := by
  have hfirst := hfaulty.firstDefect_decode
  have hmark := @defect_eq_none_of_mark failure bytes
  cases hdecode : decode failure bytes with
  | nil => rfl
  | cons arrival rest =>
      rw [hdecode] at hfirst hmark
      rw [dropMark, if_neg]
      intro hchar
      rw [firstDefect, hmark List.mem_cons_self hchar] at hfirst
      simp at hfirst

/-- Bytes are the UTF-8 form of a text without zero characters, up to the end or to a
defect. -/
theorem exists_first_defect (failure : Option String) (bytes : List UInt8) :
    ∃ (text : List Char) (rest : List UInt8), '\x00' ∉ text ∧
      bytes = text.flatMap String.utf8EncodeChar ++ rest ∧
      (failure = none ∧ rest = [] ∨ ∃ defect, Faulty failure rest defect) := by
  induction bytes using decode.induct with
  | case1 =>
      refine ⟨[], [], by simp, rfl, ?_⟩
      cases failure with
      | none => exact .inl ⟨rfl, rfl⟩
      | some reason =>
          have hunfinished : Unfinished [] := ⟨'a', [0x61], by simp, by decide⟩
          exact .inr ⟨_, .unreadable rfl hunfinished⟩
  | case2 b rest c hlead ih =>
      have hsplit := cons_eq_of_leading? hlead
      by_cases hnul : c = '\x00'
      · rw [hnul, utf8EncodeChar_nul, List.singleton_append] at hsplit
        refine ⟨[], b :: rest, by simp, rfl, .inr ⟨.nul, ?_⟩⟩
        rw [hsplit]
        exact .nul _
      · obtain ⟨text, more, htext, hrest, hend⟩ := ih
        refine ⟨c :: text, more, List.not_mem_cons_of_ne_of_not_mem (Ne.symm hnul) htext, ?_, hend⟩
        rw [hsplit, hrest, List.flatMap_cons, List.append_assoc]
  | case3 b rest hlead ih =>
      refine ⟨[], b :: rest, by simp, rfl, .inr ?_⟩
      have hnone := leading?_eq_none_iff.mp hlead
      have hne := List.cons_ne_nil b rest
      by_cases hread : failure.isSome → ¬ Unfinished (b :: rest)
      · exact ⟨_, .malformed hne hnone hread⟩
      · rw [Classical.not_imp, not_not] at hread
        obtain ⟨hsome, hunfinished⟩ := hread
        obtain ⟨reason, hfailure⟩ := Option.isSome_iff_exists.mp hsome
        exact ⟨_, .unreadable hfailure hunfinished⟩

end

/-- The source begins with the UTF-8 form of a text without zero characters, and then there
is a defect. -/
structure BreaksAfter (source : Source) (text : List Char) (defect : Defect) : Prop where
  nul_notMem : '\x00' ∉ text
  exists_rest : ∃ rest, source.bytes = text.flatMap String.utf8EncodeChar ++ rest ∧
    Faulty source.failure rest defect

/-- What is delivered of a source begins with the text before the first defect, and the
defect is noticed behind that. -/
theorem BreaksAfter.deliver {source : Source} {text : List Char} {defect : Defect}
    (hbreaks : source.BreaksAfter text defect) :
    unmarked text <+: source.deliver.text ∧
      source.deliver.defect = some ((unmarked text).length, defect) := by
  obtain ⟨hnul, rest, hbytes, hfaulty⟩ := hbreaks
  have hclean : '\x00' ∉ unmarked text := fun hmem => hnul (mem_of_mem_unmarked hmem)
  have hid : (fun arrival : Arrival => arrival.char) ∘ arrivalOf = id := rfl
  rw [Source.deliver, hbytes, decode_utf8_append, dropMark_append text hfaulty.dropMark_decode]
  constructor
  · rw [List.map_append, List.map_map, hid, List.map_id]
    exact List.prefix_append _ _
  · rw [firstDefect_append hclean, hfaulty.firstDefect_decode]
    simp

theorem breaksAfter_of_defect {source : Source} {index : Nat} {defect : Defect}
    (hdefect : source.deliver.defect = some (index, defect)) :
    ∃ text, source.BreaksAfter text defect ∧ index = (unmarked text).length := by
  obtain ⟨text, rest, hnul, hbytes, ⟨hfailure, rfl⟩ | ⟨other, hfaulty⟩⟩ :=
    exists_first_defect source.failure source.bytes
  · have hsource := eq_ofString hfailure (hbytes.trans (List.append_nil _))
    rw [hsource, deliver_ofString_unmarked (by rwa [String.toList_ofList])] at hdefect
    cases hdefect
  · have hbreaks : source.BreaksAfter text other := ⟨hnul, rest, hbytes, hfaulty⟩
    rw [hbreaks.deliver.2] at hdefect
    cases hdefect
    exact ⟨text, hbreaks, rfl⟩

/-- A source has no defect if it can be read to its end and is valid UTF-8 without zero
bytes. -/
theorem defect_eq_none_iff (source : Source) :
    source.deliver.defect = none ↔
      source.failure = none ∧ source.bytes.toByteArray.IsValidUTF8 ∧ 0 ∉ source.bytes := by
  have hencode : ∀ text : List Char, (text.flatMap String.utf8EncodeChar).count 0 =
      text.count '\x00' := @count_utf8 '\x00' (by decide)
  constructor
  · intro hdefect
    obtain ⟨text, rfl, hnul⟩ := exists_text_of_deliver hdefect
    rw [ofString_bytes]
    refine ⟨rfl, ⟨text.toList, rfl⟩, ?_⟩
    rw [← List.count_eq_zero, hencode, List.count_eq_zero]
    exact hnul
  · rintro ⟨hfailure, ⟨text, hvalid⟩, hnul⟩
    have hbytes : source.bytes = text.flatMap String.utf8EncodeChar := by
      have hlist := congrArg (fun array : ByteArray => array.data.toList) hvalid
      simpa [List.utf8Encode] using hlist
    rw [hbytes, ← List.count_eq_zero, hencode, List.count_eq_zero] at hnul
    rw [eq_ofString hfailure hbytes, deliver_ofString_unmarked (by rwa [String.toList_ofList])]

end Lisplet.Source
