import Lisplet.Decimal.Text
import Lisplet.Proofs.Decimal.Value
import Mathlib.Data.List.TakeWhile

/-!
# Reading and writing decimal numbers

The text of a decimal depends on its value alone and tells it, and the text of one that
is not negative reads as a decimal of the same value. Texts made of digits, with
or without a point among them, always stand for the number that the digits say.
-/

namespace Lisplet.Decimal

/-! ## Digits -/

theorem isDigit_of_mem_digits {n : Nat} {c : Char} (hc : c ∈ digits n) : c.isDigit = true :=
  Nat.isDigit_of_mem_toDigits (by norm_num) (by norm_num) hc

theorem digits_ne_nil (n : Nat) : digits n ≠ [] := Nat.toDigits_ne_nil

@[simp]
theorem digitsValue_digits (n : Nat) : digitsValue (digits n) = n :=
  Nat.ofDigitChars_ten_toDigits

theorem digitsValue_append (first second : List Char) :
    digitsValue (first ++ second) = digitsValue first * 10 ^ second.length + digitsValue second := by
  rw [digitsValue, Nat.ofDigitChars_append, Nat.ofDigitChars_eq_ofDigitChars_zero, Nat.mul_comm]
  rfl

theorem digitsValue_zeros (count : Nat) : digitsValue (List.replicate count '0') = 0 := by
  simp [digitsValue]

theorem digits_mul_ten {n : Nat} (hn : 0 < n) : digits (n * 10) = digits n ++ ['0'] := by
  have happend := Nat.toDigits_append_toDigits (b := 10) (n := n) (d := 0) (by norm_num) hn
    (by norm_num)
  rw [Nat.toDigits_zero, Nat.add_zero, Nat.mul_comm] at happend
  exact happend.symm

/-- Multiplying with a power of ten writes zeros at the end. -/
theorem digits_mul_pow {n : Nat} (hn : 0 < n) (count : Nat) :
    digits (n * 10 ^ count) = digits n ++ List.replicate count '0' := by
  induction count with
  | zero => simp
  | succ count ih =>
      rw [Nat.pow_succ, ← Nat.mul_assoc, digits_mul_ten (by positivity), ih, List.append_assoc,
        List.replicate_succ']

/-! ## Fractions without zeros at the end -/

theorem dropTrailingZeros_append_zeros (text : List Char) (count : Nat) :
    dropTrailingZeros (text ++ List.replicate count '0') = dropTrailingZeros text := by
  rw [dropTrailingZeros, dropTrailingZeros, List.reverse_append, List.reverse_replicate,
    List.dropWhile_append_of_pos (by simp)]

/-- The zeros dropped are all that is missing. -/
theorem exists_eq_dropTrailingZeros_append (text : List Char) :
    ∃ count, text = dropTrailingZeros text ++ List.replicate count '0' := by
  refine ⟨(text.reverse.takeWhile (· == '0')).length, ?_⟩
  have hzeros : text.reverse.takeWhile (· == '0') =
      List.replicate (text.reverse.takeWhile (· == '0')).length '0' := by
    apply List.eq_replicate_of_mem
    intro c hc
    simpa using List.mem_takeWhile_imp hc
  have hsplit := congrArg List.reverse
    (List.takeWhile_append_dropWhile (p := (· == '0')) (l := text.reverse))
  rw [List.reverse_append, List.reverse_reverse] at hsplit
  conv_lhs => rw [← hsplit, hzeros, List.reverse_replicate]
  rfl

theorem mem_of_mem_dropTrailingZeros {text : List Char} {c : Char}
    (hc : c ∈ dropTrailingZeros text) : c ∈ text := by
  obtain ⟨count, htext⟩ := exists_eq_dropTrailingZeros_append text
  rw [htext]
  exact List.mem_append_left _ hc

theorem digitsValue_paddedDigits (width n : Nat) : digitsValue (paddedDigits width n) = n := by
  rw [paddedDigits, digitsValue_append, digitsValue_zeros, digitsValue_digits, Nat.zero_mul,
    Nat.zero_add]

theorem isDigit_of_mem_paddedDigits {width n : Nat} {c : Char} (hc : c ∈ paddedDigits width n) :
    c.isDigit = true := by
  rcases List.mem_append.mp hc with hzero | hdigit
  · rw [List.eq_of_mem_replicate hzero]
    rfl
  · exact isDigit_of_mem_digits hdigit

theorem length_paddedDigits {width n : Nat} (hwidth : 0 < width) (hn : n < 10 ^ width) :
    (paddedDigits width n).length = width := by
  have hle : (digits n).length ≤ width :=
    (Nat.length_toDigits_le_iff (by norm_num) hwidth).2 hn
  rw [paddedDigits, List.length_append, List.length_replicate]
  omega

theorem dropTrailingZeros_paddedDigits_zero (width : Nat) :
    dropTrailingZeros (paddedDigits width 0) = [] := by
  have hzeros : paddedDigits width 0 = [] ++ List.replicate (width - 1 + 1) '0' := by
    rw [List.replicate_succ', paddedDigits, digits, Nat.toDigits_zero]
    rfl
  rw [hzeros, dropTrailingZeros_append_zeros]
  rfl

/-- A fraction is written the same way whatever the number of places it has. -/
theorem dropTrailingZeros_paddedDigits_scale (width n count : Nat) :
    dropTrailingZeros (paddedDigits (width + count) (n * 10 ^ count)) =
      dropTrailingZeros (paddedDigits width n) := by
  rcases Nat.eq_zero_or_pos n with rfl | hn
  · rw [Nat.zero_mul, dropTrailingZeros_paddedDigits_zero, dropTrailingZeros_paddedDigits_zero]
  · have hpadded : paddedDigits (width + count) (n * 10 ^ count) =
        paddedDigits width n ++ List.replicate count '0' := by
      rw [paddedDigits, paddedDigits, digits_mul_pow hn, List.append_assoc, List.length_append,
        List.length_replicate, Nat.add_sub_add_right]
    rw [hpadded, dropTrailingZeros_append_zeros]

/-- What is left of a fraction is worth as much as all of it. -/
theorem digitsValue_fraction {width n : Nat} (hn : n < 10 ^ width) :
    (dropTrailingZeros (paddedDigits width n)).length ≤ width ∧
      digitsValue (dropTrailingZeros (paddedDigits width n)) *
        10 ^ (width - (dropTrailingZeros (paddedDigits width n)).length) = n := by
  rcases Nat.eq_zero_or_pos width with rfl | hwidth
  · have hzero : n = 0 := by simpa using hn
    rw [hzero, dropTrailingZeros_paddedDigits_zero]
    exact ⟨le_rfl, rfl⟩
  · obtain ⟨count, hpadded⟩ := exists_eq_dropTrailingZeros_append (paddedDigits width n)
    have hlength := congrArg List.length hpadded
    have hvalue := congrArg digitsValue hpadded
    rw [length_paddedDigits hwidth hn, List.length_append, List.length_replicate] at hlength
    rw [digitsValue_paddedDigits, digitsValue_append, digitsValue_zeros, List.length_replicate,
      Nat.add_zero] at hvalue
    refine ⟨by omega, ?_⟩
    rw [show width - (dropTrailingZeros (paddedDigits width n)).length = count by omega]
    exact hvalue.symm

/-! ## Plain notation -/

/-- The digits of a decimal without its point, as one number. -/
def magnitude (a : Decimal) : Nat := (shifted a.coefficient a.exponent.toNat).natAbs

/-- How many of these digits stand after the point. -/
def places (a : Decimal) : Nat := (-a.exponent).toNat

/-- The digits of a fraction that are written. -/
def fractionDigits (magnitude places : Nat) : List Char :=
  dropTrailingZeros (paddedDigits places (magnitude % 10 ^ places))

/-- A number without sign in plain notation, from its digits and the place of its
point. -/
def plain (magnitude places : Nat) : List Char :=
  digits (magnitude / 10 ^ places) ++
    (if (fractionDigits magnitude places).isEmpty then [] else '.' :: fractionDigits magnitude places)

theorem chars_eq (a : Decimal) :
    a.chars = (if a.coefficient < 0 then ['-'] else []) ++ plain a.magnitude a.places := by
  rw [chars, List.append_assoc]
  rfl

theorem abs_value (a : Decimal) : |a.value| = a.magnitude / 10 ^ a.places := by
  rw [magnitude, Nat.cast_natAbs, Int.cast_abs, shifted_cast, value, zpow_eq_div, places, abs_mul,
    abs_mul, abs_div, mul_div_assoc]
  simp

/-- The point can be moved to the right by writing zeros. -/
theorem plain_scale (magnitude places count : Nat) :
    plain (magnitude * 10 ^ count) (places + count) = plain magnitude places := by
  have hpos : 0 < 10 ^ count := by positivity
  have hfraction : fractionDigits (magnitude * 10 ^ count) (places + count) =
      fractionDigits magnitude places := by
    rw [fractionDigits, Nat.pow_add, Nat.mul_mod_mul_right, dropTrailingZeros_paddedDigits_scale]
    rfl
  rw [plain, hfraction, Nat.pow_add, Nat.mul_div_mul_right _ _ hpos]
  rfl

theorem plain_congr {m n p q : Nat} (hle : p ≤ q) (heq : (m : ℚ) / 10 ^ p = n / 10 ^ q) :
    plain m p = plain n q := by
  obtain ⟨count, rfl⟩ := Nat.exists_eq_add_of_le hle
  have hn : n = m * 10 ^ count := by
    rw [pow_add, eq_div_iff (by positivity), div_mul_eq_mul_div, div_eq_iff (by positivity)] at heq
    have hpos : (0 : ℚ) < 10 ^ p := by positivity
    have hcancel : (n : ℚ) = m * 10 ^ count := by
      apply mul_right_cancel₀ hpos.ne'
      linarith
    exact_mod_cast hcancel
  rw [hn, plain_scale]

/-- Decimals of one value have one text. -/
theorem text_congr {a b : Decimal} (hvalue : a.value = b.value) : a.text = b.text := by
  have hmagnitude : (a.magnitude : ℚ) / 10 ^ a.places = b.magnitude / 10 ^ b.places := by
    rw [← abs_value, ← abs_value, hvalue]
  have hplain : plain a.magnitude a.places = plain b.magnitude b.places := by
    rcases Nat.le_total a.places b.places with hle | hle
    · exact plain_congr hle hmagnitude
    · exact (plain_congr hle hmagnitude.symm).symm
  have hsign : a.coefficient < 0 ↔ b.coefficient < 0 := by
    rw [← value_neg_iff, ← value_neg_iff, hvalue]
  simp only [text, chars_eq, hplain, hsign]

/-! ## Reading -/

theorem integer?_of_digits {text : List Char} (hne : text ≠ [])
    (hdigits : ∀ c ∈ text, c.isDigit = true) : integer? text = some (digitsValue text : Int) := by
  have hnatural : natural? text = some (digitsValue text) := by
    rw [natural?, if_neg]
    simpa [hne] using hdigits
  unfold integer?
  split
  · exact absurd (hdigits '-' List.mem_cons_self) (by decide)
  · exact absurd (hdigits '+' List.mem_cons_self) (by decide)
  · rw [hnatural]
    rfl

/-- A text without a mark of an exponent is all coefficient. -/
theorem ofChars?_of_no_mark {text : List Char} (hmark : ∀ c ∈ text, isExponentMark c = false) :
    ofChars? text = (coefficient? text).bind fun (n, count) => ofParts? n (-count) := by
  have htake : text.takeWhile (!isExponentMark ·) = text :=
    List.takeWhile_eq_self_iff.2 fun c hc => by simp [hmark c hc]
  have hdrop : text.dropWhile (!isExponentMark ·) = [] :=
    List.dropWhile_eq_nil_iff.2 fun c hc => by simp [hmark c hc]
  rw [ofChars?, htake, hdrop]
  simp [exponent?]

theorem isExponentMark_of_isDigit {c : Char} (hc : c.isDigit = true) :
    isExponentMark c = false := by
  simp only [isExponentMark, Bool.or_eq_false_iff, beq_eq_false_iff_ne]
  constructor <;> (rintro rfl; exact absurd hc (by decide))

theorem ne_point_of_isDigit {c : Char} (hc : c.isDigit = true) : c ≠ '.' := by
  rintro rfl
  exact absurd hc (by decide)

/-- Digits alone stand for the number they write. -/
theorem ofChars?_whole {whole : List Char} (hne : whole ≠ [])
    (hdigits : ∀ c ∈ whole, c.isDigit = true) :
    ofChars? whole = ofParts? (digitsValue whole) 0 := by
  rw [ofChars?_of_no_mark fun c hc => isExponentMark_of_isDigit (hdigits c hc)]
  have htake : whole.takeWhile (· != '.') = whole :=
    List.takeWhile_eq_self_iff.2 fun c hc => by simp [ne_point_of_isDigit (hdigits c hc)]
  have hdrop : whole.dropWhile (· != '.') = [] :=
    List.dropWhile_eq_nil_iff.2 fun c hc => by simp [ne_point_of_isDigit (hdigits c hc)]
  rw [coefficient?, htake, hdrop, integer?_of_digits hne hdigits]
  simp

/-- Digits with a point among them stand for a number with as many places as there
are digits after the point. -/
theorem ofChars?_point {whole fraction : List Char} (hne : whole ≠ [])
    (hwhole : ∀ c ∈ whole, c.isDigit = true) (hfraction : ∀ c ∈ fraction, c.isDigit = true) :
    ofChars? (whole ++ '.' :: fraction) =
      ofParts? (digitsValue (whole ++ fraction)) (-fraction.length) := by
  have hmark : ∀ c ∈ whole ++ '.' :: fraction, isExponentMark c = false := by
    intro c hc
    rcases List.mem_append.mp hc with hc | hc
    · exact isExponentMark_of_isDigit (hwhole c hc)
    · rcases List.mem_cons.mp hc with rfl | hc
      · decide
      · exact isExponentMark_of_isDigit (hfraction c hc)
  have hpoint : ∀ c ∈ whole, (c != '.') = true := fun c hc => by
    simp [ne_point_of_isDigit (hwhole c hc)]
  have htake : (whole ++ '.' :: fraction).takeWhile (· != '.') = whole := by
    rw [List.takeWhile_append_of_pos hpoint]
    simp
  have hdrop : (whole ++ '.' :: fraction).dropWhile (· != '.') = '.' :: fraction := by
    rw [List.dropWhile_append_of_pos hpoint]
    simp
  have hdigits : ∀ c ∈ whole ++ fraction, c.isDigit = true := by
    intro c hc
    exact (List.mem_append.mp hc).elim (hwhole c) (hfraction c)
  have honce : fraction.contains '.' = false := by
    rw [List.contains_eq_mem, decide_eq_false_iff_not]
    exact fun hmem => ne_point_of_isDigit (hfraction '.' hmem) rfl
  rw [ofChars?_of_no_mark hmark, coefficient?, htake, hdrop]
  simp only [honce]
  rw [integer?_of_digits (by simp [hne]) hdigits]
  simp

theorem ofParts?_eq_some {coefficient exponent : Int}
    (hbounded : -2147483648 ≤ exponent ∧ exponent ≤ 2147483647) :
    ofParts? coefficient exponent = some ⟨coefficient, exponent, hbounded⟩ := by
  rw [ofParts?, dif_pos hbounded]

theorem coefficient_of_ofParts? {coefficient exponent : Int} {a : Decimal}
    (ha : ofParts? coefficient exponent = some a) : a.coefficient = coefficient := by
  rw [ofParts?] at ha
  split at ha
  · cases ha
    rfl
  · cases ha

theorem isDigit_of_mem_fractionDigits {m p : Nat} {c : Char} (hc : c ∈ fractionDigits m p) :
    c.isDigit = true :=
  isDigit_of_mem_paddedDigits (mem_of_mem_dropTrailingZeros hc)

/-- The number written in plain notation is read again. -/
theorem ofChars?_plain (m p : Nat) (hp : p ≤ 2147483648) :
    ∃ a : Decimal, ofChars? (plain m p) = some a ∧ a.value = m / 10 ^ p := by
  have hfraction : ∀ c ∈ fractionDigits m p, c.isDigit = true :=
    fun c => isDigit_of_mem_fractionDigits
  obtain ⟨hlength, hvalue⟩ :=
    digitsValue_fraction (Nat.mod_lt m (by positivity) : m % 10 ^ p < 10 ^ p)
  have hsplit : (m : ℚ) = (m / 10 ^ p : Nat) * 10 ^ p + (m % 10 ^ p : Nat) := by
    exact_mod_cast (Nat.div_add_mod' m (10 ^ p)).symm
  rw [plain]
  generalize m / 10 ^ p = whole at hsplit ⊢
  have hwhole : ∀ c ∈ digits whole, c.isDigit = true := fun c => isDigit_of_mem_digits
  -- a point is written only if digits are left of the fraction
  by_cases hempty : fractionDigits m p = []
  · have hzero : m % 10 ^ p = 0 := by
      rw [← hvalue, show dropTrailingZeros (paddedDigits p (m % 10 ^ p)) = [] from hempty]
      simp [digitsValue]
    refine ⟨⟨whole, 0, by decide⟩, ?_, ?_⟩
    · rw [hempty]
      simp only [List.isEmpty_nil, if_true, List.append_nil]
      rw [ofChars?_whole (digits_ne_nil _) hwhole, digitsValue_digits, ofParts?_eq_some]
    · rw [hzero, Nat.cast_zero, add_zero] at hsplit
      rw [eq_div_iff (by positivity), hsplit]
      simp [value]
  · have hbounded : -2147483648 ≤ (-(fractionDigits m p).length : Int) ∧
        (-(fractionDigits m p).length : Int) ≤ 2147483647 := by
      rw [fractionDigits]
      omega
    refine ⟨⟨digitsValue (digits whole ++ fractionDigits m p), _, hbounded⟩, ?_, ?_⟩
    · rw [if_neg (by simpa using hempty),
        ofChars?_point (digits_ne_nil _) hwhole hfraction, ofParts?_eq_some hbounded]
    -- the zeros dropped from the end are worth the places that are not written
    · have hplaces : (10 : ℚ) ^ p =
          10 ^ (fractionDigits m p).length * 10 ^ (p - (fractionDigits m p).length) := by
        rw [← pow_add]
        congr 1
        have : (fractionDigits m p).length ≤ p := hlength
        omega
      have hrest : ((m % 10 ^ p : Nat) : ℚ) = digitsValue (fractionDigits m p) *
          10 ^ (p - (fractionDigits m p).length) := by
        exact_mod_cast hvalue.symm
      rw [hsplit, hrest, digitsValue_append, digitsValue_digits]
      simp only [value]
      push_cast
      rw [zpow_neg, zpow_natCast, hplaces]
      field_simp

theorem places_le (a : Decimal) : a.places ≤ 2147483648 := by
  have hbounded := a.bounded
  rw [places]
  omega

/-- The text of a decimal that is not negative reads as a decimal of its value. -/
theorem ofText?_text {a : Decimal} (ha : 0 ≤ a.coefficient) :
    ∃ b : Decimal, ofText? a.text = some b ∧ b.value = a.value := by
  obtain ⟨b, hread, hvalue⟩ := ofChars?_plain a.magnitude a.places a.places_le
  refine ⟨b, ?_, ?_⟩
  · rw [ofText?, text, String.toList_ofList, chars_eq, if_neg (by omega), List.nil_append, hread]
  · rw [hvalue, ← abs_value, abs_of_nonneg]
    have hnonneg := (value_neg_iff a).not.2 (by omega)
    linarith

/-! ## Different values have different texts -/

theorem isDigit_of_plain_eq_cons {m p : Nat} {c : Char} {text : List Char}
    (hplain : plain m p = c :: text) : c.isDigit = true := by
  obtain ⟨d, rest, hdigits⟩ := List.exists_cons_of_ne_nil (digits_ne_nil (m / 10 ^ p))
  rw [plain, hdigits, List.cons_append] at hplain
  cases hplain
  exact isDigit_of_mem_digits (hdigits ▸ List.mem_cons_self)

/-- Plain notation says what is written. -/
theorem eq_of_plain_eq {m n p q : Nat} (hp : p ≤ 2147483648) (hq : q ≤ 2147483648)
    (hplain : plain m p = plain n q) : (m : ℚ) / 10 ^ p = n / 10 ^ q := by
  obtain ⟨a, hread, hvalue⟩ := ofChars?_plain m p hp
  obtain ⟨b, hread', hvalue'⟩ := ofChars?_plain n q hq
  rw [hplain, hread'] at hread
  cases hread
  rw [← hvalue, ← hvalue']

/-- The text of a decimal tells its value. -/
theorem text_eq_iff (a b : Decimal) : a.text = b.text ↔ a.value = b.value := by
  refine ⟨fun htext => ?_, text_congr⟩
  have hchars : a.chars = b.chars := String.ofList_injective htext
  rw [chars_eq, chars_eq] at hchars
  have habs : plain a.magnitude a.places = plain b.magnitude b.places → |a.value| = |b.value| := by
    intro hplain
    rw [abs_value, abs_value, eq_of_plain_eq a.places_le b.places_le hplain]
  -- a sign is no digit, so both have one or none
  split_ifs at hchars with ha hb hb
  · have heq := habs (List.append_cancel_left hchars)
    rw [← value_neg_iff] at ha hb
    rw [abs_of_neg ha, abs_of_neg hb] at heq
    exact neg_injective heq
  · exact absurd (isDigit_of_plain_eq_cons hchars.symm) (by decide)
  · exact absurd (isDigit_of_plain_eq_cons hchars) (by decide)
  · have heq := habs (List.append_cancel_left hchars)
    rw [← value_neg_iff, not_lt] at ha hb
    rwa [abs_of_nonneg ha, abs_of_nonneg hb] at heq

end Lisplet.Decimal
