import TradingEngine.Lib.CharConv
import TradingEngine.Parsers.KalshiParser

/-!
# Counts that are written as text

The quantity of a trade may come as a decimal text, such as `"12.00"`. The code reads its bytes one
scan after the other, leaves the number to `std::from_chars`, and writes it through a reference:
this is `InBytes.parseNonNegativeDecimalStringToInt64`. It reads exactly the whole numbers of
`WholeNumber` that fit (`decimal_text_reads_whole_numbers`).

The parser of the messages works on characters and gives the number as an option. On the UTF-8 form
of a text the two agree (`parseNonNegativeDecimalStringToInt64_eq_inBytes`).
-/

namespace TradingEngine

open CharConv (isDigit fromChars)

namespace KalshiParser

/-- The largest `int64`. -/
def maxInt64 : ℕ := 2 ^ 63 - 1

namespace InBytes

def point : UInt8 := '.'.toUInt8

def zero : UInt8 := '0'.toUInt8

/-- Everything up to the first point. -/
def intPart (value : List UInt8) : List UInt8 :=
  match value.findIdx? (· == point) with
  | none => value
  | some dot => value.take dot

/-- Everything after the first point. -/
def fracPart (value : List UInt8) : List UInt8 :=
  match value.findIdx? (· == point) with
  | none => []
  | some dot => value.drop (dot + 1)

/-- The success of the call, and `out` after it. Whether `char` is signed makes no difference: a
byte of 128 or more is below `'0'` or above `'9'`. -/
def parseNonNegativeDecimalStringToInt64 (value : List UInt8) (out : ℤ) : Bool × ℤ :=
  if value = [] then (false, out)
  else if value.head? = some '-'.toUInt8 then (false, out)
  else if intPart value = [] then (false, out)
  else if (intPart value).any fun c ↦ c < '0'.toUInt8 || c > '9'.toUInt8 then (false, out)
  else if (fracPart value).any fun c ↦ c ≠ '0'.toUInt8 then (false, out)
  else
    match fromChars (2 ^ 64 - 1) (intPart value) 0 with
    | (result, parsed) =>
      if result.ec ≠ .ok ∨ result.ptr ≠ (intPart value).length ∨ parsed > maxInt64 then (false, out)
      else (true, Json.wrapInt64 parsed)

/-! ## Whole numbers -/

/-- The number that some digits denote in base 10. -/
def numeral (digits : List UInt8) : ℕ :=
  Nat.ofDigits 10 (digits.reverse.map fun digit ↦ (digit - zero).toNat)

/-- The texts of a whole number: one or more digits, which may be followed by a point and zeros. -/
inductive WholeNumber : List UInt8 → ℕ → Prop
  | plain {digits : List UInt8} (hne : digits ≠ []) (hdigits : ∀ c ∈ digits, isDigit c = true) :
      WholeNumber digits (numeral digits)
  | pointed {digits : List UInt8} (zeros : ℕ) (hne : digits ≠ [])
      (hdigits : ∀ c ∈ digits, isDigit c = true) :
      WholeNumber (digits ++ point :: List.replicate zeros zero) (numeral digits)

/-- What the scans look for. -/
structure Scanned (value : List UInt8) : Prop where
  ne_nil : intPart value ≠ []
  digits : ∀ c ∈ intPart value, isDigit c = true
  zeros : ∀ c ∈ fracPart value, c = zero

theorem findIdx?_point_eq_none {value : List UInt8} (h : point ∉ value) :
    value.findIdx? (· == point) = none := by
  rw [List.findIdx?_eq_none_iff]
  intro c hc
  rw [beq_eq_false_iff_ne]
  rintro rfl
  exact h hc

theorem parts_of_not_mem {value : List UInt8} (h : point ∉ value) :
    intPart value = value ∧ fracPart value = [] := by
  rw [intPart, fracPart, findIdx?_point_eq_none h]
  exact ⟨rfl, rfl⟩

theorem parts_append {before : List UInt8} (h : point ∉ before) (after : List UInt8) :
    intPart (before ++ point :: after) = before ∧
    fracPart (before ++ point :: after) = after := by
  have hsome : (before ++ point :: after).findIdx? (· == point) = some before.length := by
    rw [List.findIdx?_append, findIdx?_point_eq_none h, List.findIdx?_cons,
      if_pos (beq_self_eq_true point)]
    simp
  rw [intPart, fracPart, hsome]
  constructor
  · exact List.take_left
  · change (before ++ point :: after).drop (before.length + 1) = after
    simp

/-- The two parts of a text, with or without a point. -/
theorem parts_cases (value : List UInt8) :
    (intPart value = value ∧ fracPart value = []) ∨
    value = intPart value ++ point :: fracPart value := by
  by_cases h : point ∈ value
  · obtain ⟨before, after, rfl, hbefore⟩ := List.eq_append_cons_of_mem h
    obtain ⟨hint, hfrac⟩ := parts_append hbefore after
    rw [hint, hfrac]
    exact .inr rfl
  · exact .inl (parts_of_not_mem h)

theorem point_not_mem {digits : List UInt8} (h : ∀ c ∈ digits, isDigit c = true) :
    point ∉ digits := fun hmem ↦ absurd (h point hmem) (by decide)

theorem wholeNumber_iff {value : List UInt8} {n : ℕ} :
    WholeNumber value n ↔ Scanned value ∧ n = numeral (intPart value) := by
  constructor
  · intro h
    cases h with
    | plain hne hdigits =>
      obtain ⟨hint, hfrac⟩ := parts_of_not_mem (point_not_mem hdigits)
      refine ⟨⟨?_, ?_, ?_⟩, ?_⟩ <;> simp only [hint, hfrac]
      · exact hne
      · exact hdigits
      · simp
    | pointed zeros hne hdigits =>
      obtain ⟨hint, hfrac⟩ := parts_append (point_not_mem hdigits)
        (List.replicate zeros zero)
      refine ⟨⟨?_, ?_, ?_⟩, ?_⟩ <;> simp only [hint, hfrac]
      · exact hne
      · exact hdigits
      · exact fun c hc ↦ List.eq_of_mem_replicate hc
  · rintro ⟨h, rfl⟩
    rcases parts_cases value with ⟨hint, -⟩ | hvalue
    · have hwhole := WholeNumber.plain h.ne_nil h.digits
      rwa [hint] at hwhole ⊢
    · have hzeros : fracPart value = List.replicate (fracPart value).length zero :=
        List.eq_replicate_of_mem h.zeros
      have hwhole := WholeNumber.pointed (fracPart value).length h.ne_nil h.digits
      rwa [← hzeros, ← hvalue] at hwhole

/-! ## The scans -/

theorem Scanned.head_ne_minus {value : List UInt8} (h : Scanned value) :
    value.head? ≠ some '-'.toUInt8 := by
  have hhead : value.head? = (intPart value).head? := by
    rcases parts_cases value with ⟨hint, -⟩ | hvalue
    · rw [hint]
    · conv_lhs => rw [hvalue]
      exact List.head?_append_of_ne_nil _ h.ne_nil
  rw [hhead]
  intro hminus
  exact absurd (h.digits _ (List.mem_of_head? hminus)) (by decide)

theorem any_not_digit_iff {text : List UInt8} :
    (text.any fun c ↦ c < '0'.toUInt8 || c > '9'.toUInt8) = true ↔
      ¬∀ c ∈ text, isDigit c = true := by
  simp only [List.any_eq_true, isDigit, Bool.or_eq_true, decide_eq_true_eq, Bool.and_eq_true,
    not_forall, not_and_or, UInt8.not_le, exists_prop, gt_iff_lt]

theorem any_not_zero_iff {text : List UInt8} :
    (text.any fun c ↦ c ≠ '0'.toUInt8) = true ↔ ¬∀ c ∈ text, c = zero := by
  simp only [List.any_eq_true, decide_eq_true_eq, not_forall, exists_prop, zero, ne_eq]

/-- On a text that passes the scans only the size of the number matters. -/
theorem parse_of_scanned {value : List UInt8} (h : Scanned value) (out : ℤ) :
    parseNonNegativeDecimalStringToInt64 value out =
      if numeral (intPart value) ≤ maxInt64 then (true, (numeral (intPart value) : ℤ))
      else (false, out) := by
  have hvalue : value ≠ [] := by
    rintro rfl
    exact h.ne_nil rfl
  have hdigits : ¬((intPart value).any fun c ↦ c < '0'.toUInt8 || c > '9'.toUInt8) = true := by
    rw [any_not_digit_iff, not_not]
    exact h.digits
  have hzeros : ¬((fracPart value).any fun c ↦ c ≠ '0'.toUInt8) = true := by
    rw [any_not_zero_iff, not_not]
    exact h.zeros
  have hnumeral : CharConv.digitsValue (intPart value) = numeral (intPart value) :=
    CharConv.digitsValue_eq_ofDigits _
  rw [parseNonNegativeDecimalStringToInt64, if_neg hvalue, if_neg h.head_ne_minus,
    if_neg h.ne_nil, if_neg hdigits, if_neg hzeros,
    CharConv.fromChars_of_all_isDigit h.ne_nil h.digits, hnumeral]
  by_cases hrange : 2 ^ 64 - 1 < numeral (intPart value)
  · -- too large even for the unsigned type
    have hlarge : ¬numeral (intPart value) ≤ maxInt64 := by
      rw [maxInt64]
      omega
    rw [if_pos hrange, if_neg hlarge]
    simp
  · rw [if_neg hrange]
    by_cases hfits : numeral (intPart value) ≤ maxInt64
    · have hwrap : Json.wrapInt64 (numeral (intPart value)) = numeral (intPart value) := by
        rw [maxInt64] at hfits
        exact Json.wrapInt64_of_isInt64 ⟨by omega, by omega⟩
      simp [hfits, hwrap]
    · simp [hfits]

theorem parse_of_not_scanned {value : List UInt8} (h : ¬Scanned value) (out : ℤ) :
    parseNonNegativeDecimalStringToInt64 value out = (false, out) := by
  rw [parseNonNegativeDecimalStringToInt64]
  split_ifs with hvalue hminus hne hdigits hzeros
  · rfl
  · rfl
  · rfl
  · rfl
  · rfl
  · -- every scan has passed
    rw [any_not_digit_iff, not_not] at hdigits
    rw [any_not_zero_iff, not_not] at hzeros
    exact absurd ⟨hne, hdigits, hzeros⟩ h

end InBytes

open InBytes in
/-- **Exactly the whole numbers are read.** The call succeeds on digits with at most a point and
zeros behind them whose number fits into an `int64`, and then yields this number. Otherwise it
leaves the output alone. -/
theorem decimal_text_reads_whole_numbers (value : List UInt8) (out : ℤ) :
    ((InBytes.parseNonNegativeDecimalStringToInt64 value out).1 = true ↔
      ∃ n, WholeNumber value n ∧ n ≤ maxInt64) ∧
    (∀ n, WholeNumber value n → n ≤ maxInt64 →
      InBytes.parseNonNegativeDecimalStringToInt64 value out = (true, (n : ℤ))) ∧
    ((InBytes.parseNonNegativeDecimalStringToInt64 value out).1 = false →
      (InBytes.parseNonNegativeDecimalStringToInt64 value out).2 = out) := by
  by_cases h : Scanned value
  · have hnumber : ∀ {n}, WholeNumber value n ↔ n = numeral (intPart value) := by
      intro n
      rw [wholeNumber_iff, and_iff_right h]
    simp only [hnumber, exists_eq_left, parse_of_scanned h out]
    refine ⟨?_, ?_, ?_⟩
    · split_ifs with hfits <;> simp [hfits]
    · rintro n rfl hfits
      rw [if_pos hfits]
    · split_ifs <;> simp
  · have hnone : ∀ n, ¬WholeNumber value n := fun n hn ↦ h (wholeNumber_iff.mp hn).1
    simp [parse_of_not_scanned h, hnone]

/-! ## Texts of characters -/

namespace InBytes

/-- The bytes of a text. -/
def utf8 (text : List Char) : List UInt8 := text.flatMap String.utf8EncodeChar

/-- A character is one byte, or more of them that no scan lets through. -/
theorem utf8EncodeChar_cases (c : Char) :
    (c.toNat < 128 ∧ String.utf8EncodeChar c = [c.toUInt8]) ∨
    (128 ≤ c.toNat ∧ ∀ b ∈ String.utf8EncodeChar c, 128 ≤ b.toNat) := by
  by_cases h : c.toNat < 128
  · have hsize : c.utf8Size = 1 := by
      rw [Char.utf8Size_eq_one_iff, UInt32.le_iff_toNat_le]
      exact Nat.le_of_lt_succ h
    exact .inl ⟨h, String.utf8EncodeChar_eq_singleton hsize⟩
  · have hval : 128 ≤ c.val.toNat := not_lt.mp h
    refine .inr ⟨hval, ?_⟩
    fun_cases String.utf8EncodeChar c
    · omega
    · simp
      omega
    · simp
      omega
    · simp
      omega

theorem toNat_toUInt8 {c : Char} (h : c.toNat < 128) : c.toUInt8.toNat = c.toNat := by
  have hmod : c.toUInt8.toNat = c.toNat % 2 ^ 8 := UInt32.toNat_toUInt8 c.val
  omega

theorem toUInt8_eq_iff {c d : Char} (hc : c.toNat < 128) (hd : d.toNat < 128) :
    c.toUInt8 = d.toUInt8 ↔ c = d := by
  rw [← UInt8.toNat_inj, toNat_toUInt8 hc, toNat_toUInt8 hd, Char.toNat_inj]

/-- What a scan asks of every byte, as a condition on the characters. -/
theorem forall_mem_utf8_iff {P : UInt8 → Prop} (hP : ∀ b, P b → b.toNat < 128) {text : List Char} :
    (∀ b ∈ utf8 text, P b) ↔ ∀ c ∈ text, c.toNat < 128 ∧ P c.toUInt8 := by
  have hchar : ∀ c : Char, (∀ b ∈ String.utf8EncodeChar c, P b) ↔ c.toNat < 128 ∧ P c.toUInt8 := by
    intro c
    rcases utf8EncodeChar_cases c with ⟨hascii, hencode⟩ | ⟨hlarge, hbytes⟩
    · rw [hencode, List.forall_mem_singleton, and_iff_right hascii]
    · obtain ⟨b, hb⟩ := List.exists_mem_of_ne_nil _ (String.utf8EncodeChar_ne_nil (c := c))
      refine iff_of_false (fun h ↦ ?_) fun h ↦ absurd h.1 (not_lt.mpr hlarge)
      exact absurd (hP b (h b hb)) (not_lt.mpr (hbytes b hb))
  simp only [utf8, List.mem_flatMap, ← hchar]
  exact ⟨fun h c hc b hb ↦ h b ⟨c, hc, hb⟩, fun h b ⟨c, hc, hb⟩ ↦ h c hc b hb⟩

theorem point_mem_utf8_iff {text : List Char} : point ∈ utf8 text ↔ '.' ∈ text := by
  rw [utf8, List.mem_flatMap]
  constructor
  · rintro ⟨c, hc, hpoint⟩
    rcases utf8EncodeChar_cases c with ⟨hascii, hencode⟩ | ⟨-, hbytes⟩
    · rw [hencode, List.mem_singleton] at hpoint
      rwa [(toUInt8_eq_iff (d := c) (by decide) hascii).mp hpoint]
    · exact absurd (hbytes _ hpoint) (by decide)
  · exact fun h ↦ ⟨'.', h, by decide⟩

theorem utf8_eq_nil_iff {text : List Char} : utf8 text = [] ↔ text = [] := by
  rw [utf8, List.flatMap_eq_nil_iff]
  constructor
  · intro h
    by_contra hne
    obtain ⟨c, hc⟩ := List.exists_mem_of_ne_nil _ hne
    exact String.utf8EncodeChar_ne_nil (h c hc)
  · rintro rfl
    simp

theorem forall_isDigit_utf8_iff {text : List Char} :
    (∀ b ∈ utf8 text, isDigit b = true) ↔ ∀ c ∈ text, '0' ≤ c ∧ c ≤ '9' := by
  have hdigit : ∀ b, isDigit b = true ↔ 48 ≤ b.toNat ∧ b.toNat ≤ 57 := by
    intro b
    simp only [isDigit, Bool.and_eq_true, decide_eq_true_eq, UInt8.le_iff_toNat_le]
    rfl
  have hchar : ∀ c : Char, '0' ≤ c ∧ c ≤ '9' ↔ 48 ≤ c.toNat ∧ c.toNat ≤ 57 := fun c ↦ Iff.rfl
  rw [forall_mem_utf8_iff fun b hb ↦ by have := (hdigit b).mp hb; omega]
  refine forall₂_congr fun c _ ↦ ?_
  rw [hchar, hdigit]
  constructor
  · rintro ⟨hascii, h⟩
    rwa [toNat_toUInt8 hascii] at h
  · intro h
    have hascii : c.toNat < 128 := by omega
    rw [toNat_toUInt8 hascii]
    exact ⟨hascii, h⟩

theorem forall_zero_utf8_iff {text : List Char} :
    (∀ b ∈ utf8 text, b = zero) ↔ ∀ c ∈ text, c = '0' := by
  rw [forall_mem_utf8_iff fun b hb ↦ by rw [hb]; decide]
  refine forall₂_congr fun c _ ↦ ?_
  constructor
  · rintro ⟨hascii, h⟩
    exact (toUInt8_eq_iff hascii (by decide)).mp h
  · rintro rfl
    exact ⟨by decide, rfl⟩

theorem digitsValue_utf8 {text : List Char} (h : ∀ c ∈ text, '0' ≤ c ∧ c ≤ '9') :
    numeral (utf8 text) = KalshiParser.digitsValue text := by
  rw [numeral, zero, ← CharConv.digitsValue_eq_ofDigits]
  induction text using List.reverseRecOn with
  | nil => rfl
  | append_singleton text c ih =>
    obtain ⟨hlow, hhigh⟩ := h c (by simp)
    have hnat : 48 ≤ c.toNat ∧ c.toNat ≤ 57 := ⟨hlow, hhigh⟩
    have hascii : c.toNat < 128 := by omega
    have hencode : String.utf8EncodeChar c = [c.toUInt8] :=
      (utf8EncodeChar_cases c).elim And.right fun hlarge ↦ absurd hlarge.1 (not_le.mpr hascii)
    have hdigit : (c.toUInt8 - '0'.toUInt8).toNat = c.toNat - '0'.toNat := by
      have hle : '0'.toUInt8 ≤ c.toUInt8 := by
        rw [UInt8.le_iff_toNat_le, toNat_toUInt8 hascii]
        exact hnat.1
      rw [UInt8.toNat_sub_of_le _ _ hle, toNat_toUInt8 hascii]
      rfl
    have hutf8 : utf8 (text ++ [c]) = utf8 text ++ [c.toUInt8] := by
      rw [utf8, List.flatMap_append, List.flatMap_singleton, hencode, ← utf8]
    rw [hutf8, CharConv.digitsValue, List.foldl_append, ← CharConv.digitsValue,
      ih fun d hd ↦ h d (List.mem_append_left _ hd), KalshiParser.digitsValue,
      KalshiParser.digitsValue, List.foldl_append, List.foldl_cons, List.foldl_nil, List.foldl_cons,
      List.foldl_nil, hdigit]

theorem utf8_parts (text : List Char) :
    intPart (utf8 text) = utf8 (text.takeWhile fun c ↦ c ≠ '.') ∧
    fracPart (utf8 text) = utf8 ((text.dropWhile fun c ↦ c ≠ '.').drop 1) := by
  have hno_point : ∀ {text : List Char}, '.' ∉ text → ∀ c ∈ text, decide (c ≠ '.') = true := by
    intro text h c hc
    rw [decide_eq_true_iff]
    rintro rfl
    exact h hc
  by_cases hpoint : '.' ∈ text
  · obtain ⟨before, after, rfl, hbefore⟩ := List.eq_append_cons_of_mem hpoint
    have hutf8 : utf8 (before ++ '.' :: after) = utf8 before ++ point :: utf8 after := by
      rw [utf8, List.flatMap_append, List.flatMap_cons]
      rfl
    rw [hutf8, List.takeWhile_append_of_pos (hno_point hbefore),
      List.dropWhile_append_of_pos (hno_point hbefore), List.takeWhile_cons_of_neg (by decide),
      List.dropWhile_cons_of_neg (by decide), List.append_nil]
    exact parts_append (mt point_mem_utf8_iff.mp hbefore) _
  · rw [List.takeWhile_eq_self_iff.mpr (hno_point hpoint),
      List.dropWhile_eq_nil_iff.mpr (hno_point hpoint)]
    exact parts_of_not_mem (mt point_mem_utf8_iff.mp hpoint)

/-- What the scans look for, in characters. -/
theorem scanned_utf8_iff {text : List Char} :
    Scanned (utf8 text) ↔ (text.takeWhile fun c ↦ c ≠ '.') ≠ [] ∧
      (∀ c ∈ text.takeWhile fun c ↦ c ≠ '.', '0' ≤ c ∧ c ≤ '9') ∧
      ∀ c ∈ (text.dropWhile fun c ↦ c ≠ '.').drop 1, c = '0' := by
  obtain ⟨hint, hfrac⟩ := utf8_parts text
  rw [← forall_isDigit_utf8_iff, ← forall_zero_utf8_iff, ← hint, ← hfrac, ne_eq, ← utf8_eq_nil_iff,
    ← hint]
  exact ⟨fun h ↦ ⟨h.ne_nil, h.digits, h.zeros⟩, fun ⟨hne, hdigits, hzeros⟩ ↦ ⟨hne, hdigits, hzeros⟩⟩

end InBytes

theorem any_char_not_digit_iff {text : List Char} :
    (text.any fun c ↦ c < '0' || c > '9') = true ↔ ¬∀ c ∈ text, '0' ≤ c ∧ c ≤ '9' := by
  simp only [List.any_eq_true, Bool.or_eq_true, decide_eq_true_eq, gt_iff_lt, not_forall,
    not_and_or, exists_prop, Char.not_le]

theorem any_char_not_zero_iff {text : List Char} :
    (text.any fun c ↦ c ≠ '0') = true ↔ ¬∀ c ∈ text, c = '0' := by
  simp only [List.any_eq_true, decide_eq_true_eq, not_forall, exists_prop, ne_eq]

/-- The parser that works on characters is the one that works on bytes. -/
theorem parseNonNegativeDecimalStringToInt64_eq_inBytes (text : String) (out : ℤ) :
    InBytes.parseNonNegativeDecimalStringToInt64 (InBytes.utf8 text.toList) out =
      match parseNonNegativeDecimalStringToInt64 text with
      | some value => (true, value)
      | none => (false, out) := by
  by_cases h : InBytes.Scanned (InBytes.utf8 text.toList)
  · obtain ⟨hne, hdigits, hzeros⟩ := InBytes.scanned_utf8_iff.mp h
    have hvalue : text.toList ≠ [] := by
      intro hnil
      rw [hnil] at hne
      exact hne rfl
    have hminus : text.toList.head? ≠ some '-' := by
      intro hhead
      obtain ⟨rest, hcons⟩ := List.head?_eq_some_iff.mp hhead
      rw [hcons, List.takeWhile_cons_of_pos (by decide)] at hdigits
      exact absurd (hdigits '-' List.mem_cons_self) (by decide)
    have hdigits' := mt any_char_not_digit_iff.mp (not_not.mpr hdigits)
    have hzeros' := mt any_char_not_zero_iff.mp (not_not.mpr hzeros)
    rw [InBytes.parse_of_scanned h, (InBytes.utf8_parts _).1, InBytes.digitsValue_utf8 hdigits,
      parseNonNegativeDecimalStringToInt64]
    simp only [if_neg hvalue, if_neg hminus, if_neg hne, if_neg hdigits', if_neg hzeros']
    by_cases hfits : digitsValue (text.toList.takeWhile fun c ↦ c ≠ '.') ≤ 2 ^ 63 - 1
    · rw [maxInt64, if_pos hfits, if_neg (not_lt.mpr hfits)]
    · rw [maxInt64, if_neg hfits, if_pos (not_le.mp hfits)]
  · rw [InBytes.parse_of_not_scanned h, parseNonNegativeDecimalStringToInt64]
    simp only
    split_ifs with hvalue hminus hne hdigits hzeros
    · rfl
    · rfl
    · rfl
    · rfl
    · rfl
    · rfl
    · -- the scans over the characters have passed
      rw [any_char_not_digit_iff, not_not] at hdigits
      rw [any_char_not_zero_iff, not_not] at hzeros
      exact absurd (InBytes.scanned_utf8_iff.mpr ⟨hne, hdigits, hzeros⟩) h

end KalshiParser

end TradingEngine
