import Mathlib.Data.List.Induction
import Mathlib.Data.List.TakeWhile
import Mathlib.Data.Nat.Digits.Defs

/-!
# Unsigned numbers from bytes

`fromChars` is the conversion of the C++ standard library for an unsigned type, in base 10: it takes
the longest run of digits, and leaves the value alone when there is none or when it is too large.
The largest value of the type is a parameter.
-/

namespace CharConv

/-- How a conversion ends. `ok` is the error code that is zero. -/
inductive Errc
  | ok
  | invalidArgument
  | resultOutOfRange
  deriving DecidableEq

/-- Where a conversion stopped, as an offset into the text, and how. -/
structure FromCharsResult where
  ptr : ℕ
  ec : Errc
  deriving DecidableEq

def isDigit (c : UInt8) : Bool := '0'.toUInt8 ≤ c && c ≤ '9'.toUInt8

/-- The value of a list of digits, the most significant one first. -/
def digitsValue (digits : List UInt8) : ℕ :=
  digits.foldl (fun value digit ↦ 10 * value + (digit - '0'.toUInt8).toNat) 0

def fromChars (maxValue : ℕ) (text : List UInt8) (value : ℕ) : FromCharsResult × ℕ :=
  let digits := text.takeWhile isDigit
  if digits = [] then (⟨0, .invalidArgument⟩, value)
  else if maxValue < digitsValue digits then (⟨digits.length, .resultOutOfRange⟩, value)
  else (⟨digits.length, .ok⟩, digitsValue digits)

/-- The digits as a numeral of base 10. -/
theorem digitsValue_eq_ofDigits (digits : List UInt8) :
    digitsValue digits =
      Nat.ofDigits 10 (digits.reverse.map fun digit ↦ (digit - '0'.toUInt8).toNat) := by
  induction digits using List.reverseRecOn with
  | nil => rfl
  | append_singleton digits digit ih =>
    rw [digitsValue, List.foldl_append, List.foldl_cons, List.foldl_nil, ← digitsValue, ih,
      List.reverse_append, List.reverse_singleton, List.singleton_append, List.map_cons,
      Nat.ofDigits_cons]
    exact Nat.add_comm _ _

/-- On a text of digits only the conversion reads to the end, and fails only for the range. -/
theorem fromChars_of_all_isDigit {maxValue : ℕ} {text : List UInt8} {value : ℕ} (hne : text ≠ [])
    (h : ∀ c ∈ text, isDigit c = true) :
    fromChars maxValue text value =
      if maxValue < digitsValue text then (⟨text.length, .resultOutOfRange⟩, value)
      else (⟨text.length, .ok⟩, digitsValue text) := by
  have hall : text.takeWhile isDigit = text := List.takeWhile_eq_self_iff.mpr h
  simp only [fromChars, hall, if_neg hne]

end CharConv
