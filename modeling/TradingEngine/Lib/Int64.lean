import Mathlib.Algebra.Order.Group.Abs
import Mathlib.Algebra.Order.Group.Int
import TradingEngine.Lib.Json

/-!
# Exact and 64-bit arithmetic

A rule that adds quantities and takes absolute values can be read over the integers, or as a machine
computes it: in two's complement, where a sum wraps around and the least number is its own absolute
value. An `Arithmetic` is one of the two readings.

The lemmas are about one comparison with a limit that is not negative: what the machine sees of a
sum, of an absolute value, and of a total from which one absolute value is taken and to which
another is added, and when it comes to another answer than the integers do.
-/

open Json (wrapInt64 IsInt64)

/-- The operations a rule is written with. -/
structure Arithmetic where
  add : ℤ → ℤ → ℤ
  sub : ℤ → ℤ → ℤ
  neg : ℤ → ℤ
  abs : ℤ → ℤ
  /-- One more, for an unsigned count. -/
  increment : ℕ → ℕ

namespace Arithmetic

def exact : Arithmetic where
  add a b := a + b
  sub a b := a - b
  neg a := -a
  abs a := |a|
  increment n := n + 1

def int64 : Arithmetic where
  add a b := wrapInt64 (a + b)
  sub a b := wrapInt64 (a - b)
  neg a := wrapInt64 (-a)
  abs a := if a < 0 then wrapInt64 (-a) else a
  increment n := (n + 1) % 2 ^ 64

/-! ## Three comparisons with a limit -/

/-- A sum that is too large looks negative. -/
def SumMisjudged (sum : ℤ) : Prop := 2 ^ 63 ≤ sum

/-- An absolute value that is too large looks like its distance from 2⁶⁴, which may be within the
limit, or like a negative number. -/
def AbsMisjudged (limit sum : ℤ) : Prop :=
  |sum| = 2 ^ 63 ∨ 2 ^ 63 < |sum| ∧ 2 ^ 64 ≤ limit + |sum|

/-- The total with the absolute value of `part` replaced by that of `sum`. If the latter is too
large, it looks like its negation. -/
def TotalMisjudged (limit total part sum : ℤ) : Prop :=
  (|sum| ≤ 2 ^ 63 ∧
    (2 ^ 63 ≤ total - |part| + |sum| ∨
      total - |part| + |sum| < -2 ^ 63 ∧ limit < total - |part| + |sum| + 2 ^ 64)) ∨
  (2 ^ 63 < |sum| ∧
    ¬(limit < total - |part| + |sum| ↔
      (limit < total - |part| - |sum| + 2 ^ 64 ∧ total - |part| - |sum| + 2 ^ 64 < 2 ^ 63) ∨
      (limit < total - |part| - |sum| + 2 ^ 65 ∧ total - |part| - |sum| + 2 ^ 65 < 2 ^ 63)))

@[simp] theorem exact_add (a b : ℤ) : exact.add a b = a + b := rfl

@[simp] theorem exact_sub (a b : ℤ) : exact.sub a b = a - b := rfl

@[simp] theorem exact_neg (a : ℤ) : exact.neg a = -a := rfl

@[simp] theorem exact_abs (a : ℤ) : exact.abs a = |a| := rfl

@[simp] theorem exact_increment (n : ℕ) : exact.increment n = n + 1 := rfl

variable {limit value a b total : ℤ}

/-! ## Results that fit -/

theorem int64_add_of_isInt64 (h : IsInt64 (a + b)) : int64.add a b = exact.add a b :=
  Json.wrapInt64_of_isInt64 h

theorem int64_sub_of_isInt64 (h : IsInt64 (a - b)) : int64.sub a b = exact.sub a b :=
  Json.wrapInt64_of_isInt64 h

/-- A running sum may wrap on its way: its next sum is the same. -/
theorem int64_add_wrapInt64 (a b : ℤ) : int64.add (wrapInt64 a) b = wrapInt64 (a + b) := by
  simp only [int64, wrapInt64]
  omega

/-- A positive number of 64 bits can be negated. -/
theorem int64_neg_of_pos (h : IsInt64 a) (hpos : 0 < a) : int64.neg a = exact.neg a := by
  obtain ⟨_, hmax⟩ := h
  exact Json.wrapInt64_of_isInt64 ⟨by omega, by omega⟩

theorem int64_abs_of_lt (h : |a| < 2 ^ 63) : int64.abs a = exact.abs a := by
  obtain ⟨hmin, hmax⟩ := abs_lt.mp h
  rw [int64, exact_abs]
  dsimp only
  split
  · rename_i hneg
    rw [abs_of_neg hneg, Json.wrapInt64_of_isInt64 ⟨by omega, by omega⟩]
  · rename_i hnonneg
    exact (abs_of_nonneg (not_lt.mp hnonneg)).symm

/-! ## What a comparison sees -/

/-- The number with the same pattern that is in range, as a comparison sees it. -/
theorem lt_wrapInt64_iff (hlimit : 0 ≤ limit) (hlow : -2 ^ 65 ≤ value) (hhigh : value < 2 ^ 64) :
    limit < wrapInt64 value ↔
      (limit < value ∧ value < 2 ^ 63) ∨ (limit < value + 2 ^ 64 ∧ value + 2 ^ 64 < 2 ^ 63) ∨
      (limit < value + 2 ^ 65 ∧ value + 2 ^ 65 < 2 ^ 63) := by
  rw [wrapInt64]
  omega

/-- **A sum** with a number that is not negative. -/
theorem lt_add_iff (hlimit : 0 ≤ limit) (hfits : limit < 2 ^ 63) (ha : IsInt64 a) (hb : 0 ≤ b)
    (hb' : b < 2 ^ 63) :
    (limit < int64.add a b ↔ limit < exact.add a b) ↔ ¬SumMisjudged (a + b) := by
  obtain ⟨hmin, hmax⟩ := ha
  change (limit < wrapInt64 (a + b) ↔ limit < a + b) ↔ _
  rw [lt_wrapInt64_iff hlimit (by omega) (by omega), SumMisjudged]
  omega

/-- The absolute value of a sum, as the machine sees it. -/
theorem abs_int64_add (ha : IsInt64 a) (hb : |b| < 2 ^ 63) :
    int64.abs (int64.add a b) =
      if |a + b| < 2 ^ 63 then |a + b| else if |a + b| = 2 ^ 63 then -2 ^ 63
      else 2 ^ 64 - |a + b| := by
  obtain ⟨hmin, hmax⟩ := ha
  obtain ⟨hbmin, hbmax⟩ := abs_lt.mp hb
  rw [int64]
  dsimp only [wrapInt64]
  rcases lt_or_ge (a + b) 0 with hneg | hnonneg
  · rw [abs_of_neg hneg]
    split_ifs <;> omega
  · rw [abs_of_nonneg hnonneg]
    split_ifs <;> omega

/-- **An absolute value.** -/
theorem lt_abs_add_iff (hlimit : 0 ≤ limit) (hfits : limit < 2 ^ 63) (ha : IsInt64 a)
    (hb : |b| < 2 ^ 63) :
    (limit < int64.abs (int64.add a b) ↔ limit < exact.abs (exact.add a b)) ↔
      ¬AbsMisjudged limit (a + b) := by
  rw [abs_int64_add ha hb, AbsMisjudged, exact_abs, exact_add]
  split_ifs <;> omega

/-- The total, as the machine sees it. -/
theorem total_int64 (ha : IsInt64 a) (hb : |b| < 2 ^ 63) :
    int64.add (int64.sub total (int64.abs a)) (int64.abs (int64.add a b)) =
      if |a + b| ≤ 2 ^ 63 then wrapInt64 (total - |a| + |a + b|)
      else wrapInt64 (total - |a| - |a + b|) := by
  -- up to a multiple of 2⁶⁴ the machine has the absolute value of the part
  have habs : ∀ x : ℤ, wrapInt64 (total - int64.abs a + x) = wrapInt64 (total - |a| + x) := by
    intro x
    rw [int64]
    simp only [wrapInt64]
    rcases lt_or_ge a 0 with hneg | hnonneg
    · rw [if_pos hneg, abs_of_neg hneg]
      omega
    · rw [if_neg (not_lt.mpr hnonneg), abs_of_nonneg hnonneg]
  rw [abs_int64_add ha hb]
  change int64.add (wrapInt64 (total - int64.abs a)) _ = _
  rw [int64_add_wrapInt64, habs]
  simp only [wrapInt64]
  split_ifs <;> omega

/-- **A total.** -/
theorem lt_total_iff (hlimit : 0 ≤ limit) (hfits : limit < 2 ^ 63) (htotal : IsInt64 total)
    (ha : IsInt64 a) (hb : |b| < 2 ^ 63) :
    (limit < int64.add (int64.sub total (int64.abs a)) (int64.abs (int64.add a b)) ↔
      limit < exact.add (exact.sub total (exact.abs a)) (exact.abs (exact.add a b))) ↔
      ¬TotalMisjudged limit total a (a + b) := by
  obtain ⟨htmin, htmax⟩ := htotal
  have hmax : |a| ≤ 2 ^ 63 := abs_le.mpr ⟨ha.1, ha.2.le⟩
  have hsum : |a + b| ≤ |a| + |b| := abs_add_le a b
  have hmin := abs_nonneg a
  have hsmin := abs_nonneg (a + b)
  rw [total_int64 ha hb, TotalMisjudged, exact_add, exact_sub, exact_abs, exact_abs, exact_add]
  split
  · rw [lt_wrapInt64_iff hlimit (by omega) (by omega)]
    omega
  · rw [lt_wrapInt64_iff hlimit (by omega) (by omega)]
    omega

end Arithmetic
