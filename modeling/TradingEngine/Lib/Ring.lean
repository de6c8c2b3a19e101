import Mathlib.Data.List.Basic
import Mathlib.Data.Nat.Notation
import Mathlib.Tactic.Common

/-!
# Lists laid out on a ring

A ring of `capacity` slots holds a list when the items of the list are found in consecutive slots,
counted modulo the capacity. The lemmas say what a write to a slot does to the list that is held:
the slot behind the last item can be written freely, and appends an item once the list is taken to
reach that far; the slot of the first item can be written once the list is taken to start behind it.
-/

namespace Ring

variable {α : Type*} {slots : ℕ → α} {capacity start : ℕ} {items : List α} {x : α}

/-- The items are in the slots from `start` on. -/
def Holds (slots : ℕ → α) (capacity start : ℕ) (items : List α) : Prop :=
  ∀ i x, items[i]? = some x → slots ((start + i) % capacity) = x

/-- Slots that are less than a turn apart are different. -/
theorem add_mod_ne {i j : ℕ} (hij : i < j) (hj : j < i + capacity) :
    (start + i) % capacity ≠ (start + j) % capacity := by
  intro h
  have hzero : (start + j - (start + i)) % capacity = 0 := Nat.sub_mod_eq_zero_of_mod_eq h.symm
  rw [Nat.mod_eq_of_lt (by omega)] at hzero
  omega

theorem holds_nil : Holds slots capacity start [] := by
  intro i x h
  exact absurd h (by simp)

/-- The first item is in the first slot. -/
theorem Holds.head (h : Holds slots capacity start (x :: items)) : slots (start % capacity) = x :=
  h 0 x rfl

/-- The other items follow. -/
theorem Holds.tail (h : Holds slots capacity start (x :: items)) :
    Holds slots capacity (start + 1) items := by
  intro i y hi
  rw [Nat.add_assoc, Nat.add_comm 1 i]
  exact h (i + 1) y hi

/-- Where the list starts matters modulo the capacity only. -/
theorem Holds.mod (h : Holds slots capacity start items) :
    Holds slots capacity (start % capacity) items := by
  intro i x hi
  rw [Nat.mod_add_mod]
  exact h i x hi

/-- A slot that holds no item can be written. -/
theorem Holds.update (h : Holds slots capacity start items) {slot : ℕ} (y : α)
    (hslot : ∀ i < items.length, (start + i) % capacity ≠ slot) :
    Holds (Function.update slots slot y) capacity start items := by
  intro i x hi
  rw [Function.update_of_ne (hslot i (List.getElem?_eq_some_iff.mp hi).1)]
  exact h i x hi

/-- The item in the slot behind the last one can be added to the list. -/
theorem Holds.append (h : Holds slots capacity start items)
    (hx : slots ((start + items.length) % capacity) = x) :
    Holds slots capacity start (items ++ [x]) := by
  intro i y hi
  rcases Nat.lt_or_ge i items.length with hlt | hge
  · rw [List.getElem?_append_left hlt] at hi
    exact h i y hi
  · rw [List.getElem?_append_right hge, List.getElem?_singleton] at hi
    split at hi
    · obtain rfl := Option.some.inj hi
      rw [show i = items.length by omega]
      exact hx
    · exact absurd hi (by simp)

end Ring
