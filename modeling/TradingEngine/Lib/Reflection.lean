import Mathlib.Algebra.BigOperators.Group.List.Basic
import Mathlib.Algebra.Order.Group.Basic
import Mathlib.Algebra.Order.Monoid.Unbundled.MinMax
import Mathlib.Data.List.Induction
import Mathlib.Order.Bounds.Basic

/-!
# Sums that are reflected at zero

A stock that is added to and taken from, and that stands at zero whenever more is taken than there
is, is not the sum of its moves. It is the greatest of the plain sum and of the sums of the last
moves (`isGreatest_reflect`), since what is taken in vain is forgotten, and it is the plain sum
exactly when the stock was never overdrawn (`reflect_eq_sum_iff`).
-/

namespace Reflection

variable {G : Type*} [AddCommGroup G] [LinearOrder G]

/-- The stock after some moves. -/
def reflect (stock : G) (moves : List G) : G :=
  moves.foldl (fun stock move ↦ max 0 (stock + move)) stock

@[simp] theorem reflect_nil (stock : G) : reflect stock [] = stock := rfl

theorem reflect_append (stock : G) (moves more : List G) :
    reflect stock (moves ++ more) = reflect (reflect stock moves) more := List.foldl_append

theorem reflect_concat (stock : G) (moves : List G) (move : G) :
    reflect stock (moves ++ [move]) = max 0 (reflect stock moves + move) :=
  reflect_append stock moves [move]

variable [IsOrderedAddMonoid G]

/-- **The greatest of the last sums.** -/
theorem isGreatest_reflect {stock : G} (h : 0 ≤ stock) (moves : List G) :
    IsGreatest ({stock + moves.sum} ∪ {total | ∃ last, last <:+ moves ∧ last.sum = total})
      (reflect stock moves) := by
  induction moves using List.reverseRecOn with
  | nil =>
    refine ⟨.inl (by simp), ?_⟩
    rintro total (rfl | ⟨last, hlast, rfl⟩)
    · simp
    · obtain rfl := List.suffix_nil.mp hlast
      exact h
  | append_singleton moves move ih =>
    rw [reflect_concat, List.sum_append, List.sum_singleton]
    constructor
    · -- the greatest sum so far goes on, or it has come down to the sum of no moves
      rcases max_choice 0 (reflect stock moves + move) with hzero | hsum
      · rw [hzero]
        exact .inr ⟨[], List.nil_suffix, rfl⟩
      · rw [hsum]
        rcases ih.1 with hplain | ⟨last, hlast, htotal⟩
        · refine .inl ?_
          rw [Set.mem_singleton_iff] at hplain ⊢
          rw [hplain, add_assoc]
        · refine .inr ⟨last ++ [move], ?_, ?_⟩
          · exact List.suffix_concat_iff.mpr (.inr ⟨last, rfl, hlast⟩)
          · rw [List.sum_append, List.sum_singleton, htotal]
    · rintro total (rfl | ⟨last, hlast, rfl⟩)
      · rw [← add_assoc]
        exact le_max_of_le_right (add_le_add_left (ih.2 (.inl rfl)) move)
      · rcases List.suffix_concat_iff.mp hlast with rfl | ⟨init, rfl, hinit⟩
        · exact le_max_left _ _
        · rw [List.sum_append, List.sum_singleton]
          exact le_max_of_le_right (add_le_add_left (ih.2 (.inr ⟨init, hinit, rfl⟩)) move)

theorem sum_le_reflect (stock : G) (moves : List G) : stock + moves.sum ≤ reflect stock moves := by
  induction moves using List.reverseRecOn with
  | nil => simp
  | append_singleton moves move ih =>
    rw [reflect_concat, List.sum_append, List.sum_singleton, ← add_assoc]
    exact le_max_of_le_right (add_le_add_left ih move)

/-- **The plain sum**, exactly when the stock is never overdrawn. -/
theorem reflect_eq_sum_iff {stock : G} (h : 0 ≤ stock) (moves : List G) :
    reflect stock moves = stock + moves.sum ↔
      ∀ first, first <+: moves → 0 ≤ stock + first.sum := by
  induction moves using List.reverseRecOn with
  | nil =>
    refine iff_of_true (by simp) fun first hfirst ↦ ?_
    obtain rfl := List.prefix_nil.mp hfirst
    simpa using h
  | append_singleton moves move ih =>
    rw [reflect_concat, List.sum_append, List.sum_singleton, ← add_assoc]
    constructor
    · -- a stock that ends where the plain sum does was the plain sum before
      intro heq first hfirst
      have hle : reflect stock moves + move ≤ stock + moves.sum + move :=
        heq ▸ le_max_right _ _
      have hbefore : reflect stock moves = stock + moves.sum :=
        le_antisymm (le_of_add_le_add_right hle) (sum_le_reflect stock moves)
      rcases List.prefix_concat_iff.mp hfirst with rfl | hfirst
      · rw [List.sum_append, List.sum_singleton, ← add_assoc, ← heq]
        exact le_max_left _ _
      · exact ih.mp hbefore first hfirst
    · intro hnever
      have hbefore := ih.mpr fun first hfirst ↦ hnever first (hfirst.trans (List.prefix_append _ _))
      have hlast := hnever _ List.prefix_rfl
      rw [List.sum_append, List.sum_singleton, ← add_assoc] at hlast
      rw [hbefore]
      exact max_eq_right hlast

end Reflection
