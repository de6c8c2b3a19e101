import Mathlib.Algebra.BigOperators.Group.Finset.Piecewise
import Mathlib.Data.List.Nodup

/-!
# Streams that lose elements

A stage that may drop what it is given, but neither reorders nor invents anything, turns a list into
a sublist of it, and the losses can be counted. `Thinned all kept lost` says so. Each element that
comes in is kept or lost (`keep`, `lose`); stages compose (`trans`). Where the elements are
different from each other, what is kept can be read off the elements (`eq_filter_of_sublist`). A
stage that sorts its elements into bins loses none (`length_eq_sum_countP`).
-/

/-- `kept` is what is left of `all` after the loss of `lost` elements. -/
structure Thinned {α : Type*} (all kept : List α) (lost : ℕ) : Prop where
  sublist : kept.Sublist all
  length_eq : all.length = kept.length + lost

namespace Thinned

variable {α : Type*} {all kept : List α} {lost : ℕ}

theorem nil : Thinned ([] : List α) [] 0 := ⟨List.Sublist.refl _, rfl⟩

theorem keep (h : Thinned all kept lost) (a : α) : Thinned (all ++ [a]) (kept ++ [a]) lost where
  sublist := h.sublist.append (List.Sublist.refl _)
  length_eq := by
    rw [List.length_append, List.length_append, h.length_eq]
    omega

theorem lose (h : Thinned all kept lost) (a : α) : Thinned (all ++ [a]) kept (lost + 1) where
  sublist := h.sublist.trans (List.sublist_append_left _ _)
  length_eq := by
    rw [List.length_append, h.length_eq]
    rfl

theorem trans {rest : List α} {lost' : ℕ} (h : Thinned all kept lost)
    (h' : Thinned kept rest lost') : Thinned all rest (lost + lost') where
  sublist := h'.sublist.trans h.sublist
  length_eq := by
    rw [h.length_eq, h'.length_eq]
    omega

/-- A sublist of a list without duplicates is what is left when everything else is taken out. -/
theorem eq_filter_of_sublist {α : Type*} [DecidableEq α] {all kept : List α}
    (h : kept.Sublist all) (hnodup : all.Nodup) : kept = all.filter (· ∈ kept) := by
  induction h with
  | slnil => rfl
  | cons a hrest ih =>
    obtain ⟨hfresh, hnodup⟩ := List.nodup_cons.mp hnodup
    have hlost : a ∉ _ := fun hkept ↦ hfresh (hrest.subset hkept)
    rw [List.filter_cons_of_neg (by simpa using hlost)]
    exact ih hnodup
  | @cons_cons kept all a hrest ih =>
    obtain ⟨hfresh, hnodup⟩ := List.nodup_cons.mp hnodup
    rw [List.filter_cons_of_pos (by simp)]
    have hsame : all.filter (· ∈ a :: kept) = all.filter (· ∈ kept) := by
      refine List.filter_congr fun b hb ↦ ?_
      have hne : b ≠ a := fun heq ↦ hfresh (heq ▸ hb)
      simp [hne]
    rw [hsame, ← ih hnodup]

/-- Elements that are sorted into `n` bins are all in some bin. -/
theorem length_eq_sum_countP (bin : α → ℕ) {n : ℕ} :
    ∀ {items : List α}, (∀ a ∈ items, bin a < n) →
      items.length = ∑ i ∈ Finset.range n, items.countP (bin · = i) := by
  intro items
  induction items with
  | nil => intro _; simp
  | cons a items ih =>
    intro h
    have hbin : bin a ∈ Finset.range n := Finset.mem_range.mpr (h a List.mem_cons_self)
    have hsum : ∑ i ∈ Finset.range n, (items.countP (bin · = i) + if bin a = i then 1 else 0) =
        items.length + 1 := by
      rw [Finset.sum_add_distrib, ← ih fun b hb ↦ h b (List.mem_cons_of_mem _ hb),
        Finset.sum_ite_eq, if_pos hbin]
    rw [List.length_cons, ← hsum]
    refine Finset.sum_congr rfl fun i _ ↦ ?_
    rw [List.countP_cons]
    simp only [decide_eq_true_eq]

end Thinned
