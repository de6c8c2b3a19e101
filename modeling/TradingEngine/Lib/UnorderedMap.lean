import Mathlib.Algebra.BigOperators.Group.List.Basic
import Mathlib.Algebra.GroupWithZero.Nat
import Mathlib.Algebra.Order.BigOperators.Group.List
import Mathlib.Algebra.Ring.Int.Defs
import Mathlib.Data.List.AList

/-!
# Sums over finite maps

A hash map is an association list without duplicate keys, `AList` at a constant family. Iterating
over a hash map visits the entries in an unspecified order, so what a loop may compute is a fold
that does not depend on the order: here, a sum over the entries, or what is picked from them up to
a permutation. The lemmas say how these move when one key is written, and how a sum compares with
the one that leaves one key out.
-/

/-- A hash map from `κ` to `ν`. -/
abbrev UnorderedMap (κ ν : Type*) := AList fun _ : κ ↦ ν

namespace UnorderedMap

variable {κ ν A : Type*}

/-- The sum of `f` over the entries of a map. -/
def sumOf [Zero A] [Add A] (f : κ → ν → A) (m : UnorderedMap κ ν) : A :=
  (m.entries.map fun e ↦ f e.1 e.2).sum

@[simp] theorem sumOf_empty [Zero A] [Add A] (f : κ → ν → A) :
    sumOf f (∅ : UnorderedMap κ ν) = 0 := by
  simp [sumOf]

/-- What `f` picks from the values of a map. -/
def collect {B : Type*} (f : ν → Option B) (m : UnorderedMap κ ν) : List B :=
  m.entries.filterMap fun e ↦ f e.2

theorem sumOf_add [AddCommMonoid A] (f g : κ → ν → A) (m : UnorderedMap κ ν) :
    sumOf (fun k v ↦ f k v + g k v) m = sumOf f m + sumOf g m := by
  rw [sumOf, sumOf, sumOf, List.sum_map_add]

variable [DecidableEq κ]

theorem mem_entries_iff {m : UnorderedMap κ ν} {k : κ} {v : ν} :
    (⟨k, v⟩ : Sigma fun _ : κ ↦ ν) ∈ m.entries ↔ m.lookup k = some v := by
  rw [← AList.mem_lookup_iff, Option.mem_def]

/-- What is found after a key was erased was there before, under another key. -/
theorem lookup_of_lookup_erase {m : UnorderedMap κ ν} {k k' : κ} {v : ν}
    (h : (m.erase k).lookup k' = some v) : k' ≠ k ∧ m.lookup k' = some v := by
  by_cases hk : k' = k
  · rw [hk, AList.lookup_erase] at h
    exact absurd h (by simp)
  · exact ⟨hk, (AList.lookup_erase_ne hk).symm.trans h⟩

theorem entries_erase (m : UnorderedMap κ ν) (k : κ) :
    (m.erase k).entries = m.entries.kerase k := rfl

/-- An entry can be taken out of the list of entries. -/
theorem entries_perm_of_lookup {m : UnorderedMap κ ν} {k : κ} {v : ν} (h : m.lookup k = some v) :
    m.entries.Perm (⟨k, v⟩ :: (m.erase k).entries) := by
  have hk : k ∈ m.entries.keys := AList.lookup_isSome.mp (by rw [h]; rfl)
  obtain ⟨w, l₁, l₂, _, hentries, herase⟩ := List.exists_of_kerase hk
  have hw : w = v := by
    have hmem : (⟨k, w⟩ : Sigma fun _ : κ ↦ ν) ∈ m.entries := by rw [hentries]; simp
    exact Option.some.inj ((mem_entries_iff.mp hmem).symm.trans h)
  rw [entries_erase, herase, hentries, hw]
  exact List.perm_middle

theorem entries_erase_of_lookup_none {m : UnorderedMap κ ν} {k : κ} (h : m.lookup k = none) :
    (m.erase k).entries = m.entries :=
  List.kerase_of_notMem_keys (AList.lookup_eq_none.mp h)

section Collect

variable {B : Type*} {f : ν → Option B} {m : UnorderedMap κ ν} {k : κ} {v : ν}

theorem collect_insert :
    collect f (m.insert k v) = (f v).toList ++ collect f (m.erase k) := by
  rw [collect, AList.entries_insert, List.filterMap_cons]
  cases f v with
  | none => rfl
  | some b => rfl

/-- What is picked from one entry can be put in front. -/
theorem collect_perm (h : m.lookup k = some v) :
    (collect f m).Perm ((f v).toList ++ collect f (m.erase k)) := by
  have hperm := (entries_perm_of_lookup h).filterMap fun e ↦ f e.2
  cases hv : f v with
  | none => exact hperm.trans (.of_eq (List.filterMap_cons_none hv))
  | some b => exact hperm.trans (.of_eq (List.filterMap_cons_some hv))

theorem collect_erase_of_lookup_none (h : m.lookup k = none) :
    collect f (m.erase k) = collect f m := by
  rw [collect, entries_erase_of_lookup_none h, ← collect]

theorem mem_collect {b : B} (h : m.lookup k = some v) (hb : f v = some b) : b ∈ collect f m :=
  List.mem_filterMap.mpr ⟨⟨k, v⟩, mem_entries_iff.mpr h, hb⟩

end Collect

section AddCommMonoid

variable [AddCommMonoid A]

theorem sumOf_congr {f g : κ → ν → A} {m : UnorderedMap κ ν}
    (h : ∀ k v, m.lookup k = some v → f k v = g k v) : sumOf f m = sumOf g m := by
  rw [sumOf, sumOf]
  congr 1
  refine List.map_congr_left fun e he ↦ h e.1 e.2 ?_
  exact mem_entries_iff.mp he

theorem sumOf_insert (f : κ → ν → A) (m : UnorderedMap κ ν) (k : κ) (v : ν) :
    sumOf f (m.insert k v) = f k v + sumOf f (m.erase k) := by
  simp [sumOf, entries_erase]

theorem sumOf_erase_of_lookup_none (f : κ → ν → A) {m : UnorderedMap κ ν} {k : κ}
    (h : m.lookup k = none) : sumOf f (m.erase k) = sumOf f m := by
  rw [sumOf, entries_erase_of_lookup_none h, ← sumOf]

/-- Taking one entry out of a sum. -/
theorem sumOf_eq_add_erase (f : κ → ν → A) {m : UnorderedMap κ ν} {k : κ} {v : ν}
    (h : m.lookup k = some v) : sumOf f m = f k v + sumOf f (m.erase k) := by
  have hsum := ((entries_perm_of_lookup h).map fun e ↦ f e.1 e.2).sum_eq
  rwa [List.map_cons, List.sum_cons] at hsum

theorem sumOf_insert_of_lookup_none (f : κ → ν → A) {m : UnorderedMap κ ν} {k : κ} (v : ν)
    (h : m.lookup k = none) : sumOf f (m.insert k v) = f k v + sumOf f m := by
  rw [sumOf_insert, sumOf_erase_of_lookup_none f h]

/-- Writing one key replaces the share of the entry it had. -/
theorem sumOf_insert_add (f : κ → ν → A) (m : UnorderedMap κ ν) (k : κ) (v : ν) :
    sumOf f (m.insert k v) + (m.lookup k).elim 0 (f k) = f k v + sumOf f m := by
  rw [sumOf_insert]
  cases h : m.lookup k with
  | none => rw [Option.elim_none, add_zero, sumOf_erase_of_lookup_none f h]
  | some w => rw [Option.elim_some, sumOf_eq_add_erase f h, add_assoc, add_comm (f k w)]

/-- A sum that is carried by a list of keys is the sum over that list. -/
theorem sumOf_eq_sum_map {f : κ → ν → A} {g : κ → A} {keys : List κ} (hnodup : keys.Nodup) :
    ∀ {m : UnorderedMap κ ν}, (∀ k ∈ keys, ∃ v, m.lookup k = some v ∧ f k v = g k) →
      (∀ k v, m.lookup k = some v → k ∉ keys → f k v = 0) → sumOf f m = (keys.map g).sum := by
  induction keys with
  | nil =>
    intro m _ hrest
    have hzero : sumOf f m = sumOf (fun _ _ ↦ 0) m :=
      sumOf_congr fun k v hv ↦ hrest k v hv (List.not_mem_nil)
    rw [hzero, sumOf, List.map_nil, List.sum_nil]
    exact List.sum_map_zero
  | cons k keys ih =>
    intro m hkeys hrest
    obtain ⟨hk, hnodup⟩ := List.nodup_cons.mp hnodup
    obtain ⟨v, hv, hf⟩ := hkeys k List.mem_cons_self
    rw [sumOf_eq_add_erase f hv, hf, List.map_cons, List.sum_cons]
    congr 1
    refine ih hnodup (fun k' hk' ↦ ?_) fun k' v' hv' hk' ↦ ?_
    · obtain ⟨v', hv', hf'⟩ := hkeys k' (List.mem_cons_of_mem _ hk')
      exact ⟨v', (AList.lookup_erase_ne (ne_of_mem_of_not_mem hk' hk)).trans hv', hf'⟩
    · obtain ⟨hne, hv'⟩ := lookup_of_lookup_erase hv'
      exact hrest k' v' hv' fun hmem ↦ (List.mem_cons.mp hmem).elim hne hk'

end AddCommMonoid

section Ordered

variable [AddCommMonoid A] [PartialOrder A] [IsOrderedAddMonoid A]

theorem sumOf_le_sumOf {f g : κ → ν → A} {m : UnorderedMap κ ν}
    (h : ∀ k v, m.lookup k = some v → f k v ≤ g k v) : sumOf f m ≤ sumOf g m := by
  rw [sumOf, sumOf]
  refine List.sum_le_sum fun e he ↦ h e.1 e.2 ?_
  exact mem_entries_iff.mp he

/-- One entry is at most the sum, when no entry is negative. -/
theorem le_sumOf {f : κ → ν → A} (hf : ∀ k v, 0 ≤ f k v) {m : UnorderedMap κ ν} {k : κ} {v : ν}
    (h : m.lookup k = some v) : f k v ≤ sumOf f m := by
  rw [sumOf]
  refine List.single_le_sum ?_ _ (List.mem_map.mpr ⟨⟨k, v⟩, mem_entries_iff.mpr h, rfl⟩)
  rintro a ha
  obtain ⟨e, _, rfl⟩ := List.mem_map.mp ha
  exact hf e.1 e.2

/-- A sum is at most the value at one key plus any sum that dominates it at the other keys. -/
theorem sumOf_le_add {f g : κ → ν → A} {m : UnorderedMap κ ν} {k : κ} {b : A}
    (hb : 0 ≤ b) (hk : ∀ v, m.lookup k = some v → f k v ≤ b + g k v)
    (hne : ∀ k' v, k' ≠ k → m.lookup k' = some v → f k' v ≤ g k' v) :
    sumOf f m ≤ b + sumOf g m := by
  have herase : sumOf f (m.erase k) ≤ sumOf g (m.erase k) := by
    refine sumOf_le_sumOf fun k' v hv ↦ ?_
    obtain ⟨hk', hv⟩ := lookup_of_lookup_erase hv
    exact hne k' v hk' hv
  cases hl : m.lookup k with
  | none =>
    rw [sumOf_erase_of_lookup_none f hl, sumOf_erase_of_lookup_none g hl] at herase
    exact herase.trans (le_add_of_nonneg_left hb)
  | some v =>
    rw [sumOf_eq_add_erase f hl, sumOf_eq_add_erase g hl, ← add_assoc]
    exact add_le_add (hk v hl) herase

/-- **Domination.** A sum over one map is at most a sum over another when every entry of the first
is bounded by the entry of the second under the same key, or is not positive where there is none. -/
theorem sumOf_le_of_dominated {f g : κ → ν → A} (hg : ∀ k v, 0 ≤ g k v) (m' : UnorderedMap κ ν) :
    ∀ m : UnorderedMap κ ν,
      (∀ k v, m'.lookup k = some v → f k v ≤ (m.lookup k).elim 0 (g k)) →
      sumOf f m' ≤ sumOf g m := by
  have hnonneg : ∀ m : UnorderedMap κ ν, 0 ≤ sumOf g m := by
    intro m
    rw [sumOf]
    refine List.sum_nonneg fun a ha ↦ ?_
    obtain ⟨e, _, rfl⟩ := List.mem_map.mp ha
    exact hg e.1 e.2
  -- insert the entries of the first map one by one, and take each out of the second
  induction m' using AList.insertRec with
  | H0 =>
    intro m _
    rw [sumOf_empty]
    exact hnonneg m
  | IH k v m' hfresh ih =>
    intro m h
    have hrest : sumOf f m' ≤ sumOf g (m.erase k) := by
      refine ih (m.erase k) fun k' v' hv' ↦ ?_
      have hk' : k' ≠ k := by
        rintro rfl
        exact hfresh (AList.lookup_isSome.mp (by rw [hv']; rfl))
      rw [AList.lookup_erase_ne hk']
      exact h k' v' ((AList.lookup_insert_ne hk').trans hv')
    have hhead := h k v (AList.lookup_insert _)
    rw [sumOf_insert_of_lookup_none f v (AList.lookup_eq_none.mpr hfresh)]
    cases hl : m.lookup k with
    | none =>
      rw [hl] at hhead
      rw [sumOf_erase_of_lookup_none g hl] at hrest
      calc f k v + sumOf f m' ≤ 0 + sumOf g m := add_le_add hhead hrest
        _ = sumOf g m := zero_add _
    | some w =>
      rw [hl] at hhead
      rw [sumOf_eq_add_erase g hl]
      exact add_le_add hhead hrest

end Ordered

end UnorderedMap
