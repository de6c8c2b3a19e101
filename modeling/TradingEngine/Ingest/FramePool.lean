import Mathlib.Algebra.Group.Nat.Defs
import Mathlib.Data.List.Nodup
import Mathlib.Data.List.Perm.Basic
import Mathlib.Data.List.Range
import Mathlib.Logic.Function.Basic
import TradingEngine.Internal.Frames

/-!
# The frame pool

A fixed number of frames, lent out one at a time. A `FrameRef` is a loan: it names a slot and the
generation of the slot at the time it was lent, and is good until the slot is released, which starts
the next generation. Every operation runs under the mutex of the pool, so it is one step here.

`frame` hands out a pointer, which is the number of the slot in this model; reads and writes through
it happen later and outside the mutex.

## Loans

`Lends` says which loans are out. Free slots and lent slots together are all the slots there are,
each once. That is what makes a slot that is written through a loan different from every other slot
that someone may be reading.
-/

namespace TradingEngine

structure FramePool where
  /-- The number of frames. -/
  capacity : ℕ
  /-- The capacity as an unsigned 32-bit number, which is what slots are compared with. -/
  slotCount : ℕ
  slots : ℕ → RawFrame
  generations : ℕ → ℕ
  inUse : ℕ → Bool
  /-- The free slots; the last one is the next to be lent. -/
  freeSlots : List ℕ

namespace FramePool

def kPayloadSizeUnset : ℕ := 0

def kInitialGeneration : ℕ := 1

/-- The first `slotCount` entries of the free list are counted down, and the others stay zero. -/
def create (capacity : ℕ) : FramePool where
  capacity := capacity
  slotCount := capacity % 2 ^ 32
  slots _ := {}
  generations _ := kInitialGeneration
  inUse _ := false
  freeSlots := (List.range capacity).map fun i ↦
    if i < capacity % 2 ^ 32 then capacity % 2 ^ 32 - i - 1 else 0

/-- Generation zero is skipped. -/
def skipZero (generation : ℕ) : ℕ := if generation = 0 then kInitialGeneration else generation

/-- Lend the last free slot, with an empty frame in it. -/
def acquire (pool : FramePool) (timestampNs : ℕ) : Option (FramePool × FrameRef) :=
  match pool.freeSlots.getLast? with
  | none => none
  | some slot =>
    let generation := skipZero (pool.generations slot)
    some ({ pool with
        freeSlots := pool.freeSlots.dropLast
        inUse := Function.update pool.inUse slot true
        slots := Function.update pool.slots slot {}
        generations := Function.update pool.generations slot generation },
      { slot := slot
        generation := generation
        payloadSize := kPayloadSizeUnset
        recvTimestampNs := timestampNs
        monoTimestampNs := timestampNs })

/-- The slot is in use and still in the generation of the loan. -/
def IsCurrent (pool : FramePool) (ref : FrameRef) : Prop :=
  ref.slot < pool.slotCount ∧ pool.inUse ref.slot = true ∧
    ref.generation = pool.generations ref.slot

instance (pool : FramePool) (ref : FrameRef) : Decidable (pool.IsCurrent ref) :=
  inferInstanceAs (Decidable (_ ∧ _))

/-- Take a slot back and start its next generation, counted modulo 2⁶⁴. -/
def release (pool : FramePool) (ref : FrameRef) : FramePool × Bool :=
  if pool.IsCurrent ref then
    ({ pool with
        inUse := Function.update pool.inUse ref.slot false
        generations := Function.update pool.generations ref.slot
          (skipZero ((pool.generations ref.slot + 1) % 2 ^ 64))
        freeSlots := pool.freeSlots ++ [ref.slot] }, true)
  else (pool, false)

/-- The slot that a loan gives access to. -/
def frame (pool : FramePool) (ref : FrameRef) : Option ℕ :=
  if pool.IsCurrent ref then some ref.slot else none

def available (pool : FramePool) : ℕ := pool.freeSlots.length

/-- Write to a frame through a pointer. -/
def modifySlot (pool : FramePool) (slot : ℕ) (f : RawFrame → RawFrame) : FramePool :=
  { pool with slots := Function.update pool.slots slot (f (pool.slots slot)) }

/-! ## Loans -/

/-- The loans that are out. -/
structure Lends (pool : FramePool) (refs : List FrameRef) : Prop where
  slotCount_eq : pool.slotCount = pool.capacity
  perm : (pool.freeSlots ++ refs.map FrameRef.slot).Perm (List.range pool.capacity)
  inUse : ∀ ref ∈ refs, pool.inUse ref.slot = true
  generation : ∀ ref ∈ refs, ref.generation = pool.generations ref.slot

variable {pool : FramePool} {refs rest : List FrameRef} {ref other : FrameRef}

/-- A pool whose capacity fits in 32 bits starts with every slot free. -/
theorem lends_create {capacity : ℕ} (h : capacity < 2 ^ 32) : (create capacity).Lends [] where
  slotCount_eq := Nat.mod_eq_of_lt h
  perm := by
    have hcount : (create capacity).freeSlots =
        (List.range capacity).map (0 + capacity - 1 - ·) := by
      refine List.map_congr_left fun i hi ↦ ?_
      rw [Nat.mod_eq_of_lt h, if_pos (List.mem_range.mp hi)]
      omega
    rw [hcount, List.map_nil, List.append_nil, ← List.reverse_range', ← List.range_eq_range']
    exact List.reverse_perm _
  inUse ref h := absurd h (by simp)
  generation ref h := absurd h (by simp)

/-- Free slots and loans add up to the capacity. -/
theorem Lends.available_add (h : pool.Lends refs) :
    pool.available + refs.length = pool.capacity := by
  have hlength := h.perm.length_eq
  rwa [List.length_append, List.length_map, List.length_range] at hlength

theorem Lends.nodup (h : pool.Lends refs) :
    (pool.freeSlots ++ refs.map FrameRef.slot).Nodup :=
  h.perm.nodup_iff.mpr List.nodup_range

/-- **A loan is good.** -/
theorem Lends.isCurrent (h : pool.Lends refs) (href : ref ∈ refs) : pool.IsCurrent ref := by
  have hslot : ref.slot ∈ pool.freeSlots ++ refs.map FrameRef.slot :=
    List.mem_append_right _ (List.mem_map_of_mem href)
  refine ⟨?_, h.inUse ref href, h.generation ref href⟩
  rw [h.slotCount_eq]
  exact List.mem_range.mp (h.perm.mem_iff.mp hslot)

theorem Lends.frame_eq (h : pool.Lends refs) (href : ref ∈ refs) :
    pool.frame ref = some ref.slot := by
  rw [frame, if_pos (h.isCurrent href)]

theorem Lends.of_perm (h : pool.Lends refs) (hperm : refs.Perm rest) : pool.Lends rest where
  slotCount_eq := h.slotCount_eq
  perm := ((hperm.map _).symm.append_left _).trans h.perm
  inUse ref href := h.inUse ref (hperm.mem_iff.mpr href)
  generation ref href := h.generation ref (hperm.mem_iff.mpr href)

/-- Two loans have different slots. -/
theorem Lends.slot_ne (h : pool.Lends (ref :: rest)) (hother : other ∈ rest) :
    other.slot ≠ ref.slot := by
  have hnodup : (ref.slot :: rest.map FrameRef.slot).Nodup := h.nodup.of_append_right
  intro heq
  exact (List.nodup_cons.mp hnodup).1 (heq ▸ List.mem_map_of_mem hother)

/-- **Lending.** The frame is empty, and the frames on loan are as they were. -/
theorem Lends.acquire {timestampNs : ℕ} {pool' : FramePool} (h : pool.Lends refs)
    (hacquire : pool.acquire timestampNs = some (pool', ref)) :
    pool'.Lends (ref :: refs) ∧ pool'.capacity = pool.capacity ∧
      ∀ other ∈ refs, pool'.slots other.slot = pool.slots other.slot := by
  rw [FramePool.acquire] at hacquire
  split at hacquire
  · exact absurd hacquire (by simp)
  rename_i slot hlast
  obtain ⟨rfl, rfl⟩ := Prod.mk.inj (Option.some.inj hacquire)
  obtain ⟨free, hfree⟩ := List.getLast?_eq_some_iff.mp hlast
  -- the slot is among the free ones, so no loan has it
  have hapart : ∀ other ∈ refs, other.slot ≠ slot := by
    intro other hother heq
    refine List.disjoint_of_nodup_append h.nodup ?_ (List.mem_map_of_mem hother)
    rw [hfree, heq]
    exact List.mem_append_right _ (List.mem_singleton_self _)
  refine ⟨⟨h.slotCount_eq, ?_, ?_, ?_⟩, rfl, ?_⟩
  · have hperm := h.perm
    rw [hfree, List.append_assoc] at hperm
    dsimp only
    rw [hfree, List.dropLast_concat]
    exact hperm
  · rintro other (_ | ⟨_, hother⟩)
    · exact Function.update_self ..
    · exact (Function.update_of_ne (hapart other hother) _ _).trans (h.inUse other hother)
  · rintro other (_ | ⟨_, hother⟩)
    · exact (Function.update_self slot _ pool.generations).symm
    · exact (h.generation other hother).trans
        (Function.update_of_ne (hapart other hother) _ _).symm
  · intro other hother
    exact Function.update_of_ne (hapart other hother) _ _

/-- **Taking back.** A loan that is out is taken back, and no frame is touched. -/
theorem Lends.release (h : pool.Lends (ref :: rest)) :
    (pool.release ref).2 = true ∧ (pool.release ref).1.Lends rest ∧
      (pool.release ref).1.slots = pool.slots ∧
      (pool.release ref).1.capacity = pool.capacity := by
  have hapart : ∀ other ∈ rest, other.slot ≠ ref.slot := fun other hother ↦ h.slot_ne hother
  rw [FramePool.release, if_pos (h.isCurrent List.mem_cons_self)]
  refine ⟨rfl, ⟨h.slotCount_eq, ?_, ?_, ?_⟩, rfl, rfl⟩
  · have hperm := h.perm
    dsimp only
    rw [List.append_assoc]
    exact hperm
  · intro other hother
    exact (Function.update_of_ne (hapart other hother) _ _).trans
      (h.inUse other (List.mem_cons_of_mem _ hother))
  · intro other hother
    exact (h.generation other (List.mem_cons_of_mem _ hother)).trans
      (Function.update_of_ne (hapart other hother) _ _).symm

/-- The payload size of a loan is a note to its reader. -/
theorem Lends.resize (h : pool.Lends (rest ++ [ref])) (payloadSize : ℕ) :
    pool.Lends (rest ++ [{ ref with payloadSize := payloadSize }]) := by
  refine ⟨h.slotCount_eq, ?_, ?_, ?_⟩
  · have hperm := h.perm
    rw [List.map_append] at hperm ⊢
    exact hperm
  · intro other hother
    rcases List.mem_append.mp hother with hrest | hlast
    · exact h.inUse other (List.mem_append_left _ hrest)
    · obtain rfl := List.mem_singleton.mp hlast
      exact h.inUse ref (List.mem_append_right _ (List.mem_singleton_self _))
  · intro other hother
    rcases List.mem_append.mp hother with hrest | hlast
    · exact h.generation other (List.mem_append_left _ hrest)
    · obtain rfl := List.mem_singleton.mp hlast
      exact h.generation ref (List.mem_append_right _ (List.mem_singleton_self _))

/-- Writing to a frame changes no loan. -/
theorem Lends.modifySlot {slot : ℕ} {f : RawFrame → RawFrame} (h : pool.Lends refs) :
    (pool.modifySlot slot f).Lends refs :=
  ⟨h.slotCount_eq, h.perm, h.inUse, h.generation⟩

/-- Writing through one loan leaves the frames of the others alone. -/
theorem Lends.modifySlot_slots {f : RawFrame → RawFrame} (h : pool.Lends (ref :: rest)) :
    ∀ other ∈ rest, (pool.modifySlot ref.slot f).slots other.slot = pool.slots other.slot :=
  fun _ hother ↦ Function.update_of_ne (h.slot_ne hother) _ _

end FramePool

end TradingEngine
