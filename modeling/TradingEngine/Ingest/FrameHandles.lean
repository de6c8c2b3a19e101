import Mathlib.Data.List.Count
import TradingEngine.Ingest.FramePool
import TradingEngine.Lib.Machine

/-!
# Frame handles

A client of the frame pool may hand any `FrameRef` to `release` and `frame`: one that it was lent,
one that it gave back long ago, or one that it made up. What tells them apart is the slot and the
generation. The generation of a slot counts how often the slot was taken back, and a handle that was
taken back names a generation that is over.

The count starts again at one after 2⁶⁴ - 1 releases of a slot. Up to there a handle that was
released once is dead for good, and handles that are out never share a slot.
-/

namespace TradingEngine

/-- What identifies a loan. The other fields of a `FrameRef` are notes to its reader. -/
def FrameRef.handle (ref : FrameRef) : ℕ × ℕ := (ref.slot, ref.generation)

/-- The operations of a pool, with any arguments. -/
inductive PoolCall
  | acquire (timestampNs : ℕ)
  | release (ref : FrameRef)
  | frame (ref : FrameRef)

/-- A pool beside the handles that are out, and those that were released. -/
structure TracedPool where
  pool : FramePool
  outstanding : List FrameRef := []
  released : List FrameRef := []

namespace TracedPool

/-- How often a slot was taken back. -/
def releases (t : TracedPool) (slot : ℕ) : ℕ := t.released.countP (·.slot = slot)

/-- A handle is out from the `acquire` that returned it until a `release` of it succeeds. -/
def call (t : TracedPool) : PoolCall → TracedPool
  | .acquire timestampNs =>
    match t.pool.acquire timestampNs with
    | none => t
    | some (pool, ref) => { t with pool := pool, outstanding := ref :: t.outstanding }
  | .release ref =>
    match t.pool.release ref with
    | (pool, true) =>
      { pool := pool
        outstanding := t.outstanding.filter (·.handle ≠ ref.handle)
        released := ref :: t.released }
    | (pool, false) => { t with pool := pool }
  | .frame _ => t

end TracedPool

def poolMachine : Machine TracedPool PoolCall where
  step t call := some (t.call call)

namespace TracedPool

/-- The loans, and what the generations say about them. -/
structure Sound (t : TracedPool) : Prop where
  lends : t.pool.Lends t.outstanding
  free : ∀ slot ∈ t.pool.freeSlots, t.pool.inUse slot = false
  generation : ∀ slot, t.pool.generations slot = FramePool.kInitialGeneration + t.releases slot
  released : ∀ ref ∈ t.released, ref.generation < t.pool.generations ref.slot

variable {t : TracedPool} {ref : FrameRef}

theorem sound_create {capacity : ℕ} (h : capacity < 2 ^ 32) :
    ({ pool := .create capacity } : TracedPool).Sound where
  lends := FramePool.lends_create h
  free _ _ := rfl
  generation _ := rfl
  released _ href := absurd href (by simp)

/-! ## One call -/

/-- The generation that `acquire` skips is never seen. -/
theorem Sound.skipZero_eq (h : t.Sound) (slot : ℕ) :
    FramePool.skipZero (t.pool.generations slot) = t.pool.generations slot := by
  refine if_neg ?_
  rw [h.generation slot, FramePool.kInitialGeneration]
  omega

theorem Sound.acquire (h : t.Sound) {timestampNs : ℕ} {pool : FramePool}
    (hacquire : t.pool.acquire timestampNs = some (pool, ref)) :
    ({ t with pool := pool, outstanding := ref :: t.outstanding } : TracedPool).Sound := by
  have hlends := (h.lends.acquire hacquire).1
  rw [FramePool.acquire] at hacquire
  split at hacquire
  · exact absurd hacquire (by simp)
  rename_i slot hlast
  obtain ⟨rfl, rfl⟩ := Prod.mk.inj (Option.some.inj hacquire)
  obtain ⟨free, hfree⟩ := List.getLast?_eq_some_iff.mp hlast
  have hnodup := h.lends.nodup.of_append_left
  rw [hfree] at hnodup
  -- no slot changes its generation
  have hgenerations : Function.update t.pool.generations slot
      (FramePool.skipZero (t.pool.generations slot)) = t.pool.generations := by
    rw [h.skipZero_eq, Function.update_eq_self]
  refine ⟨hlends, fun slot' hslot' ↦ ?_, fun slot' ↦ ?_, fun ref href ↦ ?_⟩
  · have hmem : slot' ∈ free := by
      simpa [hfree] using hslot'
    have hne : slot' ≠ slot := by
      rintro rfl
      exact (List.nodup_append.mp hnodup).2.2 slot' hmem slot' (List.mem_singleton_self _) rfl
    refine (Function.update_of_ne hne _ _).trans (h.free slot' ?_)
    rw [hfree]
    exact List.mem_append_left _ hmem
  · exact (congrFun hgenerations slot').trans (h.generation slot')
  · exact (h.released ref href).trans_eq (congrFun hgenerations ref.slot).symm

/-- Every slot in use is on loan. -/
theorem Sound.exists_outstanding (h : t.Sound) (hcurrent : t.pool.IsCurrent ref) :
    ∃ out ∈ t.outstanding, out.handle = ref.handle := by
  obtain ⟨hslot, hinUse, hgeneration⟩ := hcurrent
  rw [h.lends.slotCount_eq] at hslot
  have hmem := h.lends.perm.mem_iff.mpr (List.mem_range.mpr hslot)
  rcases List.mem_append.mp hmem with hfree | hlent
  · exact absurd ((h.free ref.slot hfree).symm.trans hinUse) (by simp)
  · obtain ⟨out, hout, heq⟩ := List.mem_map.mp hlent
    refine ⟨out, hout, Prod.ext heq ?_⟩
    exact (h.lends.generation out hout).trans (heq ▸ hgeneration.symm)

/-- What is out after a handle was released. -/
theorem Sound.outstanding_perm (h : t.Sound) {out : FrameRef} (hout : out ∈ t.outstanding) :
    t.outstanding.Perm (out :: t.outstanding.filter (·.handle ≠ out.handle)) := by
  obtain ⟨before, after, hsplit⟩ := List.append_of_mem hout
  have hperm : t.outstanding.Perm (out :: (before ++ after)) := by
    rw [hsplit]
    exact List.perm_middle
  have hlends := h.lends.of_perm hperm
  -- the other loans have other slots, so none of them is filtered out
  have hfilter : (before ++ after).filter (·.handle ≠ out.handle) = before ++ after := by
    refine List.filter_eq_self.mpr fun other hother ↦ ?_
    rw [decide_eq_true_iff]
    intro heq
    exact hlends.slot_ne hother (congrArg Prod.fst heq)
  have hrest := hperm.filter (·.handle ≠ out.handle)
  rw [List.filter_cons_of_neg (by simp), hfilter] at hrest
  exact hperm.trans (hrest.symm.cons out)

theorem releases_cons (t : TracedPool) (pool : FramePool) (outstanding : List FrameRef)
    (ref : FrameRef) (slot : ℕ) :
    ({ pool := pool, outstanding := outstanding, released := ref :: t.released } :
      TracedPool).releases slot = t.releases slot + if ref.slot = slot then 1 else 0 := by
  rw [releases, List.countP_cons]
  simp only [decide_eq_true_eq]
  rfl

/-- Only the handle matters to `release`. -/
theorem release_congr (pool : FramePool) {other : FrameRef} (h : other.handle = ref.handle) :
    pool.release other = pool.release ref := by
  obtain ⟨hslot, hgeneration⟩ := Prod.mk.inj h
  have hcurrent : pool.IsCurrent other ↔ pool.IsCurrent ref := by
    rw [FramePool.IsCurrent, FramePool.IsCurrent, hslot, hgeneration]
  simp only [FramePool.release, hcurrent, hslot]

theorem call_release_of_current (hcurrent : t.pool.IsCurrent ref) :
    t.call (.release ref) =
      { pool := (t.pool.release ref).1
        outstanding := t.outstanding.filter (·.handle ≠ ref.handle)
        released := ref :: t.released } := by
  simp only [call, FramePool.release, if_pos hcurrent]

theorem call_release_of_not_current (hcurrent : ¬t.pool.IsCurrent ref) :
    t.call (.release ref) = t := by
  simp only [call, FramePool.release, if_neg hcurrent]

/-- The next generation, short of 2⁶⁴ - 1 releases. -/
theorem Sound.next_generation (h : t.Sound) {slot : ℕ} (hbound : t.releases slot + 1 < 2 ^ 64 - 1) :
    FramePool.skipZero ((t.pool.generations slot + 1) % 2 ^ 64) =
      t.pool.generations slot + 1 := by
  have hgeneration := h.generation slot
  rw [FramePool.kInitialGeneration] at hgeneration
  rw [Nat.mod_eq_of_lt (by omega), FramePool.skipZero, if_neg (by omega)]

/-- **Taking back.** The generation of the handle is over, and no other one is touched. -/
theorem Sound.release (h : t.Sound) (hcurrent : t.pool.IsCurrent ref)
    (hbound : t.releases ref.slot + 1 < 2 ^ 64 - 1) : (t.call (.release ref)).Sound := by
  obtain ⟨out, hout, hhandle⟩ := h.exists_outstanding hcurrent
  have hlends := (h.lends.of_perm (h.outstanding_perm hout)).release.2.1
  rw [release_congr t.pool hhandle, hhandle] at hlends
  rw [call_release_of_current hcurrent]
  have hgenerations : (t.pool.release ref).1.generations =
      Function.update t.pool.generations ref.slot (t.pool.generations ref.slot + 1) := by
    rw [FramePool.release, if_pos hcurrent]
    exact congrArg (Function.update _ ref.slot) (h.next_generation hbound)
  refine ⟨hlends, fun slot hslot ↦ ?_, fun slot ↦ ?_, fun ref' href' ↦ ?_⟩
  · have hinUse : (t.pool.release ref).1.inUse slot =
        Function.update t.pool.inUse ref.slot false slot := by
      rw [FramePool.release, if_pos hcurrent]
    rw [hinUse]
    by_cases hsame : slot = ref.slot
    · rw [hsame, Function.update_self]
    · rw [Function.update_of_ne hsame]
      rw [FramePool.release, if_pos hcurrent] at hslot
      rcases List.mem_append.mp hslot with hfree | hnew
      · exact h.free slot hfree
      · exact absurd (List.mem_singleton.mp hnew) hsame
  · rw [releases_cons, hgenerations]
    by_cases hsame : ref.slot = slot
    · rw [if_pos hsame, ← hsame, Function.update_self, h.generation, Nat.add_assoc]
    · rw [if_neg hsame, Function.update_of_ne (Ne.symm hsame), h.generation, Nat.add_zero]
  · rw [hgenerations]
    rcases List.mem_cons.mp href' with rfl | hold
    · rw [Function.update_self, hcurrent.2.2]
      exact Nat.lt_succ_self _
    · have hover := h.released ref' hold
      by_cases hsame : ref'.slot = ref.slot
      · rw [hsame, Function.update_self]
        rw [hsame] at hover
        exact hover.trans (Nat.lt_succ_self _)
      · rwa [Function.update_of_ne hsame]

/-! ## Runs -/

theorem releases_call_le (t : TracedPool) (call : PoolCall) (slot : ℕ) :
    t.releases slot ≤ (t.call call).releases slot := by
  rcases call with timestampNs | ref | ref
  · rw [TracedPool.call]
    split
    · exact le_rfl
    · exact le_rfl
  · by_cases hcurrent : t.pool.IsCurrent ref
    · rw [call_release_of_current hcurrent, releases_cons]
      exact Nat.le_add_right _ _
    · rw [call_release_of_not_current hcurrent]
  · exact le_rfl

theorem Sound.call (h : t.Sound) {call : PoolCall}
    (hbound : ∀ slot, (t.call call).releases slot < 2 ^ 64 - 1) : (t.call call).Sound := by
  rcases call with timestampNs | ref | ref
  · rw [TracedPool.call]
    split
    · exact h
    · rename_i hacquire
      exact h.acquire hacquire
  · by_cases hcurrent : t.pool.IsCurrent ref
    · refine h.release hcurrent ?_
      have hslot := hbound ref.slot
      rwa [call_release_of_current hcurrent, releases_cons, if_pos rfl] at hslot
    · rwa [call_release_of_not_current hcurrent]
  · exact h

/-- The number of releases never falls, so a bound at the end is one all along. -/
theorem sound_of_reaches {capacity : ℕ} (hcapacity : capacity < 2 ^ 32)
    (h : poolMachine.Reaches { pool := .create capacity } t)
    (hreleases : ∀ slot, t.releases slot < 2 ^ 64 - 1) : t.Sound := by
  refine h.invariant (P := fun t ↦ (∀ slot, t.releases slot < 2 ^ 64 - 1) → t.Sound) ?_ ?_
    hreleases
  · exact fun _ ↦ sound_create hcapacity
  · intro t call t' _ hsound _ hstep hbound
    obtain rfl := Option.some.inj hstep
    refine (hsound fun slot ↦ ?_).call hbound
    exact (releases_call_le t call slot).trans_lt (hbound slot)

/-! ## Exclusive handles -/

/-- What the clients of a pool may rely on. -/
structure Exclusive (t : TracedPool) : Prop where
  nodup : t.pool.freeSlots.Nodup
  free : ∀ slot, slot ∈ t.pool.freeSlots ↔ slot < t.pool.capacity ∧ t.pool.inUse slot = false
  available : t.pool.available + (List.range t.pool.capacity).countP t.pool.inUse =
    t.pool.capacity
  acquire : ∀ timestampNs, (t.pool.acquire timestampNs).isSome ↔
    ∃ slot < t.pool.capacity, t.pool.inUse slot = false
  apart : (t.outstanding.map FrameRef.slot).Nodup
  released : ∀ ref, ref.handle ∈ t.released.map FrameRef.handle →
    t.pool.frame ref = none ∧ (t.pool.release ref).2 = false

/-- Lent slots are in use. -/
theorem Sound.inUse_of_lent (h : t.Sound) {slot : ℕ}
    (hslot : slot ∈ t.outstanding.map FrameRef.slot) : t.pool.inUse slot = true := by
  obtain ⟨ref, href, rfl⟩ := List.mem_map.mp hslot
  exact h.lends.inUse ref href

theorem Sound.mem_freeSlots (h : t.Sound) (slot : ℕ) :
    slot ∈ t.pool.freeSlots ↔ slot < t.pool.capacity ∧ t.pool.inUse slot = false := by
  rw [← List.mem_range, ← h.lends.perm.mem_iff, List.mem_append]
  refine ⟨fun hfree ↦ ⟨.inl hfree, h.free slot hfree⟩, ?_⟩
  rintro ⟨hfree | hlent, hinUse⟩
  · exact hfree
  · exact absurd (hinUse.symm.trans (h.inUse_of_lent hlent)) (by simp)

theorem Sound.countP_inUse (h : t.Sound) :
    (List.range t.pool.capacity).countP t.pool.inUse = t.outstanding.length := by
  rw [← h.lends.perm.countP_eq, List.countP_append]
  have hfree : t.pool.freeSlots.countP t.pool.inUse = 0 :=
    List.countP_eq_zero.mpr fun slot hslot ↦ by rw [h.free slot hslot]; simp
  have hlent : (t.outstanding.map FrameRef.slot).countP t.pool.inUse =
      (t.outstanding.map FrameRef.slot).length :=
    List.countP_eq_length.mpr fun slot hslot ↦ h.inUse_of_lent hslot
  rw [hfree, hlent, List.length_map, Nat.zero_add]

theorem isSome_acquire (pool : FramePool) (timestampNs : ℕ) :
    (pool.acquire timestampNs).isSome ↔ ∃ slot, slot ∈ pool.freeSlots := by
  rw [FramePool.acquire]
  split
  · rename_i hlast
    simp [List.getLast?_eq_none_iff.mp hlast]
  · rename_i slot hlast
    exact iff_of_true rfl ⟨slot, List.mem_of_getLast? hlast⟩

/-- A handle whose generation is over is dead. -/
theorem not_isCurrent_of_lt {pool : FramePool} (h : ref.generation < pool.generations ref.slot) :
    ¬pool.IsCurrent ref := fun hcurrent ↦ h.ne hcurrent.2.2

theorem Sound.exclusive (h : t.Sound) : t.Exclusive where
  nodup := h.lends.nodup.of_append_left
  free := h.mem_freeSlots
  available := by
    rw [h.countP_inUse]
    exact h.lends.available_add
  acquire timestampNs := by
    rw [isSome_acquire]
    exact exists_congr h.mem_freeSlots
  apart := h.lends.nodup.of_append_right
  released ref href := by
    obtain ⟨ref', href', hhandle⟩ := List.mem_map.mp href
    obtain ⟨hslot, hgeneration⟩ := Prod.mk.inj hhandle
    have hover := h.released ref' href'
    rw [hslot, hgeneration] at hover
    have hdead := not_isCurrent_of_lt hover
    rw [FramePool.frame, FramePool.release, if_neg hdead, if_neg hdead]
    exact ⟨rfl, rfl⟩

end TracedPool

/-- **Frame handles are exclusive and never come back to life**, whatever handles the pool is
called with. -/
theorem frame_handles_exclusive {capacity : ℕ} (hcapacity : capacity < 2 ^ 32) {t : TracedPool}
    (h : poolMachine.Reaches { pool := .create capacity } t)
    (hreleases : ∀ slot, t.releases slot < 2 ^ 64 - 1) : t.Exclusive :=
  (TracedPool.sound_of_reaches hcapacity h hreleases).exclusive

namespace FrameHandlesExample

/-- The slot is lent, taken back and lent again, with a forged and a stale handle in between. -/
def reused : List PoolCall :=
  [.acquire 10, .release { slot := 0, generation := 7 }, .release { slot := 0, generation := 1 },
    .acquire 20, .release { slot := 0, generation := 1 }, .frame { slot := 0, generation := 2 }]

end FrameHandlesExample

open FrameHandlesExample in
theorem frame_handles_exclusive_reused :
    ∃ t, poolMachine.Reaches { pool := .create 1 } t ∧
      t.outstanding.map FrameRef.handle = [(0, 2)] ∧ t.released.map FrameRef.handle = [(0, 1)] ∧
      t.Exclusive := by
  have hrun : ∃ t, poolMachine.runVia (fun _ _ ↦ True) { pool := .create 1 } reused = some t ∧
      t.outstanding.map FrameRef.handle = [(0, 2)] ∧
      t.released.map FrameRef.handle = [(0, 1)] := ⟨_, rfl, rfl, rfl⟩
  obtain ⟨t, hrun, houtstanding, hreleased⟩ := hrun
  have hreaches := Machine.reachesVia_of_runVia hrun
  refine ⟨t, hreaches, houtstanding, hreleased, frame_handles_exclusive (by decide) hreaches ?_⟩
  intro slot
  have hlength : t.released.length = 1 := by
    simpa using congrArg List.length hreleased
  exact (List.countP_le_length.trans_eq hlength).trans_lt (by decide)

end TradingEngine
