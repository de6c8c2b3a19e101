import TradingEngine.Lib.Machine
import TradingEngine.Lib.Ring

/-!
# Single-producer single-consumer ring queues

`SpscFrameQueue` and `SpscRoutedEventQueue` are the same algorithm on different items. The producer
owns `head`, the consumer owns `tail`, and one slot is always left empty, so that equal indices mean
an empty queue and adjacent ones a full queue. A push loads both indices, writes a slot and stores
the new head; a pop loads both indices, reads a slot and stores the new tail. Each of these accesses
is a step of its own here, and the two sides may be interleaved between any two of them.

The queues differ in how a slot is read: frames are copied, routed events are moved out of the
slot. `leave` is what a read leaves behind.

## The invariant

`Inv` relates a queue to the list of items that are published and not yet consumed. Each side acts
on a copy of the other's index that may be stale, but only to its disadvantage: a producer that has
seen room still has room when it writes, since the consumer can only make more of it, and a consumer
that has seen an item still finds it.
-/

namespace TradingEngine

/-- What a step of a call leads to. -/
inductive Progress (Call Result : Type*)
  | running (call : Call)
  | returned (result : Result)

/-- A `try_push` between two of its accesses. -/
inductive PushCall (α : Type*)
  | loadHead (value : α)
  | loadTail (value : α) (head : ℕ)
  | writeSlot (value : α) (head : ℕ)
  | storeHead (value : α) (head : ℕ)

/-- A `try_pop` between two of its accesses. -/
inductive PopCall (α : Type*)
  | loadTail
  | loadHead (tail : ℕ)
  | readSlot (tail : ℕ)
  | storeTail (tail : ℕ) (value : α)

namespace PushCall

variable {α : Type*}

def value : PushCall α → α
  | .loadHead value | .loadTail value _ | .writeSlot value _ | .storeHead value _ => value

/-- How many accesses are done. -/
def stage : PushCall α → ℕ
  | .loadHead _ => 0
  | .loadTail _ _ => 1
  | .writeSlot _ _ => 2
  | .storeHead _ _ => 3

theorem stage_lt (call : PushCall α) : call.stage < 4 := by
  rcases call with _ | _ | _ | _ <;> rw [stage] <;> decide

end PushCall

/-- How many accesses are done. -/
def PopCall.stage {α : Type*} : PopCall α → ℕ
  | .loadTail => 0
  | .loadHead _ => 1
  | .readSlot _ => 2
  | .storeTail _ _ => 3

theorem PopCall.stage_lt {α : Type*} (call : PopCall α) : call.stage < 4 := by
  rcases call with _ | _ | _ | _ <;> rw [stage] <;> decide

structure SpscQueue (α : Type*) where
  capacity : ℕ
  slots : ℕ → α
  head : ℕ := 0
  tail : ℕ := 0

namespace SpscQueue

variable {α : Type*}

def kMinCapacity : ℕ := 2

/-- An empty queue; the slots start out with some value of their type. -/
def create (capacity : ℕ) (initial : α) : SpscQueue α where
  capacity := if capacity < kMinCapacity then kMinCapacity else capacity
  slots _ := initial

def increment (queue : SpscQueue α) (index : ℕ) : ℕ := (index + 1) % queue.capacity

/-- The number of items between the indices. -/
def size (queue : SpscQueue α) : ℕ :=
  (queue.head + queue.capacity - queue.tail) % queue.capacity

/-- One access of `try_push`. -/
def pushStep (queue : SpscQueue α) : PushCall α → SpscQueue α × Progress (PushCall α) Bool
  | .loadHead value => (queue, .running (.loadTail value queue.head))
  | .loadTail value head =>
    if queue.increment head = queue.tail then (queue, .returned false)
    else (queue, .running (.writeSlot value head))
  | .writeSlot value head =>
    ({ queue with slots := Function.update queue.slots head value },
      .running (.storeHead value head))
  | .storeHead _ head => ({ queue with head := queue.increment head }, .returned true)

/-- One access of `try_pop`. -/
def popStep (leave : α → α) (queue : SpscQueue α) :
    PopCall α → SpscQueue α × Progress (PopCall α) (Option α)
  | .loadTail => (queue, .running (.loadHead queue.tail))
  | .loadHead tail =>
    if tail = queue.head then (queue, .returned none)
    else (queue, .running (.readSlot tail))
  | .readSlot tail =>
    ({ queue with slots := Function.update queue.slots tail (leave (queue.slots tail)) },
      .running (.storeTail tail (queue.slots tail)))
  | .storeTail tail value => ({ queue with tail := queue.increment tail }, .returned (some value))

/-! ## The invariant -/

/-- What a push in progress knows. -/
def PushInv (queue : SpscQueue α) (items : List α) : PushCall α → Prop
  | .loadHead _ => True
  | .loadTail _ head => head = queue.head
  | .writeSlot _ head => head = queue.head ∧ items.length + 1 < queue.capacity
  | .storeHead value head =>
    head = queue.head ∧ items.length + 1 < queue.capacity ∧ queue.slots queue.head = value

/-- What a pop in progress knows. -/
def PopInv (queue : SpscQueue α) (items : List α) : PopCall α → Prop
  | .loadTail => True
  | .loadHead tail => tail = queue.tail
  | .readSlot tail => tail = queue.tail ∧ items ≠ []
  | .storeTail tail value => tail = queue.tail ∧ items.head? = some value

/-- How many of the items a pop in progress has read out of their slots. -/
def taken : Option (PopCall α) → ℕ
  | some (.storeTail _ _) => 1
  | _ => 0

/-- The queue holds these items, and the calls in progress know what they may know. -/
structure Inv (queue : SpscQueue α) (items : List α) (push : Option (PushCall α))
    (pop : Option (PopCall α)) : Prop where
  two_le : 2 ≤ queue.capacity
  tail_lt : queue.tail < queue.capacity
  head_eq : queue.head = (queue.tail + items.length) % queue.capacity
  bounded : items.length < queue.capacity
  holds : Ring.Holds queue.slots queue.capacity (queue.tail + taken pop) (items.drop (taken pop))
  push : ∀ call ∈ push, queue.PushInv items call
  pop : ∀ call ∈ pop, queue.PopInv items call

theorem create_capacity (capacity : ℕ) (initial : α) :
    (create capacity initial).capacity = max capacity 2 := by
  have hif : (create capacity initial).capacity = if capacity < 2 then 2 else capacity := rfl
  rw [hif]
  split <;> omega

theorem inv_create (capacity : ℕ) (initial : α) :
    (create capacity initial).Inv [] none none := by
  have hcapacity : 2 ≤ (create capacity initial).capacity := by
    rw [create_capacity]
    omega
  have hpos : 0 < (create capacity initial).capacity := by omega
  exact ⟨hcapacity, hpos, (Nat.zero_mod _).symm, hpos, Ring.holds_nil,
    fun call h ↦ absurd h (by simp), fun call h ↦ absurd h (by simp)⟩

variable {queue : SpscQueue α} {items : List α} {push : Option (PushCall α)}
  {pop : Option (PopCall α)}

/-- The next head meets the tail exactly when only the empty slot is left. -/
theorem Inv.full_iff (h : queue.Inv items push pop) :
    queue.increment queue.head = queue.tail ↔ items.length + 1 = queue.capacity := by
  rw [increment, h.head_eq, Nat.mod_add_mod, Nat.add_assoc]
  have hbounded := h.bounded
  have htail := h.tail_lt
  constructor
  · intro heq
    by_contra hne
    have hapart : (queue.tail + 0) % queue.capacity ≠
        (queue.tail + (items.length + 1)) % queue.capacity :=
      Ring.add_mod_ne (by omega) (by omega)
    rw [Nat.add_zero, Nat.mod_eq_of_lt htail] at hapart
    exact hapart heq.symm
  · intro heq
    rw [heq, Nat.add_mod_right, Nat.mod_eq_of_lt htail]

theorem Inv.empty_iff (h : queue.Inv items push pop) : queue.tail = queue.head ↔ items = [] := by
  have hbounded := h.bounded
  have htail := h.tail_lt
  rw [h.head_eq]
  constructor
  · intro heq
    by_contra hne
    have hpos : 0 < items.length := List.length_pos_of_ne_nil hne
    have hapart : (queue.tail + 0) % queue.capacity ≠
        (queue.tail + items.length) % queue.capacity :=
      Ring.add_mod_ne hpos (by omega)
    rw [Nat.add_zero, Nat.mod_eq_of_lt htail] at hapart
    exact hapart heq
  · rintro rfl
    rw [List.length_nil, Nat.add_zero, Nat.mod_eq_of_lt htail]

theorem Inv.size_eq (h : queue.Inv items push pop) : queue.size = items.length := by
  have hbounded := h.bounded
  have htail := h.tail_lt
  rw [size, h.head_eq]
  -- the head is ahead of the tail, or has wrapped around and is behind it
  rcases Nat.lt_or_ge (queue.tail + items.length) queue.capacity with hlt | hge
  · rw [Nat.mod_eq_of_lt hlt, show queue.tail + items.length + queue.capacity - queue.tail =
      items.length + queue.capacity by omega, Nat.add_mod_right, Nat.mod_eq_of_lt hbounded]
  · have hwrapped : (queue.tail + items.length) % queue.capacity =
        queue.tail + items.length - queue.capacity := by
      rw [Nat.mod_eq_sub_mod hge, Nat.mod_eq_of_lt (by omega)]
    rw [hwrapped, show queue.tail + items.length - queue.capacity + queue.capacity - queue.tail =
      items.length by omega, Nat.mod_eq_of_lt hbounded]

/-- The slots from the tail on, as many as there are items, are not the one at the head. -/
theorem Inv.ne_head (h : queue.Inv items push pop) {i : ℕ} (hi : i < items.length) :
    (queue.tail + i) % queue.capacity ≠ queue.head := by
  have hbounded := h.bounded
  rw [h.head_eq]
  exact Ring.add_mod_ne hi (by omega)

/-- A pop reads an item that is there. -/
theorem Inv.taken_le (h : queue.Inv items push pop) : taken pop ≤ items.length := by
  rcases pop with _ | ⟨_ | _ | _ | ⟨tail, value⟩⟩
  · exact Nat.zero_le _
  · exact Nat.zero_le _
  · exact Nat.zero_le _
  · exact Nat.zero_le _
  · have hhead := (h.pop _ rfl).2
    rcases items with _ | ⟨first, rest⟩
    · exact absurd hhead (by simp)
    · exact Nat.le_add_left 1 rest.length

/-! ## Steps -/

/-- A push knows nothing when it starts. -/
theorem Inv.startPush (h : queue.Inv items push pop) (value : α) :
    queue.Inv items (some (.loadHead value)) pop := by
  refine { h with push := ?_ }
  rintro _ ⟨⟩
  trivial

/-- A pop knows nothing when it starts. -/
theorem Inv.startPop (h : queue.Inv items push none) : queue.Inv items push (some .loadTail) := by
  refine { h with pop := ?_ }
  rintro _ ⟨⟩
  trivial

/-- What an access of a push may do: it goes on, it gives up because the queue is full, or it
publishes its value behind the others. -/
inductive PushEffect (queue : SpscQueue α) (items : List α) (pop : Option (PopCall α))
    (call : PushCall α) : SpscQueue α × Progress (PushCall α) Bool → Prop
  | running {queue' : SpscQueue α} {call' : PushCall α}
      (hinv : queue'.Inv items (some call') pop) (hcapacity : queue'.capacity = queue.capacity)
      (hvalue : call'.value = call.value) (hstage : call'.stage = call.stage + 1) :
      PushEffect queue items pop call (queue', .running call')
  | full (hinv : queue.Inv items none pop) (hfull : items.length + 1 = queue.capacity)
      (hstage : call.stage = 1) :
      PushEffect queue items pop call (queue, .returned false)
  | pushed {queue' : SpscQueue α} (hinv : queue'.Inv (items ++ [call.value]) none pop)
      (hcapacity : queue'.capacity = queue.capacity) (hstage : call.stage = 3) :
      PushEffect queue items pop call (queue', .returned true)

/-- **One access of a push.** -/
theorem Inv.pushEffect {call : PushCall α} (h : queue.Inv items (some call) pop) :
    PushEffect queue items pop call (queue.pushStep call) := by
  have hpush := h.push call rfl
  cases call with
  | loadHead value =>
    refine .running ⟨h.two_le, h.tail_lt, h.head_eq, h.bounded, h.holds, ?_, h.pop⟩ rfl rfl rfl
    rintro _ ⟨⟩
    rfl
  | loadTail value head =>
    obtain rfl : head = queue.head := hpush
    rw [pushStep]
    split
    · rename_i hfull
      refine .full ⟨h.two_le, h.tail_lt, h.head_eq, h.bounded, h.holds, ?_, h.pop⟩
        (h.full_iff.mp hfull) rfl
      rintro _ ⟨⟩
    · rename_i hroom
      refine .running ⟨h.two_le, h.tail_lt, h.head_eq, h.bounded, h.holds, ?_, h.pop⟩ rfl rfl rfl
      rintro _ ⟨⟩
      have hbounded := h.bounded
      exact ⟨rfl, by have := mt h.full_iff.mpr hroom; omega⟩
  | writeSlot value head =>
    obtain ⟨rfl, hroom⟩ : head = queue.head ∧ items.length + 1 < queue.capacity := hpush
    refine .running ⟨h.two_le, h.tail_lt, h.head_eq, h.bounded, ?_, ?_, ?_⟩ rfl rfl rfl
    · -- the slot at the head holds no item
      refine h.holds.update value fun i hi ↦ ?_
      rw [Nat.add_assoc]
      exact h.ne_head (by rw [List.length_drop] at hi; omega)
    · rintro _ ⟨⟩
      exact ⟨rfl, hroom, Function.update_self ..⟩
    · intro call hcall
      have hknown := h.pop call hcall
      cases call <;> exact hknown
  | storeHead value head =>
    obtain ⟨rfl, hroom, hslot⟩ : head = queue.head ∧ items.length + 1 < queue.capacity ∧
      queue.slots queue.head = value := hpush
    refine .pushed ⟨h.two_le, h.tail_lt, ?_, ?_, ?_, ?_, ?_⟩ rfl rfl
    · rw [List.length_append, List.length_singleton, ← Nat.add_assoc, ← Nat.mod_add_mod,
        ← h.head_eq]
      rfl
    · rw [List.length_append, List.length_singleton]
      exact hroom
    · rw [List.drop_append_of_le_length h.taken_le]
      refine h.holds.append ?_
      rw [List.length_drop, Nat.add_assoc, Nat.add_sub_cancel' h.taken_le, ← h.head_eq]
      exact hslot
    · rintro _ ⟨⟩
    · -- a pop in progress knows the front of the queue, and the value is added at the back
      intro call hcall
      have hknown := h.pop call hcall
      cases call with
      | loadTail => trivial
      | loadHead tail => exact hknown
      | readSlot tail => exact ⟨hknown.1, by simp⟩
      | storeTail tail value =>
        refine ⟨hknown.1, ?_⟩
        rw [List.head?_append, hknown.2]
        rfl

/-- What an access of a pop may do: it goes on, it gives up because the queue is empty, or it takes
the first item. -/
inductive PopEffect (queue : SpscQueue α) (items : List α) (push : Option (PushCall α))
    (call : PopCall α) : SpscQueue α × Progress (PopCall α) (Option α) → Prop
  | running {queue' : SpscQueue α} {call' : PopCall α}
      (hinv : queue'.Inv items push (some call')) (hcapacity : queue'.capacity = queue.capacity)
      (hstage : call'.stage = call.stage + 1) :
      PopEffect queue items push call (queue', .running call')
  | empty (hinv : queue.Inv items push none) (hempty : items = []) (hstage : call.stage = 1) :
      PopEffect queue items push call (queue, .returned none)
  | popped {queue' : SpscQueue α} {value : α} {rest : List α} (hitems : items = value :: rest)
      (hinv : queue'.Inv rest push none) (hcapacity : queue'.capacity = queue.capacity)
      (hstage : call.stage = 3) :
      PopEffect queue items push call (queue', .returned (some value))

/-- A push in progress knows no less when the queue gets shorter. -/
theorem PushInv.shorter {rest : List α} {call : PushCall α} {tail : ℕ}
    (h : queue.PushInv items call) (hle : rest.length ≤ items.length) :
    { queue with tail := tail }.PushInv rest call := by
  rcases call with _ | _ | _ | _
  · trivial
  · exact h
  · exact ⟨h.1, Nat.lt_of_le_of_lt (Nat.succ_le_succ hle) h.2⟩
  · exact ⟨h.1, Nat.lt_of_le_of_lt (Nat.succ_le_succ hle) h.2.1, h.2.2⟩

/-- **One access of a pop.** -/
theorem Inv.popEffect {call : PopCall α} (leave : α → α) (h : queue.Inv items push (some call)) :
    PopEffect queue items push call (queue.popStep leave call) := by
  have hpop := h.pop call rfl
  cases call with
  | loadTail =>
    refine .running ⟨h.two_le, h.tail_lt, h.head_eq, h.bounded, h.holds, h.push, ?_⟩ rfl rfl
    rintro _ ⟨⟩
    rfl
  | loadHead tail =>
    obtain rfl : tail = queue.tail := hpop
    rw [popStep]
    split
    · rename_i hempty
      refine .empty ⟨h.two_le, h.tail_lt, h.head_eq, h.bounded, h.holds, h.push, ?_⟩
        (h.empty_iff.mp hempty) rfl
      rintro _ ⟨⟩
    · rename_i hitems
      refine .running ⟨h.two_le, h.tail_lt, h.head_eq, h.bounded, h.holds, h.push, ?_⟩ rfl rfl
      rintro _ ⟨⟩
      exact ⟨rfl, mt h.empty_iff.mpr hitems⟩
  | readSlot tail =>
    obtain ⟨rfl, hitems⟩ : tail = queue.tail ∧ items ≠ [] := hpop
    obtain ⟨value, rest, rfl⟩ := List.exists_cons_of_ne_nil hitems
    have hholds : Ring.Holds queue.slots queue.capacity queue.tail (value :: rest) := h.holds
    have hslot : queue.slots queue.tail = value := by
      have hhead := hholds.head
      rwa [Nat.mod_eq_of_lt h.tail_lt] at hhead
    have hbounded := h.bounded
    rw [List.length_cons] at hbounded
    refine .running ⟨h.two_le, h.tail_lt, h.head_eq, h.bounded, ?_, ?_, ?_⟩ rfl rfl
    · -- the other items are elsewhere
      refine hholds.tail.update _ fun i hi ↦ ?_
      have hapart : (queue.tail + 0) % queue.capacity ≠
          (queue.tail + (1 + i)) % queue.capacity := Ring.add_mod_ne (by omega) (by omega)
      rw [Nat.add_zero, Nat.mod_eq_of_lt h.tail_lt, ← Nat.add_assoc] at hapart
      exact hapart.symm
    · intro call hcall
      have hknown := h.push call hcall
      rcases call with _ | _ | _ | ⟨pushed, head⟩
      · trivial
      · exact hknown
      · exact hknown
      · refine ⟨hknown.1, hknown.2.1, ?_⟩
        have hne := h.ne_head (i := 0) (Nat.succ_pos _)
        rw [Nat.add_zero, Nat.mod_eq_of_lt h.tail_lt] at hne
        exact (Function.update_of_ne hne.symm _ _).trans hknown.2.2
    · rintro _ ⟨⟩
      exact ⟨rfl, by rw [hslot]; rfl⟩
  | storeTail tail value =>
    obtain ⟨rfl, hhead⟩ : tail = queue.tail ∧ items.head? = some value := hpop
    rcases items with _ | ⟨first, rest⟩
    · exact absurd hhead (by simp)
    obtain rfl : first = value := Option.some.inj hhead
    have hpos : 0 < queue.capacity := by have := h.two_le; omega
    refine .popped rfl ⟨h.two_le, Nat.mod_lt _ hpos, ?_, ?_, ?_, ?_, ?_⟩ rfl rfl
    · rw [h.head_eq, increment, Nat.mod_add_mod, List.length_cons, Nat.add_assoc,
        Nat.add_comm 1]
    · exact Nat.lt_of_succ_lt h.bounded
    · exact h.holds.mod
    · intro call hcall
      exact (h.push call hcall).shorter (Nat.le_succ _)
    · rintro _ ⟨⟩

end SpscQueue

end TradingEngine
