import TradingEngine.Ingest.SpscQueue
import TradingEngine.Internal.Frames

/-!
# The ring queues are bounded FIFOs

A queue with one producer and one consumer is run as a machine whose inputs say which side makes its
next access. The machine keeps the results of the calls that have returned, and the statements are
about these: what was popped is a prefix of what was pushed, the number of values in between is
bounded, and a call that starts with room, or with a value to take, succeeds in four accesses,
however the other side is interleaved with it.
-/

namespace TradingEngine

namespace SpscQueue

variable {α : Type*}

/-- A queue, the calls in progress, and what the calls before them returned. -/
structure System (α : Type*) where
  queue : SpscQueue α
  push : Option (PushCall α) := none
  pop : Option (PopCall α) := none
  pushes : List (α × Bool) := []
  pops : List (Option α) := []

/-- A call of one of the two sides, or its next access. -/
inductive Input (α : Type*)
  | tryPush (value : α)
  | tryPop
  | producer
  | consumer

def Input.isProducer : Input α → Bool
  | .producer => true
  | _ => false

def Input.isConsumer : Input α → Bool
  | .consumer => true
  | _ => false

namespace System

/-- The values given to successful pushes. -/
def pushed (s : System α) : List α :=
  s.pushes.filterMap fun call ↦ if call.2 then some call.1 else none

/-- The values returned by successful pops. -/
def popped (s : System α) : List α := s.pops.filterMap id

/-- The values that were pushed and not yet popped. -/
def outstanding (s : System α) : List α := s.pushed.drop s.popped.length

/-- The slots from the tail on hold the outstanding values. -/
def Unconsumed (s : System α) (slot : ℕ) : Prop :=
  ∃ i < s.outstanding.length, slot = (s.queue.tail + i) % s.queue.capacity

/-- Each side makes one call at a time. -/
def step (leave : α → α) (s : System α) : Input α → Option (System α)
  | .tryPush value =>
    match s.push with
    | none => some { s with push := some (.loadHead value) }
    | some _ => none
  | .tryPop =>
    match s.pop with
    | none => some { s with pop := some .loadTail }
    | some _ => none
  | .producer =>
    match s.push with
    | none => none
    | some call =>
      match s.queue.pushStep call with
      | (queue, .running call') => some { s with queue := queue, push := some call' }
      | (queue, .returned result) =>
        some { s with queue := queue, push := none, pushes := s.pushes ++ [(call.value, result)] }
  | .consumer =>
    match s.pop with
    | none => none
    | some call =>
      match s.queue.popStep leave call with
      | (queue, .running call') => some { s with queue := queue, pop := some call' }
      | (queue, .returned result) =>
        some { s with queue := queue, pop := none, pops := s.pops ++ [result] }

end System

/-- The runs of a queue, given what a read leaves in a slot. -/
def machine (leave : α → α) : Machine (System α) (Input α) where
  step := System.step leave

/-! ## What a bounded FIFO is -/

/-- The runs from a state are those of a FIFO that has room for `bound` values. -/
structure BoundedFifo (M : Machine (System α) (Input α)) (s₀ : System α) (bound : ℕ) : Prop where
  /-- Values come out in the order they went in. -/
  fifo : ∀ {s}, M.Reaches s₀ s → s.popped <+: s.pushed
  bounded : ∀ {s}, M.Reaches s₀ s → s.outstanding.length ≤ bound
  /-- The slots from the tail on hold the outstanding values, but for the one being moved out. -/
  stored : ∀ {s}, M.Reaches s₀ s → Ring.Holds s.queue.slots s.queue.capacity
    (s.queue.tail + taken s.pop) (s.outstanding.drop (taken s.pop))
  /-- No such slot is written. -/
  exclusive : ∀ {s value slot}, M.Reaches s₀ s → s.push = some (.writeSlot value slot) →
    ¬s.Unconsumed slot
  /-- A push that starts with room is never stuck, and returns true in its fourth access. -/
  push_succeeds : ∀ {s value s' inputs s''}, M.Reaches s₀ s → s.outstanding.length < bound →
    M.step s (.tryPush value) = some s' → M.run s' inputs = some s'' →
      (s''.push.isSome ∧ (M.step s'' .producer).isSome ∧ s''.pushes = s.pushes ∧
        inputs.countP Input.isProducer < 4) ∨
      s.pushes ++ [(value, true)] <+: s''.pushes
  /-- A pop that starts with a value published is never stuck, and returns the first such value in
  its fourth access. -/
  pop_succeeds : ∀ {s s' inputs s''}, M.Reaches s₀ s → s.outstanding ≠ [] →
    M.step s .tryPop = some s' → M.run s' inputs = some s'' →
      (s''.pop.isSome ∧ (M.step s'' .consumer).isSome ∧ s''.pops = s.pops ∧
        inputs.countP Input.isConsumer < 4) ∨
      s.pops ++ [s.outstanding.head?] <+: s''.pops

/-! ## The invariant of the runs -/

namespace System

/-- What was pushed is what was popped and then what the queue holds. -/
structure Refines (capacity : ℕ) (s : System α) (items : List α) : Prop where
  capacity_eq : s.queue.capacity = capacity
  conserved : s.pushed = s.popped ++ items
  inv : s.queue.Inv items s.push s.pop

variable {capacity : ℕ} {s s' : System α} {items : List α} {leave : α → α}

theorem Refines.outstanding_eq (h : s.Refines capacity items) : s.outstanding = items := by
  rw [outstanding, h.conserved, List.drop_left]

theorem refines_create (capacity : ℕ) (initial : α) :
    Refines (max capacity 2) { queue := create capacity initial } [] where
  capacity_eq := create_capacity capacity initial
  conserved := rfl
  inv := inv_create capacity initial

/-- What an access of the producer may do to a system. -/
inductive ProducerEffect (capacity : ℕ) (s : System α) (items : List α) (call : PushCall α) :
    System α → Prop
  | running {s' : System α} {call' : PushCall α} (hrefines : s'.Refines capacity items)
      (hpush : s'.push = some call') (hpushes : s'.pushes = s.pushes)
      (hvalue : call'.value = call.value) (hstage : call'.stage = call.stage + 1) :
      ProducerEffect capacity s items call s'
  | full {s' : System α} (hrefines : s'.Refines capacity items)
      (hfull : items.length + 1 = capacity) (hstage : call.stage = 1) :
      ProducerEffect capacity s items call s'
  | pushed {s' : System α} (hrefines : s'.Refines capacity (items ++ [call.value]))
      (hpushes : s'.pushes = s.pushes ++ [(call.value, true)]) (hstage : call.stage = 3) :
      ProducerEffect capacity s items call s'

/-- **One access of the producer.** The consumer's side stays as it is. -/
theorem Refines.producer (h : s.Refines capacity items)
    (hstep : s.step leave .producer = some s') :
    ∃ call, s.push = some call ∧ ProducerEffect capacity s items call s' ∧
      s'.pop = s.pop ∧ s'.pops = s.pops ∧ s.pushes <+: s'.pushes := by
  rw [step] at hstep
  split at hstep
  · exact absurd hstep (by simp)
  · rename_i call hcall
    have heffect := Inv.pushEffect (hcall ▸ h.inv)
    generalize s.queue.pushStep call = result at hstep heffect
    refine ⟨call, hcall, ?_⟩
    rcases heffect with ⟨hinv, hcapacity, hvalue, hstage⟩ | ⟨hinv, hfull, hstage⟩ |
      ⟨hinv, hcapacity, hstage⟩
    · obtain rfl := Option.some.inj hstep
      refine ⟨.running ⟨hcapacity.trans h.capacity_eq, h.conserved, hinv⟩ rfl rfl hvalue hstage,
        rfl, rfl, List.prefix_rfl⟩
    · obtain rfl := Option.some.inj hstep
      -- a push that returns false adds nothing to what was pushed
      refine ⟨.full ⟨h.capacity_eq, ?_, hinv⟩ (hfull.trans h.capacity_eq) hstage, rfl, rfl,
        List.prefix_append _ _⟩
      rw [System.pushed, List.filterMap_append]
      exact (List.append_nil _).trans h.conserved
    · obtain rfl := Option.some.inj hstep
      refine ⟨.pushed ⟨hcapacity.trans h.capacity_eq, ?_, hinv⟩ rfl hstage, rfl, rfl,
        List.prefix_append _ _⟩
      rw [System.pushed, List.filterMap_append, ← List.append_assoc]
      exact congrArg (· ++ [call.value]) h.conserved

/-- What an access of the consumer may do to a system. -/
inductive ConsumerEffect (capacity : ℕ) (s : System α) (items : List α) (call : PopCall α) :
    System α → Prop
  | running {s' : System α} {call' : PopCall α} (hrefines : s'.Refines capacity items)
      (hpop : s'.pop = some call') (hpops : s'.pops = s.pops)
      (hstage : call'.stage = call.stage + 1) :
      ConsumerEffect capacity s items call s'
  | empty {s' : System α} (hrefines : s'.Refines capacity items) (hempty : items = []) :
      ConsumerEffect capacity s items call s'
  | popped {s' : System α} {value : α} {rest : List α} (hitems : items = value :: rest)
      (hrefines : s'.Refines capacity rest) (hpops : s'.pops = s.pops ++ [some value])
      (hstage : call.stage = 3) :
      ConsumerEffect capacity s items call s'

/-- **One access of the consumer.** The producer's side stays as it is. -/
theorem Refines.consumer (h : s.Refines capacity items)
    (hstep : s.step leave .consumer = some s') :
    ∃ call, s.pop = some call ∧ ConsumerEffect capacity s items call s' ∧
      s'.push = s.push ∧ s'.pushes = s.pushes ∧ s.pops <+: s'.pops := by
  rw [step] at hstep
  split at hstep
  · exact absurd hstep (by simp)
  · rename_i call hcall
    have heffect := Inv.popEffect leave (hcall ▸ h.inv)
    generalize s.queue.popStep leave call = result at hstep heffect
    refine ⟨call, hcall, ?_⟩
    rcases heffect with ⟨hinv, hcapacity, hstage⟩ | ⟨hinv, hempty, hstage⟩ |
      ⟨hitems, hinv, hcapacity, hstage⟩
    · obtain rfl := Option.some.inj hstep
      exact ⟨.running ⟨hcapacity.trans h.capacity_eq, h.conserved, hinv⟩ rfl rfl hstage,
        rfl, rfl, List.prefix_rfl⟩
    · obtain rfl := Option.some.inj hstep
      refine ⟨.empty ⟨h.capacity_eq, ?_, hinv⟩ hempty, rfl, rfl, List.prefix_append _ _⟩
      rw [System.popped, List.filterMap_append]
      exact h.conserved.trans (congrArg (· ++ items) (List.append_nil _).symm)
    · obtain rfl := Option.some.inj hstep
      subst hitems
      refine ⟨.popped rfl ⟨hcapacity.trans h.capacity_eq, ?_, hinv⟩ rfl hstage, rfl, rfl,
        List.prefix_append _ _⟩
      rw [System.popped, List.filterMap_append, List.append_assoc]
      exact h.conserved

/-! ## Runs -/

theorem Refines.tryPush {value : α} (h : s.Refines capacity items)
    (hstep : s.step leave (.tryPush value) = some s') :
    s'.Refines capacity items ∧ s.push = none ∧ s' = { s with push := some (.loadHead value) } := by
  rw [step] at hstep
  split at hstep
  · rename_i hidle
    obtain rfl := Option.some.inj hstep
    exact ⟨⟨h.capacity_eq, h.conserved, h.inv.startPush value⟩, hidle, rfl⟩
  · exact absurd hstep (by simp)

theorem Refines.tryPop (h : s.Refines capacity items)
    (hstep : s.step leave .tryPop = some s') :
    s'.Refines capacity items ∧ s.pop = none ∧ s' = { s with pop := some .loadTail } := by
  rw [step] at hstep
  split at hstep
  · rename_i hidle
    obtain rfl := Option.some.inj hstep
    exact ⟨⟨h.capacity_eq, h.conserved, (hidle ▸ h.inv).startPop⟩, hidle, rfl⟩
  · exact absurd hstep (by simp)

/-- **One step.** The invariant is kept, and nothing is taken back. -/
theorem Refines.step {input : Input α} (h : s.Refines capacity items)
    (hstep : s.step leave input = some s') :
    (∃ items', s'.Refines capacity items') ∧ s.pushes <+: s'.pushes ∧ s.pops <+: s'.pops := by
  cases input with
  | tryPush value =>
    obtain ⟨hrefines, -, rfl⟩ := h.tryPush hstep
    exact ⟨⟨items, hrefines⟩, List.prefix_rfl, List.prefix_rfl⟩
  | tryPop =>
    obtain ⟨hrefines, -, rfl⟩ := h.tryPop hstep
    exact ⟨⟨items, hrefines⟩, List.prefix_rfl, List.prefix_rfl⟩
  | producer =>
    obtain ⟨call, -, heffect, -, hpops, hpushes⟩ := h.producer hstep
    refine ⟨?_, hpushes, hpops ▸ List.prefix_rfl⟩
    rcases heffect with ⟨hrefines⟩ | ⟨hrefines⟩ | ⟨hrefines⟩ <;> exact ⟨_, hrefines⟩
  | consumer =>
    obtain ⟨call, -, heffect, -, hpushes, hpops⟩ := h.consumer hstep
    refine ⟨?_, hpushes ▸ List.prefix_rfl, hpops⟩
    rcases heffect with ⟨hrefines⟩ | ⟨hrefines⟩ | ⟨-, hrefines⟩ <;> exact ⟨_, hrefines⟩

/-- **A run.** The same over any number of steps. -/
theorem Refines.run {inputs : List (Input α)} (h : s.Refines capacity items)
    (hrun : (machine leave).run s inputs = some s') :
    (∃ items', s'.Refines capacity items') ∧ s.pushes <+: s'.pushes ∧ s.pops <+: s'.pops := by
  induction inputs generalizing s items with
  | nil =>
    obtain rfl := Option.some.inj hrun
    exact ⟨⟨items, h⟩, List.prefix_rfl, List.prefix_rfl⟩
  | cons input inputs ih =>
    obtain ⟨t, hstep, hrest⟩ := Option.bind_eq_some_iff.mp hrun
    obtain ⟨⟨items', hrefines⟩, hpushes, hpops⟩ := h.step hstep
    obtain ⟨hlast, hpushes', hpops'⟩ := ih hrefines hrest
    exact ⟨hlast, hpushes.trans hpushes', hpops.trans hpops'⟩

/-- The consumer can only make room for a push in progress. -/
theorem Refines.keeps_push {input : Input α} {call : PushCall α} (h : s.Refines capacity items)
    (hpush : s.push = some call) (hother : input.isProducer = false)
    (hstep : s.step leave input = some s') :
    s'.push = some call ∧ s'.pushes = s.pushes ∧
      ∃ items', s'.Refines capacity items' ∧ items'.length ≤ items.length := by
  cases input with
  | tryPush value =>
    obtain ⟨-, hidle, -⟩ := h.tryPush hstep
    exact absurd (hidle.symm.trans hpush) (by simp)
  | tryPop =>
    obtain ⟨hrefines, -, rfl⟩ := h.tryPop hstep
    exact ⟨hpush, rfl, items, hrefines, Nat.le_refl _⟩
  | producer => exact absurd hother (by simp [Input.isProducer])
  | consumer =>
    obtain ⟨_, -, heffect, hsame, hpushes, -⟩ := h.consumer hstep
    refine ⟨hsame.trans hpush, hpushes, ?_⟩
    rcases heffect with ⟨hrefines⟩ | ⟨hrefines⟩ | ⟨rfl, hrefines⟩
    · exact ⟨items, hrefines, Nat.le_refl _⟩
    · exact ⟨items, hrefines, Nat.le_refl _⟩
    · exact ⟨_, hrefines, Nat.le_succ _⟩

/-- The producer can only add values behind the one a pop in progress will take. -/
theorem Refines.keeps_pop {input : Input α} {call : PopCall α} (h : s.Refines capacity items)
    (hpop : s.pop = some call) (hother : input.isConsumer = false)
    (hstep : s.step leave input = some s') :
    s'.pop = some call ∧ s'.pops = s.pops ∧
      ∃ items', s'.Refines capacity items' ∧ items <+: items' := by
  cases input with
  | tryPush value =>
    obtain ⟨hrefines, -, rfl⟩ := h.tryPush hstep
    exact ⟨hpop, rfl, items, hrefines, List.prefix_rfl⟩
  | tryPop =>
    obtain ⟨-, hidle, -⟩ := h.tryPop hstep
    exact absurd (hidle.symm.trans hpop) (by simp)
  | producer =>
    obtain ⟨_, -, heffect, hsame, hpops, -⟩ := h.producer hstep
    refine ⟨hsame.trans hpop, hpops, ?_⟩
    rcases heffect with ⟨hrefines⟩ | ⟨hrefines⟩ | ⟨hrefines⟩
    · exact ⟨items, hrefines, List.prefix_rfl⟩
    · exact ⟨items, hrefines, List.prefix_rfl⟩
    · exact ⟨_, hrefines, List.prefix_append _ _⟩
  | consumer => exact absurd hother (by simp [Input.isConsumer])

theorem isSome_step_producer {call : PushCall α} (h : s.push = some call) :
    (s.step leave .producer).isSome := by
  rw [step, h]
  dsimp only
  split <;> rfl

theorem isSome_step_consumer {call : PopCall α} (h : s.pop = some call) :
    (s.step leave .consumer).isSome := by
  rw [step, h]
  dsimp only
  split <;> rfl

/-- **A push with room succeeds.** The induction is on the run, over every push in progress that
has room, or has already seen that it has. -/
theorem Refines.push_run {inputs : List (Input α)} {call : PushCall α}
    (h : s.Refines capacity items) (hpush : s.push = some call)
    (hroom : items.length + 1 < capacity) (hrun : (machine leave).run s inputs = some s') :
    (s'.push.isSome ∧ (s'.step leave .producer).isSome ∧ s'.pushes = s.pushes ∧
      inputs.countP Input.isProducer + call.stage < 4) ∨
    s.pushes ++ [(call.value, true)] <+: s'.pushes := by
  induction inputs generalizing s items call with
  | nil =>
    obtain rfl := Option.some.inj hrun
    refine .inl ⟨by rw [hpush]; rfl, isSome_step_producer hpush, rfl, ?_⟩
    rw [List.countP_nil, Nat.zero_add]
    exact call.stage_lt
  | cons input inputs ih =>
    obtain ⟨t, hstep, hrest⟩ : ∃ t, s.step leave input = some t ∧
      (machine leave).run t inputs = some s' := Option.bind_eq_some_iff.mp hrun
    rw [List.countP_cons]
    rcases hother : input.isProducer with _ | _
    · -- the other side moves: there is at least as much room as before
      obtain ⟨hpush', hpushes, items', hrefines, hle⟩ := h.keeps_push hpush hother hstep
      rw [← hpushes]
      exact ih hrefines hpush' (by omega) hrest
    · obtain rfl : input = .producer := by
        cases input <;> first | rfl | exact absurd hother (by simp [Input.isProducer])
      obtain ⟨_, hcall, heffect, -, -, -⟩ := h.producer hstep
      obtain rfl := Option.some.inj (hpush.symm.trans hcall)
      rcases heffect with ⟨hrefines, hpush', hpushes, hvalue, hstage⟩ | ⟨-, hfull, -⟩ |
        ⟨hrefines, hpushes, -⟩
      · have hnext := ih hrefines hpush' hroom hrest
        rw [hpushes, hvalue, hstage] at hnext
        refine hnext.imp_left fun ⟨hsome, henabled, hsame, hcount⟩ ↦ ⟨hsome, henabled, hsame, ?_⟩
        rw [if_pos rfl]
        omega
      · -- a queue that is full has no room
        omega
      · rw [← hpushes]
        exact .inr (hrefines.run hrest).2.1

/-- **A pop with a value to take succeeds.** -/
theorem Refines.pop_run {inputs : List (Input α)} {call : PopCall α} {value : α}
    (h : s.Refines capacity items) (hpop : s.pop = some call) (hvalue : items.head? = some value)
    (hrun : (machine leave).run s inputs = some s') :
    (s'.pop.isSome ∧ (s'.step leave .consumer).isSome ∧ s'.pops = s.pops ∧
      inputs.countP Input.isConsumer + call.stage < 4) ∨
    s.pops ++ [some value] <+: s'.pops := by
  induction inputs generalizing s items call with
  | nil =>
    obtain rfl := Option.some.inj hrun
    refine .inl ⟨by rw [hpop]; rfl, isSome_step_consumer hpop, rfl, ?_⟩
    rw [List.countP_nil, Nat.zero_add]
    exact call.stage_lt
  | cons input inputs ih =>
    obtain ⟨t, hstep, hrest⟩ : ∃ t, s.step leave input = some t ∧
      (machine leave).run t inputs = some s' := Option.bind_eq_some_iff.mp hrun
    rw [List.countP_cons]
    rcases hother : input.isConsumer with _ | _
    · -- the other side moves: the first value is still the first
      obtain ⟨hpop', hpops, items', hrefines, more, rfl⟩ := h.keeps_pop hpop hother hstep
      rw [← hpops]
      refine ih hrefines hpop' ?_ hrest
      rw [List.head?_append, hvalue]
      rfl
    · obtain rfl : input = .consumer := by
        cases input <;> first | rfl | exact absurd hother (by simp [Input.isConsumer])
      obtain ⟨_, hcall, heffect, -, -, -⟩ := h.consumer hstep
      obtain rfl := Option.some.inj (hpop.symm.trans hcall)
      rcases heffect with ⟨hrefines, hpop', hpops, hstage⟩ | ⟨-, rfl⟩ |
        ⟨rfl, hrefines, hpops, -⟩
      · have hnext := ih hrefines hpop' hvalue hrest
        rw [hpops, hstage] at hnext
        refine hnext.imp_left fun ⟨hsome, henabled, hsame, hcount⟩ ↦ ⟨hsome, henabled, hsame, ?_⟩
        rw [if_pos rfl]
        omega
      · exact absurd hvalue (by simp)
      · rw [← hvalue, List.head?_cons, ← hpops]
        exact .inr (hrefines.run hrest).2.2

end System

variable {leave : α → α}

theorem refines_of_reaches {capacity : ℕ} {initial : α} {s : System α}
    (h : (machine leave).Reaches { queue := create capacity initial } s) :
    s.Refines (max capacity 2) s.outstanding := by
  have hexists : ∃ items, s.Refines (max capacity 2) items := by
    -- the values are found along the run, and turn out to be those outstanding
    induction h with
    | refl => exact ⟨[], System.refines_create capacity initial⟩
    | tail _ _ hstep ih =>
      obtain ⟨items, hrefines⟩ := ih
      exact (hrefines.step hstep).1
  obtain ⟨items, hrefines⟩ := hexists
  rw [hrefines.outstanding_eq]
  exact hrefines

/-- A queue made for any capacity is a FIFO with room for one value less than its slots. -/
theorem boundedFifo_create (capacity : ℕ) (initial : α) (leave : α → α) :
    BoundedFifo (machine leave) { queue := create capacity initial } (max capacity 2 - 1) where
  fifo h := by
    have hrefines := refines_of_reaches h
    rw [hrefines.conserved]
    exact List.prefix_append _ _
  bounded h := by
    have hrefines := refines_of_reaches h
    have hbounded := hrefines.inv.bounded
    rw [hrefines.capacity_eq] at hbounded
    omega
  stored h := (refines_of_reaches h).inv.holds
  exclusive h hpush := by
    have hrefines := refines_of_reaches h
    obtain ⟨rfl, -⟩ := hrefines.inv.push _ hpush
    rintro ⟨i, hi, heq⟩
    exact hrefines.inv.ne_head hi heq.symm
  push_succeeds {s value s' _ _} h hroom hstep hrun := by
    replace hstep : s.step leave (.tryPush value) = some s' := hstep
    obtain ⟨hrefines, -, rfl⟩ := (refines_of_reaches h).tryPush hstep
    exact hrefines.push_run rfl (by omega) hrun
  pop_succeeds {s s' _ _} h hne hstep hrun := by
    replace hstep : s.step leave .tryPop = some s' := hstep
    obtain ⟨hrefines, -, rfl⟩ := (refines_of_reaches h).tryPop hstep
    obtain ⟨value, rest, hitems⟩ := List.exists_cons_of_ne_nil hne
    have hvalue := congrArg List.head? hitems
    rw [hvalue]
    exact hrefines.pop_run rfl hvalue hrun

end SpscQueue

/-! ## The two queues -/

abbrev SpscFrameQueue := SpscQueue FrameRef

abbrev SpscRoutedEventQueue := SpscQueue RoutedEvent

namespace SpscFrameQueue

def create (capacity : ℕ) : SpscFrameQueue := SpscQueue.create capacity {}

/-- A frame is copied out of its slot. -/
def machine : Machine (SpscQueue.System FrameRef) (SpscQueue.Input FrameRef) := SpscQueue.machine id

end SpscFrameQueue

namespace SpscRoutedEventQueue

def create (capacity : ℕ) : SpscRoutedEventQueue := SpscQueue.create capacity {}

/-- An event is moved out of its slot; what is left behind is up to the string library. -/
def machine (movedFrom : RoutedEvent → RoutedEvent) :
    Machine (SpscQueue.System RoutedEvent) (SpscQueue.Input RoutedEvent) :=
  SpscQueue.machine movedFrom

end SpscRoutedEventQueue

/-- **Both ring queues are bounded FIFOs**, for every requested capacity and every interleaving. -/
theorem ring_queues_are_bounded_fifos (capacity : ℕ) (movedFrom : RoutedEvent → RoutedEvent) :
    SpscQueue.BoundedFifo SpscFrameQueue.machine { queue := SpscFrameQueue.create capacity }
        (max capacity 2 - 1) ∧
      SpscQueue.BoundedFifo (SpscRoutedEventQueue.machine movedFrom)
        { queue := SpscRoutedEventQueue.create capacity } (max capacity 2 - 1) :=
  ⟨SpscQueue.boundedFifo_create capacity _ _, SpscQueue.boundedFifo_create capacity _ _⟩

end TradingEngine
