import Mathlib.Algebra.Group.Int.Defs
import TradingEngine.Ingest.BoundedFifo
import TradingEngine.Ingest.FramePool

/-!
# The ingest path of the live pipeline

`FramePoolMessageSink::push_message` borrows a frame from the pool, fills it in field by field and
publishes the loan on the frame queue; `LivePipeline::pump_ingest` takes loans from the queue,
routes their frames and gives the loans back. The first runs on the thread of the feed and the
second on the thread of the pump. Every access to something shared is a step: an operation of the
pool under its mutex, a write to a field of a frame, an access of the ring queue, a counter.

`Router::route` reads its frame for a while. It is entered in one step and left in another, with
any result, and the frame has to stay as it was in between.

## The invariant

A loan is in one of three places: with the producer, in the queue, or with the consumer. In the
order consumer, queue, producer these are all the loans that are out, and an item that moves from
one place to the next does not even change the list.
-/

namespace TradingEngine

/-- The fields of a frame, in the order in which `push_message` sets them. -/
inductive FrameField
  | recvTimestamp | source | payload | marketTicker | seqId
  deriving DecidableEq

namespace FrameField

def next : FrameField → Option FrameField
  | .recvTimestamp => some .source
  | .source => some .payload
  | .payload => some .marketTicker
  | .marketTicker => some .seqId
  | .seqId => none

def set (now : ℤ) (source message : String) : FrameField → RawFrame → RawFrame
  | .recvTimestamp, frame => { frame with recvTimestamp := now }
  | .source, frame => { frame with source := source }
  | .payload, frame => { frame with payload := message }
  | .marketTicker, frame => { frame with marketTicker := "" }
  | .seqId, frame => { frame with seqId := none }

end FrameField

/-- Where a `push_message` is. The message is moved into the frame half way; from then on it is kept
here for the record only. -/
inductive PushMessage
  | idle
  | acquire (message : String)
  | frame (message : String) (ref : FrameRef)
  | set (message : String) (ref : FrameRef) (slot : ℕ) (field : FrameField)
  | setPayloadSize (message : String) (ref : FrameRef) (slot : ℕ)
  | tryPush (message : String) (call : PushCall FrameRef)
  | release (ref : FrameRef)
  | drop

/-- The local counters of a `pump_ingest`. -/
structure PumpCounts where
  popped : ℕ := 0
  routeSuccess : ℕ := 0
  routeDrop : ℕ := 0
  releaseFailures : ℕ := 0

/-- The counters of the pipeline, in the order in which `pump_ingest` adds to them. -/
inductive PumpCounter
  | ingestFramesPumped | routeSuccess | routeDrop | frameReleaseFailures

/-- Where a `pump_ingest` is. -/
inductive PumpIngest
  | idle
  | loop (maxFrames : ℕ) (counts : PumpCounts)
  | tryPop (maxFrames : ℕ) (counts : PumpCounts) (call : PopCall FrameRef)
  | frame (maxFrames : ℕ) (counts : PumpCounts) (ref : FrameRef)
  | route (maxFrames : ℕ) (counts : PumpCounts) (ref : FrameRef) (slot : ℕ)
  | routing (maxFrames : ℕ) (counts : PumpCounts) (ref : FrameRef) (slot : ℕ)
  | release (maxFrames : ℕ) (counts : PumpCounts) (ref : FrameRef)
  | publish (counts : PumpCounts) (counter : PumpCounter)

/-- The shared state, the two sides, and a record of the payloads. -/
structure LiveIngest where
  pool : FramePool
  queue : SpscFrameQueue
  producer : PushMessage := .idle
  consumer : PumpIngest := .idle
  droppedCount : ℕ := 0
  ingestFramesPumped : ℕ := 0
  routeSuccess : ℕ := 0
  routeDrop : ℕ := 0
  frameReleaseFailures : ℕ := 0
  /-- The payloads for which `push_message` returned true. -/
  accepted : List String := []
  /-- How many loans were popped. -/
  popped : ℕ := 0
  /-- The payloads handed to `route`. -/
  routed : List String := []

inductive IngestInput
  | pushMessage (message : String)
  | pumpIngest (maxFrames : ℕ)
  /-- The next step of the producer, with a reading of the clock. -/
  | producer (now : ℤ)
  /-- The next step of the consumer, with a result of the router. -/
  | consumer (routed : Bool)

namespace LiveIngest

def create (framePoolCapacity frameQueueCapacity : ℕ) : LiveIngest where
  pool := .create framePoolCapacity
  queue := .create frameQueueCapacity

/-- A step of `push_message`. -/
def pushMessageStep (source : String) (now : ℤ) (s : LiveIngest) : Option LiveIngest :=
  match s.producer with
  | .idle => none
  | .acquire message =>
    match s.pool.acquire (now % 2 ^ 64).toNat with
    | none => some { s with producer := .drop }
    | some (pool, ref) => some { s with pool := pool, producer := .frame message ref }
  | .frame message ref =>
    match s.pool.frame ref with
    -- the loan is not good, which the source provides for: it is given back and the message dropped
    | none => some { s with producer := .release ref }
    | some slot => some { s with producer := .set message ref slot .recvTimestamp }
  | .set message ref slot field =>
    some { s with
      pool := s.pool.modifySlot slot (field.set now source message)
      producer := match field.next with
        | some field' => .set message ref slot field'
        | none => .setPayloadSize message ref slot }
  | .setPayloadSize message ref slot =>
    let payloadSize := (s.pool.slots slot).payload.utf8ByteSize % 2 ^ 32
    some { s with producer := .tryPush message (.loadHead { ref with payloadSize := payloadSize }) }
  | .tryPush message call =>
    match s.queue.pushStep call with
    | (queue, .running call') => some { s with queue := queue, producer := .tryPush message call' }
    -- the queue is full: the frame goes back to the pool
    | (queue, .returned false) => some { s with queue := queue, producer := .release call.value }
    | (queue, .returned true) =>
      some { s with queue := queue, producer := .idle, accepted := s.accepted ++ [message] }
  | .release ref => some { s with pool := (s.pool.release ref).1, producer := .drop }
  | .drop => some { s with droppedCount := s.droppedCount + 1, producer := .idle }

/-- Add a local counter to its counter of the pipeline. -/
def publishStep (s : LiveIngest) (counts : PumpCounts) : PumpCounter → LiveIngest
  | .ingestFramesPumped =>
    { s with
      ingestFramesPumped := s.ingestFramesPumped + counts.popped
      consumer := .publish counts .routeSuccess }
  | .routeSuccess =>
    { s with
      routeSuccess := s.routeSuccess + counts.routeSuccess
      consumer := .publish counts .routeDrop }
  | .routeDrop =>
    { s with
      routeDrop := s.routeDrop + counts.routeDrop
      consumer := .publish counts .frameReleaseFailures }
  | .frameReleaseFailures =>
    { s with
      frameReleaseFailures := s.frameReleaseFailures + counts.releaseFailures
      consumer := .idle }

/-- A step of `pump_ingest`. -/
def pumpIngestStep (routed : Bool) (s : LiveIngest) : Option LiveIngest :=
  match s.consumer with
  | .idle => none
  | .loop maxFrames counts =>
    if counts.popped < maxFrames then some { s with consumer := .tryPop maxFrames counts .loadTail }
    else some { s with consumer := .publish counts .ingestFramesPumped }
  | .tryPop maxFrames counts call =>
    match s.queue.popStep id call with
    | (queue, .running call') =>
      some { s with queue := queue, consumer := .tryPop maxFrames counts call' }
    | (queue, .returned none) =>
      some { s with queue := queue, consumer := .publish counts .ingestFramesPumped }
    | (queue, .returned (some ref)) =>
      some { s with
        queue := queue
        popped := s.popped + 1
        consumer := .frame maxFrames { counts with popped := counts.popped + 1 } ref }
  | .frame maxFrames counts ref =>
    match s.pool.frame ref with
    -- a loan that is not good is counted as a drop, and still released
    | none =>
      let counts' := { counts with routeDrop := counts.routeDrop + 1 }
      some { s with consumer := .release maxFrames counts' ref }
    | some slot => some { s with consumer := .route maxFrames counts ref slot }
  | .route maxFrames counts ref slot =>
    some { s with
      routed := s.routed ++ [(s.pool.slots slot).payload]
      consumer := .routing maxFrames counts ref slot }
  | .routing maxFrames counts ref _ =>
    let counts' := if routed then { counts with routeSuccess := counts.routeSuccess + 1 }
      else { counts with routeDrop := counts.routeDrop + 1 }
    some { s with consumer := .release maxFrames counts' ref }
  | .release maxFrames counts ref =>
    let (pool, released) := s.pool.release ref
    let counts' := if released then counts
      else { counts with releaseFailures := counts.releaseFailures + 1 }
    some { s with pool := pool, consumer := .loop maxFrames counts' }
  | .publish counts counter => some (s.publishStep counts counter)

/-- The inputs: a call of either side where it is between calls, or its next step. -/
def step (source : String) (s : LiveIngest) : IngestInput → Option LiveIngest
  | .pushMessage message =>
    match s.producer with
    | .idle => some { s with producer := .acquire message }
    | _ => none
  | .pumpIngest maxFrames =>
    match s.consumer with
    | .idle => if maxFrames = 0 then some s else some { s with consumer := .loop maxFrames {} }
    | _ => none
  | .producer now => s.pushMessageStep source now
  | .consumer routed => s.pumpIngestStep routed

def machine (source : String) : Machine LiveIngest IngestInput where
  step := step source

/-! ## The invariant -/

end LiveIngest

/-- The payload of a loan. -/
def FramePool.payload (pool : FramePool) (ref : FrameRef) : String := (pool.slots ref.slot).payload

namespace PushMessage

/-- The access of the queue that is in progress. -/
def pushCall : PushMessage → Option (PushCall FrameRef)
  | .tryPush _ call => some call
  | _ => none

/-- The loan that the producer has. -/
def held : PushMessage → List FrameRef
  | .frame _ ref | .set _ ref _ _ | .setPayloadSize _ ref _ | .release ref => [ref]
  | .tryPush _ call => [call.value]
  | .idle | .acquire _ | .drop => []

/-- The message is in the frame from the third field on. -/
def Knows (pool : FramePool) : PushMessage → Prop
  | .set message ref slot field =>
    slot = ref.slot ∧ (field = .marketTicker ∨ field = .seqId → pool.payload ref = message)
  | .setPayloadSize message ref slot => slot = ref.slot ∧ pool.payload ref = message
  | .tryPush message call => pool.payload call.value = message
  | _ => True

theorem Knows.of_payload_eq {pool pool' : FramePool} {producer : PushMessage}
    (h : producer.Knows pool) (heq : pool'.payload = pool.payload) : producer.Knows pool' := by
  rcases producer with _ | _ | _ | _ | _ | _ | _ | _
  · trivial
  · trivial
  · trivial
  · exact ⟨h.1, fun hfield ↦ heq ▸ h.2 hfield⟩
  · exact ⟨h.1, heq ▸ h.2⟩
  · exact (congrFun heq _).trans h
  · trivial
  · trivial

end PushMessage

namespace PumpIngest

/-- The access of the queue that is in progress. -/
def popCall : PumpIngest → Option (PopCall FrameRef)
  | .tryPop _ _ call => some call
  | _ => none

/-- The loan that the consumer has. -/
def held : PumpIngest → List FrameRef
  | .frame _ _ ref | .route _ _ ref _ | .routing _ _ ref _ | .release _ _ ref => [ref]
  | .idle | .loop _ _ | .tryPop _ _ _ | .publish _ _ => []

/-- The same, as long as it has not been routed. -/
def unrouted : PumpIngest → List FrameRef
  | .frame _ _ ref | .route _ _ ref _ => [ref]
  | _ => []

def counts : PumpIngest → PumpCounts
  | .idle => {}
  | .loop _ counts | .tryPop _ counts _ | .frame _ counts _ | .route _ counts _ _
  | .routing _ counts _ _ | .release _ counts _ | .publish counts _ => counts

/-- The router reads the frame of the loan, and still finds the payload it was given. -/
def Knows (pool : FramePool) (routed : List String) : PumpIngest → Prop
  | .route _ _ ref slot => slot = ref.slot
  | .routing _ _ ref slot => slot = ref.slot ∧ routed.getLast? = some (pool.payload ref)
  | _ => True

theorem unrouted_subset_held (consumer : PumpIngest) : consumer.unrouted ⊆ consumer.held := by
  intro ref href
  rcases consumer with _ | _ | _ | _ | _ | _ | _ | _ <;>
    first | exact href | exact absurd href (List.not_mem_nil)

/-- The consumer does not mind what happens to frames that it has not borrowed. -/
theorem Knows.congr {pool pool' : FramePool} {routed : List String} {consumer : PumpIngest}
    (h : consumer.Knows pool routed)
    (hsame : ∀ ref ∈ consumer.held, pool'.slots ref.slot = pool.slots ref.slot) :
    consumer.Knows pool' routed := by
  rcases consumer with _ | _ | _ | _ | _ | ⟨_, _, ref, slot⟩ | _ | _
  · trivial
  · trivial
  · trivial
  · trivial
  · exact h
  · refine ⟨h.1, ?_⟩
    rw [FramePool.payload, hsame ref (List.mem_singleton_self _)]
    exact h.2
  · trivial
  · trivial

end PumpIngest

namespace LiveIngest

/-- The queue holds these loans. -/
structure Inv (capacity : ℕ) (s : LiveIngest) (items : List FrameRef) : Prop where
  capacity_eq : s.pool.capacity = capacity
  queue : s.queue.Inv items s.producer.pushCall s.consumer.popCall
  /-- Every loan is in one of the three places. -/
  lends : s.pool.Lends (s.consumer.held ++ items ++ s.producer.held)
  /-- What was accepted is what was routed and then what is waiting. -/
  payloads : s.accepted = s.routed ++ (s.consumer.unrouted ++ items).map s.pool.payload
  popped : s.popped = s.routed.length + s.consumer.unrouted.length
  producer : s.producer.Knows s.pool
  consumer : s.consumer.Knows s.pool s.routed
  counts : s.consumer.counts.releaseFailures = 0
  failures : s.frameReleaseFailures = 0

variable {capacity : ℕ} {s s' : LiveIngest} {items : List FrameRef}

theorem inv_create {framePoolCapacity : ℕ} (frameQueueCapacity : ℕ)
    (h : framePoolCapacity < 2 ^ 32) :
    (create framePoolCapacity frameQueueCapacity).Inv framePoolCapacity [] where
  capacity_eq := rfl
  queue := SpscQueue.inv_create _ _
  lends := FramePool.lends_create h
  payloads := rfl
  popped := rfl
  producer := trivial
  consumer := trivial
  counts := rfl
  failures := rfl

/-- The producer goes on, and leaves the frames on loan to the queue and to the consumer alone. -/
theorem Inv.withProducer {pool : FramePool} {producer : PushMessage} {droppedCount : ℕ}
    (h : s.Inv capacity items)
    (hqueue : s.queue.Inv items producer.pushCall s.consumer.popCall)
    (hcapacity : pool.capacity = s.pool.capacity)
    (hlends : pool.Lends (s.consumer.held ++ items ++ producer.held))
    (hsame : ∀ ref ∈ s.consumer.held ++ items, pool.slots ref.slot = s.pool.slots ref.slot)
    (hknows : producer.Knows pool) :
    { s with pool := pool, producer := producer, droppedCount := droppedCount }.Inv
      capacity items where
  capacity_eq := hcapacity.trans h.capacity_eq
  queue := hqueue
  lends := hlends
  payloads := by
    rw [h.payloads]
    refine congrArg (s.routed ++ ·) (List.map_congr_left fun ref href ↦ ?_)
    refine congrArg RawFrame.payload (hsame ref ?_).symm
    rcases List.mem_append.mp href with hunrouted | hitem
    · exact List.mem_append_left _ (s.consumer.unrouted_subset_held hunrouted)
    · exact List.mem_append_right _ hitem
  popped := h.popped
  producer := hknows
  consumer := h.consumer.congr fun ref href ↦ hsame ref (List.mem_append_left _ href)
  counts := h.counts
  failures := h.failures

/-! ## Steps of the producer -/

/-- The loan of the producer, put first. -/
theorem Inv.lends_producer {ref : FrameRef} (h : s.Inv capacity items)
    (hheld : s.producer.held = [ref]) : s.pool.Lends (ref :: (s.consumer.held ++ items)) := by
  have hlends := h.lends
  rw [hheld] at hlends
  exact hlends.of_perm (List.perm_append_singleton _ _)

/-- Setting a field keeps the payload once it is there. -/
theorem knows_modifySlot {pool : FramePool} {message source : String} {ref : FrameRef} {now : ℤ}
    {field : FrameField} (h : (PushMessage.set message ref ref.slot field).Knows pool) :
    (match field.next with
      | some field' => PushMessage.set message ref ref.slot field'
      | none => .setPayloadSize message ref ref.slot).Knows
      (pool.modifySlot ref.slot (field.set now source message)) := by
  have hslot : (pool.modifySlot ref.slot (field.set now source message)).slots ref.slot =
      field.set now source message (pool.slots ref.slot) := Function.update_self ..
  have hpayload : field = .marketTicker ∨ field = .seqId → pool.payload ref = message := h.2
  rw [FramePool.payload] at hpayload
  cases field with
  | recvTimestamp => exact ⟨rfl, fun hfield ↦ absurd hfield (by simp)⟩
  | source => exact ⟨rfl, fun hfield ↦ absurd hfield (by simp)⟩
  | payload => exact ⟨rfl, fun _ ↦ congrArg RawFrame.payload hslot⟩
  | marketTicker =>
    exact ⟨rfl, fun _ ↦ (congrArg RawFrame.payload hslot).trans (hpayload (.inl rfl))⟩
  | seqId => exact ⟨rfl, (congrArg RawFrame.payload hslot).trans (hpayload (.inr rfl))⟩

/-- **A step of `push_message`.** -/
theorem Inv.pushMessageStep {source : String} {now : ℤ} (h : s.Inv capacity items)
    (hstep : s.pushMessageStep source now = some s') : ∃ items', s'.Inv capacity items' := by
  rw [LiveIngest.pushMessageStep] at hstep
  have hqueue := h.queue
  have hlends := h.lends
  have hknows := h.producer
  split at hstep
  · exact absurd hstep (by simp)
  · -- the loans are as before, or there is a new one, which is with the producer
    rename_i message hat
    rw [hat] at hqueue hlends
    split at hstep
    · obtain rfl := Option.some.inj hstep
      exact ⟨items, h.withProducer hqueue rfl hlends (fun _ _ ↦ rfl) trivial⟩
    · rename_i pool ref hacquire
      obtain rfl := Option.some.inj hstep
      rw [PushMessage.held, List.append_nil] at hlends
      obtain ⟨hlends', hcapacity, hsame⟩ := hlends.acquire hacquire
      refine ⟨items, h.withProducer hqueue hcapacity (hlends'.of_perm ?_) hsame trivial⟩
      exact (List.perm_append_singleton _ _).symm
  · rename_i message ref hat
    have hfirst := h.lends_producer (congrArg PushMessage.held hat)
    rw [hat] at hqueue hlends
    rw [hfirst.frame_eq List.mem_cons_self] at hstep
    obtain rfl := Option.some.inj hstep
    refine ⟨items, h.withProducer hqueue rfl hlends (fun _ _ ↦ rfl) ⟨rfl, ?_⟩⟩
    rintro (hfield | hfield) <;> exact absurd hfield (by simp)
  · -- the frame that is written to is on loan to the producer and to nobody else
    rename_i message ref slot field hat
    have hfirst := h.lends_producer (congrArg PushMessage.held hat)
    rw [hat] at hqueue hlends hknows
    obtain rfl : slot = ref.slot := hknows.1
    obtain rfl := Option.some.inj hstep
    refine ⟨items, h.withProducer ?_ rfl ?_ hfirst.modifySlot_slots (knows_modifySlot hknows)⟩
    · cases field <;> exact hqueue
    · cases field <;> exact hlends.modifySlot
  · rename_i message ref slot hat
    rw [hat] at hqueue hlends hknows
    obtain rfl := Option.some.inj hstep
    exact ⟨items, h.withProducer (hqueue.startPush _) rfl (hlends.resize _) (fun _ _ ↦ rfl)
      hknows.2⟩
  · rename_i message call hat
    rw [hat] at hqueue hlends hknows
    have heffect := hqueue.pushEffect
    generalize s.queue.pushStep call = result at hstep heffect
    rcases heffect with ⟨hinv, -, hvalue, -⟩ | ⟨hinv, -, -⟩ | ⟨hinv, -, -⟩
    · obtain rfl := Option.some.inj hstep
      refine ⟨items, { h with queue := hinv, lends := ?_, producer := ?_ }⟩
      · dsimp only
        rw [PushMessage.held, hvalue]
        exact hlends
      · dsimp only
        rw [PushMessage.Knows, hvalue]
        exact hknows
    · obtain rfl := Option.some.inj hstep
      exact ⟨items, { h with queue := hinv, lends := hlends, producer := trivial }⟩
    · obtain rfl := Option.some.inj hstep
      refine ⟨items ++ [call.value],
        { h with queue := hinv, lends := ?_, payloads := ?_, producer := trivial }⟩
      · -- the loan moves from the producer to the queue
        rw [← List.append_assoc]
        dsimp only
        rw [PushMessage.held, List.append_nil]
        exact hlends
      · have hlast : [message] = [call.value].map s.pool.payload := congrArg ([·]) hknows.symm
        dsimp only
        rw [h.payloads, hlast, List.append_assoc, ← List.map_append, List.append_assoc]
  · -- the loan of the producer leaves the list, the frames stay as they are
    rename_i ref hat
    have hfirst := h.lends_producer (congrArg PushMessage.held hat)
    rw [hat] at hqueue
    obtain rfl := Option.some.inj hstep
    obtain ⟨-, hlends', hslots, hcapacity⟩ := hfirst.release
    refine ⟨items, h.withProducer hqueue hcapacity ?_ (fun _ _ ↦ by rw [hslots]) trivial⟩
    rw [PushMessage.held, List.append_nil]
    exact hlends'
  · rename_i hat
    rw [hat] at hqueue hlends
    obtain rfl := Option.some.inj hstep
    exact ⟨items, h.withProducer hqueue rfl hlends (fun _ _ ↦ rfl) trivial⟩

/-! ## Steps of the consumer -/

theorem Inv.publishStep {counts : PumpCounts} {counter : PumpCounter} (h : s.Inv capacity items)
    (hat : s.consumer = .publish counts counter) :
    (s.publishStep counts counter).Inv capacity items := by
  have hqueue := h.queue
  have hlends := h.lends
  have hpayloads := h.payloads
  have hpopped := h.popped
  have hcounts := h.counts
  rw [hat] at hqueue hlends hpayloads hpopped hcounts
  cases counter with
  | ingestFramesPumped =>
    exact ⟨h.capacity_eq, hqueue, hlends, hpayloads, hpopped, h.producer, trivial, hcounts,
      h.failures⟩
  | routeSuccess =>
    exact ⟨h.capacity_eq, hqueue, hlends, hpayloads, hpopped, h.producer, trivial, hcounts,
      h.failures⟩
  | routeDrop =>
    exact ⟨h.capacity_eq, hqueue, hlends, hpayloads, hpopped, h.producer, trivial, hcounts,
      h.failures⟩
  | frameReleaseFailures =>
    refine ⟨h.capacity_eq, hqueue, hlends, hpayloads, hpopped, h.producer, trivial, rfl, ?_⟩
    exact (congrArg₂ (· + ·) h.failures hcounts).trans (Nat.add_zero 0)

/-- **A step of `pump_ingest`.** -/
theorem Inv.pumpIngestStep {routed : Bool} (h : s.Inv capacity items)
    (hstep : s.pumpIngestStep routed = some s') : ∃ items', s'.Inv capacity items' := by
  rw [LiveIngest.pumpIngestStep] at hstep
  have hqueue := h.queue
  have hlends := h.lends
  have hpayloads := h.payloads
  have hpopped := h.popped
  have hknows := h.consumer
  have hcounts := h.counts
  split at hstep
  · exact absurd hstep (by simp)
  · rename_i maxFrames counts hat
    rw [hat] at hqueue hlends hpayloads hpopped hcounts
    split at hstep
    · obtain rfl := Option.some.inj hstep
      exact ⟨items, h.capacity_eq, hqueue.startPop, hlends, hpayloads, hpopped, h.producer,
        trivial, hcounts, h.failures⟩
    · obtain rfl := Option.some.inj hstep
      exact ⟨items, h.capacity_eq, hqueue, hlends, hpayloads, hpopped, h.producer, trivial,
        hcounts, h.failures⟩
  · rename_i maxFrames counts call hat
    rw [hat] at hqueue hlends hpayloads hpopped hcounts
    have heffect := hqueue.popEffect id
    generalize s.queue.popStep id call = result at hstep heffect
    rcases heffect with ⟨hinv, -, -⟩ | ⟨hinv, -, -⟩ | ⟨rfl, hinv, -, -⟩
    · obtain rfl := Option.some.inj hstep
      exact ⟨items, h.capacity_eq, hinv, hlends, hpayloads, hpopped, h.producer, trivial,
        hcounts, h.failures⟩
    · obtain rfl := Option.some.inj hstep
      exact ⟨items, h.capacity_eq, hinv, hlends, hpayloads, hpopped, h.producer, trivial,
        hcounts, h.failures⟩
    · -- the loan moves from the queue to the consumer
      obtain rfl := Option.some.inj hstep
      exact ⟨_, h.capacity_eq, hinv, hlends, hpayloads, congrArg (· + 1) hpopped, h.producer,
        trivial, hcounts, h.failures⟩
  · rename_i maxFrames counts ref hat
    rw [hat] at hqueue hlends hpayloads hpopped hcounts
    rw [hlends.frame_eq List.mem_cons_self] at hstep
    obtain rfl := Option.some.inj hstep
    exact ⟨items, h.capacity_eq, hqueue, hlends, hpayloads, hpopped, h.producer, rfl, hcounts,
      h.failures⟩
  · -- the payload moves from what is waiting to what is routed
    rename_i maxFrames counts ref slot hat
    rw [hat] at hqueue hlends hpayloads hpopped hknows hcounts
    obtain rfl : slot = ref.slot := hknows
    obtain rfl := Option.some.inj hstep
    refine ⟨items, h.capacity_eq, hqueue, hlends, ?_, ?_, h.producer, ⟨rfl, ?_⟩, hcounts,
      h.failures⟩
    · exact hpayloads.trans
        (List.append_assoc s.routed [s.pool.payload ref] (items.map s.pool.payload)).symm
    · rw [List.length_append]
      exact hpopped
    · exact List.getLast?_concat
  · rename_i maxFrames counts ref slot hat
    rw [hat] at hqueue hlends hpayloads hpopped hcounts
    obtain rfl := Option.some.inj hstep
    refine ⟨items, h.capacity_eq, hqueue, hlends, hpayloads, hpopped, h.producer, trivial, ?_,
      h.failures⟩
    cases routed <;> exact hcounts
  · -- the loan comes first in the list, so it is good and its release succeeds
    rename_i maxFrames counts ref hat
    rw [hat] at hqueue hlends hpayloads hpopped hcounts
    obtain ⟨hreleased, hlends', hslots, hcapacity⟩ := hlends.release
    generalize s.pool.release ref = result at hstep hreleased hlends' hslots hcapacity
    obtain ⟨pool, released⟩ := result
    obtain rfl : released = true := hreleased
    obtain rfl := Option.some.inj hstep
    have hpayload : pool.payload = s.pool.payload := by
      funext ref
      exact congrArg (fun slots ↦ (slots ref.slot).payload) hslots
    refine ⟨items, hcapacity.trans h.capacity_eq, hqueue, hlends', ?_, hpopped, ?_, trivial,
      hcounts, h.failures⟩
    · dsimp only
      rw [hpayload]
      exact hpayloads
    · exact h.producer.of_payload_eq hpayload
  · rename_i counts counter hat
    obtain rfl := Option.some.inj hstep
    exact ⟨items, h.publishStep hat⟩

/-- **One step** of either side. -/
theorem Inv.step {source : String} {input : IngestInput} (h : s.Inv capacity items)
    (hstep : s.step source input = some s') : ∃ items', s'.Inv capacity items' := by
  cases input with
  | pushMessage message =>
    rw [LiveIngest.step] at hstep
    have hqueue := h.queue
    have hlends := h.lends
    split at hstep
    · rename_i hat
      rw [hat] at hqueue hlends
      obtain rfl := Option.some.inj hstep
      exact ⟨items, h.withProducer hqueue rfl hlends (fun _ _ ↦ rfl) trivial⟩
    · exact absurd hstep (by simp)
  | pumpIngest maxFrames =>
    rw [LiveIngest.step] at hstep
    have hqueue := h.queue
    have hlends := h.lends
    have hpayloads := h.payloads
    have hpopped := h.popped
    split at hstep
    · rename_i hat
      rw [hat] at hqueue hlends hpayloads hpopped
      split at hstep
      · obtain rfl := Option.some.inj hstep
        exact ⟨items, h⟩
      · obtain rfl := Option.some.inj hstep
        exact ⟨items, h.capacity_eq, hqueue, hlends, hpayloads, hpopped, h.producer, trivial, rfl,
          h.failures⟩
    · exact absurd hstep (by simp)
  | producer now => exact h.pushMessageStep hstep
  | consumer routed => exact h.pumpIngestStep hstep

theorem inv_of_reaches {source : String} {framePoolCapacity frameQueueCapacity : ℕ}
    (hcapacity : framePoolCapacity < 2 ^ 32)
    (h : (machine source).Reaches (create framePoolCapacity frameQueueCapacity) s) :
    ∃ items, s.Inv framePoolCapacity items := by
  induction h with
  | refl => exact ⟨[], inv_create frameQueueCapacity hcapacity⟩
  | tail _ _ hstep ih =>
    obtain ⟨items, hinv⟩ := ih
    exact hinv.step hstep

/-! ## Frames are neither leaked nor mixed -/

/-- What is true of the ingest path at every moment. -/
structure Sound (capacity : ℕ) (s : LiveIngest) : Prop where
  /-- `frame` never returns null. -/
  producer_frame : ∀ {message ref}, s.producer = .frame message ref → s.pool.frame ref ≠ none
  consumer_frame : ∀ {maxFrames counts ref}, s.consumer = .frame maxFrames counts ref →
    s.pool.frame ref ≠ none
  /-- Every release succeeds. -/
  producer_release : ∀ {ref}, s.producer = .release ref → (s.pool.release ref).2 = true
  consumer_release : ∀ {maxFrames counts ref}, s.consumer = .release maxFrames counts ref →
    (s.pool.release ref).2 = true
  failures : s.frameReleaseFailures = 0
  /-- The payloads routed are the first ones accepted. -/
  routed : s.routed <+: s.accepted
  /-- One payload is routed for each loan popped, but for the one that is about to be. -/
  popped : s.popped = s.routed.length + s.consumer.unrouted.length
  /-- What was accepted and not popped is in the queue. -/
  none_lost : s.accepted.length = s.popped + s.queue.size
  /-- A payload does not change while it is being routed. -/
  routing : ∀ {maxFrames counts ref slot}, s.consumer = .routing maxFrames counts ref slot →
    s.routed.getLast? = some (s.pool.slots slot).payload
  balance : s.producer = .idle → s.consumer = .idle →
    s.pool.available + s.queue.size = capacity

theorem Inv.sound (h : s.Inv capacity items) : s.Sound capacity where
  producer_frame hat := by
    rw [(h.lends_producer (congrArg PushMessage.held hat)).frame_eq List.mem_cons_self]
    simp
  consumer_frame hat := by
    have hlends := h.lends
    rw [hat] at hlends
    rw [hlends.frame_eq List.mem_cons_self]
    simp
  producer_release hat := (h.lends_producer (congrArg PushMessage.held hat)).release.1
  consumer_release hat := by
    have hlends := h.lends
    rw [hat] at hlends
    exact hlends.release.1
  failures := h.failures
  routed := by
    rw [h.payloads]
    exact List.prefix_append _ _
  popped := h.popped
  none_lost := by
    rw [h.payloads, h.popped, h.queue.size_eq, List.length_append, List.length_map,
      List.length_append, Nat.add_assoc]
  routing {maxFrames counts ref slot} hat := by
    have hknows := h.consumer
    rw [hat] at hknows
    obtain ⟨rfl, hlast⟩ := hknows
    exact hlast
  balance hproducer hconsumer := by
    have hlends := h.lends
    rw [hproducer, hconsumer, PushMessage.held, PumpIngest.held, List.append_nil,
      List.nil_append] at hlends
    rw [h.queue.size_eq, ← h.capacity_eq]
    exact hlends.available_add

end LiveIngest

/-- **Ingest neither leaks frames nor mixes payloads**, for all capacities and every interleaving of
the sink with the pump. -/
theorem ingest_sound {source : String} {framePoolCapacity frameQueueCapacity : ℕ} {s : LiveIngest}
    (hcapacity : framePoolCapacity < 2 ^ 32)
    (h : (LiveIngest.machine source).Reaches
      (.create framePoolCapacity frameQueueCapacity) s) :
    s.Sound framePoolCapacity := by
  obtain ⟨items, hinv⟩ := LiveIngest.inv_of_reaches hcapacity h
  exact hinv.sound

/-- A run in which two messages are pushed into a pool of one frame: the first is routed, and the
second is dropped, as the frame is on loan. -/
def oneFrameRun : List IngestInput :=
  .pushMessage "a" :: List.replicate 12 (.producer 5) ++ .pumpIngest 1 ::
    List.replicate 8 (.consumer true) ++ .pushMessage "b" :: List.replicate 2 (.producer 6) ++
    List.replicate 6 (.consumer true)

theorem ingest_sound_one_frame : ∃ s, (LiveIngest.machine "ws").Reaches (.create 1 0) s ∧
    s.routed = ["a"] ∧ s.droppedCount = 1 ∧ s.pool.available + s.queue.size = 1 ∧
    s.Sound 1 := by
  have hrun : ((LiveIngest.machine "ws").runVia (fun _ _ ↦ True) (.create 1 0) oneFrameRun).any
      (fun s ↦ s.routed = ["a"] ∧ s.droppedCount = 1 ∧
        s.pool.available + s.queue.size = 1) = true := by
    decide
  obtain ⟨s, hreaches, hlast⟩ := Machine.exists_of_runVia hrun
  obtain ⟨hrouted, hdropped, hbalance⟩ := of_decide_eq_true hlast
  exact ⟨s, hreaches, hrouted, hdropped, hbalance, ingest_sound (by decide) hreaches⟩

end TradingEngine
