import TradingEngine.Pipeline.LiveIngest
import TradingEngine.Pipeline.ShardedPipeline

/-!
# The live pipeline

`LivePipeline` puts the ingest path in front of the router and the shards. The feed thread pushes
messages into the frame pool; the thread of the application pumps them through the router into the
queues of the shards, and starts and stops the pipeline between two pumps; each shard has a worker.
All of them run at once.

The two halves are machines of their own and are not modelled again. They meet in one place: while
`pump_ingest` is inside `Router::route`, its next steps are those of the router. `pushed` and
`offered` record the messages that came in and the frames that the router was called with.

The second part says what a step of either half can do, as far as the other half can tell.
-/

namespace TradingEngine

/-- What the pipeline is made of: its configuration, and what else it is given. -/
structure LivePipelineParts extends ShardedPipelineConfig where
  source : String := "kalshi"
  framePoolCapacity : ℕ := 8192
  frameQueueCapacity : ℕ := 8192

/-- Where `Router::route` is, while `pump_ingest` waits for it. -/
inductive RouteCall
  | entering
  | dispatching
  | returned (routed : Bool)
  deriving DecidableEq

/-- The router has returned when it is idle again. -/
def RouteCall.after (router : RouterThread) (result : Bool) : RouteCall :=
  match router with
  | .idle => .returned result
  | _ => .dispatching

theorem RouteCall.after_idle {router : RouterThread} (h : router = .idle) (result : Bool) :
    RouteCall.after router result = .returned result := by
  rw [h]
  rfl

theorem RouteCall.after_busy {router : RouterThread} (h : router ≠ .idle) (result : Bool) :
    RouteCall.after router result = .dispatching := by
  cases router with
  | idle => exact absurd rfl h
  | dispatch frame event => rfl
  | tryPush frame shardId call => rfl
  | drop => rfl

/-- Where a `start` or a `stop` is. A `start` that fails stops the shards it has started, which is
what `stop` does to all of them. -/
inductive LiveControl
  | idle
  | starting (shardId : ℕ)
  | stopping (shardId last : ℕ)
  | joining (shardId last : ℕ)
  deriving DecidableEq

/-- What had been counted when the counters were last set to zero. -/
structure LiveTotals where
  ingestFramesPumped : ℕ := 0
  routeSuccess : ℕ := 0
  routeDrop : ℕ := 0
  consumed : ℕ → ℕ := fun _ ↦ 0

structure LivePipeline where
  ingest : LiveIngest
  sharded : ShardedPipeline
  route : RouteCall := .entering
  control : LiveControl := .idle
  running : Bool := false
  /-- The messages that `push_message` was called with. -/
  pushed : List String := []
  /-- The frames that `route` was called with. -/
  offered : List RawFrame := []
  /-- The events that each event handler was called with. -/
  handled : ℕ → List NormalizedEvent := fun _ ↦ []
  before : LiveTotals := {}

inductive LiveInput
  | pushMessage (message : String)
  /-- The next step of the feed thread, with a reading of the clock. -/
  | producer (now : ℤ)
  | pumpIngest (maxFrames : ℕ)
  | start
  | stop
  /-- The next step of the pump, the router included. -/
  | pump
  /-- The next step of a `start` or `stop`. -/
  | control
  /-- The next step of a shard, with a result of its event handler. -/
  | shard (shardId : ℕ) (handled : Bool)

namespace LivePipeline

variable (config : LivePipelineParts)

def create : LivePipeline where
  ingest := .create config.framePoolCapacity config.frameQueueCapacity
  sharded := .create config.toShardedPipelineConfig

/-! ## The pump -/

/-- What `route` returns after its last step: a frame that is not dropped there was accepted. -/
def routeResult : RouterThread → Bool
  | .drop => false
  | _ => true

/-- A step of the router, on the frame in this slot. -/
def routeStep (s : LivePipeline) (slot : ℕ) : Option LivePipeline :=
  match s.route with
  | .entering =>
    let frame := s.ingest.pool.slots slot
    (s.sharded.step config.toShardedPipelineConfig (.route frame)).map fun sharded ↦
      { s with
        sharded := sharded
        offered := s.offered ++ [frame]
        -- a frame that cannot be decoded leaves the router idle
        route := .after sharded.router false }
  | .dispatching =>
    (s.sharded.step config.toShardedPipelineConfig .router).map fun sharded ↦
      { s with
        sharded := sharded
        route := .after sharded.router (routeResult s.sharded.router) }
  | .returned routed =>
    (s.ingest.pumpIngestStep routed).map fun ingest ↦
      { s with ingest := ingest, route := .entering }

/-- A step of `pump_ingest`. -/
def pumpStep (s : LivePipeline) : Option LivePipeline :=
  match s.ingest.consumer with
  | .routing _ _ _ slot => s.routeStep config slot
  | _ => (s.ingest.pumpIngestStep false).map fun ingest ↦ { s with ingest := ingest }

/-! ## Start and stop -/

/-- The counters start again and the pipeline is running. -/
def finishStart (s : LivePipeline) : LivePipeline :=
  { s with
    ingest := { s.ingest with
      ingestFramesPumped := 0
      routeSuccess := 0
      routeDrop := 0
      frameReleaseFailures := 0 }
    before := { s.before with
      ingestFramesPumped := s.before.ingestFramesPumped + s.ingest.ingestFramesPumped
      routeSuccess := s.before.routeSuccess + s.ingest.routeSuccess
      routeDrop := s.before.routeDrop + s.ingest.routeDrop }
    running := true
    control := .idle }

/-- A shard starts with its own counters at zero. -/
def startShard (s : LivePipeline) (shardId : ℕ) : LivePipeline :=
  match s.sharded.step config.toShardedPipelineConfig (.start shardId) with
  | none => { s with control := .stopping 0 shardId }
  | some sharded =>
    { s with
      sharded := sharded
      before := { s.before with
        consumed := Function.update s.before.consumed shardId
          (s.sharded.shards shardId).consumed.length }
      control := .starting (shardId + 1) }

def controlStep (s : LivePipeline) : Option LivePipeline :=
  match s.control with
  | .idle => none
  | .starting shardId =>
    if shardId < config.resolvedShardCount then some (s.startShard config shardId)
    else some s.finishStart
  | .stopping shardId last =>
    if shardId < last then
      match (s.sharded.shards shardId).worker with
      -- no thread to join
      | .notRunning => some { s with control := .stopping (shardId + 1) last }
      | _ =>
        (s.sharded.step config.toShardedPipelineConfig (.requestStop shardId)).map fun sharded ↦
          { s with sharded := sharded, control := .joining shardId last }
    else some { s with running := false, control := .idle }
  | .joining shardId last =>
    match (s.sharded.shards shardId).worker with
    | .notRunning => some { s with control := .stopping (shardId + 1) last }
    | _ => none

/-! ## The machine -/

/-- A step of a shard, which may be the call of its event handler. -/
def shardStep (s : LivePipeline) (shardId : ℕ) (handled : Bool) : Option LivePipeline :=
  (s.sharded.step config.toShardedPipelineConfig (.shard shardId handled)).map fun sharded ↦
    { s with
      sharded := sharded
      handled := match (sharded.shards shardId).worker with
        | .handle event => Function.update s.handled shardId (s.handled shardId ++ [event])
        | _ => s.handled }

/-- The inputs. `start`, `stop` and `pump_ingest` are called by one thread. -/
def step (s : LivePipeline) : LiveInput → Option LivePipeline
  | .pushMessage message =>
    (s.ingest.step config.source (.pushMessage message)).map fun ingest ↦
      { s with ingest := ingest, pushed := s.pushed ++ [message] }
  | .producer now =>
    (s.ingest.step config.source (.producer now)).map fun ingest ↦ { s with ingest := ingest }
  | .pumpIngest maxFrames =>
    if s.control = .idle then
      (s.ingest.step config.source (.pumpIngest maxFrames)).map fun ingest ↦
        { s with ingest := ingest }
    else none
  | .start =>
    match s.ingest.consumer with
    | .idle =>
      if s.control ≠ .idle then none
      else if s.running then some s
      else some { s with control := .starting 0 }
    | _ => none
  | .stop =>
    match s.ingest.consumer with
    | .idle =>
      if s.control ≠ .idle then none
      else if s.running then some { s with control := .stopping 0 config.resolvedShardCount }
      else some s
    | _ => none
  | .pump => s.pumpStep config
  | .control => s.controlStep config
  | .shard shardId handled => s.shardStep config shardId handled

def machine : Machine LivePipeline LiveInput where
  step := step config

end LivePipeline

/-! ## What a step does to the router -/

/-- The router has this frame in hand. -/
def RouterThread.Carries (frame : RawFrame) : RouterThread → Prop
  | .idle => False
  | .dispatch frame' _ | .tryPush frame' _ _ => frame' = frame
  | .drop => True

namespace ShardedPipeline

variable {config : ShardedPipelineConfig} {s s' : ShardedPipeline}

/-- A frame that is routed is in the hand of the router, unless it cannot be decoded. -/
theorem step_route {frame : RawFrame} (hstep : s.step config (.route frame) = some s') :
    s'.accepted = s.accepted ∧ s'.droppedCount = s.droppedCount ∧ s'.shards = s.shards ∧
      (config.route frame = none ∧ s'.router = .idle ∨
        config.route frame ≠ none ∧ s'.router ≠ .idle ∧ s'.router.Carries frame) := by
  rw [step] at hstep
  split at hstep
  · rename_i hidle
    obtain rfl := Option.some.inj hstep
    rw [routeFrame]
    split
    · rename_i hroute
      exact ⟨rfl, rfl, rfl, .inl ⟨hroute, hidle⟩⟩
    · rename_i event hroute
      exact ⟨rfl, rfl, rfl, .inr ⟨by simp [hroute], by simp, rfl⟩⟩
  · exact absurd hstep (by simp)

/-- **A step of the router** goes on with the frame in hand, drops it or has it accepted. -/
theorem step_router {frame : RawFrame} (hcarries : s.router.Carries frame)
    (hstep : s.step config .router = some s') :
    s'.shards = s.shards ∧
      (s'.accepted = s.accepted ∧ s'.droppedCount = s.droppedCount ∧ s'.router ≠ .idle ∧
          s'.router.Carries frame ∨
        s.router = .drop ∧ s'.accepted = s.accepted ∧ s'.droppedCount = s.droppedCount + 1 ∧
          s'.router = .idle ∨
        s.router ≠ .drop ∧ s'.accepted = s.accepted ++ [frame] ∧
          s'.droppedCount = s.droppedCount ∧ s'.router = .idle) := by
  rw [step, dispatchStep] at hstep
  split at hstep
  · exact absurd hstep (by simp)
  · rename_i frame' event hat
    rw [hat] at hcarries
    split at hstep
    · obtain rfl := Option.some.inj hstep
      exact ⟨rfl, .inl ⟨rfl, rfl, by simp, trivial⟩⟩
    · obtain rfl := Option.some.inj hstep
      exact ⟨rfl, .inl ⟨rfl, rfl, by simp, hcarries⟩⟩
  · rename_i frame' shardId call hat
    rw [hat] at hcarries ⊢
    obtain rfl : frame' = frame := hcarries
    split at hstep
    · obtain rfl := Option.some.inj hstep
      exact ⟨rfl, .inl ⟨rfl, rfl, by simp, rfl⟩⟩
    · obtain rfl := Option.some.inj hstep
      exact ⟨rfl, .inl ⟨rfl, rfl, by simp, trivial⟩⟩
    · obtain rfl := Option.some.inj hstep
      exact ⟨rfl, .inr (.inr ⟨by simp, rfl, rfl, rfl⟩)⟩
  · rename_i hat
    obtain rfl := Option.some.inj hstep
    exact ⟨rfl, .inr (.inl ⟨hat, rfl, rfl, rfl⟩)⟩

/-- Shards do not touch the router, nor each other. -/
theorem step_shard {shardId : ℕ} {handled : Bool}
    (hstep : s.step config (.shard shardId handled) = some s') :
    s'.accepted = s.accepted ∧ s'.droppedCount = s.droppedCount ∧ s'.router = s.router ∧
      ∀ i ≠ shardId, s'.shards i = s.shards i := by
  rw [step] at hstep
  split at hstep
  · rw [shardStep] at hstep
    split at hstep
    · split at hstep
      all_goals
        obtain rfl := Option.some.inj hstep
        exact ⟨rfl, rfl, rfl, fun i hi ↦ Function.update_of_ne hi ..⟩
    · obtain ⟨shard, -, rfl⟩ := Option.map_eq_some_iff.mp hstep
      exact ⟨rfl, rfl, rfl, fun i hi ↦ Function.update_of_ne hi ..⟩
  · exact absurd hstep (by simp)

theorem step_start {shardId : ℕ} (hstep : s.step config (.start shardId) = some s') :
    ∃ shard, (s.shards shardId).start = some shard ∧ s' = s.setShard shardId shard := by
  rw [step] at hstep
  split at hstep
  · obtain ⟨shard, hstart, rfl⟩ := Option.map_eq_some_iff.mp hstep
    exact ⟨shard, hstart, rfl⟩
  · exact absurd hstep (by simp)

theorem step_requestStop {shardId : ℕ} (hstep : s.step config (.requestStop shardId) = some s') :
    s' = s.setShard shardId (s.shards shardId).requestStop := by
  rw [step] at hstep
  split at hstep
  · exact (Option.some.inj hstep).symm
  · exact absurd hstep (by simp)

end ShardedPipeline

/-! ## What a `start` or a `stop` does -/

namespace LivePipeline

variable {config : LivePipelineParts} {s s' : LivePipeline}

/-- It begins between two calls of the pump, and only notes that it has. -/
theorem step_begin {input : LiveInput} (hinput : input = .start ∨ input = .stop)
    (hstep : s.step config input = some s') :
    s.ingest.consumer = .idle ∧ ∃ control, s' = { s with control := control } := by
  obtain rfl | rfl := hinput
  all_goals
    rw [LivePipeline.step] at hstep
    split at hstep
    · rename_i hidle
      split at hstep
      · exact absurd hstep (by simp)
      split at hstep
      all_goals
        obtain rfl := Option.some.inj hstep
        exact ⟨hidle, _, rfl⟩
    · exact absurd hstep (by simp)

/-- **What its next step does**, as far as the other threads can tell. -/
inductive ControlMoves (config : LivePipelineParts) (s : LivePipeline) : LivePipeline → Prop
  | started (shardId : ℕ) : ControlMoves config s (s.startShard config shardId)
  | up : ControlMoves config s s.finishStart
  /-- There is nothing to do for a shard, or for any. -/
  | passed (control : LiveControl) (running : Bool) :
      ControlMoves config s { s with control := control, running := running }
  | asked {shardId : ℕ} (control : LiveControl)
      (hrequest : s.sharded.step config.toShardedPipelineConfig (.requestStop shardId) =
        some (s.sharded.setShard shardId (s.sharded.shards shardId).requestStop)) :
      ControlMoves config s { s with
        sharded := s.sharded.setShard shardId (s.sharded.shards shardId).requestStop
        control := control }

theorem controlMoves_of_controlStep (hstep : s.controlStep config = some s') :
    ControlMoves config s s' := by
  rw [controlStep] at hstep
  split at hstep
  · exact absurd hstep (by simp)
  · split at hstep
    · obtain rfl := Option.some.inj hstep
      exact .started _
    · obtain rfl := Option.some.inj hstep
      exact .up
  · split at hstep
    · split at hstep
      · obtain rfl := Option.some.inj hstep
        exact .passed _ s.running
      · obtain ⟨sharded, hrequest, rfl⟩ := Option.map_eq_some_iff.mp hstep
        obtain rfl := ShardedPipeline.step_requestStop hrequest
        exact .asked _ hrequest
    · obtain rfl := Option.some.inj hstep
      exact .passed _ _
  · split at hstep
    · obtain rfl := Option.some.inj hstep
      exact .passed _ s.running
    · exact absurd hstep (by simp)

end LivePipeline

/-! ## What a step does to the ingest path -/

/-- A frame as the sink leaves it: the market and the sequence id are for the decoder to find. -/
def RawFrame.IsBlank (frame : RawFrame) : Prop := frame.marketTicker = "" ∧ frame.seqId = none

/-- The producer is about to store this message, or to give up on it. -/
def PushMessage.Carries (message : String) : PushMessage → Prop
  | .idle => False
  | .acquire message' | .frame message' _ | .set message' _ _ _ | .setPayloadSize message' _ _
  | .tryPush message' _ => message' = message
  | .release _ | .drop => True

def PumpIngest.IsRouting : PumpIngest → Prop
  | .routing _ _ _ _ => True
  | _ => False

/-- The part of the local counters that is still to be added to those of the pipeline. -/
def PumpIngest.unpublished : PumpIngest → PumpCounts
  | .publish counts .ingestFramesPumped => counts
  | .publish counts .routeSuccess => { counts with popped := 0 }
  | .publish counts .routeDrop => { counts with popped := 0, routeSuccess := 0 }
  | .publish counts .frameReleaseFailures =>
    { counts with popped := 0, routeSuccess := 0, routeDrop := 0 }
  | consumer => consumer.counts

namespace LiveIngest

variable {s s' : LiveIngest} {source : String}

/-- All frames of the pool are blank. -/
def IsBlank (s : LiveIngest) : Prop := ∀ slot, (s.pool.slots slot).IsBlank

theorem acquire_isBlank {pool pool' : FramePool} {ref : FrameRef} {timestampNs : ℕ}
    (h : ∀ slot, (pool.slots slot).IsBlank)
    (hacquire : pool.acquire timestampNs = some (pool', ref)) (slot : ℕ) :
    (pool'.slots slot).IsBlank := by
  rw [FramePool.acquire] at hacquire
  split at hacquire
  · exact absurd hacquire (by simp)
  · rename_i lent _
    obtain ⟨rfl, rfl⟩ := Prod.mk.inj (Option.some.inj hacquire)
    by_cases hslot : slot = lent
    · dsimp only
      rw [hslot, Function.update_self]
      exact ⟨rfl, rfl⟩
    · dsimp only
      rw [Function.update_of_ne hslot]
      exact h slot

theorem set_isBlank {frame : RawFrame} (h : frame.IsBlank) (now : ℤ) (source message : String)
    (field : FrameField) : (field.set now source message frame).IsBlank := by
  cases field with
  | recvTimestamp => exact h
  | source => exact h
  | payload => exact h
  | marketTicker => exact ⟨rfl, h.2⟩
  | seqId => exact ⟨h.1, rfl⟩

theorem release_slots (pool : FramePool) (ref : FrameRef) :
    (pool.release ref).1.slots = pool.slots := by
  rw [FramePool.release]
  split <;> rfl

/-- **A step of the producer** concerns nothing of the pump, and goes on with the message, drops it
or has it accepted. -/
theorem pushMessageStep_cases {now : ℤ} {message : String} (hcarries : s.producer.Carries message)
    (hstep : s.pushMessageStep source now = some s') :
    ∃ pool queue producer droppedCount accepted,
      s' = { s with
        pool := pool
        queue := queue
        producer := producer
        droppedCount := droppedCount
        accepted := accepted } ∧
      (s.IsBlank → s'.IsBlank) ∧
      (producer ≠ .idle ∧ producer.Carries message ∧ droppedCount = s.droppedCount ∧
          accepted = s.accepted ∨
        producer = .idle ∧ droppedCount = s.droppedCount + 1 ∧ accepted = s.accepted ∨
        producer = .idle ∧ droppedCount = s.droppedCount ∧ accepted = s.accepted ++ [message]) := by
  rw [pushMessageStep] at hstep
  split at hstep
  · exact absurd hstep (by simp)
  · rename_i message' hat
    rw [hat] at hcarries
    split at hstep
    · obtain rfl := Option.some.inj hstep
      exact ⟨_, _, _, _, _, rfl, id, .inl ⟨by simp, trivial, rfl, rfl⟩⟩
    · rename_i pool ref hacquire
      obtain rfl := Option.some.inj hstep
      exact ⟨_, _, _, _, _, rfl, fun hblank ↦ acquire_isBlank hblank hacquire,
        .inl ⟨by simp, hcarries, rfl, rfl⟩⟩
  · rename_i message' ref hat
    rw [hat] at hcarries
    split at hstep
    · obtain rfl := Option.some.inj hstep
      exact ⟨_, _, _, _, _, rfl, id, .inl ⟨by simp, trivial, rfl, rfl⟩⟩
    · obtain rfl := Option.some.inj hstep
      exact ⟨_, _, _, _, _, rfl, id, .inl ⟨by simp, hcarries, rfl, rfl⟩⟩
  · rename_i message' ref slot field hat
    rw [hat] at hcarries
    obtain rfl := Option.some.inj hstep
    refine ⟨_, _, _, _, _, rfl, fun hblank slot' ↦ ?_, .inl ⟨?_, ?_, rfl, rfl⟩⟩
    · by_cases hslot : slot' = slot
      · dsimp only [FramePool.modifySlot]
        rw [hslot, Function.update_self]
        exact set_isBlank (hblank slot) now source message' field
      · dsimp only [FramePool.modifySlot]
        rw [Function.update_of_ne hslot]
        exact hblank slot'
    · cases field <;> simp [FrameField.next]
    · cases field <;> exact hcarries
  · rename_i message' ref slot hat
    rw [hat] at hcarries
    obtain rfl := Option.some.inj hstep
    exact ⟨_, _, _, _, _, rfl, id, .inl ⟨by simp, hcarries, rfl, rfl⟩⟩
  · rename_i message' call hat
    rw [hat] at hcarries
    obtain rfl : message' = message := hcarries
    split at hstep
    · obtain rfl := Option.some.inj hstep
      exact ⟨_, _, _, _, _, rfl, id, .inl ⟨by simp, rfl, rfl, rfl⟩⟩
    · obtain rfl := Option.some.inj hstep
      exact ⟨_, _, _, _, _, rfl, id, .inl ⟨by simp, trivial, rfl, rfl⟩⟩
    · obtain rfl := Option.some.inj hstep
      exact ⟨_, _, _, _, _, rfl, id, .inr (.inr ⟨rfl, rfl, rfl⟩)⟩
  · rename_i ref hat
    obtain rfl := Option.some.inj hstep
    refine ⟨_, _, _, _, _, rfl, fun hblank slot ↦ ?_, .inl ⟨by simp, trivial, rfl, rfl⟩⟩
    dsimp only
    rw [release_slots]
    exact hblank slot
  · obtain rfl := Option.some.inj hstep
    exact ⟨_, _, _, _, _, rfl, id, .inr (.inl ⟨rfl, rfl, rfl⟩)⟩

/-- What the pump has counted, published or not. -/
def total (s : LiveIngest) : PumpCounts where
  popped := s.ingestFramesPumped + s.consumer.unpublished.popped
  routeSuccess := s.routeSuccess + s.consumer.unpublished.routeSuccess
  routeDrop := s.routeDrop + s.consumer.unpublished.routeDrop
  releaseFailures := s.frameReleaseFailures + s.consumer.unpublished.releaseFailures

/-- **A step of the pump** concerns nothing of the producer. It pops a loan, enters the router,
comes back from it, or does nothing that is counted. -/
theorem pumpIngestStep_cases {capacity : ℕ} {routed : Bool} (hsound : s.Sound capacity)
    (hstep : s.pumpIngestStep routed = some s') :
    (s'.producer = s.producer ∧ s'.accepted = s.accepted ∧ s'.droppedCount = s.droppedCount ∧
      s'.pool.slots = s.pool.slots) ∧
    (¬s.consumer.IsRouting ∧ ¬s'.consumer.IsRouting ∧ s'.routed = s.routed ∧
        s'.popped = s.popped ∧ s'.total = s.total ∨
      ¬s.consumer.IsRouting ∧ ¬s'.consumer.IsRouting ∧ s'.routed = s.routed ∧
        s'.popped = s.popped + 1 ∧ s'.total = { s.total with popped := s.total.popped + 1 } ∨
      ¬s.consumer.IsRouting ∧ s'.consumer.IsRouting ∧ s'.popped = s.popped ∧
        s'.total = s.total ∧ (∃ payload, s'.routed = s.routed ++ [payload]) ∨
      s.consumer.IsRouting ∧ ¬s'.consumer.IsRouting ∧ s'.routed = s.routed ∧
        s'.popped = s.popped ∧ s'.total =
          if routed then { s.total with routeSuccess := s.total.routeSuccess + 1 }
          else { s.total with routeDrop := s.total.routeDrop + 1 }) := by
  have hframe := @hsound.consumer_frame
  have hrelease := @hsound.consumer_release
  rw [pumpIngestStep] at hstep
  rw [total, total]
  split at hstep
  · exact absurd hstep (by simp)
  · rename_i hat
    rw [hat]
    split at hstep
    all_goals
      obtain rfl := Option.some.inj hstep
      exact ⟨⟨rfl, rfl, rfl, rfl⟩, .inl ⟨id, id, rfl, rfl, rfl⟩⟩
  · rename_i hat
    rw [hat]
    split at hstep
    · obtain rfl := Option.some.inj hstep
      exact ⟨⟨rfl, rfl, rfl, rfl⟩, .inl ⟨id, id, rfl, rfl, rfl⟩⟩
    · obtain rfl := Option.some.inj hstep
      exact ⟨⟨rfl, rfl, rfl, rfl⟩, .inl ⟨id, id, rfl, rfl, rfl⟩⟩
    · obtain rfl := Option.some.inj hstep
      exact ⟨⟨rfl, rfl, rfl, rfl⟩, .inr (.inl ⟨id, id, rfl, rfl, rfl⟩)⟩
  · rename_i hat
    rw [hat]
    split at hstep
    · rename_i hnone
      exact absurd hnone (hframe hat)
    · obtain rfl := Option.some.inj hstep
      exact ⟨⟨rfl, rfl, rfl, rfl⟩, .inl ⟨id, id, rfl, rfl, rfl⟩⟩
  · rename_i hat
    rw [hat]
    obtain rfl := Option.some.inj hstep
    exact ⟨⟨rfl, rfl, rfl, rfl⟩, .inr (.inr (.inl ⟨id, trivial, rfl, rfl, _, rfl⟩))⟩
  · rename_i hat
    rw [hat]
    obtain rfl := Option.some.inj hstep
    refine ⟨⟨rfl, rfl, rfl, rfl⟩, .inr (.inr (.inr ⟨trivial, id, rfl, rfl, ?_⟩))⟩
    cases routed <;> rfl
  · rename_i ref hat
    have hreleased := hrelease hat
    have hslots := release_slots s.pool ref
    generalize s.pool.release ref = result at hstep hreleased hslots
    obtain ⟨pool, released⟩ := result
    obtain rfl : released = true := hreleased
    rw [hat]
    obtain rfl := Option.some.inj hstep
    exact ⟨⟨rfl, rfl, rfl, hslots⟩, .inl ⟨id, id, rfl, rfl, rfl⟩⟩
  · rename_i counts counter hat
    rw [hat]
    obtain rfl := Option.some.inj hstep
    cases counter <;> exact ⟨⟨rfl, rfl, rfl, rfl⟩, .inl ⟨id, id, rfl, rfl, rfl⟩⟩

end LiveIngest

end TradingEngine
