import TradingEngine.Shards.Shard

/-!
# Router and shards of the live pipeline

The router thread routes one frame after another into the queues of `ShardedEventDispatch`; a worker
for each shard empties its queue into its own books. All of them run at once. The accesses of a
queue are steps, and so are the stages of an event in its shard.

A frame that finds its queue full is dropped. What the books show is therefore a function of the
frames that were accepted, and the main result says which: the book of a market is the one that a
single store would have after the frames of that market that its shard has consumed.
-/

namespace TradingEngine

open OnDemand (Value)

/-- What the pipeline is made of. The hash function and the JSON library are fixed, and so is what
moving an event out of its slot leaves behind. -/
structure ShardedPipelineConfig where
  hash : String → ℕ
  iterate : String → Option Value
  movedFrom : RoutedEvent → RoutedEvent := id
  decodeExchange : DecodeExchangeId := .kalshi
  routerExchange : ExchangeId := .kalshi
  shardCount : ℕ := 4
  perShardQueueCapacity : ℕ := 1024
  hasEventHandler : ℕ → Bool := fun _ ↦ false

namespace ShardedPipelineConfig

/-- The number of queues of the dispatch, and of shards. -/
def resolvedShardCount (config : ShardedPipelineConfig) : ℕ :=
  Router.resolveShardCount config.shardCount

def router (config : ShardedPipelineConfig) : Router :=
  .create (resolveDecoder config.iterate config.decodeExchange) config.resolvedShardCount
    config.routerExchange

/-- What a frame is routed as. -/
def route (config : ShardedPipelineConfig) (frame : RawFrame) : Option RoutedEvent :=
  config.router.route config.hash frame

def parse (config : ShardedPipelineConfig) (event : RoutedEvent) : Option NormalizedEvent :=
  (RoutedEventParser.parse config.iterate event).toOption

/-- The one shard of a market. -/
def shardOf (config : ShardedPipelineConfig) (marketTicker : String) : ℕ :=
  Router.computeShardId config.hash marketTicker config.resolvedShardCount

end ShardedPipelineConfig

/-- Where the router thread is. -/
inductive RouterThread
  | idle
  | dispatch (frame : RawFrame) (event : RoutedEvent)
  | tryPush (frame : RawFrame) (shardId : ℕ) (call : PushCall RoutedEvent)
  | drop

/-- The dispatch, the router thread and the shards, with a record of the frames accepted. -/
structure ShardedPipeline where
  queues : ℕ → SpscRoutedEventQueue
  droppedCount : ℕ := 0
  router : RouterThread := .idle
  shards : ℕ → Shard
  accepted : List RawFrame := []

inductive ShardedInput
  | route (frame : RawFrame)
  | router
  | start (shardId : ℕ)
  | requestStop (shardId : ℕ)
  /-- The next step of a shard, with a result of its event handler. -/
  | shard (shardId : ℕ) (handled : Bool)

namespace ShardedPipeline

variable (config : ShardedPipelineConfig)

def create : ShardedPipeline where
  queues _ := .create config.perShardQueueCapacity
  shards _ := {}

def setShard (s : ShardedPipeline) (shardId : ℕ) (shard : Shard) : ShardedPipeline :=
  { s with shards := Function.update s.shards shardId shard }

def setQueue (s : ShardedPipeline) (shardId : ℕ) (queue : SpscRoutedEventQueue) :
    ShardedPipeline :=
  { s with queues := Function.update s.queues shardId queue }

/-- A frame that cannot be decoded is not dispatched. -/
def routeFrame (s : ShardedPipeline) (frame : RawFrame) : ShardedPipeline :=
  match config.route frame with
  | none => s
  | some event => { s with router := .dispatch frame event }

/-- A step of `dispatch`. -/
def dispatchStep (s : ShardedPipeline) : Option ShardedPipeline :=
  match s.router with
  | .idle => none
  | .dispatch frame event =>
    if event.routeKey.shardId ≥ config.resolvedShardCount then some { s with router := .drop }
    else some { s with router := .tryPush frame event.routeKey.shardId (.loadHead event) }
  | .tryPush frame shardId call =>
    match (s.queues shardId).pushStep call with
    | (queue, .running call') =>
      some { s.setQueue shardId queue with router := .tryPush frame shardId call' }
    | (queue, .returned false) => some { s.setQueue shardId queue with router := .drop }
    | (queue, .returned true) =>
      some { s.setQueue shardId queue with router := .idle, accepted := s.accepted ++ [frame] }
  | .drop => some { s with droppedCount := s.droppedCount + 1, router := .idle }

/-- A step of a shard. -/
def shardStep (s : ShardedPipeline) (shardId : ℕ) (handled : Bool) : Option ShardedPipeline :=
  let shard := s.shards shardId
  match shard.worker with
  | .tryPop call =>
    match (s.queues shardId).popStep config.movedFrom call with
    | (queue, .running call') =>
      some ((s.setQueue shardId queue).setShard shardId { shard with worker := .tryPop call' })
    | (queue, .returned none) =>
      some ((s.setQueue shardId queue).setShard shardId { shard with worker := .loop })
    | (queue, .returned (some event)) =>
      some ((s.setQueue shardId queue).setShard shardId
        { shard with worker := .parse event, consumed := shard.consumed ++ [event] })
  | _ =>
    (shard.runStep config.iterate (config.hasEventHandler shardId) handled).map (s.setShard shardId)

/-- The inputs; there are no shards beyond the last. -/
def step (s : ShardedPipeline) : ShardedInput → Option ShardedPipeline
  | .route frame =>
    match s.router with
    | .idle => some (s.routeFrame config frame)
    | _ => none
  | .router => s.dispatchStep config
  | .start shardId =>
    if shardId < config.resolvedShardCount then
      (s.shards shardId).start.map (s.setShard shardId)
    else none
  | .requestStop shardId =>
    if shardId < config.resolvedShardCount then
      some (s.setShard shardId (s.shards shardId).requestStop)
    else none
  | .shard shardId handled =>
    if shardId < config.resolvedShardCount then s.shardStep config shardId handled else none

def machine : Machine ShardedPipeline ShardedInput where
  step := step config

end ShardedPipeline

/-! ## One shard -/

/-- The access of the queue that is in progress. -/
def ShardWorker.popCall : ShardWorker → Option (PopCall RoutedEvent)
  | .tryPop call => some call
  | _ => none

namespace Shard

variable {config : ShardedPipelineConfig} {shard shard' : Shard}

/-- The events whose effect on the books is complete: all that were consumed, but for the one in
hand. -/
def settled (shard : Shard) : List RoutedEvent :=
  match shard.worker with
  | .parse _ | .apply _ => shard.consumed.dropLast
  | _ => shard.consumed

/-- The event in hand is the last one consumed. -/
def InHand (config : ShardedPipelineConfig) (shard : Shard) : Prop :=
  match shard.worker with
  | .parse event => shard.consumed.getLast? = some event
  | .apply parsed => ∃ event, shard.consumed.getLast? = some event ∧
      config.parse event = some parsed
  | _ => True

/-- The books are those of the settled events. -/
structure Inv (config : ShardedPipelineConfig) (shard : Shard) : Prop where
  books : shard.books = BookStore.applyAll {} (shard.settled.filterMap config.parse)
  inHand : shard.InHand config

theorem inv_empty : Inv config {} := ⟨rfl, trivial⟩

/-- What the last event adds to the events that were parsed. -/
theorem filterMap_of_getLast? {events : List RoutedEvent} {event : RoutedEvent}
    (h : events.getLast? = some event) :
    events.filterMap config.parse =
      events.dropLast.filterMap config.parse ++ (config.parse event).toList := by
  obtain ⟨front, rfl⟩ := List.getLast?_eq_some_iff.mp h
  rw [List.dropLast_concat, List.filterMap_append, List.filterMap_cons, List.filterMap_nil]
  rcases config.parse event with _ | parsed <;> rfl

/-- **A step of a shard** that is not an access of its queue consumes nothing, and settles the event
in hand when it is done with it. -/
theorem Inv.runStep {hasEventHandler handled : Bool} (h : shard.Inv config)
    (hstep : shard.runStep config.iterate hasEventHandler handled = some shard') :
    shard'.Inv config ∧ shard'.consumed = shard.consumed := by
  have hbooks := h.books
  have hhand := h.inHand
  rw [Shard.runStep] at hstep
  rw [settled] at hbooks
  rw [InHand] at hhand
  split at hstep
  · exact absurd hstep (by simp)
  · rename_i hat
    rw [hat] at hbooks
    split at hstep
    · obtain rfl := Option.some.inj hstep
      exact ⟨⟨hbooks, trivial⟩, rfl⟩
    · obtain rfl := Option.some.inj hstep
      exact ⟨⟨hbooks, trivial⟩, rfl⟩
  · exact absurd hstep (by simp)
  · rename_i event hat
    rw [hat] at hbooks hhand
    dsimp only at hbooks hhand hstep
    split at hstep
    · -- the event cannot be parsed: it is settled, and adds nothing
      rename_i error hparse
      have hnone : config.parse event = none := by
        rw [ShardedPipelineConfig.parse, hparse]
        rfl
      obtain rfl := Option.some.inj hstep
      refine ⟨⟨?_, trivial⟩, rfl⟩
      rw [settled]
      dsimp only
      rw [filterMap_of_getLast? hhand, hnone, Option.toList_none, List.append_nil]
      exact hbooks
    · rename_i parsed hparse
      have hsome : config.parse event = some parsed := by
        rw [ShardedPipelineConfig.parse, hparse]
        rfl
      obtain rfl := Option.some.inj hstep
      exact ⟨⟨hbooks, event, hhand, hsome⟩, rfl⟩
  · rename_i parsed hat
    rw [hat] at hbooks hhand
    obtain ⟨event, hlast, hsome⟩ := hhand
    have hsettled : (shard.books.apply parsed).2 =
        BookStore.applyAll {} (shard.consumed.filterMap config.parse) := by
      rw [filterMap_of_getLast? hlast, hsome, Option.toList_some, BookStore.applyAll_concat,
        hbooks]
    generalize shard.books.apply parsed = result at hstep hsettled
    obtain ⟨applied, books⟩ := result
    dsimp only at hstep
    split at hstep
    · split at hstep
      · obtain rfl := Option.some.inj hstep
        exact ⟨⟨hsettled, trivial⟩, rfl⟩
      · obtain rfl := Option.some.inj hstep
        exact ⟨⟨hsettled, trivial⟩, rfl⟩
    · obtain rfl := Option.some.inj hstep
      exact ⟨⟨hsettled, trivial⟩, rfl⟩
  · rename_i event hat
    rw [hat] at hbooks
    obtain rfl := Option.some.inj hstep
    exact ⟨⟨hbooks, trivial⟩, rfl⟩

/-- Such a step starts from outside the queue, and at most starts a pop. -/
theorem popCall_runStep {iterate : String → Option Value} {hasEventHandler handled : Bool}
    (hstep : shard.runStep iterate hasEventHandler handled = some shard') :
    shard.worker.popCall = none ∧
      (shard'.worker.popCall = none ∨ shard'.worker.popCall = some .loadTail) := by
  rw [runStep] at hstep
  split at hstep
  · exact absurd hstep (by simp)
  · rename_i hat
    rw [hat]
    split at hstep
    · obtain rfl := Option.some.inj hstep
      exact ⟨rfl, .inl rfl⟩
    · obtain rfl := Option.some.inj hstep
      exact ⟨rfl, .inr rfl⟩
  · exact absurd hstep (by simp)
  · rename_i hat
    rw [hat]
    dsimp only at hstep
    split at hstep
    · obtain rfl := Option.some.inj hstep
      exact ⟨rfl, .inl rfl⟩
    · obtain rfl := Option.some.inj hstep
      exact ⟨rfl, .inl rfl⟩
  · rename_i hat
    rw [hat]
    split at hstep
    split at hstep
    · split at hstep
      · obtain rfl := Option.some.inj hstep
        exact ⟨rfl, .inl rfl⟩
      · obtain rfl := Option.some.inj hstep
        exact ⟨rfl, .inl rfl⟩
    · obtain rfl := Option.some.inj hstep
      exact ⟨rfl, .inl rfl⟩
  · rename_i hat
    rw [hat]
    obtain rfl := Option.some.inj hstep
    exact ⟨rfl, .inl rfl⟩

/-- A start leaves the books, and what was consumed, alone. -/
theorem Inv.start (h : shard.Inv config) (hstart : shard.start = some shard') :
    shard'.Inv config ∧ shard'.consumed = shard.consumed ∧ shard.worker.popCall = none ∧
      shard'.worker.popCall = none := by
  have hbooks := h.books
  rw [settled] at hbooks
  rw [Shard.start] at hstart
  split at hstart
  · rename_i hat
    rw [hat] at hbooks ⊢
    obtain rfl := Option.some.inj hstart
    exact ⟨⟨hbooks, trivial⟩, rfl, rfl, rfl⟩
  · exact absurd hstart (by simp)

/-- A pop in progress has settled everything before. -/
theorem Inv.books_of_tryPop {call : PopCall RoutedEvent} (h : shard.Inv config)
    (hat : shard.worker = .tryPop call) :
    shard.books = BookStore.applyAll {} (shard.consumed.filterMap config.parse) := by
  have hbooks := h.books
  rw [settled, hat] at hbooks
  exact hbooks

end Shard

/-! ## The invariant -/

namespace RouterThread

/-- The access of the queue of a shard that is in progress. -/
def pushCall (shardId : ℕ) : RouterThread → Option (PushCall RoutedEvent)
  | .tryPush _ target call => if target = shardId then some call else none
  | _ => none

/-- The event is the one that the frame is routed as, and goes to its own shard. -/
def Knows (config : ShardedPipelineConfig) : RouterThread → Prop
  | .dispatch frame event => config.route frame = some event
  | .tryPush frame shardId call =>
    config.route frame = some call.value ∧ shardId = call.value.routeKey.shardId
  | _ => True

end RouterThread

namespace ShardedPipeline

/-- The events that were accepted for a shard. -/
def acceptedFor (config : ShardedPipelineConfig) (s : ShardedPipeline) (shardId : ℕ) :
    List RoutedEvent :=
  (s.accepted.filterMap config.route).filter fun event ↦ event.routeKey.shardId = shardId

/-- Every queue holds what was accepted for its shard and not yet consumed. -/
structure Inv (config : ShardedPipelineConfig) (s : ShardedPipeline)
    (items : ℕ → List RoutedEvent) : Prop where
  queue : ∀ i, (s.queues i).Inv (items i) (s.router.pushCall i) (s.shards i).worker.popCall
  conserved : ∀ i, s.acceptedFor config i = (s.shards i).consumed ++ items i
  shard : ∀ i, (s.shards i).Inv config
  router : s.router.Knows config

variable {config : ShardedPipelineConfig} {s s' : ShardedPipeline}
  {items : ℕ → List RoutedEvent} {shardId : ℕ}

theorem inv_create : (create config).Inv config fun _ ↦ [] where
  queue _ := SpscQueue.inv_create _ _
  conserved _ := rfl
  shard _ := Shard.inv_empty
  router := trivial

/-- A shard moves, and with it the queue it reads from; nothing else does. -/
theorem Inv.setQueue_setShard {queue : SpscRoutedEventQueue} {shard : Shard}
    {rest : List RoutedEvent} (h : s.Inv config items) (hinv : shard.Inv config)
    (hqueue : queue.Inv rest (s.router.pushCall shardId) shard.worker.popCall)
    (hconserved : (s.shards shardId).consumed ++ items shardId = shard.consumed ++ rest) :
    ((s.setQueue shardId queue).setShard shardId shard).Inv config
      (Function.update items shardId rest) := by
  refine ⟨fun i ↦ ?_, fun i ↦ ?_, fun i ↦ ?_, h.router⟩
  all_goals
    dsimp only [setShard, setQueue]
    by_cases hi : i = shardId
  · subst hi
    rw [Function.update_self, Function.update_self, Function.update_self]
    exact hqueue
  · rw [Function.update_of_ne hi, Function.update_of_ne hi, Function.update_of_ne hi]
    exact h.queue i
  · subst hi
    rw [Function.update_self, Function.update_self, ← hconserved]
    exact h.conserved i
  · rw [Function.update_of_ne hi, Function.update_of_ne hi]
    exact h.conserved i
  · subst hi
    rw [Function.update_self]
    exact hinv
  · rw [Function.update_of_ne hi]
    exact h.shard i

/-- A shard goes on without touching its queue. -/
theorem Inv.setShard {shard : Shard} (h : s.Inv config items) (hinv : shard.Inv config)
    (hqueue : (s.queues shardId).Inv (items shardId) (s.router.pushCall shardId)
      shard.worker.popCall)
    (hconsumed : shard.consumed = (s.shards shardId).consumed) :
    (s.setShard shardId shard).Inv config items := by
  have hmoved := h.setQueue_setShard hinv hqueue (by rw [hconsumed])
  rw [setQueue, Function.update_eq_self, Function.update_eq_self] at hmoved
  exact hmoved

/-! ## Steps of the router -/

/-- The router goes on without touching a queue. -/
theorem Inv.withRouter {router : RouterThread} {droppedCount : ℕ} (h : s.Inv config items)
    (hqueue : ∀ i, (s.queues i).Inv (items i) (router.pushCall i) (s.shards i).worker.popCall)
    (hknows : router.Knows config) :
    { s with router := router, droppedCount := droppedCount }.Inv config items :=
  ⟨hqueue, h.conserved, h.shard, hknows⟩

theorem acceptedFor_concat {frame : RawFrame} {event : RoutedEvent}
    (hroute : config.route frame = some event) (i : ℕ) :
    ((s.accepted ++ [frame]).filterMap config.route).filter
        (fun event ↦ event.routeKey.shardId = i) =
      s.acceptedFor config i ++ if event.routeKey.shardId = i then [event] else [] := by
  rw [List.filterMap_append, List.filter_append, acceptedFor, List.filterMap_cons, hroute,
    List.filterMap_nil, List.filter_cons, List.filter_nil]
  simp only [decide_eq_true_eq]

/-- What a queue of another shard looks like to the router. -/
theorem pushCall_of_ne {frame : RawFrame} {call : PushCall RoutedEvent} {i : ℕ}
    (hi : i ≠ shardId) : (RouterThread.tryPush frame shardId call).pushCall i = none := by
  rw [RouterThread.pushCall, if_neg fun heq ↦ hi heq.symm]

theorem pushCall_self {frame : RawFrame} {call : PushCall RoutedEvent} :
    (RouterThread.tryPush frame shardId call).pushCall shardId = some call := by
  rw [RouterThread.pushCall, if_pos rfl]

/-- An access of a queue by the router. The items of the other queues stay as they are. -/
theorem Inv.setQueue {frame : RawFrame} {call : PushCall RoutedEvent}
    {queue : SpscRoutedEventQueue} {router : RouterThread} {accepted : List RawFrame}
    (h : s.Inv config items) (pushed : List RoutedEvent)
    (hat : s.router = .tryPush frame shardId call)
    (hqueue : queue.Inv (items shardId ++ pushed) (router.pushCall shardId)
      (s.shards shardId).worker.popCall)
    (hother : ∀ i ≠ shardId, router.pushCall i = none)
    (haccepted : ∀ i, (accepted.filterMap config.route).filter
        (fun event ↦ event.routeKey.shardId = i) =
      s.acceptedFor config i ++ if shardId = i then pushed else [])
    (hknows : router.Knows config) :
    { s.setQueue shardId queue with router := router, accepted := accepted }.Inv config
      (Function.update items shardId (items shardId ++ pushed)) := by
  refine ⟨fun i ↦ ?_, fun i ↦ ?_, h.shard, hknows⟩
  all_goals
    dsimp only [ShardedPipeline.setQueue, acceptedFor]
    by_cases hi : i = shardId
  · subst hi
    rw [Function.update_self, Function.update_self]
    exact hqueue
  · have hsame := h.queue i
    rw [hat, pushCall_of_ne hi] at hsame
    rw [Function.update_of_ne hi, Function.update_of_ne hi, hother i hi]
    exact hsame
  · subst hi
    rw [haccepted, Function.update_self, if_pos rfl, h.conserved, List.append_assoc]
  · rw [haccepted, Function.update_of_ne hi, if_neg fun heq ↦ hi heq.symm, h.conserved,
      List.append_nil]

/-- **A step of the router.** -/
theorem Inv.dispatchStep (h : s.Inv config items) (hstep : s.dispatchStep config = some s') :
    ∃ items', s'.Inv config items' := by
  have hknows := h.router
  rw [ShardedPipeline.dispatchStep] at hstep
  split at hstep
  · exact absurd hstep (by simp)
  · rename_i frame event hat
    rw [hat] at hknows
    have hqueue := h.queue
    rw [hat] at hqueue
    split at hstep
    · obtain rfl := Option.some.inj hstep
      exact ⟨items, h.withRouter hqueue trivial⟩
    · obtain rfl := Option.some.inj hstep
      refine ⟨items, h.withRouter (fun i ↦ ?_) ⟨hknows, rfl⟩⟩
      -- a push starts at the queue of the event; the other queues do not notice
      by_cases hi : i = event.routeKey.shardId
      · rw [hi, pushCall_self]
        exact (hqueue _).startPush event
      · rw [pushCall_of_ne hi]
        exact hqueue i
  · rename_i frame shardId call hat
    rw [hat] at hknows
    obtain ⟨hroute, htarget⟩ := hknows
    have hqueue := h.queue shardId
    rw [hat, pushCall_self] at hqueue
    have hsame : ∀ i, s.acceptedFor config i =
        s.acceptedFor config i ++ if shardId = i then [] else [] := by simp
    have heffect := hqueue.pushEffect
    generalize (s.queues shardId).pushStep call = result at hstep heffect
    rcases heffect with ⟨hinv, -, hvalue, -⟩ | ⟨hinv, -, -⟩ | ⟨hinv, -, -⟩
    · obtain rfl := Option.some.inj hstep
      refine ⟨_, h.setQueue [] hat ?_ (fun i hi ↦ pushCall_of_ne hi) hsame ?_⟩
      · rw [List.append_nil, pushCall_self]
        exact hinv
      · rw [RouterThread.Knows, hvalue]
        exact ⟨hroute, htarget⟩
    · obtain rfl := Option.some.inj hstep
      refine ⟨_, h.setQueue [] hat ?_ (fun i hi ↦ rfl) hsame trivial⟩
      rw [List.append_nil]
      exact hinv
    · obtain rfl := Option.some.inj hstep
      refine ⟨_, h.setQueue [call.value] hat hinv (fun i hi ↦ rfl) (fun i ↦ ?_) trivial⟩
      rw [acceptedFor_concat hroute, htarget]
  · rename_i hat
    have hqueue := h.queue
    rw [hat] at hqueue
    obtain rfl := Option.some.inj hstep
    exact ⟨items, h.withRouter hqueue trivial⟩

/-! ## Steps of a shard -/

/-- **A step of a shard.** -/
theorem Inv.shardStep {handled : Bool} (h : s.Inv config items)
    (hstep : s.shardStep config shardId handled = some s') : ∃ items', s'.Inv config items' := by
  have hshard := h.shard shardId
  have hqueue := h.queue shardId
  rw [ShardedPipeline.shardStep] at hstep
  split at hstep
  · rename_i call hat
    have hbooks := hshard.books_of_tryPop hat
    rw [hat] at hqueue
    have heffect := hqueue.popEffect config.movedFrom
    generalize (s.queues shardId).popStep config.movedFrom call = result at hstep heffect
    rcases heffect with ⟨hinv, -, -⟩ | ⟨hinv, -, -⟩ | ⟨hitems, hinv, -, -⟩
    · obtain rfl := Option.some.inj hstep
      exact ⟨_, h.setQueue_setShard ⟨hbooks, trivial⟩ hinv rfl⟩
    · obtain rfl := Option.some.inj hstep
      exact ⟨_, h.setQueue_setShard ⟨hbooks, trivial⟩ hinv rfl⟩
    · obtain rfl := Option.some.inj hstep
      -- the event is consumed and in hand, so the settled events are those from before
      refine ⟨_, h.setQueue_setShard ⟨?_, List.getLast?_concat⟩ hinv ?_⟩
      · rw [Shard.settled]
        dsimp only
        rw [List.dropLast_concat]
        exact hbooks
      · rw [hitems, List.append_assoc]
        rfl
  · obtain ⟨shard, hrun, rfl⟩ := Option.map_eq_some_iff.mp hstep
    obtain ⟨hinv, hconsumed⟩ := hshard.runStep hrun
    obtain ⟨hidle, hnext⟩ := Shard.popCall_runStep hrun
    rw [hidle] at hqueue
    refine ⟨items, h.setShard hinv ?_ hconsumed⟩
    rcases hnext with hnext | hnext
    · rw [hnext]
      exact hqueue
    · rw [hnext]
      exact hqueue.startPop

/-- **One step** of the router or of a shard. -/
theorem Inv.step {input : ShardedInput} (h : s.Inv config items)
    (hstep : s.step config input = some s') : ∃ items', s'.Inv config items' := by
  cases input with
  | route frame =>
    rw [ShardedPipeline.step] at hstep
    split at hstep
    · rename_i hat
      have hqueue := h.queue
      rw [hat] at hqueue
      obtain rfl := Option.some.inj hstep
      rw [routeFrame]
      split
      · exact ⟨items, h⟩
      · rename_i hroute
        exact ⟨items, h.withRouter hqueue hroute⟩
    · exact absurd hstep (by simp)
  | router => exact h.dispatchStep hstep
  | start shardId =>
    rw [ShardedPipeline.step] at hstep
    split at hstep
    · obtain ⟨shard, hstart, rfl⟩ := Option.map_eq_some_iff.mp hstep
      obtain ⟨hinv, hconsumed, hidle, hnext⟩ := (h.shard shardId).start hstart
      have hqueue := h.queue shardId
      rw [hidle, ← hnext] at hqueue
      exact ⟨items, h.setShard hinv hqueue hconsumed⟩
    · exact absurd hstep (by simp)
  | requestStop shardId =>
    rw [ShardedPipeline.step] at hstep
    split at hstep
    · obtain rfl := Option.some.inj hstep
      have hshard := h.shard shardId
      exact ⟨items, h.setShard ⟨hshard.books, hshard.inHand⟩ (h.queue shardId) rfl⟩
    · exact absurd hstep (by simp)
  | shard shardId handled =>
    rw [ShardedPipeline.step] at hstep
    split at hstep
    · exact h.shardStep hstep
    · exact absurd hstep (by simp)

theorem inv_of_reaches (h : (machine config).Reaches (create config) s) :
    ∃ items, s.Inv config items := by
  induction h with
  | refl => exact ⟨_, inv_create⟩
  | tail _ _ hstep ih =>
    obtain ⟨items, hinv⟩ := ih
    exact hinv.step hstep

/-! ## Sharding is invisible -/

/-- The frames of a market that were accepted, in the order in which they came in. -/
def framesOf (config : ShardedPipelineConfig) (s : ShardedPipeline) (marketTicker : String) :
    List RawFrame :=
  s.accepted.filter fun frame ↦
    (config.route frame).any fun event ↦ event.frame.marketTicker = marketTicker

/-- The events of a market that its shard is done with. -/
def settledOf (config : ShardedPipelineConfig) (s : ShardedPipeline) (marketTicker : String) :
    List RoutedEvent :=
  (s.shards (config.shardOf marketTicker)).settled.filter fun event ↦
    event.frame.marketTicker = marketTicker

/-- For one market, the pipeline is a single store that is fed the frames of the market. -/
structure IsSingleStore (config : ShardedPipelineConfig) (s : ShardedPipeline)
    (marketTicker : String) : Prop where
  /-- What the shard is done with are the first frames that were accepted. -/
  settled : s.settledOf config marketTicker =
    ((s.framesOf config marketTicker).take (s.settledOf config marketTicker).length).filterMap
      config.route
  book : (s.shards (config.shardOf marketTicker)).books.find marketTicker =
    (BookStore.applyAll {} (((s.framesOf config marketTicker).take
      (s.settledOf config marketTicker).length).filterMap fun frame ↦
        (config.route frame).bind config.parse)).find marketTicker
  elsewhere : ∀ i ≠ config.shardOf marketTicker, (s.shards i).books.find marketTicker = none

theorem take_filterMap {frames : List RawFrame} {route : RawFrame → Option RoutedEvent}
    (h : ∀ frame ∈ frames, (route frame).isSome) (n : ℕ) :
    (frames.take n).filterMap route = (frames.filterMap route).take n := by
  induction frames generalizing n with
  | nil => simp
  | cons frame frames ih =>
    obtain ⟨event, hroute⟩ := Option.isSome_iff_exists.mp (h frame List.mem_cons_self)
    rcases n with _ | n
    · rfl
    · rw [List.take_succ_cons, List.filterMap_cons_some hroute, List.filterMap_cons_some hroute,
        List.take_succ_cons, ih fun other hother ↦ h other (List.mem_cons_of_mem _ hother)]

/-- An event goes to the shard of its market. -/
theorem shardId_eq {frame : RawFrame} {event : RoutedEvent} (h : config.route frame = some event) :
    event.routeKey.shardId = config.shardOf event.frame.marketTicker := by
  rw [Router.shardId_of_route h, ShardedPipelineConfig.shardOf]
  exact congrArg _ (Router.resolveShardCount_idem _)

theorem Inv.settled_prefix (h : s.Inv config items) (i : ℕ) :
    (s.shards i).settled <+: s.acceptedFor config i := by
  rw [h.conserved i]
  refine List.IsPrefix.trans ?_ (List.prefix_append _ _)
  rw [Shard.settled]
  split
  · exact List.dropLast_prefix _
  · exact List.dropLast_prefix _
  · exact List.prefix_rfl

/-- The events accepted for the shard of a market include all the events of the market. -/
theorem filter_acceptedFor (marketTicker : String) :
    (s.acceptedFor config (config.shardOf marketTicker)).filter
        (fun event ↦ event.frame.marketTicker = marketTicker) =
      (s.framesOf config marketTicker).filterMap config.route := by
  rw [acceptedFor, framesOf, List.filter_filter, List.filterMap_filter, List.filter_filterMap]
  refine List.filterMap_congr fun frame _ ↦ ?_
  rcases hroute : config.route frame with _ | event
  · rfl
  · have hshard := shardId_eq hroute
    by_cases hmarket : event.frame.marketTicker = marketTicker
    · rw [hmarket] at hshard
      simp [hmarket, hshard]
    · simp [hmarket]

theorem marketTicker_of_parse {event : RoutedEvent} {parsed : NormalizedEvent}
    (h : config.parse event = some parsed) : parsed.marketTicker = event.frame.marketTicker := by
  rw [ShardedPipelineConfig.parse] at h
  rcases hparse : RoutedEventParser.parse config.iterate event with error | result
  · rw [hparse] at h
    exact absurd h (by simp [Except.toOption])
  · rw [hparse] at h
    obtain rfl : result = parsed := Option.some.inj h
    exact RoutedEventParser.marketTicker_of_parse hparse

/-- Parsing keeps the market. -/
theorem filter_filterMap_parse (events : List RoutedEvent) (marketTicker : String) :
    (events.filterMap config.parse).filter (fun event ↦ event.marketTicker = marketTicker) =
      (events.filter fun event ↦ event.frame.marketTicker = marketTicker).filterMap
        config.parse := by
  rw [List.filter_filterMap, List.filterMap_filter]
  refine List.filterMap_congr fun event _ ↦ ?_
  rcases hparse : config.parse event with _ | parsed
  · simp
  · rw [Option.filter_some, marketTicker_of_parse hparse]

/-- The book of a market, in any shard, comes from the events of the market that the shard is done
with. -/
theorem Inv.find_books (h : s.Inv config items) (i : ℕ) (marketTicker : String) :
    (s.shards i).books.find marketTicker =
      (BookStore.applyAll {} (((s.shards i).settled.filter fun event ↦
        event.frame.marketTicker = marketTicker).filterMap config.parse)).find marketTicker := by
  rw [(h.shard i).books, BookStore.find_applyAll _ rfl, filter_filterMap_parse]

theorem Inv.isSingleStore (h : s.Inv config items) (marketTicker : String) :
    s.IsSingleStore config marketTicker := by
  have hsettled : s.settledOf config marketTicker =
      ((s.framesOf config marketTicker).take (s.settledOf config marketTicker).length).filterMap
        config.route := by
    have hprefix := (h.settled_prefix (config.shardOf marketTicker)).filter
      fun event ↦ event.frame.marketTicker = marketTicker
    rw [filter_acceptedFor] at hprefix
    rw [take_filterMap]
    · exact List.prefix_iff_eq_take.mp hprefix
    · intro frame hframe
      have hany := (List.mem_filter.mp hframe).2
      rcases hroute : config.route frame with _ | event
      · exact absurd hany (by simp [hroute])
      · rfl
  refine ⟨hsettled, ?_, ?_⟩
  · rw [h.find_books, ← List.filterMap_filterMap, ← hsettled]
    rfl
  · intro i hi
    have hnone : ((s.shards i).settled.filter fun event ↦
        event.frame.marketTicker = marketTicker) = [] := by
      refine List.filter_eq_nil_iff.mpr fun event hevent hmarket ↦ hi ?_
      -- an event of the shard was accepted for it, so its market belongs there
      obtain ⟨hrouted, hshard⟩ := List.mem_filter.mp ((h.settled_prefix i).subset hevent)
      obtain ⟨frame, -, hroute⟩ := List.mem_filterMap.mp hrouted
      rw [← of_decide_eq_true hshard, shardId_eq hroute, of_decide_eq_true hmarket]
    rw [h.find_books, hnone]
    rfl

end ShardedPipeline

/-- **Sharding is invisible.** For every stream of frames, every number of shards and every
interleaving of the router with the shards, the book of a market is the one of a single store; and
no frame is dispatched to a shard that does not exist. -/
theorem sharding_invisible {config : ShardedPipelineConfig} {s : ShardedPipeline}
    (h : (ShardedPipeline.machine config).Reaches (.create config) s) :
    (∀ marketTicker, s.IsSingleStore config marketTicker) ∧
      ∀ frame event, s.router = .dispatch frame event →
        event.routeKey.shardId < config.resolvedShardCount := by
  obtain ⟨items, hinv⟩ := ShardedPipeline.inv_of_reaches h
  refine ⟨hinv.isSingleStore, fun frame event hat ↦ ?_⟩
  have hknows := hinv.router
  rw [hat] at hknows
  rw [ShardedPipeline.shardId_eq hknows]
  exact Router.computeShardId_lt (Router.resolveShardCount_pos _)

/-- A message that is a trade. -/
def SampleMessages.tradeOnA : String := tradeText "A" 7 7

open SampleMessages in
/-- Two shards, markets hashed by their length, and one message that can be read. -/
def twoShards : ShardedPipelineConfig where
  hash := String.length
  iterate := reads [(tradeOnA, trade "A" 7 7)]
  shardCount := 2

open SampleMessages in
/-- A trade is routed, and shard 1 takes it. -/
def tradeRun : List ShardedInput :=
  [.start 0, .start 1, .route { marketTicker := "A", payload := tradeOnA }] ++
    List.replicate 5 .router ++ List.replicate 7 (.shard 1 true) ++ List.replicate 4 (.shard 0 true)

theorem sharding_invisible_two_shards : ∃ s,
    (ShardedPipeline.machine twoShards).Reaches (.create twoShards) s ∧
      ((s.shards 1).books.find "A").map BookState.tradeCount = some 1 ∧
      (s.shards 0).books.find "A" = none ∧ s.IsSingleStore twoShards "A" := by
  have hrun : ((ShardedPipeline.machine twoShards).runVia (fun _ _ ↦ True) (.create twoShards)
      tradeRun).any (fun s ↦ ((s.shards 1).books.find "A").map BookState.tradeCount = some 1) =
        true := by
    decide +kernel
  obtain ⟨s, hreaches, htrade⟩ := Machine.exists_of_runVia hrun
  have hsingle := (sharding_invisible hreaches).1 "A"
  exact ⟨s, hreaches, of_decide_eq_true htrade, hsingle.elsewhere 0 (by decide), hsingle⟩

end TradingEngine
