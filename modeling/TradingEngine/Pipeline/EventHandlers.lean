import TradingEngine.Pipeline.LiveAccounts

/-!
# What the event handlers see

After a shard has applied an event it calls its event handler with it, and with nothing else. So a
handler sees the events that the books of its shard accepted, in the order in which they did; and
for one market these are the events that a single store would accept of the frames of this market
(`handlers_see_accepted`). Neither the number of shards nor what the handlers return makes a
difference to that.
-/

namespace TradingEngine

namespace BookStore

/-- The events that a store accepts of a stream. -/
def acceptedEvents (store : BookStore) : List NormalizedEvent → List NormalizedEvent
  | [] => []
  | event :: events =>
    let applied := store.apply event
    if applied.1 then event :: acceptedEvents applied.2 events
    else acceptedEvents applied.2 events

theorem acceptedEvents_concat (events : List NormalizedEvent) (event : NormalizedEvent) :
    ∀ store : BookStore, store.acceptedEvents (events ++ [event]) =
      store.acceptedEvents events ++
        if ((store.applyAll events).apply event).1 then [event] else [] := by
  induction events with
  | nil =>
    intro store
    rw [List.nil_append, acceptedEvents, acceptedEvents, acceptedEvents]
    rfl
  | cons first events ih =>
    intro store
    rw [List.cons_append, acceptedEvents, acceptedEvents]
    split
    · rw [ih, List.cons_append]
      rfl
    · rw [ih]
      rfl

theorem acceptedEvents_sublist (events : List NormalizedEvent) :
    ∀ store : BookStore, (store.acceptedEvents events).Sublist events := by
  induction events with
  | nil => exact fun _ ↦ .slnil
  | cons event events ih =>
    intro store
    rw [acceptedEvents]
    split
    · exact (ih _).cons_cons event
    · exact (ih _).cons event

/-- An event that names no market is not accepted. -/
theorem marketTicker_of_acceptedEvents (events : List NormalizedEvent) :
    ∀ store : BookStore, ∀ event ∈ store.acceptedEvents events, event.marketTicker ≠ "" := by
  induction events with
  | nil => exact fun _ _ hevent ↦ absurd hevent List.not_mem_nil
  | cons first events ih =>
    intro store event hevent
    rw [acceptedEvents] at hevent
    split at hevent
    · rename_i haccepted
      rcases List.mem_cons.mp hevent with rfl | hrest
      · intro hblank
        rw [apply, if_pos (.inl hblank)] at haccepted
        exact absurd haccepted (by simp)
      · exact ih _ event hrest
    · exact ih _ event hevent

/-- Whether an event is accepted depends on its own book. -/
theorem apply_fst_congr {store store' : BookStore} (event : NormalizedEvent)
    (h : store.find event.marketTicker = store'.find event.marketTicker) :
    (store.apply event).1 = (store'.apply event).1 := by
  by_cases hguard : event.marketTicker = "" ∨ event.type = .unknown
  · rw [apply, apply, if_pos hguard, if_pos hguard]
  · rw [apply_fst store hguard, apply_fst store' hguard, bookFor, bookFor, h]

/-- **The events accepted for a market** are those that are accepted when there is no other
market. -/
theorem filter_acceptedEvents {marketTicker : String} (events : List NormalizedEvent) :
    ∀ {store store' : BookStore}, store.find marketTicker = store'.find marketTicker →
      (store.acceptedEvents events).filter (fun event ↦ event.marketTicker = marketTicker) =
        store'.acceptedEvents (events.filter fun event ↦ event.marketTicker = marketTicker) := by
  induction events with
  | nil => exact fun _ ↦ rfl
  | cons event events ih =>
    intro store store' h
    by_cases hmarket : event.marketTicker = marketTicker
    · have hfst : (store.apply event).1 = (store'.apply event).1 :=
        apply_fst_congr event (hmarket ▸ h)
      have hrest := ih (find_apply_congr event h)
      rw [List.filter_cons_of_pos (by simpa using hmarket), acceptedEvents, acceptedEvents]
      rw [← hfst]
      split
      · rw [List.filter_cons_of_pos (by simpa using hmarket), hrest]
      · exact hrest
    · have hrest := ih ((find_apply_of_ne store fun heq ↦ hmarket heq.symm).trans h)
      rw [List.filter_cons_of_neg (by simpa using hmarket), acceptedEvents]
      split
      · rw [List.filter_cons_of_neg (by simpa using hmarket), hrest]
      · exact hrest

end BookStore

namespace Shard

variable {config : ShardedPipelineConfig} {shard shard' : Shard}

/-- The events of a shard that were parsed and are settled. -/
def settledEvents (config : ShardedPipelineConfig) (shard : Shard) : List NormalizedEvent :=
  shard.settled.filterMap config.parse

/-- The event that the handler is being called with. -/
def handedOver (shard : Shard) : List NormalizedEvent :=
  match shard.worker with
  | .handle event => [event]
  | _ => []

/-- The events that the books of the shard accepted. -/
def acceptedEvents (config : ShardedPipelineConfig) (shard : Shard) : List NormalizedEvent :=
  BookStore.acceptedEvents {} (shard.settledEvents config)

/-- **What a step of a shard accepts** is what it hands over, where there is a handler. -/
theorem Inv.acceptedEvents_runStep {hasEventHandler handled : Bool} (h : shard.Inv config)
    (hstep : shard.runStep config.iterate hasEventHandler handled = some shard') :
    ∃ accepted, shard'.acceptedEvents config = shard.acceptedEvents config ++ accepted ∧
      shard'.handedOver = if hasEventHandler then accepted else [] := by
  have hbooks := h.books
  have hhand := h.inHand
  rw [Shard.runStep] at hstep
  rw [settled] at hbooks
  rw [InHand] at hhand
  rw [acceptedEvents, acceptedEvents, settledEvents, settledEvents, settled, settled, handedOver]
  split at hstep
  · exact absurd hstep (by simp)
  · rename_i hat
    rw [hat]
    split at hstep
    all_goals
      obtain rfl := Option.some.inj hstep
      exact ⟨[], (List.append_nil _).symm, by simp⟩
  · exact absurd hstep (by simp)
  · rename_i event hat
    rw [hat] at hhand ⊢
    dsimp only at hhand hstep
    split at hstep
    · -- an event that cannot be parsed is settled, and never reaches the books
      rename_i error hparse
      have hnone : config.parse event = none := by
        rw [ShardedPipelineConfig.parse, hparse]
        rfl
      obtain rfl := Option.some.inj hstep
      refine ⟨[], ?_, by simp⟩
      dsimp only
      rw [filterMap_of_getLast? hhand, hnone, Option.toList_none, List.append_nil,
        List.append_nil]
    · obtain rfl := Option.some.inj hstep
      exact ⟨[], (List.append_nil _).symm, by simp⟩
  · rename_i parsed hat
    rw [hat] at hbooks hhand ⊢
    obtain ⟨event, hlast, hsome⟩ := hhand
    have hconcat := BookStore.acceptedEvents_concat (shard.consumed.dropLast.filterMap config.parse)
      parsed {}
    rw [← hbooks] at hconcat
    generalize shard.books.apply parsed = result at hstep hconcat
    obtain ⟨applied, books⟩ := result
    dsimp only at hstep hconcat ⊢
    cases applied with
    | true =>
      rw [if_pos rfl] at hstep hconcat
      split at hstep
      · rename_i hhandler
        obtain rfl := Option.some.inj hstep
        refine ⟨[parsed], ?_, by rw [if_pos hhandler]⟩
        dsimp only
        rw [filterMap_of_getLast? hlast, hsome, Option.toList_some, hconcat]
      · rename_i hhandler
        obtain rfl := Option.some.inj hstep
        refine ⟨[parsed], ?_, by rw [if_neg hhandler]⟩
        dsimp only
        rw [filterMap_of_getLast? hlast, hsome, Option.toList_some, hconcat]
    | false =>
      rw [if_neg Bool.false_ne_true] at hstep hconcat
      obtain rfl := Option.some.inj hstep
      refine ⟨[], ?_, by simp⟩
      dsimp only
      rw [filterMap_of_getLast? hlast, hsome, Option.toList_some, hconcat]
  · rename_i event hat
    rw [hat]
    obtain rfl := Option.some.inj hstep
    exact ⟨[], (List.append_nil _).symm, by simp⟩

end Shard

namespace ShardedPipeline

variable {config : ShardedPipelineConfig} {s s' : ShardedPipeline}

/-- The events of a shard are of its markets. -/
theorem Inv.shardOf_settled {items : ℕ → List RoutedEvent} {i : ℕ} {event : RoutedEvent}
    (h : s.Inv config items) (hevent : event ∈ (s.shards i).settled) :
    config.shardOf event.frame.marketTicker = i := by
  obtain ⟨hrouted, hshard⟩ := List.mem_filter.mp ((h.settled_prefix i).subset hevent)
  obtain ⟨frame, -, hroute⟩ := List.mem_filterMap.mp hrouted
  rw [← shardId_eq hroute, of_decide_eq_true hshard]

/-- An access of the queue settles nothing, and hands nothing over. -/
theorem settled_of_tryPop {shardId : ℕ} {handled : Bool} {call : PopCall RoutedEvent}
    (hat : (s.shards shardId).worker = .tryPop call)
    (hstep : s.shardStep config shardId handled = some s') :
    (s'.shards shardId).settled = (s.shards shardId).settled ∧
      (s'.shards shardId).handedOver = [] := by
  rw [shardStep, hat] at hstep
  rw [Shard.settled, Shard.settled, Shard.handedOver, hat]
  dsimp only at hstep
  split at hstep
  all_goals
    obtain rfl := Option.some.inj hstep
    rw [setShard]
    dsimp only
    rw [Function.update_self]
  · exact ⟨rfl, rfl⟩
  · exact ⟨rfl, rfl⟩
  · exact ⟨List.dropLast_concat, rfl⟩

/-- The same with the accesses of the queue. -/
theorem Inv.acceptedEvents_step {items : ℕ → List RoutedEvent} {shardId : ℕ} {handled : Bool}
    (h : s.Inv config items) (hstep : s.step config (.shard shardId handled) = some s') :
    ∃ accepted, (s'.shards shardId).acceptedEvents config =
        (s.shards shardId).acceptedEvents config ++ accepted ∧
      (s'.shards shardId).handedOver =
        if config.hasEventHandler shardId then accepted else [] := by
  rw [ShardedPipeline.step] at hstep
  split at hstep
  · rcases hat : (s.shards shardId).worker with _ | _ | call | _ | _ | _
    case tryPop =>
      obtain ⟨hsettled, hover⟩ := settled_of_tryPop hat hstep
      refine ⟨[], ?_, ?_⟩
      · rw [List.append_nil, Shard.acceptedEvents, Shard.settledEvents, hsettled]
        rfl
      · rw [hover, ite_self]
    all_goals
      rw [ShardedPipeline.shardStep, hat] at hstep
      obtain ⟨shard, hrun, rfl⟩ := Option.map_eq_some_iff.mp hstep
      rw [ShardedPipeline.setShard]
      dsimp only
      rw [Function.update_self]
      exact (h.shard shardId).acceptedEvents_runStep hrun
  · exact absurd hstep (by simp)

end ShardedPipeline

namespace LivePipeline

variable {config : LivePipelineParts} {s s' : LivePipeline}

/-- Every handler has been called with what the books of its shard accepted, in this order. -/
def HandlersInformed (config : LivePipelineParts) (s : LivePipeline) : Prop :=
  ∀ i, s.handled i = if config.hasEventHandler i then
    (s.sharded.shards i).acceptedEvents config.toShardedPipelineConfig else []

/-- Only a step of a shard tells a handler something. -/
theorem HandlersInformed.congr (h : s.HandlersInformed config)
    (hsettled : ∀ i, (s'.sharded.shards i).settled = (s.sharded.shards i).settled)
    (hhandled : s'.handled = s.handled) : s'.HandlersInformed config := by
  intro i
  rw [hhandled, h i, Shard.acceptedEvents, Shard.acceptedEvents, Shard.settledEvents,
    Shard.settledEvents, hsettled]

theorem handled_shardStep {shardId : ℕ} {handled : Bool}
    (hstep : s.shardStep config shardId handled = some s') :
    s'.handled = Function.update s.handled shardId
      (s.handled shardId ++ (s'.sharded.shards shardId).handedOver) := by
  obtain ⟨sharded, -, rfl⟩ := Option.map_eq_some_iff.mp hstep
  rw [Shard.handedOver]
  dsimp only
  generalize (sharded.shards shardId).worker = worker
  cases worker with
  | handle event => rfl
  | _ => rw [List.append_nil, Function.update_eq_self]

theorem HandlersInformed.shardStep {shardId : ℕ} {handled : Bool} (hinv : s.Inv config)
    (h : s.HandlersInformed config) (hstep : s.shardStep config shardId handled = some s') :
    s'.HandlersInformed config := by
  have hhandled := handled_shardStep hstep
  obtain ⟨sharded, hsharded, rfl⟩ := Option.map_eq_some_iff.mp hstep
  obtain ⟨items, hitems⟩ := hinv.sharded
  obtain ⟨accepted, haccepted, hover⟩ := hitems.acceptedEvents_step hsharded
  intro i
  rw [hhandled]
  by_cases hi : i = shardId
  · rw [hi, Function.update_self, h shardId, haccepted, hover]
    split
    · rfl
    · rfl
  · rw [Function.update_of_ne hi, h i, (ShardedPipeline.step_shard hsharded).2.2.2 i hi]

theorem settled_start {shard shard' : Shard} (hstart : shard.start = some shard') :
    shard'.settled = shard.settled := by
  rw [Shard.start] at hstart
  split at hstart
  · rename_i hat
    obtain rfl := Option.some.inj hstart
    rw [Shard.settled, Shard.settled, hat]
  · exact absurd hstart (by simp)

theorem settled_setShard {sharded : ShardedPipeline} {shardId : ℕ} {shard : Shard}
    (h : shard.settled = (sharded.shards shardId).settled) (i : ℕ) :
    ((sharded.setShard shardId shard).shards i).settled = (sharded.shards i).settled := by
  rw [ShardedPipeline.setShard]
  dsimp only
  by_cases hi : i = shardId
  · rw [hi, Function.update_self, h]
  · rw [Function.update_of_ne hi]

theorem HandlersInformed.controlStep (h : s.HandlersInformed config)
    (hstep : s.controlStep config = some s') : s'.HandlersInformed config := by
  cases controlMoves_of_controlStep hstep with
  | started shardId =>
    rw [LivePipeline.startShard]
    split
    · exact h
    · rename_i hstart
      obtain ⟨shard, hshard, rfl⟩ := ShardedPipeline.step_start hstart
      exact h.congr (settled_setShard (settled_start hshard)) rfl
  | up => exact h
  | passed control running => exact h
  | asked control hrequest => exact h.congr (settled_setShard rfl) rfl

theorem handled_pumpStep (hstep : s.pumpStep config = some s') : s'.handled = s.handled := by
  rw [LivePipeline.pumpStep] at hstep
  split at hstep
  · rw [LivePipeline.routeStep] at hstep
    split at hstep
    all_goals
      obtain ⟨_, -, rfl⟩ := Option.map_eq_some_iff.mp hstep
      rfl
  · obtain ⟨_, -, rfl⟩ := Option.map_eq_some_iff.mp hstep
    rfl

theorem HandlersInformed.step {input : LiveInput} (hinv : s.Inv config)
    (h : s.HandlersInformed config) (hstep : s.step config input = some s') :
    s'.HandlersInformed config := by
  cases input with
  | pushMessage message =>
    obtain ⟨ingest, -, rfl⟩ := Option.map_eq_some_iff.mp hstep
    exact h
  | producer now =>
    obtain ⟨ingest, -, rfl⟩ := Option.map_eq_some_iff.mp hstep
    exact h
  | pumpIngest maxFrames =>
    rw [LivePipeline.step] at hstep
    split at hstep
    · obtain ⟨ingest, -, rfl⟩ := Option.map_eq_some_iff.mp hstep
      exact h
    · exact absurd hstep (by simp)
  | start =>
    obtain ⟨-, control, rfl⟩ := step_begin (.inl rfl) hstep
    exact h
  | stop =>
    obtain ⟨-, control, rfl⟩ := step_begin (.inr rfl) hstep
    exact h
  | pump =>
    obtain ⟨hshards, -⟩ := shards_pumpStep hinv hstep
    exact h.congr (fun i ↦ by rw [hshards]) (handled_pumpStep hstep)
  | control => exact h.controlStep hstep
  | shard shardId handled => exact h.shardStep hinv hstep

theorem handlersInformed_of_reaches (hcapacity : config.framePoolCapacity < 2 ^ 32)
    (h : (machine config).Reaches (create config) s) : s.HandlersInformed config :=
  h.invariant (fun _ ↦ (ite_self _).symm) fun hreaches hinformed _ hstep ↦
    hinformed.step (inv_of_reaches hcapacity hreaches) hstep

/-- What the handler of the shard of a market sees of the market. -/
def seen (config : LivePipelineParts) (s : LivePipeline) (marketTicker : String) :
    List NormalizedEvent :=
  (s.handled (config.shardOf marketTicker)).filter fun event ↦ event.marketTicker = marketTicker

/-- The events of a market in the frames of the market that its shard is done with. -/
def settledEvents (config : LivePipelineParts) (s : LivePipeline) (marketTicker : String) :
    List NormalizedEvent :=
  ((s.sharded.framesOf config.toShardedPipelineConfig marketTicker).take
    (s.settledCount config marketTicker)).filterMap fun frame ↦
      (config.route frame).bind config.parse

/-- The handler sees what a single store would accept. -/
theorem HandlersInformed.seen_eq {items : ℕ → List RoutedEvent}
    (hinformed : s.HandlersInformed config)
    (h : s.sharded.Inv config.toShardedPipelineConfig items) (marketTicker : String) :
    s.seen config marketTicker =
      if config.hasEventHandler (config.shardOf marketTicker) then
        BookStore.acceptedEvents {} (s.settledEvents config marketTicker) else [] := by
  have hsettled := (h.isSingleStore marketTicker).settled
  rw [ShardedPipeline.settledOf] at hsettled
  rw [seen, hinformed]
  split
  · rw [Shard.acceptedEvents, Shard.settledEvents, BookStore.filter_acceptedEvents _ rfl,
      ShardedPipeline.filter_filterMap_parse, hsettled, List.filterMap_filterMap]
    rfl
  · rfl

/-- What a handler is called with names a market. -/
theorem HandlersInformed.marketTicker_ne (h : s.HandlersInformed config) {i : ℕ}
    {event : NormalizedEvent} (hevent : event ∈ s.handled i) : event.marketTicker ≠ "" := by
  rw [h] at hevent
  split at hevent
  · exact BookStore.marketTicker_of_acceptedEvents _ _ event hevent
  · exact absurd hevent List.not_mem_nil

/-- What a handler is called with was in a message that was pushed, on a market of its shard. -/
theorem Inv.message_of_handled {items : ℕ → List RoutedEvent} {i : ℕ} {event : NormalizedEvent}
    (h : s.Inv config) (hsharded : s.sharded.Inv config.toShardedPipelineConfig items)
    (hinformed : s.HandlersInformed config) (hevent : event ∈ s.handled i) :
    ∃ message ∈ s.pushed, ∃ original recvNs, decodeMessage config message = some original ∧
      event = original.receivedAt recvNs ∧ config.shardOf event.marketTicker = i := by
  rw [hinformed] at hevent
  split at hevent
  · have hparsed := (BookStore.acceptedEvents_sublist _ {}).subset hevent
    obtain ⟨routed, hsettled, hparse⟩ := List.mem_filterMap.mp hparsed
    have hshard := hsharded.shardOf_settled hsettled
    rw [← ShardedPipeline.marketTicker_of_parse hparse] at hshard
    have hrouted := (List.mem_filter.mp ((hsharded.settled_prefix i).subset hsettled)).1
    obtain ⟨frame, hframe, hroute⟩ := List.mem_filterMap.mp hrouted
    have hdecode : (config.route frame).bind config.parse = _ :=
      decode_frame (h.isBlank_accepted frame hframe)
    rw [hroute, Option.bind_some, hparse] at hdecode
    obtain ⟨original, horiginal, hreceived⟩ := Option.map_eq_some_iff.mp hdecode.symm
    exact ⟨frame.payload, h.dispatched_sublist.subset (List.mem_map_of_mem hframe), original, _,
      horiginal, hreceived.symm, hshard⟩
  · exact absurd hevent List.not_mem_nil

end LivePipeline

/-- **Sharding is invisible to the event handlers.** Whatever the interleaving, the number of shards
and the answers of the handlers, the events of a market that its handler has been called with are
those that a single store accepts of the frames of this market, in their order; and no other handler
sees an event of the market. -/
theorem handlers_see_accepted {config : LivePipelineParts} {s : LivePipeline}
    (hcapacity : config.framePoolCapacity < 2 ^ 32)
    (h : (LivePipeline.machine config).Reaches (.create config) s) (marketTicker : String) :
    s.seen config marketTicker =
        (if config.hasEventHandler (config.shardOf marketTicker) then
          BookStore.acceptedEvents {} (s.settledEvents config marketTicker) else []) ∧
      ∀ i ≠ config.shardOf marketTicker, ∀ event ∈ s.handled i,
        event.marketTicker ≠ marketTicker := by
  have hinv := LivePipeline.inv_of_reaches hcapacity h
  have hinformed := LivePipeline.handlersInformed_of_reaches hcapacity h
  obtain ⟨items, hsharded⟩ := hinv.sharded
  refine ⟨hinformed.seen_eq hsharded marketTicker, fun i hi event hevent hmarket ↦ ?_⟩
  rw [hinformed] at hevent
  split at hevent
  · have hparsed := (BookStore.acceptedEvents_sublist _ {}).subset hevent
    obtain ⟨routed, hrouted, hparse⟩ := List.mem_filterMap.mp hparsed
    refine hi ?_
    rw [← hsharded.shardOf_settled hrouted, ← ShardedPipeline.marketTicker_of_parse hparse,
      hmarket]
  · exact absurd hevent List.not_mem_nil

/-- The same run with an event handler for each shard. -/
def handledTrades : LivePipelineParts :=
  { wiredTrades with hasEventHandler := fun _ ↦ true }

theorem handlers_see_accepted_trade : ∃ s,
    (LivePipeline.machine handledTrades).Reaches (.create handledTrades) s ∧
      (s.seen handledTrades "A").length = 1 ∧
      s.seen handledTrades "A" = BookStore.acceptedEvents {} (s.settledEvents handledTrades "A") ∧
      ∀ event ∈ s.handled 0, event.marketTicker ≠ "A" := by
  have hrun : ((LivePipeline.machine handledTrades).runVia (fun _ _ ↦ True)
      (.create handledTrades) wireRun).any (fun s ↦ (s.seen handledTrades "A").length = 1) =
        true := by
    decide +kernel
  obtain ⟨s, hreaches, hlast⟩ := Machine.exists_of_runVia hrun
  obtain ⟨hseen, hother⟩ := handlers_see_accepted (by decide) hreaches "A"
  exact ⟨s, hreaches, of_decide_eq_true hlast, hseen, hother 0 (by decide)⟩

end TradingEngine
