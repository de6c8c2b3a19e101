import TradingEngine.Apps.LiveTrader

/-!
# From the wire to the orders

A request that the trader sends can be traced back: to an intent that the strategy of a shard
decided on, which the payload of the request encodes, to the event that it was asked about, to the
books that accepted the event, and to the message that the event was in (`wire_to_orders`). The
strategy of a shard is asked about what its books accept, in this order, less the events of markets
that are not in the universe.

The trader is shipped with strategies that do nothing. In no run does it send anything
(`noop_trader_is_silent`).
-/

namespace TradingEngine

/-! ## What a step does to a handler -/

namespace Shard

variable {shard shard' : Shard}

theorem handedOver_of_start (hstart : shard.start = some shard') :
    shard'.handedOver = shard.handedOver := by
  rw [start] at hstart
  split at hstart
  · rename_i hat
    obtain rfl := Option.some.inj hstart
    rw [handedOver, handedOver, hat]
  · exact absurd hstart (by simp)

/-- A handler that returns leaves its shard with nothing to show. -/
theorem handedOver_of_handle {iterate : String → Option OnDemand.Value}
    {hasEventHandler handled : Bool} {event : NormalizedEvent} (hat : shard.worker = .handle event)
    (hstep : shard.runStep iterate hasEventHandler handled = some shard') :
    shard'.handedOver = [] := by
  rw [runStep, hat] at hstep
  obtain rfl := Option.some.inj hstep
  rfl

end Shard

namespace LivePipeline

variable {config : LivePipelineParts} {s s' : LivePipeline}

/-- **Handlers and what they have been called with.** Unless the handler of a shard returns, a step
leaves the two as they are, or calls the handler. -/
def HandlerKept (i : ℕ) (s s' : LivePipeline) : Prop :=
  s'.handled i = s.handled i ∧
      (s'.sharded.shards i).handedOver = (s.sharded.shards i).handedOver ∨
    (s.sharded.shards i).handedOver = [] ∧
      s'.handled i = s.handled i ++ (s'.sharded.shards i).handedOver

theorem handlerKept_setShard {i j : ℕ} {shard : Shard} (hhandled : s'.handled = s.handled)
    (hshards : s'.sharded.shards = (s.sharded.setShard j shard).shards)
    (hover : shard.handedOver = (s.sharded.shards j).handedOver) : HandlerKept i s s' := by
  refine .inl ⟨by rw [hhandled], ?_⟩
  rw [hshards, ShardedPipeline.setShard]
  dsimp only
  by_cases hij : i = j
  · rw [hij, Function.update_self, hover]
  · rw [Function.update_of_ne hij]

theorem handlerKept_controlStep {i : ℕ} (hstep : s.controlStep config = some s') :
    HandlerKept i s s' := by
  cases controlMoves_of_controlStep hstep with
  | started shardId =>
    rw [LivePipeline.startShard]
    split
    · exact .inl ⟨rfl, rfl⟩
    · rename_i hstart
      obtain ⟨shard, hshard, rfl⟩ := ShardedPipeline.step_start hstart
      exact handlerKept_setShard rfl rfl (Shard.handedOver_of_start hshard)
  | up => exact .inl ⟨rfl, rfl⟩
  | passed control running => exact .inl ⟨rfl, rfl⟩
  | asked control hrequest => exact handlerKept_setShard rfl rfl rfl

/-- A step of a shard concerns its own handler. -/
theorem handlerKept_shardStep {i j : ℕ} {handled : Bool}
    (hfree : i = j → (s.sharded.shards i).handedOver = [])
    (hstep : s.shardStep config j handled = some s') : HandlerKept i s s' := by
  have hhandled := handled_shardStep hstep
  by_cases hij : i = j
  · subst hij
    refine .inr ⟨hfree rfl, ?_⟩
    rw [hhandled, Function.update_self]
  · obtain ⟨sharded, hsharded, rfl⟩ := Option.map_eq_some_iff.mp hstep
    refine .inl ⟨?_, ?_⟩
    · rw [hhandled, Function.update_of_ne hij]
    · dsimp only
      rw [(ShardedPipeline.step_shard hsharded).2.2.2 i hij]

theorem handlerKept_of_step {i : ℕ} {input : LiveInput} (hinv : s.Inv config)
    (hfree : ∀ handled, input = .shard i handled → (s.sharded.shards i).handedOver = [])
    (hstep : s.step config input = some s') : HandlerKept i s s' := by
  cases input with
  | pushMessage message =>
    obtain ⟨ingest, -, rfl⟩ := Option.map_eq_some_iff.mp hstep
    exact .inl ⟨rfl, rfl⟩
  | producer now =>
    obtain ⟨ingest, -, rfl⟩ := Option.map_eq_some_iff.mp hstep
    exact .inl ⟨rfl, rfl⟩
  | pumpIngest maxFrames =>
    rw [LivePipeline.step] at hstep
    split at hstep
    · obtain ⟨ingest, -, rfl⟩ := Option.map_eq_some_iff.mp hstep
      exact .inl ⟨rfl, rfl⟩
    · exact absurd hstep (by simp)
  | start =>
    obtain ⟨-, control, rfl⟩ := step_begin (.inl rfl) hstep
    exact .inl ⟨rfl, rfl⟩
  | stop =>
    obtain ⟨-, control, rfl⟩ := step_begin (.inr rfl) hstep
    exact .inl ⟨rfl, rfl⟩
  | pump =>
    obtain ⟨hshards, -⟩ := shards_pumpStep hinv hstep
    exact .inl ⟨by rw [handled_pumpStep hstep], by rw [hshards]⟩
  | control => exact handlerKept_controlStep hstep
  | shard j handled =>
    exact handlerKept_shardStep (fun hij ↦ hfree handled (by rw [hij])) hstep

/-- A handler returns. -/
theorem handler_returns {i : ℕ} {result : Bool} {event : NormalizedEvent}
    (hat : (s.sharded.shards i).worker = .handle event)
    (hstep : s.step config (.shard i result) = some s') :
    s'.handled i = s.handled i ∧ (s'.sharded.shards i).handedOver = [] ∧
      ∀ j ≠ i, HandlerKept j s s' := by
  have hkept : ∀ j ≠ i, HandlerKept j s s' := fun j hj ↦
    handlerKept_shardStep (fun hji ↦ absurd hji hj) hstep
  have hhandled := handled_shardStep hstep
  have hover : (s'.sharded.shards i).handedOver = [] := by
    obtain ⟨sharded, hsharded, rfl⟩ := Option.map_eq_some_iff.mp hstep
    rw [ShardedPipeline.step] at hsharded
    split at hsharded
    · rw [ShardedPipeline.shardStep, hat] at hsharded
      obtain ⟨shard, hrun, rfl⟩ := Option.map_eq_some_iff.mp hsharded
      rw [ShardedPipeline.setShard]
      dsimp only
      rw [Function.update_self]
      exact Shard.handedOver_of_handle hat hrun
    · exact absurd hsharded (by simp)
  refine ⟨?_, hover, hkept⟩
  rw [hhandled, Function.update_self, hover, List.append_nil]

end LivePipeline

/-! ## The invariant -/

namespace LiveTrader

variable {Text τ σ : Type*} {config : LiveTraderConfig Text τ σ} {s s' : LiveTrader Text τ σ}

/-- Events of this market are shown to the strategies. -/
def shown (config : LiveTraderConfig Text τ σ) (event : NormalizedEvent) : Bool :=
  (MarketFilterEventHandler.onEvent config.flowConfig.allowedMarkets true event).isNone

/-- What the strategy of a shard was asked about, against what its handler was called with. -/
def Agrees (config : LiveTraderConfig Text τ σ) (call : RunnerCall)
    (handled inHand asked : List NormalizedEvent) : Prop :=
  match call with
  | .idle => ∃ before, handled = before ++ inHand ∧ asked = before.filter (shown config)
  | .deciding event => ∃ before, inHand = [event] ∧ shown config event = true ∧
      handled = before ++ [event] ∧ asked = before.filter (shown config)
  | .emitting event _ | .judging event _ _ | .submitting event _ _ =>
    inHand = [event] ∧ asked = handled.filter (shown config)
  | .returned _ => inHand ≠ [] ∧ asked = handled.filter (shown config)

variable {call : RunnerCall} {event : NormalizedEvent} {handled inHand asked : List NormalizedEvent}

theorem agrees_of_answering (hcall : call.answering = some event) :
    Agrees config call handled inHand asked ↔
      inHand = [event] ∧ asked = handled.filter (shown config) := by
  cases call with
  | emitting event' _ | judging event' _ _ | submitting event' _ _ =>
    obtain rfl := Option.some.inj hcall
    exact Iff.rfl
  | _ => cases hcall

/-- A handler that has nothing to show has been asked about everything. -/
theorem Agrees.idle (h : Agrees config call handled [] asked) :
    call = .idle ∧ asked = handled.filter (shown config) := by
  cases call with
  | idle =>
    obtain ⟨before, hhandled, hasked⟩ := h
    rw [List.append_nil] at hhandled
    exact ⟨rfl, hhandled ▸ hasked⟩
  | deciding event =>
    obtain ⟨before, hover, -⟩ := h
    cases hover
  | returned result => exact absurd rfl h.1
  | emitting _ _ | judging _ _ _ | submitting _ _ _ => cases h.1

/-- The pipeline goes on, and may call the handler. -/
theorem Agrees.kept {handled' inHand' : List NormalizedEvent}
    (h : Agrees config call handled inHand asked)
    (hkept : handled' = handled ∧ inHand' = inHand ∨ inHand = [] ∧ handled' = handled ++ inHand') :
    Agrees config call handled' inHand' asked := by
  obtain ⟨rfl, rfl⟩ | ⟨rfl, rfl⟩ := hkept
  · exact h
  · obtain ⟨rfl, hasked⟩ := h.idle
    exact ⟨handled, rfl, hasked⟩

/-- The strategy has been asked about some of what the handler was called with, in order. -/
theorem Agrees.isPrefix_asked (h : Agrees config call handled inHand asked) :
    asked <+: handled.filter (shown config) := by
  cases call with
  | idle =>
    obtain ⟨before, rfl, rfl⟩ := h
    rw [List.filter_append]
    exact List.prefix_append _ _
  | deciding event =>
    obtain ⟨before, -, -, rfl, rfl⟩ := h
    rw [List.filter_append]
    exact List.prefix_append _ _
  | emitting _ _ | judging _ _ _ | submitting _ _ _ | returned _ =>
    rw [h.2]

/-- The events that the strategy of a shard was asked about. -/
def askedEvents (s : LiveTrader Text τ σ) (i : ℕ) : List NormalizedEvent :=
  (s.flow.asked i).map StrategyAnswer.event

def Linked (config : LiveTraderConfig Text τ σ) (s : LiveTrader Text τ σ) : Prop :=
  ∀ i, Agrees config (s.flow.runners i).call (s.pipeline.handled i)
    (s.pipeline.sharded.shards i).handedOver (s.askedEvents i)

theorem linked_create (transport : τ) (sink : σ) :
    (create config transport sink).Linked config :=
  fun _ ↦ ⟨[], rfl, rfl⟩

theorem isHandling_eq_false {worker : ShardWorker} {shard : Shard} (hat : shard.worker = worker)
    (h : worker.isHandling = false) : shard.handedOver = [] := by
  rw [Shard.handedOver, hat]
  cases worker with
  | handle event => cases h
  | _ => rfl

/-- **One step.** -/
theorem Linked.step {input : LiveTraderInput} (hinv : s.pipeline.Inv config.pipelineConfig)
    (h : s.Linked config) (hstep : s.step config input = some s') : s'.Linked config := by
  cases moves_of_step hstep with
  | @pipeline input pipeline hfree hpipeline =>
    intro i
    refine (h i).kept (LivePipeline.handlerKept_of_step hinv ?_ hpipeline)
    rintro result rfl
    exact isHandling_eq_false rfl hfree
  | @enter i event flow hworker hidle hflow =>
    obtain ⟨⟨hasked, hothers⟩, hcall⟩ := OrderFlow.call_of_onEvent hflow
    intro j
    have hj := h j
    rw [askedEvents] at hj ⊢
    dsimp only
    rw [hasked]
    by_cases hij : j = i
    · subst hij
      rw [hidle] at hj
      rw [Shard.handedOver, hworker] at hj ⊢
      obtain ⟨before, hhandled, hbefore⟩ := hj
      obtain ⟨hfilter, hcall⟩ | ⟨hfilter, result, hcall⟩ := hcall
      · rw [hcall]
        exact ⟨before, rfl, by rw [shown, hfilter]; rfl, hhandled, hbefore⟩
      · -- the market is filtered out, so there is nothing to ask
        rw [hcall]
        refine ⟨by simp, ?_⟩
        have hhidden : shown config event = false := by
          rw [shown, Option.isNone_eq_false_iff]
          exact Option.isSome_iff_ne_none.mpr hfilter
        rw [hhandled, List.filter_append, List.filter_cons_of_neg (by simp [hhidden]),
          List.filter_nil, List.append_nil]
        exact hbefore
    · rw [hothers j hij]
      exact hj
  | @leave i event result pipeline flow hworker hreturned hpipeline hflow =>
    obtain ⟨hhandled, hover, hkept⟩ := LivePipeline.handler_returns hworker hpipeline
    obtain ⟨⟨hasked, hothers⟩, hcall⟩ := OrderFlow.call_of_finish hflow
    intro j
    have hj := h j
    rw [askedEvents] at hj ⊢
    dsimp only
    rw [hasked]
    by_cases hij : j = i
    · subst hij
      rw [hreturned] at hj
      rw [hcall, hhandled, hover]
      exact ⟨s.pipeline.handled j, (List.append_nil _).symm, hj.2⟩
    · rw [hothers j hij]
      exact hj.kept (hkept j hij)
  | @strategy i outcome flow hflow =>
    obtain ⟨hothers, event, hdeciding, hasked, hcall⟩ := OrderFlow.call_of_strategy hflow
    intro j
    have hj := h j
    rw [askedEvents] at hj ⊢
    dsimp only
    rw [hasked]
    by_cases hij : j = i
    · subst hij
      rw [hdeciding] at hj
      obtain ⟨before, hover, hshown, hhandled, hbefore⟩ := hj
      have hnow : ((s.flow.asked j ++ [{ event, outcome : StrategyAnswer }]).map
          StrategyAnswer.event) = (s.pipeline.handled j).filter (shown config) := by
        rw [List.map_append, hbefore, hhandled, List.filter_append,
          List.filter_cons_of_pos hshown]
        rfl
      rw [Function.update_self, hnow]
      obtain hanswering | ⟨result, hreturned⟩ := hcall
      · exact (agrees_of_answering hanswering).mpr ⟨hover, rfl⟩
      · rw [hreturned]
        exact ⟨by rw [hover]; simp, rfl⟩
    · rw [hothers j hij, Function.update_of_ne hij]
      exact hj
  | @runner i now flow hflow =>
    obtain ⟨⟨hasked, hothers⟩, event, hanswering, hcall⟩ := OrderFlow.call_of_runner hflow
    intro j
    have hj := h j
    rw [askedEvents] at hj ⊢
    dsimp only
    rw [hasked]
    by_cases hij : j = i
    · subst hij
      obtain ⟨hover, hnow⟩ := (agrees_of_answering hanswering).mp hj
      obtain hanswering' | ⟨result, hreturned⟩ := hcall
      · exact (agrees_of_answering hanswering').mpr ⟨hover, hnow⟩
      · rw [hreturned]
        exact ⟨by rw [hover]; simp, hnow⟩
    · rw [hothers j hij]
      exact hj
  | @manager input flow hflow =>
    obtain ⟨hasked, hrunners⟩ := OrderFlow.call_of_manager hflow
    intro j
    have hj := h j
    rw [askedEvents] at hj ⊢
    dsimp only
    rw [hasked, hrunners]
    exact hj

variable {transport : τ} {sink : σ}

theorem linked_of_reaches (hcapacity : config.pipeline.framePoolCapacity < 2 ^ 32)
    (h : (machine config).Reaches (create config transport sink) s) : s.Linked config :=
  h.invariant (linked_create transport sink) fun hreaches hlinked _ hstep ↦
    hlinked.step (LivePipeline.inv_of_reaches hcapacity (pipeline_of_reaches hreaches)) hstep

/-! ## Where an order comes from -/

/-- The strategy of the shard decided on the intent for an event that its books accepted, out of a
message that was pushed. -/
structure TracedTo (config : LiveTraderConfig Text τ σ) (s : LiveTrader Text τ σ) (shardId : ℕ)
    (intent : OrderIntent) (message : String) (event : NormalizedEvent)
    (intents : List OrderIntent) : Prop where
  pushed : message ∈ s.pipeline.pushed
  decoded : ∃ original recvNs,
    LivePipeline.decodeMessage config.pipelineConfig message = some original ∧
      event = original.receivedAt recvNs
  shard : config.pipelineConfig.shardOf event.marketTicker = shardId
  shown : shown config event = true
  answered : { event, outcome := .decided intents : StrategyAnswer } ∈ s.flow.asked shardId
  /-- Where the intent of the strategy leaves exchange or market open, they come from the event. -/
  completed : ∃ raw ∈ intents, intent = { raw with
    exchange := if raw.exchange = .unknown then event.eventMeta.exchange else raw.exchange
    marketTicker := if raw.marketTicker = "" then event.marketTicker else raw.marketTicker
    intentTsNs := intent.intentTsNs }

/-- The strategy of a shard was asked about events that its handler was called with. -/
theorem Linked.mem_handled (h : s.Linked config) {i : ℕ} {answer : StrategyAnswer}
    (hanswer : answer ∈ s.flow.asked i) :
    answer.event ∈ s.pipeline.handled i ∧ LiveTrader.shown config answer.event = true :=
  List.mem_filter.mp ((h i).isPrefix_asked.subset (List.mem_map_of_mem hanswer))

theorem StrategyAnswer.mem_intents {answer : StrategyAnswer} {intent : OrderIntent}
    (h : intent ∈ answer.intents) :
    ∃ intents, answer.outcome = .decided intents ∧
      ∃ raw ∈ intents, completeIntent answer.event raw = intent := by
  rw [StrategyAnswer.intents] at h
  split at h
  · rename_i intents hdecided
    exact ⟨intents, hdecided, List.mem_map.mp h⟩
  · exact absurd h List.not_mem_nil

/-- All but the time of what is submitted is known from the strategy and the event. -/
theorem eq_of_untimed_completeIntent {event : NormalizedEvent} {raw intent : OrderIntent}
    (h : (completeIntent event raw).untimed = intent.untimed) :
    intent = { raw with
      exchange := if raw.exchange = .unknown then event.eventMeta.exchange else raw.exchange
      marketTicker := if raw.marketTicker = "" then event.marketTicker else raw.marketTicker
      intentTsNs := intent.intentTsNs } := by
  have hintent : intent = { (completeIntent event raw).untimed with
      intentTsNs := intent.intentTsNs } := by rw [h, OrderIntent.untimed]
  rw [OrderIntent.untimed, completeIntent_eq, completeIntent_exchange,
    completeIntent_marketTicker] at hintent
  exact hintent

theorem Linked.traced {passes : ℕ → OrderIntent → Prop} {items : ℕ → List RoutedEvent} {i : ℕ}
    {pending : PendingIntent} (h : s.Linked config) (hinv : s.pipeline.Inv config.pipelineConfig)
    (hsharded : s.pipeline.sharded.Inv config.pipelineConfig.toShardedPipelineConfig items)
    (hinformed : s.pipeline.HandlersInformed config.pipelineConfig)
    (hflow : s.flow.Inv config.flowConfig passes) (hpending : pending ∈ s.flow.enqueuedOf i) :
    ∃ message event intents, s.TracedTo config i pending.intent message event intents := by
  -- what entered the queue was decided on
  obtain ⟨done, hdecided, hthin⟩ := (hflow.shard i).enqueued
  have huntimed := hthin.sublist.subset (List.mem_map_of_mem hpending)
  obtain ⟨intent, hintent, hsame⟩ := List.mem_map.mp huntimed
  have hmem : intent ∈ (s.flow.asked i).flatMap StrategyAnswer.intents := by
    change (s.flow.asked i).flatMap StrategyAnswer.intents = _ at hdecided
    rw [hdecided]
    exact List.mem_append_left _ hintent
  obtain ⟨⟨event, outcome⟩, hanswer, hintent⟩ := List.mem_flatMap.mp hmem
  obtain ⟨intents, rfl, raw, hraw, rfl⟩ := StrategyAnswer.mem_intents hintent
  -- for an event that came over the wire
  obtain ⟨hhandled, hshown⟩ := h.mem_handled hanswer
  obtain ⟨message, hpushed, original, recvNs, hdecode, hevent, hshard⟩ :=
    hinv.message_of_handled hsharded hinformed hhandled
  exact ⟨message, event, intents, hpushed, ⟨original, recvNs, hdecode, hevent⟩, hshard, hshown,
    hanswer, raw, hraw, eq_of_untimed_completeIntent hsame⟩

/-- The events of a market that a strategy was asked about. -/
def askedOn (config : LiveTraderConfig Text τ σ) (s : LiveTrader Text τ σ) (marketTicker : String) :
    List NormalizedEvent :=
  (s.askedEvents (config.pipelineConfig.shardOf marketTicker)).filter fun event ↦
    event.marketTicker = marketTicker

theorem hasEventHandler_shardOf (marketTicker : String) :
    config.pipelineConfig.hasEventHandler (config.pipelineConfig.shardOf marketTicker) = true := by
  have hpos : 0 < config.strategyShardCount := Nat.lt_of_lt_of_le Nat.one_pos (le_max_right _ _)
  refine decide_eq_true (?_ : config.pipelineConfig.shardOf marketTicker < _)
  rw [ShardedPipelineConfig.shardOf, config.resolvedShardCount_eq]
  exact Router.computeShardId_lt hpos

theorem Linked.isPrefix_askedOn {items : ℕ → List RoutedEvent} (h : s.Linked config)
    (hsharded : s.pipeline.sharded.Inv config.pipelineConfig.toShardedPipelineConfig items)
    (hinformed : s.pipeline.HandlersInformed config.pipelineConfig) (marketTicker : String) :
    s.askedOn config marketTicker <+:
      (BookStore.acceptedEvents {}
        (s.pipeline.settledEvents config.pipelineConfig marketTicker)).filter (shown config) := by
  have hseen := hinformed.seen_eq hsharded marketTicker
  rw [if_pos (hasEventHandler_shardOf marketTicker)] at hseen
  rw [← hseen, LivePipeline.seen, List.filter_comm]
  exact (h _).isPrefix_asked.filter _

/-- From the messages to the requests that the transport took. -/
structure FromWire (config : LiveTraderConfig Text τ σ) (s s₀ : LiveTrader Text τ σ) : Prop where
  /-- The strategies are asked about what a single store would accept, market by market. -/
  asked : ∀ marketTicker, s.askedOn config marketTicker <+:
    (BookStore.acceptedEvents {}
      (s.pipeline.settledEvents config.pipelineConfig marketTicker)).filter (shown config)
  /-- What is sent for a shard follows its strategy. -/
  decided : ∀ i, ((s.flow.sentOf i).map fun pending ↦ pending.intent.untimed).Sublist
    ((s.flow.decided i).map OrderIntent.untimed)
  traced : ∀ request ∈ s.flow.manager.sentRequests, ∃ i, ∃ pending ∈ s.flow.sentOf i,
    OrderFlow.Encodes config.flow.orderManager.adapter pending request ∧
      ∃ message event intents, s.TracedTo config i pending.intent message event intents
  /-- The payloads of the requests are the texts that the transport took, if it keeps them. -/
  taken : ∀ taken, config.flow.orderManager.transport.Records taken →
    taken s.flow.manager.transport =
      taken s₀.flow.manager.transport ++ s.flow.manager.sentRequests.map Prod.snd

/-- What the transport took is the encoding of something that entered the queue. -/
theorem sentOf_of_mem_sentRequests {s₀ : OrderFlow Text τ σ} {request : ℕ × Text}
    (h : s.flow.OrdersFollow config.flowConfig s₀)
    (hrequest : request ∈ s.flow.manager.sentRequests) :
    ∃ i, ∃ pending ∈ s.flow.sentOf i,
      OrderFlow.Encodes config.flow.orderManager.adapter pending request := by
  have hencoded : ∀ {sent : List PendingIntent} {requests : List (ℕ × Text)},
      List.Forall₂ (OrderFlow.Encodes config.flow.orderManager.adapter) sent requests →
      request ∈ requests →
      ∃ pending ∈ sent, OrderFlow.Encodes config.flow.orderManager.adapter pending request := by
    intro sent requests hsent hmem
    induction hsent with
    | nil => exact absurd hmem List.not_mem_nil
    | cons hencodes _ ih =>
      rcases List.mem_cons.mp hmem with rfl | hrest
      · exact ⟨_, List.mem_cons_self, hencodes⟩
      · obtain ⟨pending, hpending, hencodes⟩ := ih hrest
        exact ⟨pending, List.mem_cons_of_mem _ hpending, hencodes⟩
  obtain ⟨pending, hpending, hencodes⟩ := hencoded h.sent hrequest
  obtain ⟨entry, hentry, rfl⟩ := List.mem_map.mp hpending
  exact ⟨entry.shardId, _, List.mem_map_of_mem (List.mem_filter.mpr ⟨hentry, by simp⟩), hencodes⟩

end LiveTrader

/-- **From the wire to the orders.** In every run of the trader, whatever its strategies answer and
however its threads are interleaved, every request that the transport took goes back to a message
that was pushed: an event in the message was accepted by the books of the shard of its market, the
strategy of this shard was asked about it and decided on an intent, and the payload of the request
is the encoding of this intent, with exchange and market from the event where it left them open. -/
theorem wire_to_orders {Text τ σ : Type*} {config : LiveTraderConfig Text τ σ} {transport : τ}
    {sink : σ} {s : LiveTrader Text τ σ} (hcapacity : config.pipeline.framePoolCapacity < 2 ^ 32)
    (h : (LiveTrader.machine config).Reaches (.create config transport sink) s) :
    s.FromWire config (.create config transport sink) := by
  have hpipeline := LiveTrader.pipeline_of_reaches h
  have hflow := LiveTrader.flow_of_reaches h
  have hmanager := OrderFlow.manager_of_reaches hflow
  have hlinked := LiveTrader.linked_of_reaches hcapacity h
  have hcapacity' : config.pipelineConfig.framePoolCapacity < 2 ^ 32 := hcapacity
  have hinv := LivePipeline.inv_of_reaches hcapacity' hpipeline
  have hinformed := LivePipeline.handlersInformed_of_reaches hcapacity' hpipeline
  have hflowInv := OrderFlow.inv_of_reaches hflow
  have hfollow := hflowInv.ordersFollow (OrderFlow.numbered_of_reaches hflow) hmanager
  obtain ⟨items, hsharded⟩ := hinv.sharded
  refine ⟨hlinked.isPrefix_askedOn hsharded hinformed, hfollow.decided, fun request hrequest ↦ ?_,
    fun taken hrecords ↦ OrderManager.taken_of_reaches hrecords hmanager⟩
  obtain ⟨i, pending, hpending, hencodes⟩ := LiveTrader.sentOf_of_mem_sentRequests hfollow hrequest
  exact ⟨i, pending, hpending, hencodes, hlinked.traced hinv hsharded hinformed hflowInv
    (OrderFlow.mem_enqueuedOf_of_mem_sentOf hpending)⟩

/-- Two shards, the strategy of the one that market A belongs to with an order in mind. -/
def wiredTrader : LiveTraderConfig (Option Json) (PaperOrderTransport.State (Option Json))
    PositionLedger where
  pipeline := wiredTrades
  flow := twoRunners

/-- A trade arrives, the strategy of shard 1 is asked about it, and its order is sent. -/
def wiredTraderRun (outcome : StrategyOutcome) (runnerSteps : ℕ) : List LiveTraderInput :=
  .manager .start :: wireRun.map .pipeline ++ .handler 1 :: .strategy 1 outcome ::
    List.replicate runnerSteps (.runner 1 9) ++ .handler 1 :: (Trader.drain 1).map .manager

theorem wire_to_orders_trade : ∃ s,
    (LiveTrader.machine wiredTrader).Reaches (.create wiredTrader {} {}) s ∧
      s.flow.manager.sentIds = [1] ∧ (s.askedOn wiredTrader "A").length = 1 ∧
      s.FromWire wiredTrader (.create wiredTrader {} {}) := by
  have hrun : ((LiveTrader.machine wiredTrader).runVia (fun _ _ ↦ True)
      (.create wiredTrader {} {}) (wiredTraderRun (.decided [openIntent "c1" 5]) 8)).any
        (fun s ↦ s.flow.manager.sentIds = [1] ∧ (s.askedOn wiredTrader "A").length = 1) =
          true := by
    decide +kernel
  obtain ⟨s, hreaches, hlast⟩ := Machine.exists_of_runVia hrun
  obtain ⟨hsent, hasked⟩ := of_decide_eq_true hlast
  exact ⟨s, hreaches, hsent, hasked, wire_to_orders (by decide) hreaches⟩

/-! ## Strategies that do nothing -/

namespace OrderFlow

variable {Text τ σ : Type*} {config : OrderFlowConfig Text τ σ} {s s' : OrderFlow Text τ σ}
  {strategy : NormalizedEvent → StrategyOutcome}

/-- The answer that is given at a step. -/
def answer (s : OrderFlow Text τ σ) : OrderFlowInput → Option StrategyAnswer
  | .strategy i outcome =>
    match (s.runners i).call with
    | .deciding event => some { event, outcome }
    | _ => none
  | _ => none

/-- The strategies answer as this one does. -/
def AnswersWith (strategy : NormalizedEvent → StrategyOutcome) (s : OrderFlow Text τ σ)
    (input : OrderFlowInput) : Prop :=
  ∀ answer ∈ s.answer input, answer.outcome = strategy answer.event

instance (s : OrderFlow Text τ σ) (input : OrderFlowInput) :
    Decidable (s.AnswersWith strategy input) :=
  inferInstanceAs (Decidable (∀ answer ∈ s.answer input, _))

theorem answersWith_of_eq_none {input : OrderFlowInput} (h : s.answer input = none) :
    s.AnswersWith strategy input := by
  rw [AnswersWith, h]
  exact fun _ hanswer ↦ absurd hanswer (by simp)

/-- The strategies have answered as this one does. -/
def Answered (strategy : NormalizedEvent → StrategyOutcome) (s : OrderFlow Text τ σ) : Prop :=
  ∀ i, ∀ answer ∈ s.asked i, answer.outcome = strategy answer.event

theorem Answered.step {input : OrderFlowInput} (h : s.Answered strategy)
    (hanswers : s.AnswersWith strategy input) (hstep : s.step config input = some s') :
    s'.Answered strategy := by
  rw [Answered]
  cases input with
  | strategy i outcome =>
    obtain ⟨-, event, hat, hnext, -⟩ := call_of_strategy hstep
    intro j answer hmem
    rw [hnext] at hmem
    by_cases hj : j = i
    · rw [hj, Function.update_self] at hmem
      rcases List.mem_append.mp hmem with hold | hnew
      · exact h i answer hold
      · refine hanswers answer ?_
        rw [List.mem_singleton.mp hnew, OrderFlow.answer, hat]
        rfl
    · rw [Function.update_of_ne hj] at hmem
      exact h j answer hmem
  | onEvent i event =>
    rw [(call_of_onEvent hstep).1.1]
    exact h
  | runner i now =>
    rw [(call_of_runner hstep).1.1]
    exact h
  | finish i =>
    rw [(call_of_finish hstep).1.1]
    exact h
  | manager input =>
    rw [(call_of_manager hstep).1]
    exact h

theorem answered_of_reaches {transport : τ} {sink : σ}
    (h : (machine config).ReachesVia (AnswersWith strategy) (create config transport sink) s) :
    s.Answered strategy :=
  h.invariant (fun _ _ hanswer ↦ absurd hanswer List.not_mem_nil)
    fun _ hanswered hanswers hstep ↦ hanswered.step hanswers hstep

/-- Nothing is under way, and nothing has been. -/
structure Silent (s : OrderFlow Text τ σ) : Prop where
  sent : s.manager.sentIds = []
  waiting : s.manager.waiting = []
  emitted : ∀ i, (s.runners i).stats.intentsEmittedCount = 0

end OrderFlow

/-- Where nothing is decided, nothing is emitted. -/
theorem ShardView.Inv.emitted_eq_zero {passes : OrderIntent → Prop} {view : ShardView}
    (h : view.Inv passes) (hdecided : view.decided = []) :
    view.enqueued = [] ∧ view.runner.stats.intentsEmittedCount = 0 := by
  obtain ⟨done, heq, hthin⟩ := h.enqueued
  rw [hdecided] at heq
  obtain ⟨rfl, hcome⟩ := List.append_eq_nil_iff.mp heq.symm
  have hlength := hthin.length_eq
  rw [List.map_nil, List.length_nil, List.length_map] at hlength
  have henqueued : view.enqueued = [] := List.eq_nil_of_length_eq_zero (by omega)
  have hcounted := h.counted
  rw [henqueued, List.length_nil] at hcounted
  have hhand : view.runner.call.inHand = 0 := by
    rw [toCome] at hcome
    rcases hcall : view.runner.call with _ | _ | _ | _ | _ | _
    case judging event intent rest =>
      rw [hcall] at hcome
      cases hcome
    case submitting event intent rest =>
      rw [hcall] at hcome
      dsimp only at hcome
      -- nothing entered the queue, so the intent in hand did not either
      rw [if_pos (Nat.eq_zero_of_add_eq_zero hcounted.symm).2] at hcome
      cases hcome
    all_goals rfl
  have hemitted := h.accounted.emitted
  rw [refused] at hlength
  exact ⟨henqueued, by omega⟩

namespace OrderFlow

variable {Text τ σ : Type*} {config : OrderFlowConfig Text τ σ} {s : OrderFlow Text τ σ}

theorem Inv.silent {passes : ℕ → OrderIntent → Prop} (h : s.Inv config passes)
    (hdecided : ∀ i, s.decided i = []) : s.Silent := by
  have hshard := fun i ↦ (h.shard i).emitted_eq_zero (hdecided i)
  have hnone : s.enqueued = [] := by
    refine List.eq_nil_iff_forall_not_mem.mpr fun entry hentry ↦ ?_
    have hmem : entry.pending ∈ s.enqueuedOf entry.shardId :=
      List.mem_map_of_mem (List.mem_filter.mpr ⟨hentry, by simp⟩)
    rw [show s.enqueuedOf entry.shardId = [] from (hshard entry.shardId).1] at hmem
    exact List.not_mem_nil hmem
  obtain ⟨settled, sent, hline, hsent, hencodes⟩ := h.line
  rw [hnone, List.map_nil] at hline
  obtain ⟨rfl, hwaiting⟩ := List.append_eq_nil_iff.mp hline.symm
  obtain rfl := List.sublist_nil.mp hsent
  have hrequests := List.forall₂_nil_left_iff.mp hencodes
  exact ⟨by rw [OrderManager.sentIds, hrequests, List.map_nil], hwaiting, fun i ↦ (hshard i).2⟩

end OrderFlow

namespace LiveTrader

variable {Text τ σ : Type*} {config : LiveTraderConfig Text τ σ} {s s' : LiveTrader Text τ σ}
  {strategy : NormalizedEvent → StrategyOutcome}

/-- The strategies of the trader answer as this one does. -/
def AnswersWith (strategy : NormalizedEvent → StrategyOutcome) (s : LiveTrader Text τ σ) :
    LiveTraderInput → Prop
  | .strategy i outcome => s.flow.AnswersWith strategy (.strategy i outcome)
  | _ => True

instance (s : LiveTrader Text τ σ) : (input : LiveTraderInput) →
    Decidable (s.AnswersWith strategy input)
  | .strategy i outcome =>
    inferInstanceAs (Decidable (s.flow.AnswersWith strategy (.strategy i outcome)))
  | .pipeline _ | .handler _ | .runner _ _ | .manager _ => inferInstanceAs (Decidable True)

theorem flow_of_reachesVia {transport : τ} {sink : σ}
    (h : (machine config).ReachesVia (AnswersWith strategy) (create config transport sink) s) :
    (OrderFlow.machine config.flowConfig).ReachesVia (OrderFlow.AnswersWith strategy)
      (.create config.flowConfig transport sink) s.flow := by
  refine h.project LiveTrader.flow fun _ hanswers hstep ↦ ?_
  cases moves_of_step hstep with
  | pipeline _ _ => exact .refl
  | @enter i event _ _ _ hflow =>
    exact .single (.onEvent i event) (OrderFlow.answersWith_of_eq_none rfl) hflow
  | @leave i _ _ _ _ _ _ _ hflow =>
    exact .single (.finish i) (OrderFlow.answersWith_of_eq_none rfl) hflow
  | @strategy i outcome _ hflow => exact .single (.strategy i outcome) hanswers hflow
  | @runner i now _ hflow =>
    exact .single (.runner i now) (OrderFlow.answersWith_of_eq_none rfl) hflow
  | @manager input _ hflow =>
    exact .single (.manager input) (OrderFlow.answersWith_of_eq_none rfl) hflow

end LiveTrader

/-- **The trader as it is shipped is silent.** With strategies that do nothing no run sends a
request, and nothing ever waits to be sent, whatever comes over the wire and whatever the other
threads do. -/
theorem noop_trader_is_silent {Text τ σ : Type*} {config : LiveTraderConfig Text τ σ}
    {transport : τ} {sink : σ} {s : LiveTrader Text τ σ}
    (h : (LiveTrader.machine config).ReachesVia (LiveTrader.AnswersWith NoopStrategy.onEvent)
      (.create config transport sink) s) :
    s.flow.Silent := by
  have hflow := LiveTrader.flow_of_reachesVia h
  have hanswered := OrderFlow.answered_of_reaches hflow
  refine (OrderFlow.inv_of_reaches hflow.forget).silent fun i ↦ ?_
  refine List.flatMap_eq_nil_iff.mpr fun answer hanswer ↦ ?_
  rw [StrategyAnswer.intents, hanswered i answer hanswer]
  rfl

theorem noop_trader_is_silent_trade : ∃ s,
    (LiveTrader.machine wiredTrader).ReachesVia (LiveTrader.AnswersWith NoopStrategy.onEvent)
      (.create wiredTrader {} {}) s ∧
      (s.askedOn wiredTrader "A").length = 1 ∧ s.flow.Silent := by
  have hrun : ((LiveTrader.machine wiredTrader).runVia
      (LiveTrader.AnswersWith NoopStrategy.onEvent) (.create wiredTrader {} {})
        (wiredTraderRun (.decided []) 1)).any
          (fun s ↦ (s.askedOn wiredTrader "A").length = 1) = true := by
    decide +kernel
  obtain ⟨s, hreaches, hlast⟩ := Machine.exists_of_runVia hrun
  exact ⟨s, hreaches, of_decide_eq_true hlast, noop_trader_is_silent hreaches⟩

end TradingEngine
