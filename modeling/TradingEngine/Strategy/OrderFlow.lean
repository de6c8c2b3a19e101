import TradingEngine.Lib.Thinned
import TradingEngine.Oms.RequestIds
import TradingEngine.Strategy.StrategyRunner

/-!
# The flow of orders

Every shard has a runner of its own, and all of them hand their intents to one order manager. The
threads of the shards, the worker of the order manager and the thread that starts and stops it run
at once: a call of `submit` is the four regions of the order manager, and the accesses of the error
text of the sink, which all shards share, are steps as well.

`asked` and `enqueued` record what the strategies were asked and the intents that entered the queue.
-/

namespace TradingEngine

structure OrderFlowConfig (Text τ σ : Type*) where
  orderManager : OrderManagerConfig Text τ σ
  shardCount : ℕ := 1
  runner : StrategyRunnerConfig σ := {}
  allowedMarkets : List String := []

/-- Where a call of `OrderManagerIntentSink::submit_intent` is. -/
inductive SinkCall
  /-- The call has begun at most. -/
  | idle
  /-- `OrderManager::submit` has begun. -/
  | submitting
  /-- It returned a request id. -/
  | accepted
  /-- It returned nothing. -/
  | refused
  /-- The error is copied, and about to be read. -/
  | reporting
  deriving DecidableEq

/-- An intent that entered the queue. -/
structure EnqueuedIntent where
  shardId : ℕ
  pending : PendingIntent
  deriving DecidableEq

/-- A strategy was asked about an event. -/
structure StrategyAnswer where
  event : NormalizedEvent
  outcome : StrategyOutcome
  deriving DecidableEq

structure OrderFlow (Text τ σ : Type*) where
  runners : ℕ → StrategyRunner := fun _ ↦ {}
  sinkCalls : ℕ → SinkCall := fun _ ↦ .idle
  sinkError : String := ""
  manager : OrderManager Text τ σ
  asked : ℕ → List StrategyAnswer := fun _ ↦ []
  enqueued : List EnqueuedIntent := []

inductive OrderFlowInput
  /-- A shard calls its handler. -/
  | onEvent (shardId : ℕ) (event : NormalizedEvent)
  | strategy (shardId : ℕ) (outcome : StrategyOutcome)
  /-- The next step of a runner, with a reading of the clock. -/
  | runner (shardId now : ℕ)
  /-- The handler returns. -/
  | finish (shardId : ℕ)
  /-- A step of another thread of the order manager. -/
  | manager (input : OrderManagerInput)

/-- The steps of a thread that submits. -/
def OrderManagerInput.isSubmission : OrderManagerInput → Bool
  | .submitBegin _ _ _ | .submitTrack _ | .submitEnqueue _ | .submitCount _ => true
  | _ => false

namespace OrderFlow

variable {Text τ σ : Type*} (config : OrderFlowConfig Text τ σ)

def create (transport : τ) (sink : σ) : OrderFlow Text τ σ where
  manager := .init config.orderManager transport sink

variable (s : OrderFlow Text τ σ)

def setRunner (shardId : ℕ) (runner : StrategyRunner) : OrderFlow Text τ σ :=
  { s with runners := Function.update s.runners shardId runner }

def setSinkCall (shardId : ℕ) (call : SinkCall) : OrderFlow Text τ σ :=
  { s with sinkCalls := Function.update s.sinkCalls shardId call }

/-- `MarketFilterEventHandler::on_event`, with the runner as the delegate. -/
def onEvent (shardId : ℕ) (event : NormalizedEvent) : Option (OrderFlow Text τ σ) :=
  match MarketFilterEventHandler.onEvent config.allowedMarkets true event with
  | none => ((s.runners shardId).onEvent event).map (s.setRunner shardId)
  | some result =>
    match (s.runners shardId).call with
    | .idle => some (s.setRunner shardId { s.runners shardId with call := .returned result })
    | _ => none

def strategy (shardId : ℕ) (outcome : StrategyOutcome) : Option (OrderFlow Text τ σ) :=
  match (s.runners shardId).call with
  | .deciding event =>
    ((s.runners shardId).decide outcome).map fun runner ↦
      { s.setRunner shardId runner with
        asked := Function.update s.asked shardId (s.asked shardId ++ [⟨event, outcome⟩]) }
  | _ => none

/-- Where the sink is after a region of `submit` that may have been the last one. -/
def afterRegion (shardId : ℕ) (manager : OrderManager Text τ σ) : OrderFlow Text τ σ :=
  { s.setSinkCall shardId
      (if (manager.submits.lookup shardId).isSome then .submitting else .refused) with
    manager := manager }

/-- The next step of `submit_intent`. -/
def submitStep (shardId : ℕ) (intent : OrderIntent) (now : ℕ) : Option (OrderFlow Text τ σ) :=
  match s.sinkCalls shardId with
  | .idle =>
    (s.manager.submitBegin config.orderManager shardId intent now).map (s.afterRegion shardId)
  | .submitting =>
    match s.manager.submits.lookup shardId with
    | some (.validating _) => (s.manager.submitTrack shardId).map (s.afterRegion shardId)
    | some (.enqueuing pending) =>
      (s.manager.submitEnqueue shardId).map fun manager ↦
        { s with
          manager := manager
          enqueued := s.enqueued ++ [⟨shardId, pending⟩] }
    | some (.counting _) =>
      (s.manager.submitCount shardId).map fun manager ↦
        { s.setSinkCall shardId .accepted with manager := manager }
    | none => none
  | .accepted =>
    ((s.runners shardId).hearSink true "").map fun runner ↦
      { (s.setSinkCall shardId .idle).setRunner shardId runner with sinkError := "" }
  | .refused => some { s.setSinkCall shardId .reporting with sinkError := s.manager.lastError }
  | .reporting =>
    ((s.runners shardId).hearSink false s.sinkError).map fun runner ↦
      (s.setSinkCall shardId .idle).setRunner shardId runner

/-- The next step of a runner. -/
def runnerStep (shardId now : ℕ) : Option (OrderFlow Text τ σ) :=
  let runner := s.runners shardId
  match runner.call with
  | .idle | .deciding _ | .returned _ => none
  | .emitting _ _ =>
    (runner.emit config.runner.riskSnapshotProvider.isSome).map (s.setRunner shardId)
  | .judging _ intent _ =>
    match config.runner.riskSnapshotProvider with
    | none => none
    | some provider =>
      let snapshot := provider.snapshotFor s.manager.sink intent.exchange intent.marketTicker
      (runner.judge config.runner.shardRisk snapshot).map (s.setRunner shardId)
  | .submitting _ intent _ => s.submitStep config shardId intent now

def finish (shardId : ℕ) : Option (OrderFlow Text τ σ) :=
  match (s.runners shardId).call with
  | .returned _ => some (s.setRunner shardId { s.runners shardId with call := .idle })
  | _ => none

/-- There are no shards beyond the last, and nobody else submits. -/
def step : OrderFlowInput → Option (OrderFlow Text τ σ)
  | .onEvent shardId event =>
    if shardId < config.shardCount then s.onEvent config shardId event else none
  | .strategy shardId outcome => s.strategy shardId outcome
  | .runner shardId now => s.runnerStep config shardId now
  | .finish shardId => s.finish shardId
  | .manager input =>
    if input.isSubmission then none
    else ((OrderManager.machine config.orderManager).step s.manager input).map fun manager ↦
      { s with manager := manager }

def machine : Machine (OrderFlow Text τ σ) OrderFlowInput where
  step := step config

end OrderFlow

/-! ## What a step does to the calls of `submit`, and to the line -/

/-- The transport keeps the texts that it took: they can be read off its state. -/
structure IOrderTransport.Records {Text τ : Type*} (transport : IOrderTransport Text τ)
    (taken : τ → List Text) : Prop where
  connect : ∀ t, taken (transport.connect t).2 = taken t
  sent : ∀ t text, (transport.sendText t text).1 = true →
    taken (transport.sendText t text).2 = taken t ++ [text]
  unsent : ∀ t text, (transport.sendText t text).1 = false →
    taken (transport.sendText t text).2 = taken t
  recvText : ∀ t, taken (transport.recvText t).2 = taken t
  close : ∀ t, taken (transport.close t) = taken t

/-- Any transport, with the texts that it took beside it. -/
def IOrderTransport.recorded {Text τ : Type*} (transport : IOrderTransport Text τ) :
    IOrderTransport Text (τ × List Text) where
  connect t := ((transport.connect t.1).1, (transport.connect t.1).2, t.2)
  sendText t text :=
    let sent := transport.sendText t.1 text
    (sent.1, sent.2, if sent.1 then t.2 ++ [text] else t.2)
  recvBlocks t := transport.recvBlocks t.1
  recvText t := ((transport.recvText t.1).1, (transport.recvText t.1).2, t.2)
  close t := (transport.close t.1, t.2)
  lastError t := transport.lastError t.1

theorem IOrderTransport.records_recorded {Text τ : Type*} (transport : IOrderTransport Text τ) :
    transport.recorded.Records Prod.snd where
  connect _ := rfl
  sent _ _ htook := if_pos htook
  unsent _ _ hrefused := if_neg (Bool.eq_false_iff.mp hrefused)
  recvText _ := rfl
  close _ := rfl

namespace OrderManager

variable {Text τ σ : Type*} {config : OrderManagerConfig Text τ σ} {s s' : OrderManager Text τ σ}
  {input : OrderManagerInput}

/-- The requests that the transport took, in the order in which it did. -/
def sentRequests (s : OrderManager Text τ σ) : List (ℕ × Text) :=
  s.log.reverse.filterMap LogEntry.sentRequest

def sentIds (s : OrderManager Text τ σ) : List ℕ := s.sentRequests.map Prod.fst

theorem sentRequests_of_log (entry : LogEntry Text) (h : s'.log = entry :: s.log) :
    s'.sentRequests = s.sentRequests ++ entry.sentRequest.toList := by
  rw [sentRequests, h, List.reverse_cons, List.filterMap_append, ← sentRequests]
  rcases hrequest : entry.sentRequest with _ | request
  · rw [List.filterMap_cons_none hrequest]
    rfl
  · rw [List.filterMap_cons_some hrequest]
    rfl

theorem Handled.sentRequests {now : ℕ} {update : OrderStateUpdate} {core : OrderManagerCore}
    {sink : σ} {log : List (LogEntry Text)} (h : Handled config s now update core sink log)
    (hlog : s'.log = log) :
    s'.sentRequests = s.sentRequests := by
  cases h with
  | dropped _ _ => rw [OrderManager.sentRequests, hlog, ← OrderManager.sentRequests]
  | applied _ _ _ _ => exact (sentRequests_of_log _ hlog).trans (List.append_nil _)

/-- **The line moves** when an accepted call joins it, and when its first intent is settled, which
may send it. -/
theorem line_of_effect (h : Effect config s input s') :
    s'.waiting = s.waiting ∧ s'.sentRequests = s.sentRequests ∨
    (∃ thread pending, input = .submitEnqueue thread ∧
      s.submits.lookup thread = some (.enqueuing pending) ∧
      s'.waiting = s.waiting ++ [pending] ∧ s'.sentRequests = s.sentRequests) ∨
    ∃ pending, s.waiting = pending :: s'.waiting ∧
      (s'.sentRequests = s.sentRequests ∨ ∃ payload,
        config.adapter.buildRequest pending.intent = .ok payload ∧
          s'.sentRequests = s.sentRequests ++ [(pending.requestId, payload)]) := by
  cases h with
  | quiet hworker _ =>
    refine .inl ⟨?_, rfl⟩
    obtain rfl | ⟨hbatch, _⟩ := hworker
    · rfl
    · rw [waiting, hbatch, ← waiting]
  | unheard hworker _ =>
    refine .inl ⟨?_, rfl⟩
    rw [waiting, waiting, hworker]
    rfl
  | restarted hstopped hworker =>
    refine .inl ⟨?_, rfl⟩
    rw [waiting, waiting, hstopped]
    obtain rfl | rfl := hworker
    · rfl
    · rfl
  | began _ _ => exact .inl ⟨rfl, rfl⟩
  | refused _ _ => exact .inl ⟨rfl, rfl⟩
  | accepted _ _ => exact .inl ⟨rfl, (sentRequests_of_log _ rfl).trans (List.append_nil _)⟩
  | @enqueued thread pending hcall =>
    exact .inr (.inl ⟨thread, pending, rfl, hcall, (List.append_assoc _ _ _).symm, rfl⟩)
  | counted _ => exact .inl ⟨rfl, rfl⟩
  | polled hworker =>
    refine .inl ⟨?_, rfl⟩
    rw [waiting, waiting, hworker]
    exact List.append_nil _
  | gated hworker _ =>
    refine .inl ⟨?_, rfl⟩
    rw [waiting, waiting, hworker]
    rfl
  | cleared hworker _ =>
    refine .inl ⟨?_, rfl⟩
    rw [waiting, waiting, hworker]
    rfl
  | @rejected _ pending _ _ _ _ _ _ _ _ hrefused hhandled =>
    refine .inr (.inr ⟨pending, ?_, .inl (hhandled.sentRequests rfl)⟩)
    rw [waiting, waiting]
    obtain ⟨hworker, _⟩ | ⟨hworker, _⟩ := hrefused
    · rw [hworker]
      rfl
    · rw [hworker]
      rfl
  | @sent _ pending _ payload _ hworker hbuild _ =>
    refine .inr (.inr ⟨pending, ?_, .inr ⟨payload, hbuild,
      sentRequests_of_log (.sent pending.requestId payload) rfl⟩⟩)
    rw [waiting, waiting, hworker]
    rfl
  | @unsent _ pending _ _ _ _ hworker _ _ =>
    refine .inr (.inr ⟨pending, ?_, .inl rfl⟩)
    rw [waiting, waiting, hworker]
    rfl
  | received hworker _ _ hhandled =>
    refine .inl ⟨?_, hhandled.sentRequests rfl⟩
    rw [waiting, waiting, hworker]
    rfl

/-- **What the transport took** is what the history says that it was sent. -/
theorem taken_of_effect {taken : τ → List Text} (hrecords : config.transport.Records taken)
    (h : Effect config s input s') :
    ∃ requests, s'.sentRequests = s.sentRequests ++ requests ∧
      taken s'.transport = taken s.transport ++ requests.map Prod.snd := by
  have hnothing : s'.sentRequests = s.sentRequests → taken s'.transport = taken s.transport →
      ∃ requests, s'.sentRequests = s.sentRequests ++ requests ∧
        taken s'.transport = taken s.transport ++ requests.map Prod.snd :=
    fun hsent htaken ↦ ⟨[], by rw [hsent, List.append_nil], by
      rw [htaken, List.map_nil, List.append_nil]⟩
  cases h with
  | quiet _ htransport =>
    refine hnothing rfl ?_
    obtain rfl | rfl := htransport
    · rfl
    · exact hrecords.close _
  | unheard _ _ => exact hnothing rfl (hrecords.recvText _)
  | restarted _ _ => exact hnothing rfl (hrecords.connect _)
  | began _ _ => exact hnothing rfl rfl
  | refused _ _ => exact hnothing rfl rfl
  | accepted _ _ => exact hnothing ((sentRequests_of_log _ rfl).trans (List.append_nil _)) rfl
  | enqueued _ => exact hnothing rfl rfl
  | counted _ => exact hnothing rfl rfl
  | polled _ => exact hnothing rfl rfl
  | gated _ _ => exact hnothing rfl rfl
  | cleared _ _ => exact hnothing rfl rfl
  | rejected _ hhandled => exact hnothing (hhandled.sentRequests rfl) rfl
  | @sent _ pending _ payload _ _ _ hsend =>
    exact ⟨_, sentRequests_of_log (.sent pending.requestId payload) rfl, hrecords.sent _ _ hsend⟩
  | unsent _ hfailed htransport =>
    refine hnothing rfl ?_
    obtain rfl | ⟨payload, hbuild, rfl⟩ := htransport
    · rfl
    · rw [sends, hbuild] at hfailed
      exact hrecords.unsent _ _ hfailed
  | received _ _ _ hhandled => exact hnothing (hhandled.sentRequests rfl) (hrecords.recvText _)

theorem taken_of_reaches {taken : τ → List Text} {transport : τ} {sink : σ}
    (hrecords : config.transport.Records taken)
    (h : (machine config).Reaches (init config transport sink) s) :
    taken s.transport = taken transport ++ s.sentRequests.map Prod.snd := by
  refine h.invariant (P := fun s ↦ taken s.transport = taken transport ++
    s.sentRequests.map Prod.snd) (List.append_nil _).symm fun _ hs _ hstep ↦ ?_
  obtain ⟨requests, hsent, htaken⟩ := taken_of_effect hrecords (effect_of_step hstep)
  rw [htaken, hs, hsent, List.map_append, List.append_assoc]

/-- Only a thread that submits touches the calls. -/
theorem submits_of_not_submission (h : Effect config s input s')
    (hinput : input.isSubmission = false) : s'.submits = s.submits := by
  cases h with
  | began _ _ => exact absurd hinput (by simp [OrderManagerInput.isSubmission])
  | refused _ _ => exact absurd hinput (by simp [OrderManagerInput.isSubmission])
  | accepted _ _ => exact absurd hinput (by simp [OrderManagerInput.isSubmission])
  | enqueued _ => exact absurd hinput (by simp [OrderManagerInput.isSubmission])
  | counted _ => exact absurd hinput (by simp [OrderManagerInput.isSubmission])
  | _ => rfl

/-- A call that begins has the intent of the caller, and other calls stay. -/
theorem submits_of_submitBegin {thread : ThreadId} {intent : OrderIntent} {now : ℕ}
    (h : s.submitBegin config thread intent now = some s') :
    (∀ call, s'.submits.lookup thread = some call → ∃ pending,
      call = .validating pending ∧ pending.intent = stampIntent intent now) ∧
    ∀ other ≠ thread, s'.submits.lookup other = s.submits.lookup other := by
  rw [submitBegin] at h
  split at h
  · exact absurd h (by simp)
  rename_i hfree
  have hnone : s.submits.lookup thread = none := Option.not_isSome_iff_eq_none.mp hfree
  have hnot : ∀ call, s.submits.lookup thread = some call → ∃ pending,
      call = .validating pending ∧ pending.intent = stampIntent intent now := by
    intro call hcall
    rw [hnone] at hcall
    cases hcall
  split at h
  · obtain rfl := Option.some.inj h
    exact ⟨hnot, fun _ _ ↦ rfl⟩
  split at h
  · obtain rfl := Option.some.inj h
    exact ⟨hnot, fun _ _ ↦ rfl⟩
  obtain rfl := Option.some.inj h
  refine ⟨fun call hcall ↦ ?_, fun other hother ↦ AList.lookup_insert_ne hother⟩
  rw [AList.lookup_insert] at hcall
  exact ⟨_, (Option.some.inj hcall).symm, rfl⟩

/-- A call that is validated keeps its intent, or ends. -/
theorem submits_of_submitTrack {thread : ThreadId} (h : s.submitTrack thread = some s') :
    (∀ call, s'.submits.lookup thread = some call → ∃ pending,
      s.submits.lookup thread = some (.validating pending) ∧ call = .enqueuing pending) ∧
    ∀ other ≠ thread, s'.submits.lookup other = s.submits.lookup other := by
  rw [submitTrack] at h
  split at h
  · rename_i pending hcall
    split at h
    · obtain rfl := Option.some.inj h
      refine ⟨fun call hnext ↦ ?_, fun other hother ↦ AList.lookup_erase_ne hother⟩
      rw [AList.lookup_erase] at hnext
      cases hnext
    · obtain rfl := Option.some.inj h
      refine ⟨fun call hnext ↦ ?_, fun other hother ↦ AList.lookup_insert_ne hother⟩
      rw [AList.lookup_insert] at hnext
      exact ⟨pending, hcall, (Option.some.inj hnext).symm⟩
  · exact absurd h (by simp)

/-- A call that has joined the line is still to be counted. -/
theorem submits_of_submitEnqueue {thread : ThreadId} {pending : PendingIntent}
    (hcall : s.submits.lookup thread = some (.enqueuing pending))
    (h : s.submitEnqueue thread = some s') :
    s'.submits.lookup thread = some (.counting pending.requestId) ∧
    (∀ other ≠ thread, s'.submits.lookup other = s.submits.lookup other) ∧
    s'.nextRequestId = s.nextRequestId := by
  rw [submitEnqueue, hcall] at h
  obtain rfl := Option.some.inj h
  exact ⟨AList.lookup_insert _, fun other hother ↦ AList.lookup_insert_ne hother, rfl⟩

/-- A call that is counted is over. -/
theorem submits_of_submitCount {thread : ThreadId} (h : s.submitCount thread = some s') :
    s'.submits.lookup thread = none ∧
    ∀ other ≠ thread, s'.submits.lookup other = s.submits.lookup other := by
  rw [submitCount] at h
  split at h
  · obtain rfl := Option.some.inj h
    exact ⟨AList.lookup_erase _ _, fun other hother ↦ AList.lookup_erase_ne hother⟩
  · exact absurd h (by simp)

end OrderManager

namespace OrderFlow

variable {Text τ σ : Type*} {config : OrderFlowConfig Text τ σ} {s s' : OrderFlow Text τ σ}

/-- A step of the sink concerns the runner that it is called by. -/
theorem runners_submitStep {i now : ℕ} {intent : OrderIntent}
    (hstep : s.submitStep config i intent now = some s') :
    ∀ j ≠ i, s'.runners j = s.runners j := by
  intro j hj
  rw [submitStep] at hstep
  split at hstep
  · obtain ⟨manager, -, rfl⟩ := Option.map_eq_some_iff.mp hstep
    rfl
  · split at hstep
    · obtain ⟨manager, -, rfl⟩ := Option.map_eq_some_iff.mp hstep
      rfl
    · obtain ⟨manager, -, rfl⟩ := Option.map_eq_some_iff.mp hstep
      rfl
    · obtain ⟨manager, -, rfl⟩ := Option.map_eq_some_iff.mp hstep
      rfl
    · exact absurd hstep (by simp)
  · obtain ⟨runner, -, rfl⟩ := Option.map_eq_some_iff.mp hstep
    exact Function.update_of_ne hj ..
  · obtain rfl := Option.some.inj hstep
    rfl
  · obtain ⟨runner, -, rfl⟩ := Option.map_eq_some_iff.mp hstep
    exact Function.update_of_ne hj ..

end OrderFlow

/-! ## What a step does to a runner -/

/-- The event whose intents the runner goes through. -/
def RunnerCall.answering : RunnerCall → Option NormalizedEvent
  | .emitting event _ | .judging event _ _ | .submitting event _ _ => some event
  | .idle | .deciding _ | .returned _ => none

namespace OrderFlow

variable {Text τ σ : Type*} {config : OrderFlowConfig Text τ σ} {s s' : OrderFlow Text τ σ}

/-- Only the runner of a shard moves, and its strategy is not asked. -/
def OnlyRunner (i : ℕ) (s s' : OrderFlow Text τ σ) : Prop :=
  s'.asked = s.asked ∧ ∀ j ≠ i, s'.runners j = s.runners j

/-- The handler of a shard is called: its runner begins, unless the market is filtered out. -/
theorem call_of_onEvent {i : ℕ} {event : NormalizedEvent}
    (hstep : s.step config (.onEvent i event) = some s') :
    OnlyRunner i s s' ∧
      (MarketFilterEventHandler.onEvent config.allowedMarkets true event = none ∧
          (s'.runners i).call = .deciding event ∨
        MarketFilterEventHandler.onEvent config.allowedMarkets true event ≠ none ∧
          ∃ result, (s'.runners i).call = .returned result) := by
  rw [step] at hstep
  split at hstep
  · rw [OrderFlow.onEvent] at hstep
    split at hstep
    · rename_i hfilter
      obtain ⟨runner, hrunner, rfl⟩ := Option.map_eq_some_iff.mp hstep
      refine ⟨⟨rfl, fun j hj ↦ Function.update_of_ne hj ..⟩, .inl ⟨hfilter, ?_⟩⟩
      rw [StrategyRunner.onEvent] at hrunner
      split at hrunner
      · obtain rfl := Option.some.inj hrunner
        rw [setRunner]
        dsimp only
        rw [Function.update_self]
      · exact absurd hrunner (by simp)
    · rename_i result hfilter
      split at hstep
      · obtain rfl := Option.some.inj hstep
        refine ⟨⟨rfl, fun j hj ↦ Function.update_of_ne hj ..⟩,
          .inr ⟨by rw [hfilter]; simp, result, ?_⟩⟩
        rw [setRunner]
        dsimp only
        rw [Function.update_self]
      · exact absurd hstep (by simp)
  · exact absurd hstep (by simp)

/-- The strategy answers about the event that it was asked about. -/
theorem call_of_strategy {i : ℕ} {outcome : StrategyOutcome}
    (hstep : s.step config (.strategy i outcome) = some s') :
    (∀ j ≠ i, s'.runners j = s.runners j) ∧
    ∃ event, (s.runners i).call = .deciding event ∧
      s'.asked = Function.update s.asked i
        (s.asked i ++ [{ event, outcome : StrategyAnswer }]) ∧
      ((s'.runners i).call.answering = some event ∨
        ∃ result, (s'.runners i).call = .returned result) := by
  rw [step, OrderFlow.strategy] at hstep
  split at hstep
  · rename_i event hat
    obtain ⟨runner, hrunner, rfl⟩ := Option.map_eq_some_iff.mp hstep
    refine ⟨fun j hj ↦ Function.update_of_ne hj .., event, hat, rfl, ?_⟩
    rw [StrategyRunner.decide, hat] at hrunner
    rw [setRunner]
    dsimp only
    rw [Function.update_self]
    cases outcome with
    | decided intents =>
      obtain rfl := Option.some.inj hrunner
      exact .inl rfl
    | threw what =>
      obtain rfl := Option.some.inj hrunner
      exact .inr ⟨false, rfl⟩
  · exact absurd hstep (by simp)

theorem answering_hearSink {runner runner' : StrategyRunner} {submitted : Bool} {sinkError : String}
    (hstep : runner.hearSink submitted sinkError = some runner') :
    runner'.call.answering = runner.call.answering := by
  rw [StrategyRunner.hearSink] at hstep
  split at hstep
  · rename_i hat
    rw [hat]
    split at hstep
    all_goals
      obtain rfl := Option.some.inj hstep
      rfl
  · exact absurd hstep (by simp)

theorem call_of_submitStep {i now : ℕ} {intent : OrderIntent}
    (hstep : s.submitStep config i intent now = some s') :
    s'.asked = s.asked ∧ (s'.runners i).call.answering = (s.runners i).call.answering := by
  rw [submitStep] at hstep
  split at hstep
  · obtain ⟨manager, -, rfl⟩ := Option.map_eq_some_iff.mp hstep
    exact ⟨rfl, rfl⟩
  · split at hstep
    · obtain ⟨manager, -, rfl⟩ := Option.map_eq_some_iff.mp hstep
      exact ⟨rfl, rfl⟩
    · obtain ⟨manager, -, rfl⟩ := Option.map_eq_some_iff.mp hstep
      exact ⟨rfl, rfl⟩
    · obtain ⟨manager, -, rfl⟩ := Option.map_eq_some_iff.mp hstep
      exact ⟨rfl, rfl⟩
    · exact absurd hstep (by simp)
  · obtain ⟨runner, hrunner, rfl⟩ := Option.map_eq_some_iff.mp hstep
    refine ⟨rfl, ?_⟩
    rw [setRunner]
    dsimp only
    rw [Function.update_self, answering_hearSink hrunner]
  · obtain rfl := Option.some.inj hstep
    exact ⟨rfl, rfl⟩
  · obtain ⟨runner, hrunner, rfl⟩ := Option.map_eq_some_iff.mp hstep
    refine ⟨rfl, ?_⟩
    rw [setRunner]
    dsimp only
    rw [Function.update_self, answering_hearSink hrunner]

/-- A runner goes on with the event in hand, or returns. -/
theorem call_of_runner {i now : ℕ} (hstep : s.step config (.runner i now) = some s') :
    OnlyRunner i s s' ∧ ∃ event, (s.runners i).call.answering = some event ∧
      ((s'.runners i).call.answering = some event ∨
        ∃ result, (s'.runners i).call = .returned result) := by
  rw [step, runnerStep] at hstep
  split at hstep
  · exact absurd hstep (by simp)
  · exact absurd hstep (by simp)
  · exact absurd hstep (by simp)
  · rename_i event intents hat
    obtain ⟨runner, hrunner, rfl⟩ := Option.map_eq_some_iff.mp hstep
    refine ⟨⟨rfl, fun j hj ↦ Function.update_of_ne hj ..⟩, event, by rw [hat]; rfl, ?_⟩
    rw [setRunner]
    dsimp only
    rw [Function.update_self]
    rw [StrategyRunner.emit, hat] at hrunner
    cases intents with
    | nil =>
      obtain rfl := Option.some.inj hrunner
      exact .inr ⟨true, rfl⟩
    | cons intent rest =>
      obtain rfl := Option.some.inj hrunner
      dsimp only
      split
      · exact .inl rfl
      · exact .inl rfl
  · rename_i event intent rest hat
    split at hstep
    · exact absurd hstep (by simp)
    · obtain ⟨runner, hrunner, rfl⟩ := Option.map_eq_some_iff.mp hstep
      refine ⟨⟨rfl, fun j hj ↦ Function.update_of_ne hj ..⟩, event, by rw [hat]; rfl, ?_⟩
      rw [setRunner]
      dsimp only
      rw [Function.update_self]
      rw [StrategyRunner.judge, hat] at hrunner
      dsimp only at hrunner
      split at hrunner
      all_goals
        obtain rfl := Option.some.inj hrunner
        exact .inl rfl
  · rename_i event intent rest hat
    obtain ⟨hasked, hanswering⟩ := call_of_submitStep hstep
    refine ⟨⟨hasked, runners_submitStep hstep⟩, event, by rw [hat]; rfl, .inl ?_⟩
    rw [hanswering, hat]
    rfl

theorem call_of_finish {i : ℕ} (hstep : s.step config (.finish i) = some s') :
    OnlyRunner i s s' ∧ (s'.runners i).call = .idle := by
  rw [step, OrderFlow.finish] at hstep
  split at hstep
  · obtain rfl := Option.some.inj hstep
    refine ⟨⟨rfl, fun j hj ↦ Function.update_of_ne hj ..⟩, ?_⟩
    rw [setRunner]
    dsimp only
    rw [Function.update_self]
  · exact absurd hstep (by simp)

/-- Nobody but the runners submits. -/
theorem isSubmission_of_manager {input : OrderManagerInput}
    (hstep : s.step config (.manager input) = some s') : input.isSubmission = false := by
  rw [step] at hstep
  split at hstep
  · exact absurd hstep (by simp)
  · rename_i hinput
    exact Bool.eq_false_of_not_eq_true hinput

theorem call_of_manager {input : OrderManagerInput}
    (hstep : s.step config (.manager input) = some s') :
    s'.asked = s.asked ∧ s'.runners = s.runners := by
  rw [step] at hstep
  split at hstep
  · exact absurd hstep (by simp)
  · obtain ⟨manager, -, rfl⟩ := Option.map_eq_some_iff.mp hstep
    exact ⟨rfl, rfl⟩

end OrderFlow

end TradingEngine
