import TradingEngine.Adapters.FeedRunner
import TradingEngine.Apps.WireToOrders
import TradingEngine.Oms.Progress
import TradingEngine.Strategy.FlowAccounts

/-!
# The trader as a program

`main` of `apps/trader/main.cpp`, as far as it runs the other threads: it starts the order manager,
the pipeline and the feed, pumps until a signal asks it to shut down, and stops the feed, the
pipeline and the order manager, in this order. Around it run the feed, the shards with their
strategies and the worker of the order manager. None of them is modelled again: `main` and the feed
take the steps of the live trader that its other threads do not.

A call of the feed runner that may block, `connect` or `recv_text`, is a step that enters it and
another that comes back, so that a stop falls anywhere; `push_message` runs between two steps of the
feed runner as well.
-/

namespace TradingEngine

/-! ## The feed runner between its calls -/

/-- Which call the feed runner is in. -/
inductive FeedCall
  /-- None, or one that does not block. -/
  | idle
  /-- `connect` or `recv_text`. -/
  | session
  | pushMessage (message : String)
  /-- `push_message` has returned. -/
  | pushed (message : String) (accepted : Bool)
  deriving DecidableEq

namespace WsFeedRunner

/-- A runner whose worker has not been started. -/
def unstarted : WsFeedRunner where
  pc := .exited
  running := false

/-- A message is received and counted. -/
def takeMessage (runner : WsFeedRunner) (message : String) (session : WsSession) : WsFeedRunner :=
  { runner with
    session := session
    calls := runner.calls ++ [.recvText (some message)]
    receivedCount := runner.receivedCount + 1 }

/-- The sink has answered. -/
def hearSink (runner : WsFeedRunner) (message : String) (accepted : Bool) : WsFeedRunner :=
  { runner with
    pushes := runner.pushes ++ [(message, accepted)]
    droppedCount := if accepted then runner.droppedCount else runner.droppedCount + 1 }

/-- The two are what the runner does with a message. -/
theorem hearSink_takeMessage (runner : WsFeedRunner) (message : String) (session : WsSession)
    (accepted : Bool) :
    (runner.takeMessage message session).hearSink message accepted =
      runner.afterRecvText accepted (some message, session) := rfl

def requestStop (runner : WsFeedRunner) : WsFeedRunner :=
  { runner with stopRequested := true, calls := runner.calls ++ [.close] }

end WsFeedRunner

/-- What `push_message` returns after its last step: a message that is not dropped there was
accepted. -/
def PushMessage.result : PushMessage → Bool
  | .drop => false
  | _ => true

/-! ## The program -/

structure TraderProgramConfig (Text τ σ : Type*) where
  trader : LiveTraderConfig Text τ σ
  feed : WsFeedRunnerConfig := {}
  pumpBatchSize : ℕ := 1024

/-- Where `main` is. An exit code is carried along while it cleans up. -/
inductive MainThread
  | startOrderManager
  | startPipeline
  | inPipelineStart
  | startFeed
  /-- The head of the loop. -/
  | loop
  | inPumpIngest
  | stopFeed
  /-- `stop` of the feed waits for its worker. -/
  | joinFeed
  | stopPipeline (exitCode : ℕ)
  | inPipelineStop (exitCode : ℕ)
  | stopOrderManager (exitCode : ℕ)
  | inOrderManagerStop (exitCode : ℕ)
  | returned (exitCode : ℕ)
  deriving DecidableEq

def kExitPipelineStartFailure : ℕ := 4

def kExitFeedRunnerStartFailure : ℕ := 5

def kExitOmsStartFailure : ℕ := 7

structure TraderProgram (Text τ σ : Type*) where
  trader : LiveTrader Text τ σ
  feed : WsFeedRunner := .unstarted
  feedJoinable : Bool := false
  feedCall : FeedCall := .idle
  main : MainThread := .startOrderManager
  shutdownRequested : Bool := false

/-- What the worker of the feed does next, with the answers it gets. -/
inductive FeedWorkerInput
  /-- It looks at the stop token, at the head of one of its loops. -/
  | head
  | connect (built : Except BuildFailure ConnectRequest) (answer : Except String Unit)
  | subscribe (built : Except BuildFailure String) (answer : Except String Unit)
  | recvText (answer : Except String String)
  /-- The next step of `push_message`, with a reading of the clock. -/
  | pushMessage (now : ℤ)
  | hearSink

inductive TraderProgramInput
  /-- The next step of `main`. -/
  | main
  /-- A signal asks for a shutdown. -/
  | signal
  | feed (input : FeedWorkerInput)
  /-- A step of a shard, of its strategy or of the worker of the order manager. -/
  | worker (input : LiveTraderInput)

/-- The steps of the threads that `main` starts, but for the feed. -/
def LiveTraderInput.isOfWorker : LiveTraderInput → Bool
  | .pipeline (.shard _ _) | .handler _ | .strategy _ _ | .runner _ _ | .manager (.worker _) => true
  | _ => false

namespace TraderProgram

variable {Text τ σ : Type*} (config : TraderProgramConfig Text τ σ)

def create (transport : τ) (sink : σ) : TraderProgram Text τ σ where
  trader := .create config.trader transport sink

variable (s : TraderProgram Text τ σ)

/-- A step of the trader, after which `main` goes on. -/
def stepTrader (input : LiveTraderInput) (next : LiveTrader Text τ σ → MainThread) :
    Option (TraderProgram Text τ σ) :=
  (s.trader.step config.trader input).map fun trader ↦
    { s with trader := trader, main := next trader }

/-- A step of `start` or `stop` of the pipeline, or what follows once it has returned. -/
def awaitControl (returned : MainThread) : Option (TraderProgram Text τ σ) :=
  match s.trader.pipeline.control with
  | .idle => some { s with main := returned }
  | _ => s.stepTrader config (.pipeline .control) fun _ ↦ s.main

def mainStep : Option (TraderProgram Text τ σ) :=
  match s.main with
  | .startOrderManager =>
    s.stepTrader config (.manager .start) fun trader ↦
      if trader.flow.manager.running then .startPipeline else .returned kExitOmsStartFailure
  | .startPipeline => s.stepTrader config (.pipeline .start) fun _ ↦ .inPipelineStart
  | .inPipelineStart =>
    s.awaitControl config <|
      if s.trader.pipeline.running then .startFeed else .stopOrderManager kExitPipelineStartFailure
  | .startFeed =>
    if s.feedJoinable then some { s with main := .stopPipeline kExitFeedRunnerStartFailure }
    else some { s with feed := .start s.feed.session, feedJoinable := true, main := .loop }
  | .loop =>
    if s.shutdownRequested then some { s with main := .stopFeed }
    else s.stepTrader config (.pipeline (.pumpIngest config.pumpBatchSize)) fun _ ↦ .inPumpIngest
  | .inPumpIngest =>
    match s.trader.pipeline.ingest.consumer with
    | .idle => some { s with main := .loop }
    | _ => s.stepTrader config (.pipeline .pump) fun _ ↦ .inPumpIngest
  | .stopFeed =>
    if s.feedJoinable then some { s with feed := s.feed.requestStop, main := .joinFeed }
    else some { s with feed := { s.feed with running := false }, main := .stopPipeline 0 }
  | .joinFeed =>
    match s.feed.pc with
    | .exited =>
      some { s with
        feed := { s.feed with running := false }
        feedJoinable := false
        main := .stopPipeline 0 }
    | _ => none
  | .stopPipeline exitCode =>
    s.stepTrader config (.pipeline .stop) fun _ ↦ .inPipelineStop exitCode
  | .inPipelineStop exitCode => s.awaitControl config (.stopOrderManager exitCode)
  | .stopOrderManager exitCode =>
    s.stepTrader config (.manager .stopBegin) fun _ ↦ .inOrderManagerStop exitCode
  | .inOrderManagerStop exitCode =>
    match s.trader.flow.manager.control with
    | .idle => some { s with main := .returned exitCode }
    | .closing => s.stepTrader config (.manager .stopClose) fun _ ↦ .inOrderManagerStop exitCode
    | .joining => s.stepTrader config (.manager .stopJoin) fun _ ↦ .inOrderManagerStop exitCode
  | .returned _ => none

/-- A message that is received is handed to the sink, a failure ends the connection. -/
def receive (answer : Except String String) : Option (TraderProgram Text τ σ) :=
  match s.feed.session.recvText answer with
  | (none, session) =>
    some { s with feed := s.feed.afterRecvText false (none, session), feedCall := .idle }
  | (some message, session) =>
    (s.trader.step config.trader (.pipeline (.pushMessage message))).map fun trader ↦
      { s with
        trader := trader
        feed := s.feed.takeMessage message session
        feedCall := .pushMessage message }

def feedStep (input : FeedWorkerInput) : Option (TraderProgram Text τ σ) :=
  match s.feedCall, s.feed.pc, input with
  | .idle, .connecting, .head | .idle, .receiving, .head =>
    if s.feed.stopRequested then some { s with feed := s.feed.leave }
    else some { s with feedCall := .session }
  | .session, .connecting, .connect built answer =>
    some { s with
      feed := s.feed.afterConnect config.feed (s.feed.session.connect built answer)
      feedCall := .idle }
  | .idle, .subscribing channel rest, .subscribe built answer =>
    some { s with
      feed := s.feed.afterSubscribe channel rest (s.feed.session.subscribe built answer) }
  | .session, .receiving, .recvText answer => s.receive config answer
  | .pushMessage message, .receiving, .pushMessage now =>
    (s.trader.step config.trader (.pipeline (.producer now))).map fun trader ↦
      { s with
        trader := trader
        feedCall := match trader.pipeline.ingest.producer with
          | .idle => .pushed message s.trader.pipeline.ingest.producer.result
          | _ => .pushMessage message }
  | .pushed message accepted, .receiving, .hearSink =>
    some { s with feed := s.feed.hearSink message accepted, feedCall := .idle }
  | _, _, _ => none

def step : TraderProgramInput → Option (TraderProgram Text τ σ)
  | .main => s.mainStep config
  | .signal => some { s with shutdownRequested := true }
  | .feed input => s.feedStep config input
  | .worker input =>
    if input.isOfWorker then
      (s.trader.step config.trader input).map fun trader ↦ { s with trader := trader }
    else none

def machine : Machine (TraderProgram Text τ σ) TraderProgramInput where
  step := step config

end TraderProgram

/-! ## What the threads leave alone -/

/-- What the feed sees of the pipeline. -/
structure FeedSide where
  pushed : List String
  producer : PushMessage
  droppedCount : ℕ
  accepted : List String

def LiveInput.isOfFeed : LiveInput → Bool
  | .pushMessage _ | .producer _ => true
  | _ => false

namespace LivePipeline

variable {config : LivePipelineParts} {s s' : LivePipeline}

def feedSide (s : LivePipeline) : FeedSide where
  pushed := s.pushed
  producer := s.ingest.producer
  droppedCount := s.ingest.droppedCount
  accepted := s.ingest.accepted

theorem feedSide_pumpStep (hinv : s.Inv config) (hstep : s.pumpStep config = some s') :
    s'.feedSide = s.feedSide := by
  have hside : ∀ {routed : Bool} {ingest : LiveIngest},
      s.ingest.pumpIngestStep routed = some ingest →
        { s with ingest := ingest }.feedSide = s.feedSide := by
    intro routed ingest hpump
    obtain ⟨⟨hproducer, haccepted, hdropped, -⟩, -⟩ :=
      LiveIngest.pumpIngestStep_cases hinv.sound hpump
    rw [feedSide, hproducer, haccepted, hdropped]
    rfl
  rw [LivePipeline.pumpStep] at hstep
  split at hstep
  · rw [LivePipeline.routeStep] at hstep
    split at hstep
    · obtain ⟨sharded, -, rfl⟩ := Option.map_eq_some_iff.mp hstep
      rfl
    · obtain ⟨sharded, -, rfl⟩ := Option.map_eq_some_iff.mp hstep
      rfl
    · obtain ⟨ingest, hpump, rfl⟩ := Option.map_eq_some_iff.mp hstep
      exact hside hpump
  · obtain ⟨ingest, hpump, rfl⟩ := Option.map_eq_some_iff.mp hstep
    exact hside hpump

theorem feedSide_controlStep (hstep : s.controlStep config = some s') :
    s'.feedSide = s.feedSide := by
  cases controlMoves_of_controlStep hstep with
  | started shardId =>
    rw [LivePipeline.startShard]
    split <;> rfl
  | up => rfl
  | passed control running => rfl
  | asked control hrequest => rfl

theorem feedSide_shardStep {shardId : ℕ} {handled : Bool}
    (hstep : s.step config (.shard shardId handled) = some s') : s'.feedSide = s.feedSide := by
  obtain ⟨sharded, -, rfl⟩ := Option.map_eq_some_iff.mp hstep
  rfl

/-- The other threads do not touch what the feed sees. -/
theorem feedSide_of_step {input : LiveInput} (hinv : s.Inv config) (hinput : input.isOfFeed = false)
    (hstep : s.step config input = some s') : s'.feedSide = s.feedSide := by
  cases input with
  | pushMessage message => exact absurd hinput (by simp [LiveInput.isOfFeed])
  | producer now => exact absurd hinput (by simp [LiveInput.isOfFeed])
  | pumpIngest maxFrames =>
    rw [LivePipeline.step] at hstep
    split at hstep
    · obtain ⟨ingest, hingest, rfl⟩ := Option.map_eq_some_iff.mp hstep
      rw [LiveIngest.step] at hingest
      split at hingest
      · split at hingest
        all_goals
          obtain rfl := Option.some.inj hingest
          rfl
      · exact absurd hingest (by simp)
    · exact absurd hstep (by simp)
  | start =>
    obtain ⟨-, control, rfl⟩ := step_begin (.inl rfl) hstep
    rfl
  | stop =>
    obtain ⟨-, control, rfl⟩ := step_begin (.inr rfl) hstep
    rfl
  | pump => exact feedSide_pumpStep hinv hstep
  | control => exact feedSide_controlStep hstep
  | shard shardId handled => exact feedSide_shardStep hstep

/-- What `main` relies on is as it was. A shard that is out of its loop stays out. -/
structure MainSide (s s' : LivePipeline) : Prop where
  control : s'.control = s.control
  running : s'.running = s.running
  before : s'.before = s.before
  consumer : s'.ingest.consumer = s.ingest.consumer
  ingestFramesPumped : s'.ingest.ingestFramesPumped = s.ingest.ingestFramesPumped
  routeSuccess : s'.ingest.routeSuccess = s.ingest.routeSuccess
  routeDrop : s'.ingest.routeDrop = s.ingest.routeDrop
  stopped : ∀ i, (s.sharded.shards i).worker = .notRunning →
    (s'.sharded.shards i).worker = .notRunning

theorem MainSide.refl (s : LivePipeline) : s.MainSide s :=
  ⟨rfl, rfl, rfl, rfl, rfl, rfl, rfl, fun _ ↦ id⟩

theorem mainSide_of_feed {input : LiveInput} (hinv : s.Inv config) (hinput : input.isOfFeed = true)
    (hstep : s.step config input = some s') : s.MainSide s' := by
  cases input with
  | pushMessage message =>
    obtain ⟨ingest, hingest, rfl⟩ := Option.map_eq_some_iff.mp hstep
    rw [LiveIngest.step] at hingest
    split at hingest
    · obtain rfl := Option.some.inj hingest
      exact ⟨rfl, rfl, rfl, rfl, rfl, rfl, rfl, fun _ ↦ id⟩
    · exact absurd hingest (by simp)
  | producer now =>
    obtain ⟨ingest, hingest, rfl⟩ := Option.map_eq_some_iff.mp hstep
    obtain ⟨done, -, ⟨hidle, -⟩ | ⟨message, hcarries, -⟩⟩ := hinv.pushed
    · rw [LiveIngest.step, LiveIngest.pushMessageStep, hidle] at hingest
      exact absurd hingest (by simp)
    · obtain ⟨_, _, _, _, _, rfl, -⟩ := LiveIngest.pushMessageStep_cases hcarries hingest
      exact ⟨rfl, rfl, rfl, rfl, rfl, rfl, rfl, fun _ ↦ id⟩
  | _ => cases hinput

/-- A shard that is not running does not move. -/
theorem step_shard_eq_none {shardId : ℕ}
    (hstopped : (s.sharded.shards shardId).worker = .notRunning) (handled : Bool) :
    s.step config (.shard shardId handled) = none := by
  rw [LivePipeline.step, LivePipeline.shardStep, ShardedPipeline.step, ShardedPipeline.shardStep]
  simp only [hstopped, Shard.runStep, Option.map_none, ite_self]

theorem mainSide_of_shard {shardId : ℕ} {handled : Bool}
    (hstep : s.step config (.shard shardId handled) = some s') : s.MainSide s' := by
  obtain ⟨sharded, hsharded, rfl⟩ := Option.map_eq_some_iff.mp hstep
  refine ⟨rfl, rfl, rfl, rfl, rfl, rfl, rfl, fun i hi ↦ ?_⟩
  by_cases hshard : i = shardId
  · subst hshard
    exact absurd ((step_shard_eq_none hi handled).symm.trans hstep) (by simp)
  · rw [(ShardedPipeline.step_shard hsharded).2.2.2 i hshard]
    exact hi

end LivePipeline

section Turns

variable {Text τ : Type*} {transport : IOrderTransport Text τ} {l l' : WorkerLoop τ}

theorem WorkerTurn.stopRequested_eq (h : WorkerTurn transport l l') :
    l'.stopRequested = l.stopRequested := by
  cases h <;> rfl

theorem WorkerTurn.joinable_iff (h : WorkerTurn transport l l') :
    l'.worker = .notJoinable ↔ l.worker = .notJoinable := by
  cases h with
  | refused hworker =>
    rcases hworker with hworker | hworker
    · simp [hworker]
    · simp [hworker]
  | _ => simp [*]

end Turns

namespace OrderManager

variable {Text τ σ : Type*} {config : OrderManagerConfig Text τ σ} {s s' : OrderManager Text τ σ}

/-- What a `stop` relies on is as it was. -/
structure StopSide (s s' : OrderManager Text τ σ) : Prop where
  control : s'.control = s.control
  stopRequested : s'.stopRequested = s.stopRequested
  joinable : s'.worker = .notJoinable ↔ s.worker = .notJoinable

theorem StopSide.refl (s : OrderManager Text τ σ) : s.StopSide s := ⟨rfl, rfl, Iff.rfl⟩

theorem stopSide_of_worker {now : ℕ} (h : s.runWorker config now = some s') : s.StopSide s' := by
  have hturn := workerTurn_of_runWorker h
  exact ⟨(workerKeeps_runWorker h).control, hturn.stopRequested_eq, hturn.joinable_iff⟩

theorem stopSide_of_submission {input : OrderManagerInput} (hinput : input.isSubmission = true)
    (h : (machine config).step s input = some s') : s.StopSide s' := by
  cases input with
  | submitBegin thread intent now =>
    simp only [machine, submitBegin] at h
    split_ifs at h
    all_goals
      obtain rfl := Option.some.inj h
      exact ⟨rfl, rfl, Iff.rfl⟩
  | submitTrack thread =>
    simp only [machine, submitTrack] at h
    split at h
    · split at h
      all_goals
        obtain rfl := Option.some.inj h
        exact ⟨rfl, rfl, Iff.rfl⟩
    · exact absurd h (by simp)
  | submitEnqueue thread =>
    simp only [machine, submitEnqueue] at h
    split at h
    · obtain rfl := Option.some.inj h
      exact ⟨rfl, rfl, Iff.rfl⟩
    · exact absurd h (by simp)
  | submitCount thread =>
    simp only [machine, submitCount] at h
    split at h
    · obtain rfl := Option.some.inj h
      exact ⟨rfl, rfl, Iff.rfl⟩
    · exact absurd h (by simp)
  | _ => exact absurd hinput (by simp [OrderManagerInput.isSubmission])

end OrderManager

namespace OrderFlow

variable {Text τ σ : Type*} {config : OrderFlowConfig Text τ σ} {s s' : OrderFlow Text τ σ}

/-- The steps of the shards and of the worker of the order manager. -/
def OfWorker : OrderFlowInput → Prop
  | .manager input => input.isWorker = true
  | _ => True

theorem sameSession_of_ne {input : OrderFlowInput} (hinput : input ≠ .manager .start) :
    SameSession s input := by
  cases input with
  | manager own => exact fun hown ↦ absurd (congrArg OrderFlowInput.manager hown) hinput
  | _ => trivial

theorem stopSide_of_step {input : OrderFlowInput} (hinput : OfWorker input)
    (hstep : s.step config input = some s') : s.manager.StopSide s'.manager := by
  obtain ⟨-, hsame | ⟨own, hmanager, hown⟩⟩ | ⟨i, _, -, -, henqueue, -⟩ :=
    managerMoves_of_step hstep
  · rw [hsame]
    exact .refl _
  · obtain rfl | ⟨hsubmission, -⟩ := hown
    · cases own with
      | worker now => exact OrderManager.stopSide_of_worker hmanager
      | _ => exact absurd hinput (by simp [OfWorker, OrderManagerInput.isWorker])
    · exact OrderManager.stopSide_of_submission hsubmission hmanager
  · have hstep : (OrderManager.machine config.orderManager).step s.manager (.submitEnqueue i) =
        some s'.manager := henqueue
    exact OrderManager.stopSide_of_submission rfl hstep

end OrderFlow

namespace LiveTrader

variable {Text τ σ : Type*} {config : LiveTraderConfig Text τ σ} {s s' : LiveTrader Text τ σ}

/-- **What the workers leave alone**: all that `main`, the feed and a `stop` of the order manager
rely on. -/
structure WorkerMoves (config : LiveTraderConfig Text τ σ) (s s' : LiveTrader Text τ σ) : Prop where
  main : s.pipeline.MainSide s'.pipeline
  feed : s'.pipeline.feedSide = s.pipeline.feedSide
  stop : s.flow.manager.StopSide s'.flow.manager
  session : (OrderFlow.machine config.flowConfig).ReachesVia OrderFlow.SameSession s.flow s'.flow

theorem workerMoves_of_step {input : LiveTraderInput} (hinput : input.isOfWorker = true)
    (hstep : s.step config input = some s') : WorkerMoves config s s' := by
  have hflow : ∀ (own : OrderFlowInput) {flow : OrderFlow Text τ σ}, OrderFlow.OfWorker own →
      own ≠ .manager .start → s.flow.step config.flowConfig own = some flow →
      s.flow.manager.StopSide flow.manager ∧
        (OrderFlow.machine config.flowConfig).ReachesVia OrderFlow.SameSession s.flow flow :=
    fun own _ hown hstart hstep ↦ ⟨OrderFlow.stopSide_of_step hown hstep,
      .single own (OrderFlow.sameSession_of_ne hstart) hstep⟩
  cases moves_of_step hstep with
  | @pipeline input pipeline _ hpipeline =>
    cases input with
    | shard shardId handled =>
      exact ⟨LivePipeline.mainSide_of_shard hpipeline, LivePipeline.feedSide_shardStep hpipeline,
        .refl _, .refl⟩
    | _ => exact absurd hinput (by simp [LiveTraderInput.isOfWorker])
  | @enter shardId event _ _ _ hmove =>
    obtain ⟨hstop, hsession⟩ := hflow (.onEvent shardId event) trivial (by simp) hmove
    exact ⟨.refl _, rfl, hstop, hsession⟩
  | @leave shardId _ _ _ _ _ _ hpipeline hmove =>
    obtain ⟨hstop, hsession⟩ := hflow (.finish shardId) trivial (by simp) hmove
    exact ⟨LivePipeline.mainSide_of_shard hpipeline, LivePipeline.feedSide_shardStep hpipeline,
      hstop, hsession⟩
  | @strategy shardId outcome _ hmove =>
    obtain ⟨hstop, hsession⟩ := hflow (.strategy shardId outcome) trivial (by simp) hmove
    exact ⟨.refl _, rfl, hstop, hsession⟩
  | @runner shardId now _ hmove =>
    obtain ⟨hstop, hsession⟩ := hflow (.runner shardId now) trivial (by simp) hmove
    exact ⟨.refl _, rfl, hstop, hsession⟩
  | @manager input flow hmove =>
    cases input with
    | worker now =>
      obtain ⟨hstop, hsession⟩ := hflow (.manager (.worker now)) rfl (by simp) hmove
      exact ⟨.refl _, rfl, hstop, hsession⟩
    | _ => exact absurd hinput (by simp [LiveTraderInput.isOfWorker])

/-- A step of the pipeline that is none of a shard. -/
theorem step_pipeline {input : LiveInput} (hstep : s.step config (.pipeline input) = some s') :
    ∃ pipeline, s.pipeline.step config.pipelineConfig input = some pipeline ∧
      s' = { s with pipeline := pipeline } := by
  cases moves_of_step hstep with
  | pipeline _ hpipeline => exact ⟨_, hpipeline, rfl⟩

theorem step_manager {input : OrderManagerInput}
    (hstep : s.step config (.manager input) = some s') :
    ∃ flow, s.flow.step config.flowConfig (.manager input) = some flow ∧
      s' = { s with flow := flow } := by
  cases moves_of_step hstep with
  | manager hflow => exact ⟨_, hflow, rfl⟩

end LiveTrader

/-! ## What a step can do -/

namespace TraderProgram

variable {Text τ σ : Type*} {config : TraderProgramConfig Text τ σ} {s s' : TraderProgram Text τ σ}

/-- **A step of `main`.** -/
inductive MainMoves (config : TraderProgramConfig Text τ σ) (s : TraderProgram Text τ σ) :
    TraderProgram Text τ σ → Prop
  | orderManagerStarted {trader : LiveTrader Text τ σ} (hat : s.main = .startOrderManager)
      (hstep : s.trader.step config.trader (.manager .start) = some trader) :
      MainMoves config s { s with
        trader := trader
        main := if trader.flow.manager.running then .startPipeline
          else .returned kExitOmsStartFailure }
  | pipelineEntered {trader : LiveTrader Text τ σ} (hat : s.main = .startPipeline)
      (hstep : s.trader.step config.trader (.pipeline .start) = some trader) :
      MainMoves config s { s with trader := trader, main := .inPipelineStart }
  | pipelineMoved {trader : LiveTrader Text τ σ}
      (hat : s.main = .inPipelineStart ∨ ∃ exitCode, s.main = .inPipelineStop exitCode)
      (hstep : s.trader.step config.trader (.pipeline .control) = some trader) :
      MainMoves config s { s with trader := trader }
  | pipelineStarted (hat : s.main = .inPipelineStart)
      (hidle : s.trader.pipeline.control = .idle) :
      MainMoves config s { s with
        main := if s.trader.pipeline.running then .startFeed
          else .stopOrderManager kExitPipelineStartFailure }
  | feedRefused (hat : s.main = .startFeed) (hjoinable : s.feedJoinable = true) :
      MainMoves config s { s with main := .stopPipeline kExitFeedRunnerStartFailure }
  | feedStarted (hat : s.main = .startFeed) (hjoinable : s.feedJoinable = false) :
      MainMoves config s { s with
        feed := .start s.feed.session, feedJoinable := true, main := .loop }
  | asked (hat : s.main = .loop) (hshutdown : s.shutdownRequested = true) :
      MainMoves config s { s with main := .stopFeed }
  | pumpEntered {trader : LiveTrader Text τ σ} (hat : s.main = .loop)
      (hstep : s.trader.step config.trader (.pipeline (.pumpIngest config.pumpBatchSize)) =
        some trader) :
      MainMoves config s { s with trader := trader, main := .inPumpIngest }
  | pumped {trader : LiveTrader Text τ σ} (hat : s.main = .inPumpIngest)
      (hstep : s.trader.step config.trader (.pipeline .pump) = some trader) :
      MainMoves config s { s with trader := trader, main := .inPumpIngest }
  | pumpReturned (hat : s.main = .inPumpIngest)
      (hidle : s.trader.pipeline.ingest.consumer = .idle) :
      MainMoves config s { s with main := .loop }
  | feedAsked (hat : s.main = .stopFeed) (hjoinable : s.feedJoinable = true) :
      MainMoves config s { s with feed := s.feed.requestStop, main := .joinFeed }
  | feedUnjoinable (hat : s.main = .stopFeed) (hjoinable : s.feedJoinable = false) :
      MainMoves config s { s with
        feed := { s.feed with running := false }, main := .stopPipeline 0 }
  | feedJoined (hat : s.main = .joinFeed) (hexited : s.feed.pc = .exited) :
      MainMoves config s { s with
        feed := { s.feed with running := false }
        feedJoinable := false
        main := .stopPipeline 0 }
  | pipelineLeft {trader : LiveTrader Text τ σ} {exitCode : ℕ}
      (hat : s.main = .stopPipeline exitCode)
      (hstep : s.trader.step config.trader (.pipeline .stop) = some trader) :
      MainMoves config s { s with trader := trader, main := .inPipelineStop exitCode }
  | pipelineStopped {exitCode : ℕ} (hat : s.main = .inPipelineStop exitCode)
      (hidle : s.trader.pipeline.control = .idle) :
      MainMoves config s { s with main := .stopOrderManager exitCode }
  | orderManagerLeft {trader : LiveTrader Text τ σ} {exitCode : ℕ}
      (hat : s.main = .stopOrderManager exitCode)
      (hstep : s.trader.step config.trader (.manager .stopBegin) = some trader) :
      MainMoves config s { s with trader := trader, main := .inOrderManagerStop exitCode }
  | orderManagerMoved {trader : LiveTrader Text τ σ} {exitCode : ℕ} {input : OrderManagerInput}
      (hat : s.main = .inOrderManagerStop exitCode)
      (hinput : input = .stopClose ∨ input = .stopJoin)
      (hstep : s.trader.step config.trader (.manager input) = some trader) :
      MainMoves config s { s with trader := trader, main := .inOrderManagerStop exitCode }
  | orderManagerStopped {exitCode : ℕ} (hat : s.main = .inOrderManagerStop exitCode)
      (hidle : s.trader.flow.manager.control = .idle) :
      MainMoves config s { s with main := .returned exitCode }

theorem mainMoves_of_awaitControl {returned : MainThread}
    (hat : s.main = .inPipelineStart ∨ ∃ exitCode, s.main = .inPipelineStop exitCode)
    (hreturned : s.trader.pipeline.control = .idle → MainMoves config s { s with main := returned })
    (hstep : s.awaitControl config returned = some s') : MainMoves config s s' := by
  rw [awaitControl] at hstep
  split at hstep
  · rename_i hidle
    obtain rfl := Option.some.inj hstep
    exact hreturned hidle
  · obtain ⟨trader, htrader, rfl⟩ := Option.map_eq_some_iff.mp hstep
    exact .pipelineMoved hat htrader

theorem mainMoves_of_mainStep (hstep : s.mainStep config = some s') : MainMoves config s s' := by
  rw [mainStep] at hstep
  split at hstep
  · rename_i hat
    obtain ⟨trader, htrader, rfl⟩ := Option.map_eq_some_iff.mp hstep
    exact .orderManagerStarted hat htrader
  · rename_i hat
    obtain ⟨trader, htrader, rfl⟩ := Option.map_eq_some_iff.mp hstep
    exact .pipelineEntered hat htrader
  · rename_i hat
    exact mainMoves_of_awaitControl (.inl hat) (.pipelineStarted hat) hstep
  · rename_i hat
    split at hstep
    · rename_i hjoinable
      obtain rfl := Option.some.inj hstep
      exact .feedRefused hat hjoinable
    · rename_i hjoinable
      obtain rfl := Option.some.inj hstep
      exact .feedStarted hat (Bool.eq_false_of_not_eq_true hjoinable)
  · rename_i hat
    split at hstep
    · rename_i hshutdown
      obtain rfl := Option.some.inj hstep
      exact .asked hat hshutdown
    · obtain ⟨trader, htrader, rfl⟩ := Option.map_eq_some_iff.mp hstep
      exact .pumpEntered hat htrader
  · rename_i hat
    split at hstep
    · rename_i hidle
      obtain rfl := Option.some.inj hstep
      exact .pumpReturned hat hidle
    · obtain ⟨trader, htrader, rfl⟩ := Option.map_eq_some_iff.mp hstep
      exact .pumped hat htrader
  · rename_i hat
    split at hstep
    · rename_i hjoinable
      obtain rfl := Option.some.inj hstep
      exact .feedAsked hat hjoinable
    · rename_i hjoinable
      obtain rfl := Option.some.inj hstep
      exact .feedUnjoinable hat (Bool.eq_false_of_not_eq_true hjoinable)
  · rename_i hat
    split at hstep
    · rename_i hexited
      obtain rfl := Option.some.inj hstep
      exact .feedJoined hat hexited
    · exact absurd hstep (by simp)
  · rename_i exitCode hat
    obtain ⟨trader, htrader, rfl⟩ := Option.map_eq_some_iff.mp hstep
    exact .pipelineLeft hat htrader
  · rename_i exitCode hat
    exact mainMoves_of_awaitControl (.inr ⟨exitCode, hat⟩) (.pipelineStopped hat) hstep
  · rename_i exitCode hat
    obtain ⟨trader, htrader, rfl⟩ := Option.map_eq_some_iff.mp hstep
    exact .orderManagerLeft hat htrader
  · rename_i exitCode hat
    split at hstep
    · rename_i hidle
      obtain rfl := Option.some.inj hstep
      exact .orderManagerStopped hat hidle
    · obtain ⟨trader, htrader, rfl⟩ := Option.map_eq_some_iff.mp hstep
      exact .orderManagerMoved hat (.inl rfl) htrader
    · obtain ⟨trader, htrader, rfl⟩ := Option.map_eq_some_iff.mp hstep
      exact .orderManagerMoved hat (.inr rfl) htrader
  · exact absurd hstep (by simp)

/-- **A step of the worker of the feed.** -/
inductive FeedMoves (config : TraderProgramConfig Text τ σ) (s : TraderProgram Text τ σ) :
    TraderProgram Text τ σ → Prop
  | left (hcall : s.feedCall = .idle) (hpc : s.feed.pc = .connecting ∨ s.feed.pc = .receiving)
      (hstop : s.feed.stopRequested = true) : FeedMoves config s { s with feed := s.feed.leave }
  | entered (hcall : s.feedCall = .idle) (hpc : s.feed.pc = .connecting ∨ s.feed.pc = .receiving)
      (hstop : s.feed.stopRequested = false) : FeedMoves config s { s with feedCall := .session }
  | connected (outcome : Bool × WsSession) (hcall : s.feedCall = .session)
      (hpc : s.feed.pc = .connecting) :
      FeedMoves config s { s with
        feed := s.feed.afterConnect config.feed outcome, feedCall := .idle }
  | subscribed {channel : String} {rest : List String} (outcome : Bool × WsSession)
      (hcall : s.feedCall = .idle) (hpc : s.feed.pc = .subscribing channel rest) :
      FeedMoves config s { s with feed := s.feed.afterSubscribe channel rest outcome }
  | failed (session : WsSession) (hcall : s.feedCall = .session) (hpc : s.feed.pc = .receiving) :
      FeedMoves config s { s with
        feed := s.feed.afterRecvText false (none, session), feedCall := .idle }
  | received {message : String} {trader : LiveTrader Text τ σ} (session : WsSession)
      (hcall : s.feedCall = .session) (hpc : s.feed.pc = .receiving)
      (hstep : s.trader.step config.trader (.pipeline (.pushMessage message)) = some trader) :
      FeedMoves config s { s with
        trader := trader
        feed := s.feed.takeMessage message session
        feedCall := .pushMessage message }
  | pushing {message : String} {now : ℤ} {trader : LiveTrader Text τ σ}
      (hcall : s.feedCall = .pushMessage message) (hpc : s.feed.pc = .receiving)
      (hstep : s.trader.step config.trader (.pipeline (.producer now)) = some trader) :
      FeedMoves config s { s with
        trader := trader
        feedCall := match trader.pipeline.ingest.producer with
          | .idle => .pushed message s.trader.pipeline.ingest.producer.result
          | _ => .pushMessage message }
  | heard {message : String} {accepted : Bool} (hcall : s.feedCall = .pushed message accepted)
      (hpc : s.feed.pc = .receiving) :
      FeedMoves config s { s with feed := s.feed.hearSink message accepted, feedCall := .idle }

theorem feedMoves_of_feedStep {input : FeedWorkerInput}
    (hstep : s.feedStep config input = some s') : FeedMoves config s s' := by
  have hhead : s.feedCall = .idle → s.feed.pc = .connecting ∨ s.feed.pc = .receiving →
      (if s.feed.stopRequested then some { s with feed := s.feed.leave }
        else some { s with feedCall := .session }) = some s' → FeedMoves config s s' := by
    intro hcall hpc hstep
    split at hstep
    · rename_i hstop
      obtain rfl := Option.some.inj hstep
      exact .left hcall hpc hstop
    · rename_i hstop
      obtain rfl := Option.some.inj hstep
      exact .entered hcall hpc (Bool.eq_false_of_not_eq_true hstop)
  unfold feedStep at hstep
  split at hstep
  · rename_i hcall hpc
    exact hhead hcall (.inl hpc) hstep
  · rename_i hcall hpc
    exact hhead hcall (.inr hpc) hstep
  · rename_i built answer hcall hpc
    obtain rfl := Option.some.inj hstep
    exact .connected _ hcall hpc
  · rename_i channel rest built answer hcall hpc
    obtain rfl := Option.some.inj hstep
    exact .subscribed _ hcall hpc
  · rename_i answer hcall hpc
    rw [receive] at hstep
    split at hstep
    · obtain rfl := Option.some.inj hstep
      exact .failed _ hcall hpc
    · obtain ⟨trader, htrader, rfl⟩ := Option.map_eq_some_iff.mp hstep
      exact .received _ hcall hpc htrader
  · rename_i message now hcall hpc
    obtain ⟨trader, htrader, rfl⟩ := Option.map_eq_some_iff.mp hstep
    exact .pushing hcall hpc htrader
  · rename_i message accepted hcall hpc
    obtain rfl := Option.some.inj hstep
    exact .heard hcall hpc
  · exact absurd hstep (by simp)

/-- **A step of the program.** -/
inductive Moves (config : TraderProgramConfig Text τ σ) (s : TraderProgram Text τ σ) :
    TraderProgramInput → TraderProgram Text τ σ → Prop
  | main {s' : TraderProgram Text τ σ} (h : MainMoves config s s') : Moves config s .main s'
  | signal : Moves config s .signal { s with shutdownRequested := true }
  | feed {input : FeedWorkerInput} {s' : TraderProgram Text τ σ} (h : FeedMoves config s s') :
      Moves config s (.feed input) s'
  | worker {input : LiveTraderInput} {trader : LiveTrader Text τ σ}
      (hinput : input.isOfWorker = true)
      (hstep : s.trader.step config.trader input = some trader) :
      Moves config s (.worker input) { s with trader := trader }

theorem moves_of_step {input : TraderProgramInput} (hstep : s.step config input = some s') :
    Moves config s input s' := by
  cases input with
  | main => exact .main (mainMoves_of_mainStep hstep)
  | signal =>
    obtain rfl := Option.some.inj hstep
    exact .signal
  | feed input => exact .feed (feedMoves_of_feedStep hstep)
  | worker input =>
    rw [step] at hstep
    split at hstep
    · rename_i hinput
      obtain ⟨trader, htrader, rfl⟩ := Option.map_eq_some_iff.mp hstep
      exact .worker hinput htrader
    · exact absurd hstep (by simp)

variable {transport : τ} {sink : σ}

/-- **A run of the program is a run of the trader.** -/
theorem trader_of_reaches (h : (machine config).Reaches (create config transport sink) s) :
    (LiveTrader.machine config.trader).Reaches (.create config.trader transport sink) s.trader := by
  refine h.project TraderProgram.trader fun _ _ hstep ↦ ?_
  cases moves_of_step hstep with
  | main hmain =>
    cases hmain with
    | orderManagerStarted _ htrader => exact .single (.manager .start) trivial htrader
    | pipelineEntered _ htrader => exact .single (.pipeline .start) trivial htrader
    | pipelineMoved _ htrader => exact .single (.pipeline .control) trivial htrader
    | pumpEntered _ htrader =>
      exact .single (.pipeline (.pumpIngest config.pumpBatchSize)) trivial htrader
    | pumped _ htrader => exact .single (.pipeline .pump) trivial htrader
    | pipelineLeft _ htrader => exact .single (.pipeline .stop) trivial htrader
    | orderManagerLeft _ htrader => exact .single (.manager .stopBegin) trivial htrader
    | @orderManagerMoved _ _ input _ _ htrader => exact .single (.manager input) trivial htrader
    | _ => exact .refl
  | signal => exact .refl
  | feed hfeed =>
    cases hfeed with
    | @received message _ _ _ _ htrader =>
      exact .single (.pipeline (.pushMessage message)) trivial htrader
    | @pushing _ now _ _ _ htrader => exact .single (.pipeline (.producer now)) trivial htrader
    | _ => exact .refl
  | @worker input _ _ htrader => exact .single input trivial htrader

end TraderProgram

end TradingEngine
