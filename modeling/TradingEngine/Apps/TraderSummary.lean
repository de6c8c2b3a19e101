import TradingEngine.Apps.TraderPhases

/-!
# The summary of the program

When `main` returns it prints counters of the feed, of the pipeline and of the order manager. They
are kept by different threads, and some are set to zero at a start. As `main` starts each part once
and stops it before it prints, they add up (`summary_adds_up`): every message that the feed received
and every intent that was submitted is accounted for.

The feed counts on its side of `push_message` what the pipeline counts on the other. Between the two
a message is in the hand of the feed, and the invariant goes by the call that the feed is in.
-/

namespace TradingEngine

/-! ## The end of `push_message` -/

namespace LiveIngest

variable {s s' : LiveIngest} {source : String}

/-- A message whose `push_message` returns false is counted as dropped, and no other. -/
theorem droppedCount_of_returned {now : ℤ} (hstep : s.pushMessageStep source now = some s')
    (hidle : s'.producer = .idle) :
    s'.droppedCount = if s.producer.result then s.droppedCount else s.droppedCount + 1 := by
  rw [pushMessageStep] at hstep
  split at hstep
  · exact absurd hstep (by simp)
  · split at hstep
    all_goals
      obtain rfl := Option.some.inj hstep
      exact absurd hidle (by simp)
  · split at hstep
    all_goals
      obtain rfl := Option.some.inj hstep
      exact absurd hidle (by simp)
  · rename_i message ref slot field hat
    obtain rfl := Option.some.inj hstep
    cases field <;> exact absurd hidle (by simp [FrameField.next])
  · obtain rfl := Option.some.inj hstep
    exact absurd hidle (by simp)
  · rename_i message call hat
    rw [hat]
    split at hstep
    all_goals
      obtain rfl := Option.some.inj hstep
      rfl
  · obtain rfl := Option.some.inj hstep
    exact absurd hidle (by simp)
  · rename_i hat
    rw [hat]
    obtain rfl := Option.some.inj hstep
    rfl

end LiveIngest

/-! ## The feed and the pipeline -/

/-- The messages that the sink took. -/
def WsFeedRunner.acceptedPushes (runner : WsFeedRunner) : List String :=
  (runner.pushes.filter Prod.snd).map Prod.fst

/-- What the feed has recorded, against what it sees of the pipeline. -/
def FeedCall.Agrees (runner : WsFeedRunner) (side : FeedSide) : FeedCall → Prop
  | .idle | .session =>
    side.producer = .idle ∧ side.pushed = runner.pushes.map Prod.fst ∧
      side.accepted = runner.acceptedPushes ∧ side.droppedCount = runner.droppedCount
  | .pushMessage message =>
    side.producer.Carries message ∧ side.pushed = runner.pushes.map Prod.fst ++ [message] ∧
      side.accepted = runner.acceptedPushes ∧ side.droppedCount = runner.droppedCount
  | .pushed message accepted =>
    side.producer = .idle ∧ side.pushed = runner.pushes.map Prod.fst ++ [message] ∧
      side.accepted = runner.acceptedPushes ++ (if accepted then [message] else []) ∧
      side.droppedCount = if accepted then runner.droppedCount else runner.droppedCount + 1

/-- A call on the session, or a stop, leaves the records alone. -/
structure WsFeedRunner.SameRecords (runner runner' : WsFeedRunner) : Prop where
  pushes : runner'.pushes = runner.pushes
  receivedCount : runner'.receivedCount = runner.receivedCount
  droppedCount : runner'.droppedCount = runner.droppedCount

namespace WsFeedRunner

variable {config : WsFeedRunnerConfig} {runner runner' : WsFeedRunner}

theorem sameRecords_afterConnect (outcome : Bool × WsSession) :
    runner.SameRecords (runner.afterConnect config outcome) := by
  obtain ⟨connected, session⟩ := outcome
  cases connected with
  | true => exact ⟨nextChannel_pushes .., nextChannel_receivedCount .., nextChannel_droppedCount ..⟩
  | false => exact ⟨rfl, rfl, rfl⟩

theorem sameRecords_afterSubscribe (channel : String) (rest : List String)
    (outcome : Bool × WsSession) :
    runner.SameRecords (runner.afterSubscribe channel rest outcome) := by
  obtain ⟨subscribed, session⟩ := outcome
  cases subscribed with
  | true => exact ⟨nextChannel_pushes .., nextChannel_receivedCount .., nextChannel_droppedCount ..⟩
  | false => exact ⟨rfl, rfl, rfl⟩

end WsFeedRunner

/-- What the feed has counted, as the pipeline has. -/
structure FeedAgrees (call : FeedCall) (runner : WsFeedRunner) (side : FeedSide) : Prop where
  records : call.Agrees runner side
  receivedCount : runner.receivedCount = side.pushed.length

namespace FeedAgrees

variable {call : FeedCall} {runner runner' : WsFeedRunner} {side : FeedSide}

/-- A call on the session changes nothing that is recorded until it returns. -/
theorem session_iff : FeedAgrees .session runner side ↔ FeedAgrees .idle runner side :=
  ⟨fun h ↦ ⟨h.records, h.receivedCount⟩, fun h ↦ ⟨h.records, h.receivedCount⟩⟩

theorem of_sameRecords (h : FeedAgrees call runner side) (hsame : runner.SameRecords runner') :
    FeedAgrees call runner' side := by
  obtain ⟨hrecords, hreceived⟩ := h
  refine ⟨?_, hsame.receivedCount.trans hreceived⟩
  cases call with
  | idle | session | pushMessage message | pushed message accepted =>
    rw [FeedCall.Agrees, WsFeedRunner.acceptedPushes, hsame.pushes, hsame.droppedCount]
    exact hrecords

/-- The sink has answered. -/
theorem hearSink {message : String} {accepted : Bool}
    (h : FeedAgrees (.pushed message accepted) runner side) :
    FeedAgrees .idle (runner.hearSink message accepted) side := by
  obtain ⟨⟨hidle, hpushed, haccepted, hdropped⟩, hreceived⟩ := h
  refine ⟨⟨hidle, ?_, ?_, hdropped⟩, hreceived⟩
  · rw [hpushed, WsFeedRunner.hearSink, List.map_append]
    rfl
  · rw [haccepted, WsFeedRunner.acceptedPushes, WsFeedRunner.acceptedPushes,
      WsFeedRunner.hearSink, List.filter_append, List.map_append]
    cases accepted with
    | true => rfl
    | false => rfl

end FeedAgrees

namespace LivePipeline

variable {config : LivePipelineParts} {s s' : LivePipeline} {runner : WsFeedRunner}

/-- A message is received and pushed. -/
theorem feedAgrees_of_pushMessage {message : String} {session : WsSession}
    (h : FeedAgrees .session runner s.feedSide)
    (hstep : s.step config (.pushMessage message) = some s') :
    FeedAgrees (.pushMessage message) (runner.takeMessage message session) s'.feedSide := by
  obtain ⟨⟨hidle, hpushed, haccepted, hdropped⟩, hreceived⟩ := h
  obtain ⟨ingest, hingest, rfl⟩ := Option.map_eq_some_iff.mp hstep
  rw [LiveIngest.step] at hingest
  split at hingest
  · obtain rfl := Option.some.inj hingest
    refine ⟨⟨rfl, ?_, haccepted, hdropped⟩, ?_⟩
    · rw [feedSide]
      exact congrArg (· ++ [message]) hpushed
    · rw [feedSide, List.length_append]
      exact congrArg (· + 1) hreceived
  · exact absurd hingest (by simp)

/-- The next step of `push_message`. -/
theorem feedAgrees_of_producer {message : String} {now : ℤ}
    (h : FeedAgrees (.pushMessage message) runner s.feedSide)
    (hstep : s.step config (.producer now) = some s') :
    FeedAgrees (match s'.ingest.producer with
      | .idle => .pushed message s.ingest.producer.result
      | _ => .pushMessage message) runner s'.feedSide := by
  obtain ⟨⟨hcarries, hpushed, haccepted, hdropped⟩, hreceived⟩ := h
  obtain ⟨ingest, hingest, rfl⟩ := Option.map_eq_some_iff.mp hstep
  have hcount := LiveIngest.droppedCount_of_returned hingest
  obtain ⟨_, _, producer, _, _, rfl, -, hcases⟩ :=
    LiveIngest.pushMessageStep_cases hcarries hingest
  obtain ⟨hbusy, hcarries', rfl, rfl⟩ | ⟨rfl, rfl, rfl⟩ | ⟨rfl, rfl, rfl⟩ := hcases
  · refine ⟨?_, hreceived⟩
    dsimp only
    split
    · exact absurd rfl hbusy
    · exact ⟨hcarries', hpushed, haccepted, hdropped⟩
  · -- the message is dropped, and `push_message` returns false
    have hresult : s.ingest.producer.result = false := by
      by_contra hresult
      have hsame := hcount rfl
      rw [if_pos (Bool.eq_true_of_not_eq_false hresult)] at hsame
      exact absurd hsame (Nat.succ_ne_self _)
    refine ⟨?_, hreceived⟩
    dsimp only
    rw [hresult]
    exact ⟨rfl, hpushed, haccepted.trans (List.append_nil _).symm, congrArg (· + 1) hdropped⟩
  · have hresult : s.ingest.producer.result = true := by
      by_contra hresult
      have hsame := hcount rfl
      rw [if_neg hresult] at hsame
      exact absurd hsame.symm (Nat.succ_ne_self _)
    refine ⟨?_, hreceived⟩
    dsimp only
    rw [hresult]
    exact ⟨rfl, hpushed, congrArg (· ++ [message]) haccepted, hdropped⟩

end LivePipeline

/-! ## Steps of the program -/

namespace TraderProgram

variable {Text τ σ : Type*} {config : TraderProgramConfig Text τ σ} {s s' : TraderProgram Text τ σ}
  {transport : τ} {sink : σ}

/-- Feed and pipeline have counted the same. -/
def FeedCounted (s : TraderProgram Text τ σ) : Prop :=
  FeedAgrees s.feedCall s.feed s.trader.pipeline.feedSide

theorem FeedCounted.feedStep (h : s.FeedCounted) (hfeed : FeedMoves config s s') :
    s'.FeedCounted := by
  rw [FeedCounted] at h
  cases hfeed with
  | left _ _ _ => exact h.of_sameRecords ⟨rfl, rfl, rfl⟩
  | entered hcall _ _ =>
    rw [hcall] at h
    exact FeedAgrees.session_iff.mpr h
  | connected outcome hcall _ =>
    rw [hcall] at h
    exact (FeedAgrees.session_iff.mp h).of_sameRecords
      (WsFeedRunner.sameRecords_afterConnect outcome)
  | subscribed outcome _ _ =>
    exact h.of_sameRecords (WsFeedRunner.sameRecords_afterSubscribe _ _ outcome)
  | failed session hcall _ =>
    rw [hcall] at h
    exact (FeedAgrees.session_iff.mp h).of_sameRecords ⟨rfl, rfl, rfl⟩
  | received session hcall _ htrader =>
    rw [hcall] at h
    obtain ⟨pipeline, hpipeline, rfl⟩ := LiveTrader.step_pipeline htrader
    exact LivePipeline.feedAgrees_of_pushMessage h hpipeline
  | pushing hcall _ htrader =>
    rw [hcall] at h
    obtain ⟨pipeline, hpipeline, rfl⟩ := LiveTrader.step_pipeline htrader
    exact LivePipeline.feedAgrees_of_producer h hpipeline
  | heard hcall _ =>
    rw [hcall] at h
    exact h.hearSink

/-- `main` leaves the records of the feed alone, and what the feed sees of the pipeline. -/
theorem MainMoves.feedSide (h : MainMoves config s s')
    (hunfed : s.main = .startFeed → s.Unfed)
    (hinv : s.trader.pipeline.Inv config.trader.pipelineConfig) :
    s'.feedCall = s.feedCall ∧ s.feed.SameRecords s'.feed ∧
      s'.trader.pipeline.feedSide = s.trader.pipeline.feedSide := by
  cases h with
  | feedStarted hat _ =>
    refine ⟨rfl, ?_, rfl⟩
    rw [(hunfed hat).feed]
    exact ⟨rfl, rfl, rfl⟩
  | pipelineEntered _ htrader | pipelineMoved _ htrader | pumpEntered _ htrader
  | pumped _ htrader | pipelineLeft _ htrader =>
    obtain ⟨pipeline, hpipeline, rfl⟩ := LiveTrader.step_pipeline htrader
    exact ⟨rfl, ⟨rfl, rfl, rfl⟩, LivePipeline.feedSide_of_step hinv rfl hpipeline⟩
  | orderManagerStarted _ htrader | orderManagerLeft _ htrader | orderManagerMoved _ _ htrader =>
    obtain ⟨flow, -, rfl⟩ := LiveTrader.step_manager htrader
    exact ⟨rfl, ⟨rfl, rfl, rfl⟩, rfl⟩
  | _ => exact ⟨rfl, ⟨rfl, rfl, rfl⟩, rfl⟩

theorem FeedCounted.step {input : TraderProgramInput} (hinv : s.Inv config transport sink)
    (hpipeline : s.trader.pipeline.Inv config.trader.pipelineConfig) (h : s.FeedCounted)
    (hstep : s.step config input = some s') : s'.FeedCounted := by
  cases moves_of_step hstep with
  | main hmain =>
    have hunfed : s.main = .startFeed → s.Unfed := by
      intro hat
      have hphase := hinv.feed
      rw [hat] at hphase
      exact hphase
    obtain ⟨hcall, hsame, hside⟩ := hmain.feedSide hunfed hpipeline
    rw [FeedCounted, hcall, hside]
    exact FeedAgrees.of_sameRecords h hsame
  | signal => exact h
  | feed hfeed => exact h.feedStep hfeed
  | worker hinput htrader =>
    have hside := (LiveTrader.workerMoves_of_step hinput htrader).feed
    rw [FeedCounted]
    dsimp only
    rw [hside]
    exact h

theorem feedCounted_create (config : TraderProgramConfig Text τ σ) (transport : τ) (sink : σ) :
    (create config transport sink).FeedCounted :=
  ⟨⟨rfl, rfl, rfl, rfl⟩, rfl⟩

theorem feedCounted_of_reaches (hcapacity : config.trader.pipeline.framePoolCapacity < 2 ^ 32)
    (h : (machine config).Reaches (create config transport sink) s) : s.FeedCounted := by
  refine h.invariant (feedCounted_create config transport sink) ?_
  intro s _ _ hreaches hcounted _ hstep
  exact hcounted.step (inv_of_reaches hcapacity hreaches)
    (pipelineInv_of_reaches hcapacity hreaches) hstep

/-! ## The summary -/

/-- The numbers that `main` prints when it returns, and what else is counted. -/
structure Summary (config : TraderProgramConfig Text τ σ) (s : TraderProgram Text τ σ) : Prop where
  /-- A message received was dropped by the sink or pumped, or it is left in the frame queue. -/
  received : s.feed.receivedCount = s.feed.droppedCount +
    s.trader.pipeline.ingest.ingestFramesPumped + s.trader.pipeline.ingest.queue.size
  /-- The feed and the pipeline agree on the messages that were dropped. -/
  dropped : s.feed.droppedCount = s.trader.pipeline.ingest.droppedCount
  /-- A frame pumped was routed or not. -/
  pumped : s.trader.pipeline.ingest.ingestFramesPumped =
    s.trader.pipeline.ingest.routeSuccess + s.trader.pipeline.ingest.routeDrop
  /-- It was not where it could not be decoded, or where the queue of its shard was full. -/
  notRouted : s.trader.pipeline.ingest.routeDrop = s.trader.pipeline.sharded.droppedCount +
    s.trader.pipeline.offered.countP (LivePipeline.Undecodable config.trader.pipelineConfig)
  /-- What was routed was consumed by a shard, or is left in its queue. -/
  routed : s.trader.pipeline.ingest.routeSuccess =
    ∑ i ∈ Finset.range config.trader.strategyShardCount,
      ((s.trader.pipeline.sharded.shards i).consumed.length +
        (s.trader.pipeline.sharded.queues i).size)
  /-- The runners and the order manager agree on the intents that were submitted. -/
  submitted : s.trader.flow.manager.counters.submittedCount =
    ∑ i ∈ Finset.range config.trader.strategyShardCount,
      (s.trader.flow.runners i).stats.intentsSubmittedCount
  /-- An intent submitted was sent, could not be, or was refused, or it is left in the queue. -/
  sent : s.trader.flow.manager.counters.submittedCount =
    s.trader.flow.manager.counters.sentCount + s.trader.flow.manager.counters.sendFailedCount +
      (s.trader.flow.manager.core.riskRejectCount +
        s.trader.flow.manager.core.portfolioRiskRejectCount) +
      s.trader.flow.manager.waiting.length

end TraderProgram

open TraderProgram in
/-- **The summary adds up.** Whatever the interleaving, when `main` returns zero the counters that
it prints account for every message that the feed received and every intent that was submitted. -/
theorem summary_adds_up {Text τ σ : Type*} {config : TraderProgramConfig Text τ σ} {transport : τ}
    {sink : σ} {s : TraderProgram Text τ σ}
    (hcapacity : config.trader.pipeline.framePoolCapacity < 2 ^ 32)
    (h : (machine config).Reaches (create config transport sink) s)
    (hreturned : s.main = .returned 0) : s.Summary config := by
  have hinv := inv_of_reaches hcapacity h
  have hpipeline := hinv.pipeline
  have hfeed := hinv.feed
  have hsession := hinv.session
  have hconsumer := hinv.consumer (by simp [hreturned])
  rw [hreturned] at hpipeline hfeed hsession
  have hdown : s.trader.pipeline.Down := hpipeline
  have hover : s.FeedOver := by
    obtain ⟨-, hover⟩ | ⟨hcode, -⟩ := hfeed
    · exact hover
    · exact absurd hcode (by simp [kExitOmsStartFailure])
  have hcounted := feedCounted_of_reaches hcapacity h
  rw [FeedCounted, hover.call] at hcounted
  obtain ⟨⟨hproducer, -, -, hdropped⟩, hreceived⟩ := hcounted
  -- what was counted before the one start is nothing
  obtain ⟨hpumpedBefore, hsuccessBefore, hdropBefore⟩ := hdown.once
  have hcapacity' : config.trader.pipelineConfig.framePoolCapacity < 2 ^ 32 := hcapacity
  have haccounts := (pipelineInv_of_reaches hcapacity h).accounts
    (LivePipeline.shardsAccounted_of_reaches hcapacity'
      (LiveTrader.pipeline_of_reaches (trader_of_reaches h)))
  have hpushed := haccounts.pushed hproducer
  have hpumped := haccounts.pumped hconsumer
  have hrouted := haccounts.routed hconsumer
  have hnotRouted := haccounts.dropped hconsumer
  have hdispatched := haccounts.dispatched hconsumer
  rw [hpumpedBefore, Nat.zero_add] at hpumped hrouted
  rw [hsuccessBefore, hdropBefore, Nat.zero_add, Nat.zero_add] at hrouted
  rw [hdropBefore, Nat.zero_add] at hnotRouted
  rw [hsuccessBefore, Nat.zero_add, LiveTraderConfig.resolvedShardCount_eq] at hdispatched
  obtain ⟨s₁, hstart, hrun⟩ := hsession
  have hpushes := OrderFlow.pushedCount_of_session hstart hrun
  have hsubmitted := OrderFlow.counted_of_session hstart hrun
  have hflow := OrderFlow.inv_of_reaches (LiveTrader.flow_of_reaches (trader_of_reaches h))
  have hrest := atRest_of_reaches hcapacity h hreturned
  -- no call of a runner is under way, so what was pushed is counted
  have hcount : s.trader.flow.manager.pushedCount =
      s.trader.flow.manager.counters.submittedCount := by
    rw [OrderManager.pushedCount, OrderFlow.uncountedCalls_of_idle hflow hrest.runners,
      Nat.add_zero]
  refine ⟨?_, hdropped.symm, hrouted, hnotRouted, hdispatched, ?_, ?_⟩
  · have hside : s.feed.receivedCount = s.trader.pipeline.pushed.length := hreceived
    have hdrop : s.trader.pipeline.ingest.droppedCount = s.feed.droppedCount := hdropped
    omega
  · rw [← hcount, ← hsubmitted.submitted, OrderFlow.length_enqueued hflow hsubmitted]
    refine Finset.sum_congr rfl fun i _ ↦ ?_
    rw [(OrderFlow.entered_of_idle hflow (hrest.runners i)).1, Nat.add_zero]
  · omega

open TraderProgram in
/-- One message comes in, and one order goes out. -/
theorem summary_adds_up_trade : ∃ s,
    (machine wiredProgram).Reaches (create wiredProgram {} {}) s ∧
      s.main = .returned 0 ∧ s.feed.receivedCount = 1 ∧
      s.trader.pipeline.ingest.routeSuccess = 1 ∧ s.trader.flow.manager.counters.sentCount = 1 ∧
      s.Summary wiredProgram := by
  have hrun : ((machine wiredProgram).runVia (fun _ _ ↦ True)
      (create wiredProgram {} {})
      (programTradeRun ++ programOrderRun ++ programShutdownRun)).any
        (fun s ↦ s.main = .returned 0 ∧ s.feed.receivedCount = 1 ∧
          s.trader.pipeline.ingest.routeSuccess = 1 ∧
          s.trader.flow.manager.counters.sentCount = 1) = true := by
    decide +kernel
  obtain ⟨s, hreaches, hlast⟩ := Machine.exists_of_runVia hrun
  obtain ⟨hreturned, hreceived, hrouted, hsent⟩ := of_decide_eq_true hlast
  exact ⟨s, hreaches, hreturned, hreceived, hrouted, hsent,
    summary_adds_up (by decide) hreaches hreturned⟩

end TradingEngine
