import TradingEngine.Apps.TraderProgram

/-!
# The phases of the program

Where `main` is says in which state the pipeline, the feed and the order manager are: not started,
starting, up, stopping, or down. Each of the three has an invariant of its own, a predicate for
every place of `main`; the steps of the other threads leave alone what it is about.

When `main` returns, all threads have ended and no step is left but a signal
(`program_returns_at_rest`). It returns zero, or else the connection of the order manager was
refused and nothing else was started: its other two exits cannot be reached.
-/

namespace TradingEngine

/-! ## The pipeline -/

namespace LivePipeline

variable {config : LivePipelineParts} {s s' : LivePipeline}

/-- Nothing had been counted when the counters were set to zero. -/
structure StartedOnce (s : LivePipeline) : Prop where
  ingestFramesPumped : s.before.ingestFramesPumped = 0
  routeSuccess : s.before.routeSuccess = 0
  routeDrop : s.before.routeDrop = 0

/-- Nothing is counted so far. -/
structure Unpumped (s : LivePipeline) : Prop where
  ingestFramesPumped : s.ingest.ingestFramesPumped = 0
  routeSuccess : s.ingest.routeSuccess = 0
  routeDrop : s.ingest.routeDrop = 0

/-- From this shard on none is running. -/
def StoppedFrom (s : LivePipeline) (i : ℕ) : Prop :=
  ∀ j ≥ i, (s.sharded.shards j).worker = .notRunning

def StoppedBelow (s : LivePipeline) (i : ℕ) : Prop :=
  ∀ j < i, (s.sharded.shards j).worker = .notRunning

structure Down (s : LivePipeline) : Prop where
  control : s.control = .idle
  running : s.running = false
  stopped : s.StoppedFrom 0
  once : s.StartedOnce

structure Up (config : LivePipelineParts) (s : LivePipeline) : Prop where
  control : s.control = .idle
  running : s.running = true
  beyond : s.StoppedFrom config.resolvedShardCount
  once : s.StartedOnce

inductive Starting (config : LivePipelineParts) (s : LivePipeline) : Prop
  | starting {shardId : ℕ} (control : s.control = .starting shardId)
      (hle : shardId ≤ config.resolvedShardCount) (stopped : s.StoppedFrom shardId)
      (unpumped : s.Unpumped) (once : s.StartedOnce)
  | up (h : s.Up config)

inductive Stopping (config : LivePipelineParts) (s : LivePipeline) : Prop
  | stopping {shardId : ℕ} (control : s.control = .stopping shardId config.resolvedShardCount)
      (stopped : s.StoppedBelow shardId) (beyond : s.StoppedFrom config.resolvedShardCount)
      (once : s.StartedOnce)
  | joining {shardId : ℕ} (control : s.control = .joining shardId config.resolvedShardCount)
      (stopped : s.StoppedBelow shardId) (beyond : s.StoppedFrom config.resolvedShardCount)
      (once : s.StartedOnce)
  | down (h : s.Down)

/-! ### Steps of the other threads -/

namespace MainSide

theorem stoppedFrom (h : s.MainSide s') {i : ℕ} (hs : s.StoppedFrom i) : s'.StoppedFrom i :=
  fun j hj ↦ h.stopped j (hs j hj)

theorem stoppedBelow (h : s.MainSide s') {i : ℕ} (hs : s.StoppedBelow i) : s'.StoppedBelow i :=
  fun j hj ↦ h.stopped j (hs j hj)

theorem once (h : s.MainSide s') (hs : s.StartedOnce) : s'.StartedOnce := by
  constructor
  · rw [h.before, hs.ingestFramesPumped]
  · rw [h.before, hs.routeSuccess]
  · rw [h.before, hs.routeDrop]

theorem unpumped (h : s.MainSide s') (hs : s.Unpumped) : s'.Unpumped := by
  constructor
  · rw [h.ingestFramesPumped, hs.ingestFramesPumped]
  · rw [h.routeSuccess, hs.routeSuccess]
  · rw [h.routeDrop, hs.routeDrop]

theorem down (h : s.MainSide s') (hs : s.Down) : s'.Down where
  control := h.control.trans hs.control
  running := h.running.trans hs.running
  stopped := h.stoppedFrom hs.stopped
  once := h.once hs.once

theorem up (h : s.MainSide s') (hs : s.Up config) : s'.Up config where
  control := h.control.trans hs.control
  running := h.running.trans hs.running
  beyond := h.stoppedFrom hs.beyond
  once := h.once hs.once

theorem starting (h : s.MainSide s') (hs : s.Starting config) : s'.Starting config := by
  cases hs with
  | starting control hle stopped unpumped once =>
    exact .starting (h.control.trans control) hle (h.stoppedFrom stopped) (h.unpumped unpumped)
      (h.once once)
  | up hs => exact .up (h.up hs)

theorem stopping (h : s.MainSide s') (hs : s.Stopping config) : s'.Stopping config := by
  cases hs with
  | stopping control stopped beyond once =>
    exact .stopping (h.control.trans control) (h.stoppedBelow stopped) (h.stoppedFrom beyond)
      (h.once once)
  | joining control stopped beyond once =>
    exact .joining (h.control.trans control) (h.stoppedBelow stopped) (h.stoppedFrom beyond)
      (h.once once)
  | down hs => exact .down (h.down hs)

end MainSide

/-! ### Steps of `start` and `stop` -/

theorem starting_of_start (hdown : s.Down) (hunpumped : s.Unpumped)
    (hstep : s.step config .start = some s') : s'.Starting config := by
  rw [LivePipeline.step] at hstep
  split at hstep
  · split at hstep
    · exact absurd hstep (by simp)
    rw [if_neg (by simp [hdown.running])] at hstep
    obtain rfl := Option.some.inj hstep
    exact .starting rfl (Nat.zero_le _) hdown.stopped { hunpumped with } { hdown.once with }
  · exact absurd hstep (by simp)

theorem stopping_of_stop (hup : s.Up config) (hstep : s.step config .stop = some s') :
    s'.Stopping config := by
  rw [LivePipeline.step] at hstep
  split at hstep
  · split at hstep
    · exact absurd hstep (by simp)
    rw [if_pos hup.running] at hstep
    obtain rfl := Option.some.inj hstep
    exact .stopping rfl (fun _ hj ↦ absurd hj (Nat.not_lt_zero _)) hup.beyond
      { hup.once with }
  · exact absurd hstep (by simp)

/-- A shard that is not running can be started. -/
theorem startShard_eq {shardId : ℕ} (hlt : shardId < config.resolvedShardCount)
    (hstopped : (s.sharded.shards shardId).worker = .notRunning) :
    ∃ shard before, s.startShard config shardId = { s with
      sharded := s.sharded.setShard shardId shard
      before := { s.before with consumed := before }
      control := .starting (shardId + 1) } := by
  rw [LivePipeline.startShard, ShardedPipeline.step, if_pos hlt, Shard.start, hstopped]
  exact ⟨_, _, rfl⟩

theorem Starting.controlStep (h : s.Starting config) (hstep : s.controlStep config = some s') :
    s'.Starting config := by
  cases h with
  | up hup =>
    rw [LivePipeline.controlStep, hup.control] at hstep
    exact absurd hstep (by simp)
  | @starting shardId control hle stopped unpumped once =>
    rw [LivePipeline.controlStep, control] at hstep
    dsimp only at hstep
    split at hstep
    · rename_i hlt
      obtain ⟨shard, before, hshard⟩ := startShard_eq hlt (stopped shardId (Nat.le_refl _))
      obtain rfl := Option.some.inj hstep
      rw [hshard]
      refine .starting rfl hlt (fun j hj ↦ ?_) { unpumped with } { once with }
      have hne : j ≠ shardId := Nat.ne_of_gt hj
      rw [ShardedPipeline.setShard]
      dsimp only
      rw [Function.update_of_ne hne]
      exact stopped j (Nat.le_of_succ_le hj)
    · rename_i hlast
      obtain rfl := Option.some.inj hstep
      have hbeyond : s.StoppedFrom config.resolvedShardCount :=
        fun j hj ↦ stopped j (hle.trans hj)
      refine .up ⟨rfl, rfl, hbeyond, ?_, ?_, ?_⟩
      · rw [finishStart, once.ingestFramesPumped, unpumped.ingestFramesPumped]
      · rw [finishStart, once.routeSuccess, unpumped.routeSuccess]
      · rw [finishStart, once.routeDrop, unpumped.routeDrop]

theorem stoppedBelow_succ {i : ℕ} (h : s.StoppedBelow i)
    (hstopped : (s.sharded.shards i).worker = .notRunning) : s.StoppedBelow (i + 1) := by
  intro j hj
  rcases Nat.lt_succ_iff_lt_or_eq.mp hj with hlt | rfl
  · exact h j hlt
  · exact hstopped

theorem Stopping.controlStep (h : s.Stopping config) (hstep : s.controlStep config = some s') :
    s'.Stopping config := by
  cases h with
  | down hdown =>
    rw [LivePipeline.controlStep, hdown.control] at hstep
    exact absurd hstep (by simp)
  | @stopping shardId control stopped beyond once =>
    rw [LivePipeline.controlStep, control] at hstep
    dsimp only at hstep
    split at hstep
    · split at hstep
      · rename_i hnone
        obtain rfl := Option.some.inj hstep
        exact .stopping rfl (stoppedBelow_succ stopped hnone) beyond { once with }
      · obtain ⟨sharded, hrequest, rfl⟩ := Option.map_eq_some_iff.mp hstep
        obtain rfl := ShardedPipeline.step_requestStop hrequest
        have hworker : ∀ j, ((s.sharded.setShard shardId
            (s.sharded.shards shardId).requestStop).shards j).worker =
              (s.sharded.shards j).worker := by
          intro j
          rw [ShardedPipeline.setShard]
          dsimp only
          by_cases hj : j = shardId
          · rw [hj, Function.update_self]
            rfl
          · rw [Function.update_of_ne hj]
        exact .joining rfl (fun j hj ↦ (hworker j).trans (stopped j hj))
          (fun j hj ↦ (hworker j).trans (beyond j hj)) { once with }
    · rename_i hlast
      obtain rfl := Option.some.inj hstep
      refine .down ⟨rfl, rfl, fun j _ ↦ ?_, { once with }⟩
      rcases Nat.lt_or_ge j config.resolvedShardCount with hlt | hge
      · exact stopped j (hlt.trans_le (not_lt.mp hlast))
      · exact beyond j hge
  | @joining shardId control stopped beyond once =>
    rw [LivePipeline.controlStep, control] at hstep
    dsimp only at hstep
    split at hstep
    · rename_i hnone
      obtain rfl := Option.some.inj hstep
      exact .stopping rfl (stoppedBelow_succ stopped hnone) beyond { once with }
    · exact absurd hstep (by simp)

/-! ### Their ends -/

theorem Starting.up_of_idle (h : s.Starting config) (hidle : s.control = .idle) : s.Up config := by
  cases h with
  | starting control => exact absurd (control.symm.trans hidle) (by simp)
  | up hup => exact hup

theorem Stopping.down_of_idle (h : s.Stopping config) (hidle : s.control = .idle) : s.Down := by
  cases h with
  | stopping control => exact absurd (control.symm.trans hidle) (by simp)
  | joining control => exact absurd (control.symm.trans hidle) (by simp)
  | down hdown => exact hdown

/-! ### Steps of the pump -/

theorem up_of_pumpIngest {maxFrames : ℕ} (hup : s.Up config)
    (hstep : s.step config (.pumpIngest maxFrames) = some s') : s'.Up config := by
  rw [LivePipeline.step] at hstep
  split at hstep
  · obtain ⟨ingest, -, rfl⟩ := Option.map_eq_some_iff.mp hstep
    exact ⟨hup.control, hup.running, hup.beyond, { hup.once with }⟩
  · exact absurd hstep (by simp)

theorem control_pumpStep (hstep : s.pumpStep config = some s') :
    s'.control = s.control ∧ s'.running = s.running := by
  rw [LivePipeline.pumpStep] at hstep
  split at hstep
  · rw [LivePipeline.routeStep] at hstep
    split at hstep
    all_goals
      obtain ⟨_, -, rfl⟩ := Option.map_eq_some_iff.mp hstep
      exact ⟨rfl, rfl⟩
  · obtain ⟨ingest, -, rfl⟩ := Option.map_eq_some_iff.mp hstep
    exact ⟨rfl, rfl⟩

theorem up_of_pump (hinv : s.Inv config) (hup : s.Up config)
    (hstep : s.pumpStep config = some s') : s'.Up config := by
  obtain ⟨hcontrol, hrunning⟩ := control_pumpStep hstep
  obtain ⟨hshards, hbefore⟩ := shards_pumpStep hinv hstep
  refine ⟨hcontrol.trans hup.control, hrunning.trans hup.running, ?_, ?_⟩
  · rw [StoppedFrom, hshards]
    exact hup.beyond
  · obtain ⟨hpumped, hsuccess, hdrop⟩ := hup.once
    rw [← hbefore] at hpumped hsuccess hdrop
    exact ⟨hpumped, hsuccess, hdrop⟩

/-- A `start` or `stop` leaves the pump where it is. -/
theorem consumer_controlStep (hstep : s.controlStep config = some s') :
    s'.ingest.consumer = s.ingest.consumer := by
  cases controlMoves_of_controlStep hstep with
  | started shardId =>
    rw [LivePipeline.startShard]
    split <;> rfl
  | up => rfl
  | passed control running => rfl
  | asked control hrequest => rfl

/-- A `start` or `stop` begins between two calls of the pump. -/
theorem consumer_of_begin {input : LiveInput} (hinput : input = .start ∨ input = .stop)
    (hstep : s.step config input = some s') : s'.ingest.consumer = .idle := by
  obtain ⟨hidle, control, rfl⟩ := step_begin hinput hstep
  exact hidle

/-- The pipeline, for every place of `main`. -/
def Phase (config : LivePipelineParts) (s : LivePipeline) : MainThread → Prop
  | .startOrderManager | .startPipeline => s.Down ∧ s.Unpumped
  | .inPipelineStart => s.Starting config
  | .startFeed | .loop | .inPumpIngest | .stopFeed | .joinFeed | .stopPipeline _ => s.Up config
  | .inPipelineStop _ => s.Stopping config
  | .stopOrderManager _ | .inOrderManagerStop _ | .returned _ => s.Down

theorem MainSide.phase {main : MainThread} (h : s.MainSide s') (hs : s.Phase config main) :
    s'.Phase config main := by
  cases main with
  | startOrderManager | startPipeline => exact ⟨h.down hs.1, h.unpumped hs.2⟩
  | inPipelineStart => exact h.starting hs
  | startFeed | loop | inPumpIngest | stopFeed | joinFeed | stopPipeline _ => exact h.up hs
  | inPipelineStop _ => exact h.stopping hs
  | stopOrderManager _ | inOrderManagerStop _ | returned _ => exact h.down hs

end LivePipeline

/-! ## The feed -/

/-- Where the feed runner is when it is in this call. -/
def FeedCall.Fits : FeedCall → FeedPc → Prop
  | .idle, _ => True
  | .session, pc => pc = .connecting ∨ pc = .receiving
  | .pushMessage _, pc | .pushed _ _, pc => pc = .receiving

/-- Once the worker has left, it is in no call. -/
theorem FeedCall.Fits.eq_idle {call : FeedCall} (h : call.Fits .exited) : call = .idle := by
  cases call with
  | idle => rfl
  | session => exact absurd h (by simp [FeedCall.Fits])
  | pushMessage message => exact absurd h (by simp [FeedCall.Fits])
  | pushed message accepted => exact absurd h (by simp [FeedCall.Fits])

namespace TraderProgram

variable {Text τ σ : Type*} {config : TraderProgramConfig Text τ σ} {s s' : TraderProgram Text τ σ}

/-- The feed has not been started. -/
structure Unfed (s : TraderProgram Text τ σ) : Prop where
  feed : s.feed = .unstarted
  joinable : s.feedJoinable = false
  call : s.feedCall = .idle

/-- The feed was started, and its worker has been joined. -/
structure FeedOver (s : TraderProgram Text τ σ) : Prop where
  exited : s.feed.pc = .exited
  joinable : s.feedJoinable = false
  call : s.feedCall = .idle

/-- The feed, for every place of `main`. An exit code other than zero is never on its way. -/
def FeedPhase (s : TraderProgram Text τ σ) : MainThread → Prop
  | .startOrderManager | .startPipeline | .inPipelineStart | .startFeed => s.Unfed
  | .loop | .inPumpIngest | .stopFeed => s.feedJoinable = true
  | .joinFeed => s.feedJoinable = true ∧ s.feed.stopRequested = true
  | .stopPipeline exitCode | .inPipelineStop exitCode | .stopOrderManager exitCode
  | .inOrderManagerStop exitCode => exitCode = 0 ∧ s.FeedOver
  | .returned exitCode =>
    exitCode = 0 ∧ s.FeedOver ∨ exitCode = kExitOmsStartFailure ∧ s.Unfed

/-- What a step of the feed does to the rest of the program. -/
structure FeedFrame (config : TraderProgramConfig Text τ σ) (s s' : TraderProgram Text τ σ) :
    Prop where
  main : s'.main = s.main
  joinable : s'.feedJoinable = s.feedJoinable
  flow : s'.trader.flow = s.trader.flow
  stopRequested : s'.feed.stopRequested = s.feed.stopRequested
  pipeline : s'.trader.pipeline = s.trader.pipeline ∨ ∃ input : LiveInput,
    input.isOfFeed = true ∧
      s.trader.pipeline.step config.trader.pipelineConfig input = some s'.trader.pipeline

theorem FeedMoves.frame (h : FeedMoves config s s') : FeedFrame config s s' := by
  cases h with
  | left _ _ _ => exact ⟨rfl, rfl, rfl, rfl, .inl rfl⟩
  | entered _ _ _ => exact ⟨rfl, rfl, rfl, rfl, .inl rfl⟩
  | connected outcome _ _ =>
    obtain ⟨connected, session⟩ := outcome
    refine ⟨rfl, rfl, rfl, ?_, .inl rfl⟩
    cases connected with
    | true => exact WsFeedRunner.nextChannel_stopRequested ..
    | false => rfl
  | subscribed outcome _ _ =>
    obtain ⟨subscribed, session⟩ := outcome
    refine ⟨rfl, rfl, rfl, ?_, .inl rfl⟩
    cases subscribed with
    | true => exact WsFeedRunner.nextChannel_stopRequested ..
    | false => rfl
  | failed _ _ _ => exact ⟨rfl, rfl, rfl, rfl, .inl rfl⟩
  | received _ _ _ htrader =>
    obtain ⟨pipeline, hpipeline, rfl⟩ := LiveTrader.step_pipeline htrader
    exact ⟨rfl, rfl, rfl, rfl, .inr ⟨_, rfl, hpipeline⟩⟩
  | pushing _ _ htrader =>
    obtain ⟨pipeline, hpipeline, rfl⟩ := LiveTrader.step_pipeline htrader
    exact ⟨rfl, rfl, rfl, rfl, .inr ⟨_, rfl, hpipeline⟩⟩
  | heard _ _ => exact ⟨rfl, rfl, rfl, rfl, .inl rfl⟩

theorem FeedMoves.pc_ne_exited (h : FeedMoves config s s') : s.feed.pc ≠ .exited := by
  intro hexited
  cases h with
  | left _ hpc _ => rcases hpc with hpc | hpc <;> exact absurd (hexited.symm.trans hpc) (by simp)
  | entered _ hpc _ => rcases hpc with hpc | hpc <;> exact absurd (hexited.symm.trans hpc) (by simp)
  | connected _ _ hpc | subscribed _ _ hpc | failed _ _ hpc | received _ _ hpc _
  | pushing _ hpc _ | heard _ hpc => exact absurd (hexited.symm.trans hpc) (by simp)

theorem FeedMoves.fits (h : FeedMoves config s s') : s'.feedCall.Fits s'.feed.pc := by
  cases h with
  | left hcall _ _ | subscribed _ hcall _ =>
    dsimp only
    rw [hcall]
    trivial
  | entered _ hpc _ => exact hpc
  | connected _ _ _ | failed _ _ _ | heard _ _ => trivial
  | received _ _ hpc _ => exact hpc
  | pushing _ hpc _ =>
    dsimp only
    split
    · exact hpc
    · exact hpc

theorem FeedPhase.of_feed (hphase : s.FeedPhase s.main) (h : FeedMoves config s s') :
    s'.FeedPhase s'.main := by
  have hframe := h.frame
  have hexited := h.pc_ne_exited
  have hfed : ¬s.Unfed := fun hunfed ↦ hexited (by rw [hunfed.feed]; rfl)
  have hgoing : ¬s.FeedOver := fun hover ↦ hexited hover.exited
  rw [hframe.main]
  cases hmain : s.main <;> rw [hmain] at hphase
  case loop | inPumpIngest | stopFeed => exact hframe.joinable.trans hphase
  case joinFeed =>
    exact ⟨hframe.joinable.trans hphase.1, hframe.stopRequested.trans hphase.2⟩
  case returned => exact hphase.elim (fun h ↦ absurd h.2 hgoing) (fun h ↦ absurd h.2 hfed)
  case stopPipeline | inPipelineStop | stopOrderManager | inOrderManagerStop =>
    exact absurd hphase.2 hgoing
  all_goals exact absurd hphase hfed

end TraderProgram

/-! ## The order manager -/

namespace OrderManager

variable {Text τ σ : Type*} {config : OrderManagerConfig Text τ σ} {s s' : OrderManager Text τ σ}

/-- The worker has been started, and not been told to stop. -/
structure Started (s : OrderManager Text τ σ) : Prop where
  control : s.control = .idle
  joinable : s.worker ≠ .notJoinable

/-- A `stop` waits for the worker. -/
structure BeingStopped (s : OrderManager Text τ σ) : Prop where
  control : s.control ≠ .idle
  joinable : s.worker ≠ .notJoinable
  stopRequested : s.stopRequested = true

/-- There is no worker. -/
structure Stopped (s : OrderManager Text τ σ) : Prop where
  control : s.control = .idle
  unjoinable : s.worker = .notJoinable

/-- The order manager, for every place of `main`. -/
def Phase (s : OrderManager Text τ σ) : MainThread → Prop
  | .startOrderManager | .returned _ => s.Stopped
  | .inOrderManagerStop _ => s.BeingStopped ∨ s.Stopped
  | _ => s.Started

namespace StopSide

theorem started (h : s.StopSide s') (hs : s.Started) : s'.Started where
  control := h.control.trans hs.control
  joinable := mt h.joinable.mp hs.joinable

theorem beingStopped (h : s.StopSide s') (hs : s.BeingStopped) : s'.BeingStopped where
  control := by
    rw [h.control]
    exact hs.control
  joinable := mt h.joinable.mp hs.joinable
  stopRequested := h.stopRequested.trans hs.stopRequested

theorem stopped (h : s.StopSide s') (hs : s.Stopped) : s'.Stopped where
  control := h.control.trans hs.control
  unjoinable := h.joinable.mpr hs.unjoinable

theorem phase {main : MainThread} (h : s.StopSide s') (hs : s.Phase main) : s'.Phase main := by
  cases main with
  | startOrderManager | returned _ => exact h.stopped hs
  | inOrderManagerStop _ => exact hs.imp h.beingStopped h.stopped
  | _ => exact h.started hs

end StopSide

/-- A first `start` succeeds if the transport connects. -/
theorem running_of_start (hcontrol : s.control = .idle) (hworker : s.worker = .notJoinable)
    (hrunning : s.running = false) (h : s.start config = some s') :
    s'.running = (config.transport.connect s.transport).1 := by
  rw [start, if_neg (by simp [hcontrol]), if_neg (by simp [hworker])] at h
  dsimp only at h
  split at h
  · rename_i hconnected
    obtain rfl := Option.some.inj h
    exact hconnected.symm
  · rename_i hrefused
    obtain rfl := Option.some.inj h
    exact hrunning.trans (Bool.eq_false_of_not_eq_true hrefused).symm

theorem phase_of_start (hs : s.Stopped) (hrunning : s.running = false)
    (h : s.start config = some s') :
    (s'.running = true → s'.Started) ∧ (s'.running = false → s'.Stopped) := by
  rw [start, if_neg (by simp [hs.control]), if_neg (by simp [hs.unjoinable])] at h
  dsimp only at h
  split at h
  · obtain rfl := Option.some.inj h
    exact ⟨fun _ ↦ ⟨hs.control, by simp⟩, fun h ↦ absurd h (by simp)⟩
  · obtain rfl := Option.some.inj h
    exact ⟨fun h ↦ absurd (hrunning.symm.trans h) (by simp),
      fun _ ↦ ⟨hs.control, hs.unjoinable⟩⟩

theorem beingStopped_of_stopBegin (hs : s.Started) (h : s.stopBegin = some s') :
    s'.BeingStopped := by
  rw [stopBegin, if_neg (by simp [hs.control]), if_neg hs.joinable] at h
  obtain rfl := Option.some.inj h
  exact ⟨by simp, hs.joinable, rfl⟩

theorem phase_of_stop {input : OrderManagerInput} (hs : s.BeingStopped ∨ s.Stopped)
    (hinput : input = .stopClose ∨ input = .stopJoin)
    (h : (machine config).step s input = some s') : s'.BeingStopped ∨ s'.Stopped := by
  obtain rfl | rfl := hinput
  · simp only [machine, stopClose] at h
    split_ifs at h with hclosing
    obtain rfl := Option.some.inj h
    obtain hs | hs := hs
    · exact .inl ⟨by simp, hs.joinable, hs.stopRequested⟩
    · exact absurd (hs.control.symm.trans (not_not.mp hclosing)) (by simp)
  · simp only [machine, stopJoin] at h
    split_ifs at h
    obtain rfl := Option.some.inj h
    exact .inr ⟨rfl, rfl⟩

end OrderManager

namespace OrderFlow

variable {Text τ σ : Type*} {config : OrderFlowConfig Text τ σ} {s s' : OrderFlow Text τ σ}

/-- The order manager has been started once. -/
def InSession (config : OrderFlowConfig Text τ σ) (transport : τ) (sink : σ)
    (s : OrderFlow Text τ σ) : Prop :=
  ∃ s₁, (machine config).step (create config transport sink) (.manager .start) = some s₁ ∧
    (machine config).ReachesVia SameSession s₁ s

variable {transport : τ} {sink : σ}

theorem InSession.trans (h : s.InSession config transport sink)
    (hrun : (machine config).ReachesVia SameSession s s') :
    s'.InSession config transport sink := by
  obtain ⟨s₁, hstart, hsession⟩ := h
  exact ⟨s₁, hstart, hsession.trans hrun⟩

theorem manager_step {input : OrderManagerInput}
    (hstep : s.step config (.manager input) = some s') :
    (OrderManager.machine config.orderManager).step s.manager input = some s'.manager := by
  rw [step] at hstep
  split at hstep
  · exact absurd hstep (by simp)
  · obtain ⟨manager, hmanager, rfl⟩ := Option.map_eq_some_iff.mp hstep
    exact hmanager

end OrderFlow

/-! ## All of them -/

namespace LiveTrader

variable {Text τ σ : Type*} (config : LiveTraderConfig Text τ σ) (transport : τ) (sink : σ)

/-- The workers cannot do anything before they are started. -/
theorem step_create_of_worker {input : LiveTraderInput} (hinput : input.isOfWorker = true) :
    (create config transport sink).step config input = none := by
  cases input with
  | pipeline input =>
    cases input with
    | shard shardId handled =>
      exact congrArg (Option.map _) (LivePipeline.step_shard_eq_none rfl handled)
    | _ => exact absurd hinput (by simp [LiveTraderInput.isOfWorker])
  | handler shardId => rfl
  | strategy shardId outcome => rfl
  | runner shardId now => rfl
  | manager input =>
    cases input with
    | worker now => rfl
    | _ => exact absurd hinput (by simp [LiveTraderInput.isOfWorker])

end LiveTrader

namespace TraderProgram

variable {Text τ σ : Type*} {config : TraderProgramConfig Text τ σ} {s s' : TraderProgram Text τ σ}
  {transport : τ} {sink : σ}

def SessionPhase (config : TraderProgramConfig Text τ σ) (transport : τ) (sink : σ)
    (s : TraderProgram Text τ σ) : MainThread → Prop
  | .startOrderManager => s.trader = .create config.trader transport sink
  | _ => s.trader.flow.InSession config.trader.flowConfig transport sink

structure Inv (config : TraderProgramConfig Text τ σ) (transport : τ) (sink : σ)
    (s : TraderProgram Text τ σ) : Prop where
  fits : s.feedCall.Fits s.feed.pc
  /-- The pump is only used inside `pump_ingest`. -/
  consumer : s.main ≠ .inPumpIngest → s.trader.pipeline.ingest.consumer = .idle
  pipeline : s.trader.pipeline.Phase config.trader.pipelineConfig s.main
  feed : s.FeedPhase s.main
  manager : s.trader.flow.manager.Phase s.main
  session : s.SessionPhase config transport sink s.main

theorem inv_create (config : TraderProgramConfig Text τ σ) (transport : τ) (sink : σ) :
    (create config transport sink).Inv config transport sink where
  fits := trivial
  consumer _ := rfl
  pipeline := ⟨⟨rfl, rfl, fun _ _ ↦ rfl, ⟨rfl, rfl, rfl⟩⟩, ⟨rfl, rfl, rfl⟩⟩
  feed := ⟨rfl, rfl, rfl⟩
  manager := ⟨rfl, rfl⟩
  session := rfl

/-! ### What the phases depend on -/

theorem FeedPhase.of_eq {main : MainThread} (hphase : s.FeedPhase main) (hfeed : s'.feed = s.feed)
    (hjoinable : s'.feedJoinable = s.feedJoinable) (hcall : s'.feedCall = s.feedCall) :
    s'.FeedPhase main := by
  have hunfed : s.Unfed → s'.Unfed := fun h ↦
    ⟨hfeed.trans h.feed, hjoinable.trans h.joinable, hcall.trans h.call⟩
  have hover : s.FeedOver → s'.FeedOver := fun h ↦
    ⟨by rw [hfeed, h.exited], hjoinable.trans h.joinable, hcall.trans h.call⟩
  cases main with
  | startOrderManager | startPipeline | inPipelineStart | startFeed => exact hunfed hphase
  | loop | inPumpIngest | stopFeed => exact hjoinable.trans hphase
  | joinFeed => exact ⟨hjoinable.trans hphase.1, by rw [hfeed, hphase.2]⟩
  | stopPipeline _ | inPipelineStop _ | stopOrderManager _ | inOrderManagerStop _ =>
    exact hphase.imp_right hover
  | returned _ => exact hphase.imp (And.imp_right hover) (And.imp_right hunfed)

theorem SessionPhase.trans {main : MainThread}
    (h : s.SessionPhase config transport sink main) (hmain : main ≠ .startOrderManager)
    (hrun : (OrderFlow.machine config.trader.flowConfig).ReachesVia OrderFlow.SameSession
      s.trader.flow s'.trader.flow) : s'.SessionPhase config transport sink main := by
  cases main with
  | startOrderManager => exact absurd rfl hmain
  | _ => exact OrderFlow.InSession.trans h hrun

theorem Inv.worker {input : LiveTraderInput} {trader : LiveTrader Text τ σ}
    (h : s.Inv config transport sink) (hinput : input.isOfWorker = true)
    (hstep : s.trader.step config.trader input = some trader) :
    { s with trader := trader }.Inv config transport sink := by
  have hmain : s.main ≠ .startOrderManager := by
    intro hmain
    have hsession := h.session
    rw [hmain] at hsession
    have hcreate : s.trader = .create config.trader transport sink := hsession
    rw [hcreate, LiveTrader.step_create_of_worker _ _ _ hinput] at hstep
    exact absurd hstep (by simp)
  have hmoves := LiveTrader.workerMoves_of_step hinput hstep
  exact ⟨h.fits, fun hout ↦ hmoves.main.consumer.trans (h.consumer hout),
    hmoves.main.phase h.pipeline, h.feed.of_eq rfl rfl rfl, hmoves.stop.phase h.manager,
    h.session.trans hmain hmoves.session⟩

theorem Inv.feedStep (h : s.Inv config transport sink)
    (hinv : s.trader.pipeline.Inv config.trader.pipelineConfig) (hfeed : FeedMoves config s s') :
    s'.Inv config transport sink := by
  have hframe := hfeed.frame
  have hmain : s.main ≠ .startOrderManager := by
    intro hmain
    have hphase := h.feed
    rw [hmain] at hphase
    exact hfeed.pc_ne_exited (by rw [Unfed.feed hphase]; rfl)
  have hside : s.trader.pipeline.MainSide s'.trader.pipeline := by
    obtain hsame | ⟨input, hinput, hstep⟩ := hframe.pipeline
    · rw [hsame]
      exact .refl _
    · exact LivePipeline.mainSide_of_feed hinv hinput hstep
  refine ⟨hfeed.fits, fun hout ↦ ?_, ?_, h.feed.of_feed hfeed, ?_, ?_⟩
  · rw [hframe.main] at hout
    exact hside.consumer.trans (h.consumer hout)
  · rw [hframe.main]
    exact hside.phase h.pipeline
  · rw [hframe.main, hframe.flow]
    exact h.manager
  · rw [hframe.main]
    refine h.session.trans hmain ?_
    rw [hframe.flow]
    exact .refl

/-! ### Steps of `main` -/

theorem Inv.orderManagerStarted {trader : LiveTrader Text τ σ} (h : s.Inv config transport sink)
    (hat : s.main = .startOrderManager)
    (hstep : s.trader.step config.trader (.manager .start) = some trader) :
    { s with
      trader := trader
      main := if trader.flow.manager.running then .startPipeline
        else .returned kExitOmsStartFailure }.Inv config transport sink := by
  obtain ⟨hfits, hconsumer, hpipeline, hfeed, hmanager, hsession⟩ := h
  rw [hat] at hconsumer hpipeline hfeed hmanager hsession
  have hcreate : s.trader = .create config.trader transport sink := hsession
  obtain ⟨flow, hflow, rfl⟩ := LiveTrader.step_manager hstep
  have hrunning : s.trader.flow.manager.running = false := by
    rw [hcreate]
    rfl
  obtain ⟨hstarted, hstopped⟩ := OrderManager.phase_of_start hmanager hrunning
    (OrderFlow.manager_step hflow)
  have hin : flow.InSession config.trader.flowConfig transport sink := by
    rw [hcreate] at hflow
    exact ⟨flow, hflow, .refl⟩
  dsimp only
  cases hrun : flow.manager.running with
  | true =>
    exact ⟨hfits, fun _ ↦ hconsumer (by simp), hpipeline, hfeed.of_eq rfl rfl rfl, hstarted hrun,
      hin⟩
  | false =>
    have hunfed : s.Unfed := hfeed
    exact ⟨hfits, fun _ ↦ hconsumer (by simp), hpipeline.1,
      .inr ⟨rfl, hunfed.feed, hunfed.joinable, hunfed.call⟩, hstopped hrun, hin⟩

/-- A `start` or `stop` of the pipeline goes on. -/
theorem Inv.pipelineMoved {trader : LiveTrader Text τ σ} (h : s.Inv config transport sink)
    (hat : s.main = .inPipelineStart ∨ ∃ exitCode, s.main = .inPipelineStop exitCode)
    (hstep : s.trader.step config.trader (.pipeline .control) = some trader) :
    { s with trader := trader }.Inv config transport sink := by
  obtain ⟨pipeline, hcontrol, rfl⟩ := LiveTrader.step_pipeline hstep
  have hmain : s.main ≠ .startOrderManager := by
    obtain hat | ⟨exitCode, hat⟩ := hat
    · simp [hat]
    · simp [hat]
  have hphase : pipeline.Phase config.trader.pipelineConfig s.main := by
    have hphase := h.pipeline
    obtain hat | ⟨exitCode, hat⟩ := hat
    · rw [hat] at hphase ⊢
      exact LivePipeline.Starting.controlStep hphase hcontrol
    · rw [hat] at hphase ⊢
      exact LivePipeline.Stopping.controlStep hphase hcontrol
  exact ⟨h.fits, fun hout ↦ (LivePipeline.consumer_controlStep hcontrol).trans (h.consumer hout),
    hphase, h.feed.of_eq rfl rfl rfl, h.manager, h.session.trans hmain .refl⟩

theorem Inv.mainStep (h : s.Inv config transport sink)
    (hinv : s.trader.pipeline.Inv config.trader.pipelineConfig) (hmain : MainMoves config s s') :
    s'.Inv config transport sink := by
  have ⟨hfits, hconsumer, hpipeline, hfeed, hmanager, hsession⟩ := h
  cases hmain with
  | orderManagerStarted hat hstep => exact h.orderManagerStarted hat hstep
  | pipelineEntered hat hstep =>
    rw [hat] at hpipeline hfeed hmanager hsession
    obtain ⟨pipeline, hstart, rfl⟩ := LiveTrader.step_pipeline hstep
    exact ⟨hfits, fun _ ↦ LivePipeline.consumer_of_begin (.inl rfl) hstart,
      LivePipeline.starting_of_start hpipeline.1 hpipeline.2 hstart, hfeed.of_eq rfl rfl rfl,
      hmanager, hsession⟩
  | pipelineMoved hat hstep => exact h.pipelineMoved hat hstep
  | pipelineStarted hat hidle =>
    rw [hat] at hconsumer hpipeline hfeed hmanager hsession
    have hup := LivePipeline.Starting.up_of_idle hpipeline hidle
    rw [if_pos hup.running]
    exact ⟨hfits, fun _ ↦ hconsumer (by simp), hup, hfeed.of_eq rfl rfl rfl, hmanager, hsession⟩
  | feedRefused hat hjoinable =>
    rw [hat] at hfeed
    have hunfed : s.Unfed := hfeed
    exact absurd (hunfed.joinable.symm.trans hjoinable) (by simp)
  | feedStarted hat hjoinable =>
    rw [hat] at hconsumer hpipeline hfeed hmanager hsession
    have hunfed : s.Unfed := hfeed
    refine ⟨?_, fun _ ↦ hconsumer (by simp), hpipeline, rfl, hmanager, hsession⟩
    dsimp only
    rw [hunfed.call]
    trivial
  | asked hat hshutdown =>
    rw [hat] at hconsumer hpipeline hfeed hmanager hsession
    exact ⟨hfits, fun _ ↦ hconsumer (by simp), hpipeline, hfeed, hmanager, hsession⟩
  | pumpEntered hat hstep =>
    rw [hat] at hpipeline hfeed hmanager hsession
    obtain ⟨pipeline, hpump, rfl⟩ := LiveTrader.step_pipeline hstep
    exact ⟨hfits, fun hout ↦ absurd rfl hout, LivePipeline.up_of_pumpIngest hpipeline hpump, hfeed,
      hmanager, hsession⟩
  | pumped hat hstep =>
    rw [hat] at hpipeline hfeed hmanager hsession
    obtain ⟨pipeline, hpump, rfl⟩ := LiveTrader.step_pipeline hstep
    exact ⟨hfits, fun hout ↦ absurd rfl hout, LivePipeline.up_of_pump hinv hpipeline hpump, hfeed,
      hmanager, hsession⟩
  | pumpReturned hat hidle =>
    rw [hat] at hpipeline hfeed hmanager hsession
    exact ⟨hfits, fun _ ↦ hidle, hpipeline, hfeed, hmanager, hsession⟩
  | feedAsked hat hjoinable =>
    rw [hat] at hconsumer hpipeline hmanager hsession
    exact ⟨hfits, fun _ ↦ hconsumer (by simp), hpipeline, ⟨hjoinable, rfl⟩, hmanager, hsession⟩
  | feedUnjoinable hat hjoinable =>
    rw [hat] at hfeed
    have hjoinable' : s.feedJoinable = true := hfeed
    exact absurd (hjoinable.symm.trans hjoinable') (by simp)
  | feedJoined hat hexited =>
    rw [hat] at hconsumer hpipeline hmanager hsession
    have hcall : s.feedCall = .idle := by
      rw [hexited] at hfits
      exact hfits.eq_idle
    exact ⟨hfits, fun _ ↦ hconsumer (by simp), hpipeline, ⟨rfl, hexited, rfl, hcall⟩, hmanager,
      hsession⟩
  | pipelineLeft hat hstep =>
    rw [hat] at hpipeline hfeed hmanager hsession
    obtain ⟨pipeline, hstop, rfl⟩ := LiveTrader.step_pipeline hstep
    exact ⟨hfits, fun _ ↦ LivePipeline.consumer_of_begin (.inr rfl) hstop,
      LivePipeline.stopping_of_stop hpipeline hstop, hfeed.of_eq rfl rfl rfl, hmanager, hsession⟩
  | pipelineStopped hat hidle =>
    rw [hat] at hconsumer hpipeline hfeed hmanager hsession
    exact ⟨hfits, fun _ ↦ hconsumer (by simp), LivePipeline.Stopping.down_of_idle hpipeline hidle,
      hfeed.of_eq rfl rfl rfl, hmanager, hsession⟩
  | orderManagerLeft hat hstep =>
    rw [hat] at hconsumer hpipeline hfeed hmanager hsession
    obtain ⟨flow, hflow, rfl⟩ := LiveTrader.step_manager hstep
    exact ⟨hfits, fun _ ↦ hconsumer (by simp), hpipeline, hfeed.of_eq rfl rfl rfl,
      .inl (OrderManager.beingStopped_of_stopBegin hmanager (OrderFlow.manager_step hflow)),
      OrderFlow.InSession.trans hsession
        (.single (.manager .stopBegin) (OrderFlow.sameSession_of_ne (by simp)) hflow)⟩
  | @orderManagerMoved _ _ input hat hinput hstep =>
    rw [hat] at hconsumer hpipeline hfeed hmanager hsession
    obtain ⟨flow, hflow, rfl⟩ := LiveTrader.step_manager hstep
    have hother : OrderFlowInput.manager input ≠ .manager .start := by
      obtain rfl | rfl := hinput
      · simp
      · simp
    exact ⟨hfits, fun _ ↦ hconsumer (by simp), hpipeline, hfeed.of_eq rfl rfl rfl,
      OrderManager.phase_of_stop hmanager hinput (OrderFlow.manager_step hflow),
      OrderFlow.InSession.trans hsession
        (.single (.manager input) (OrderFlow.sameSession_of_ne hother) hflow)⟩
  | orderManagerStopped hat hidle =>
    rw [hat] at hconsumer hpipeline hfeed hmanager hsession
    have hstopped := hmanager.resolve_left fun hbeing ↦ hbeing.control hidle
    exact ⟨hfits, fun _ ↦ hconsumer (by simp), hpipeline, .inl (hfeed.of_eq rfl rfl rfl), hstopped,
      hsession⟩

theorem Inv.step {input : TraderProgramInput} (h : s.Inv config transport sink)
    (hinv : s.trader.pipeline.Inv config.trader.pipelineConfig)
    (hstep : s.step config input = some s') : s'.Inv config transport sink := by
  cases moves_of_step hstep with
  | main hmain => exact h.mainStep hinv hmain
  | signal => exact ⟨h.fits, h.consumer, h.pipeline, h.feed.of_eq rfl rfl rfl, h.manager, h.session⟩
  | feed hfeed => exact h.feedStep hinv hfeed
  | worker hinput htrader => exact h.worker hinput htrader

theorem pipelineInv_of_reaches (hcapacity : config.trader.pipeline.framePoolCapacity < 2 ^ 32)
    (h : (machine config).Reaches (create config transport sink) s) :
    s.trader.pipeline.Inv config.trader.pipelineConfig :=
  LivePipeline.inv_of_reaches hcapacity (LiveTrader.pipeline_of_reaches (trader_of_reaches h))

theorem inv_of_reaches (hcapacity : config.trader.pipeline.framePoolCapacity < 2 ^ 32)
    (h : (machine config).Reaches (create config transport sink) s) :
    s.Inv config transport sink :=
  h.invariant (inv_create config transport sink) fun hreaches hinv _ hstep ↦
    hinv.step (pipelineInv_of_reaches hcapacity hreaches) hstep

/-! ## The end -/

/-- All threads that `main` has started have ended, and nobody is in a call. -/
structure AtRest (s : TraderProgram Text τ σ) : Prop where
  shards : ∀ i, (s.trader.pipeline.sharded.shards i).worker = .notRunning
  runners : ∀ i, (s.trader.flow.runners i).call = .idle
  manager : s.trader.flow.manager.worker = .notJoinable
  feed : s.feed.pc = .exited
  joinable : s.feedJoinable = false

theorem Inv.atRest {exitCode : ℕ} (h : s.Inv config transport sink)
    (hlinked : s.trader.Linked config.trader) (hreturned : s.main = .returned exitCode) :
    s.AtRest := by
  obtain ⟨-, -, hpipeline, hfeed, hmanager, -⟩ := h
  rw [hreturned] at hpipeline hfeed hmanager
  have hdown : s.trader.pipeline.Down := hpipeline
  have hshards : ∀ i, (s.trader.pipeline.sharded.shards i).worker = .notRunning :=
    fun i ↦ hdown.stopped i (Nat.zero_le i)
  have hrunners : ∀ i, (s.trader.flow.runners i).call = .idle := by
    intro i
    have hi := hlinked i
    rw [LiveTrader.isHandling_eq_false (hshards i) rfl] at hi
    exact hi.idle.1
  have hexited : s.feed.pc = .exited ∧ s.feedJoinable = false := by
    obtain ⟨-, hover⟩ | ⟨-, hunfed⟩ := hfeed
    · exact ⟨hover.exited, hover.joinable⟩
    · exact ⟨by rw [hunfed.feed]; rfl, hunfed.joinable⟩
  exact ⟨hshards, hrunners, OrderManager.Stopped.unjoinable hmanager, hexited.1, hexited.2⟩

/-- At rest no thread but `main` can move. -/
theorem AtRest.step_worker (h : s.AtRest) (input : LiveTraderInput) :
    s.step config (.worker input) = none := by
  rw [TraderProgram.step]
  split
  · rename_i hinput
    rw [Option.map_eq_none_iff]
    cases input with
    | pipeline input =>
      cases input with
      | shard i handled =>
        rw [LiveTrader.step, LivePipeline.step_shard_eq_none (h.shards i) handled]
        split <;> rfl
      | _ => exact absurd hinput (by simp [LiveTraderInput.isOfWorker])
    | handler i =>
      rw [LiveTrader.step, LiveTrader.handlerStep, h.shards i]
    | strategy i outcome =>
      rw [LiveTrader.step, OrderFlow.step, OrderFlow.strategy, h.runners i]
      rfl
    | runner i now =>
      rw [LiveTrader.step, OrderFlow.step, OrderFlow.runnerStep, h.runners i]
      rfl
    | manager input =>
      cases input with
      | worker now =>
        have hworker : (OrderManager.machine config.trader.flowConfig.orderManager).step
            s.trader.flow.manager (.worker now) = none := by
          change s.trader.flow.manager.runWorker config.trader.flowConfig.orderManager now = none
          rw [OrderManager.runWorker, h.manager]
        rw [LiveTrader.step, OrderFlow.step, if_neg (by simp [OrderManagerInput.isSubmission]),
          hworker]
        rfl
      | _ => exact absurd hinput (by simp [LiveTraderInput.isOfWorker])
  · rfl

theorem AtRest.step_feed (h : s.AtRest) (input : FeedWorkerInput) :
    s.step config (.feed input) = none := by
  rw [Option.eq_none_iff_forall_ne_some]
  intro s' hstep
  cases moves_of_step hstep with
  | feed hfeed => exact hfeed.pc_ne_exited h.feed

/-- A program that has returned can only be asked to shut down once more. -/
theorem AtRest.step_eq_none {exitCode : ℕ} {input : TraderProgramInput} (h : s.AtRest)
    (hreturned : s.main = .returned exitCode) (hinput : input ≠ .signal) :
    s.step config input = none := by
  cases input with
  | main => rw [TraderProgram.step, mainStep, hreturned]
  | signal => exact absurd rfl hinput
  | feed input => exact h.step_feed input
  | worker input => exact h.step_worker input

/-! ### The exit code -/

/-- Whether the transport of the order manager connects at the start. -/
def connects (config : TraderProgramConfig Text τ σ) (transport : τ) : Bool :=
  (config.trader.flow.orderManager.transport.connect transport).1

/-- What `main` has learnt of the order manager. Where it could not be started nothing else was. -/
def ExitPhase (config : TraderProgramConfig Text τ σ) (transport : τ) (s : TraderProgram Text τ σ) :
    MainThread → Prop
  | .startOrderManager => True
  | .returned exitCode =>
    connects config transport = true ∧ exitCode = 0 ∨
      connects config transport = false ∧ exitCode = kExitOmsStartFailure ∧
        s.feed = .unstarted ∧ s.trader.pipeline = .create config.trader.pipelineConfig
  | _ => connects config transport = true

theorem ExitPhase.orderManagerStarted {trader : LiveTrader Text τ σ}
    (h : s.Inv config transport sink) (hat : s.main = .startOrderManager)
    (hstep : s.trader.step config.trader (.manager .start) = some trader) :
    ExitPhase config transport { s with
      trader := trader
      main := if trader.flow.manager.running then .startPipeline
        else .returned kExitOmsStartFailure }
      (if trader.flow.manager.running then .startPipeline else .returned kExitOmsStartFailure) := by
  obtain ⟨-, -, -, hfeed, -, hsession⟩ := h
  rw [hat] at hfeed hsession
  have hcreate : s.trader = .create config.trader transport sink := hsession
  obtain ⟨flow, hflow, rfl⟩ := LiveTrader.step_manager hstep
  have hrunning : flow.manager.running = connects config transport := by
    rw [hcreate] at hflow
    have hstart : (OrderManager.init config.trader.flowConfig.orderManager transport sink).start
        config.trader.flowConfig.orderManager = some flow.manager := OrderFlow.manager_step hflow
    exact OrderManager.running_of_start rfl rfl rfl hstart
  dsimp only
  cases hconnects : connects config transport with
  | true =>
    rw [hrunning, hconnects]
    exact hconnects
  | false =>
    rw [hrunning, hconnects]
    have hunfed : s.Unfed := hfeed
    refine .inr ⟨hconnects, rfl, hunfed.feed, ?_⟩
    dsimp only
    rw [hcreate]
    rfl

theorem ExitPhase.step {input : TraderProgramInput} (hinv : s.Inv config transport sink)
    (hrest : ∀ exitCode, s.main = .returned exitCode → s.AtRest)
    (h : ExitPhase config transport s s.main) (hstep : s.step config input = some s') :
    ExitPhase config transport s' s'.main := by
  have hrun : ∀ s' : TraderProgram Text τ σ, (∀ exitCode, s.main ≠ .returned exitCode) →
      ExitPhase config transport s' s.main := by
    intro s' hout
    cases hmain : s.main <;> rw [hmain] at h
    case returned exitCode => exact absurd hmain (hout exitCode)
    all_goals exact h
  have hout : input ≠ .signal → ∀ exitCode, s.main ≠ .returned exitCode := by
    intro hinput exitCode hreturned
    exact absurd (((hrest exitCode hreturned).step_eq_none hreturned hinput).symm.trans hstep)
      (by simp)
  cases moves_of_step hstep with
  | signal =>
    cases hmain : s.main <;> rw [hmain] at h
    all_goals exact h
  | feed hfeed =>
    rw [hfeed.frame.main]
    exact hrun _ (hout (by simp))
  | worker _ _ => exact hrun _ (hout (by simp))
  | main hmain =>
    cases hmain with
    | orderManagerStarted hat htrader => exact ExitPhase.orderManagerStarted hinv hat htrader
    | pipelineMoved _ _ => exact hrun _ (hout (by simp))
    | pipelineStarted hat _ =>
      rw [hat] at h
      dsimp only
      split <;> exact h
    | orderManagerStopped hat _ =>
      have hfeed := hinv.feed
      rw [hat] at h hfeed
      exact .inl ⟨h, hfeed.1⟩
    | pipelineEntered hat _ | feedRefused hat _ | feedStarted hat _ | asked hat _
    | pumpEntered hat _ | pumped hat _ | pumpReturned hat _ | feedAsked hat _
    | feedUnjoinable hat _ | feedJoined hat _ | pipelineLeft hat _ | pipelineStopped hat _
    | orderManagerLeft hat _ | orderManagerMoved hat _ _ =>
      rw [hat] at h
      exact h

theorem atRest_of_reaches {exitCode : ℕ}
    (hcapacity : config.trader.pipeline.framePoolCapacity < 2 ^ 32)
    (h : (machine config).Reaches (create config transport sink) s)
    (hreturned : s.main = .returned exitCode) : s.AtRest :=
  (inv_of_reaches hcapacity h).atRest
    (LiveTrader.linked_of_reaches hcapacity (trader_of_reaches h)) hreturned

theorem exitPhase_of_reaches (hcapacity : config.trader.pipeline.framePoolCapacity < 2 ^ 32)
    (h : (machine config).Reaches (create config transport sink) s) :
    ExitPhase config transport s s.main := by
  refine h.invariant (P := fun s ↦ ExitPhase config transport s s.main) ?_ ?_
  · trivial
  · intro s _ _ hreaches hexit _ hstep
    exact hexit.step (inv_of_reaches hcapacity hreaches)
      (fun _ ↦ atRest_of_reaches hcapacity hreaches) hstep

end TraderProgram

open TraderProgram in
/-- **The program returns at rest.** When `main` returns, all threads that it has started have ended
and are in no call, and no step is left but another signal. It returns zero if the transport of the
order manager connected; else it returned at once, and neither pipeline nor feed was started. -/
theorem program_returns_at_rest {Text τ σ : Type*} {config : TraderProgramConfig Text τ σ}
    {transport : τ} {sink : σ} {s : TraderProgram Text τ σ} {exitCode : ℕ}
    (hcapacity : config.trader.pipeline.framePoolCapacity < 2 ^ 32)
    (h : (machine config).Reaches (create config transport sink) s)
    (hreturned : s.main = .returned exitCode) :
    s.AtRest ∧
      (connects config transport = true ∧ exitCode = 0 ∨
        connects config transport = false ∧ exitCode = kExitOmsStartFailure ∧
          s.feed = .unstarted ∧ s.trader.pipeline = .create config.trader.pipelineConfig) ∧
      ∀ input, input ≠ .signal → s.step config input = none := by
  have hrest := atRest_of_reaches hcapacity h hreturned
  have hexit := exitPhase_of_reaches hcapacity h
  rw [hreturned] at hexit
  exact ⟨hrest, hexit, fun input hinput ↦ hrest.step_eq_none hreturned hinput⟩

/-! ### A session -/

/-- The trader of two shards, as a program. -/
def wiredProgram : TraderProgramConfig (Option Json) (PaperOrderTransport.State (Option Json))
    PositionLedger where
  trader := wiredTrader
  feed := { channels := ["trade"] }
  pumpBatchSize := 2

/-- All is started, a trade comes in and is pumped to shard 1. -/
def programTradeRun : List TraderProgramInput := List.flatten [
  List.replicate 7 .main,
  [.feed .head, .feed (.connect (.ok {}) (.ok ())), .feed (.subscribe (.ok "") (.ok ())),
    .feed .head, .feed (.recvText (.ok SampleMessages.tradeOnA))],
  List.replicate 12 (.feed (.pushMessage 6)),
  [.feed .hearSink],
  List.replicate 24 .main,
  List.replicate 7 (.worker (.pipeline (.shard 1 true)))]

/-- The strategy of shard 1 places an order, which is sent. -/
def programOrderRun : List TraderProgramInput := List.flatten [
  [.worker (.handler 1), .worker (.strategy 1 (.decided [openIntent "c1" 5]))],
  List.replicate 8 (.worker (.runner 1 9)),
  [.worker (.handler 1)],
  (Trader.drain 1).map fun input ↦ .worker (.manager input)]

/-- A signal comes, and `main` stops the feed, the two shards and the order manager. -/
def programShutdownRun : List TraderProgramInput := List.flatten [
  [.signal, .main, .main, .feed .head],
  List.replicate 3 .main,
  [.worker (.pipeline (.shard 0 true)), .main, .main],
  [.worker (.pipeline (.shard 1 true))],
  List.replicate 5 .main,
  List.replicate 3 (.worker (.manager (.worker 2))),
  List.replicate 2 .main]

open TraderProgram in
theorem program_returns_at_rest_trade : ∃ s,
    (machine wiredProgram).Reaches (create wiredProgram {} {}) s ∧ s.main = .returned 0 ∧
      s.trader.flow.manager.sentIds = [1] ∧ s.AtRest ∧
      ∀ input, input ≠ .signal → s.step wiredProgram input = none := by
  have hrun : ((machine wiredProgram).runVia (fun _ _ ↦ True) (create wiredProgram {} {})
      (programTradeRun ++ programOrderRun ++ programShutdownRun)).any
        (fun s ↦ s.main = .returned 0 ∧ s.trader.flow.manager.sentIds = [1]) = true := by
    decide +kernel
  obtain ⟨s, hreaches, hlast⟩ := Machine.exists_of_runVia hrun
  obtain ⟨hreturned, hsent⟩ := of_decide_eq_true hlast
  obtain ⟨hrest, -, hnone⟩ := program_returns_at_rest (by decide) hreaches hreturned
  exact ⟨s, hreaches, hreturned, hsent, hrest, hnone⟩

end TradingEngine
