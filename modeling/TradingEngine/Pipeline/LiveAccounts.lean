import TradingEngine.Pipeline.WireToBooks

/-!
# The accounts of the live pipeline

The pipeline counts messages in nine places, on three kinds of threads, and prints the counters when
it shuts down. They add up: a message that was pushed was dropped by the sink, is in the frame
queue, was dropped by the router, is in a shard queue, could not be parsed, was refused by a book,
or was applied. None is counted twice, at whatever moment the counters are read between two calls,
and across any number of restarts (`live_accounts`).

A start sets some of the counters to zero; `before` has what they showed until then.
-/

namespace TradingEngine

/-! ## One shard -/

namespace ShardWorker

/-- Whether an event is taken from the queue and not counted yet. -/
def parsing : ShardWorker → ℕ
  | .parse _ => 1
  | _ => 0

/-- Whether an event is parsed and not yet applied or refused. -/
def applying : ShardWorker → ℕ
  | .apply _ => 1
  | _ => 0

/-- Whether the event handler has been called and has not returned. -/
def handling : ShardWorker → ℕ
  | .handle _ => 1
  | _ => 0

end ShardWorker

namespace Shard

/-- The counters of a shard, and the events it had consumed before they were set to zero. -/
structure Accounted (hasEventHandler : Bool) (before : ℕ) (shard : Shard) : Prop where
  consumed : shard.consumed.length = before + shard.stats.consumed + shard.worker.parsing
  settled : shard.stats.consumed =
    shard.stats.applied + shard.stats.parseErrors + shard.worker.applying
  parsed : shard.stats.applied + shard.worker.applying ≤ shard.stats.parsed
  parsed_le : shard.stats.parsed ≤ shard.stats.consumed
  handlerInvoked : shard.stats.handlerInvoked = if hasEventHandler then shard.stats.applied else 0
  handlerErrors : shard.stats.handlerErrors + shard.worker.handling ≤ shard.stats.handlerInvoked

variable {hasEventHandler : Bool} {before : ℕ} {shard shard' : Shard}

theorem accounted_empty : Accounted hasEventHandler 0 {} :=
  ⟨rfl, rfl, le_rfl, le_rfl, by cases hasEventHandler <;> rfl, le_rfl⟩

/-- The counters start from zero, and nothing is in hand. -/
theorem accounted_start (hstart : shard.start = some shard') :
    shard'.Accounted hasEventHandler shard.consumed.length := by
  rw [start] at hstart
  split at hstart
  · obtain rfl := Option.some.inj hstart
    exact ⟨rfl, rfl, le_rfl, le_rfl, by cases hasEventHandler <;> rfl, le_rfl⟩
  · exact absurd hstart (by simp)

/-- **A step of a shard** that is not an access of its queue. -/
theorem Accounted.runStep {iterate : String → Option OnDemand.Value} {handled : Bool}
    (h : shard.Accounted hasEventHandler before)
    (hstep : shard.runStep iterate hasEventHandler handled = some shard') :
    shard'.Accounted hasEventHandler before := by
  obtain ⟨hconsumed, hsettled, hparsed, hle, hinvoked, herrors⟩ := h
  rw [Shard.runStep] at hstep
  split at hstep
  · exact absurd hstep (by simp)
  · rename_i hat
    rw [hat] at hconsumed hsettled hparsed herrors
    split at hstep
    all_goals
      obtain rfl := Option.some.inj hstep
      exact ⟨hconsumed, hsettled, hparsed, hle, hinvoked, herrors⟩
  · exact absurd hstep (by simp)
  · -- the event is counted, as parsed or as an error
    rename_i event hat
    rw [hat] at hconsumed hsettled hparsed herrors
    simp only [ShardWorker.parsing, ShardWorker.applying, ShardWorker.handling]
      at hconsumed hsettled hparsed herrors
    dsimp only at hstep
    split at hstep
    all_goals
      obtain rfl := Option.some.inj hstep
      refine ⟨?_, ?_, ?_, ?_, hinvoked, herrors⟩ <;>
        simp only [ShardWorker.parsing, ShardWorker.applying] <;> omega
  · -- the event is applied or refused
    rename_i event hat
    rw [hat] at hconsumed hsettled hparsed herrors
    simp only [ShardWorker.parsing, ShardWorker.applying, ShardWorker.handling]
      at hconsumed hsettled hparsed herrors
    split at hstep
    split at hstep
    · split at hstep
      · rename_i hhandler
        rw [if_pos hhandler] at hinvoked
        obtain rfl := Option.some.inj hstep
        refine ⟨hconsumed, ?_, hparsed, hle, ?_, ?_⟩
        · simp only [ShardWorker.applying]
          omega
        · rw [if_pos hhandler, hinvoked]
        · simp only [ShardWorker.handling]
          omega
      · rename_i hhandler
        rw [if_neg hhandler] at hinvoked
        obtain rfl := Option.some.inj hstep
        refine ⟨hconsumed, ?_, hparsed, hle, ?_, herrors⟩
        · simp only [ShardWorker.applying]
          omega
        · rw [if_neg hhandler, hinvoked]
    · obtain rfl := Option.some.inj hstep
      refine ⟨hconsumed, ?_, ?_, hle, hinvoked, herrors⟩
      · simp only [ShardWorker.applying]
        omega
      · simp only [ShardWorker.applying]
        omega
  · -- the handler returns
    rename_i event hat
    rw [hat] at hconsumed hsettled hparsed herrors
    simp only [ShardWorker.handling] at herrors
    obtain rfl := Option.some.inj hstep
    cases handled with
    | true => exact ⟨hconsumed, hsettled, hparsed, hle, hinvoked, Nat.le_of_succ_le herrors⟩
    | false => exact ⟨hconsumed, hsettled, hparsed, hle, hinvoked, herrors⟩

end Shard

namespace ShardedPipeline

variable {config : ShardedPipelineConfig} {s s' : ShardedPipeline}

/-- A step of a shard, accesses of its queue included. -/
theorem accounted_step {shardId before : ℕ} {handled : Bool}
    (h : (s.shards shardId).Accounted (config.hasEventHandler shardId) before)
    (hstep : s.step config (.shard shardId handled) = some s') :
    (s'.shards shardId).Accounted (config.hasEventHandler shardId) before := by
  rw [step] at hstep
  split at hstep
  · rw [shardStep] at hstep
    split at hstep
    · rename_i call hat
      obtain ⟨hconsumed, hsettled, hparsed, hle, hinvoked, herrors⟩ := h
      rw [hat] at hconsumed hsettled hparsed herrors
      split at hstep
      all_goals
        obtain rfl := Option.some.inj hstep
        rw [setShard]
        dsimp only
        rw [Function.update_self]
      · exact ⟨hconsumed, hsettled, hparsed, hle, hinvoked, herrors⟩
      · exact ⟨hconsumed, hsettled, hparsed, hle, hinvoked, herrors⟩
      · refine ⟨?_, hsettled, hparsed, hle, hinvoked, herrors⟩
        dsimp only
        rw [List.length_append, hconsumed]
        rfl
    · obtain ⟨shard, hrun, rfl⟩ := Option.map_eq_some_iff.mp hstep
      rw [setShard]
      dsimp only
      rw [Function.update_self]
      exact h.runStep hrun
  · exact absurd hstep (by simp)

end ShardedPipeline

/-! ## All shards -/

namespace LivePipeline

variable {config : LivePipelineParts} {s s' : LivePipeline}

/-- What each shard has counted. -/
def ShardsAccounted (config : LivePipelineParts) (s : LivePipeline) : Prop :=
  ∀ i, (s.sharded.shards i).Accounted (config.hasEventHandler i) (s.before.consumed i)

theorem ShardsAccounted.startShard (h : s.ShardsAccounted config) (shardId : ℕ) :
    (s.startShard config shardId).ShardsAccounted config := by
  rw [LivePipeline.startShard]
  split
  · exact h
  · rename_i sharded hstart
    obtain ⟨shard, hshard, rfl⟩ := ShardedPipeline.step_start hstart
    intro i
    dsimp only [ShardedPipeline.setShard]
    by_cases hi : i = shardId
    · rw [hi, Function.update_self, Function.update_self]
      exact Shard.accounted_start hshard
    · rw [Function.update_of_ne hi, Function.update_of_ne hi]
      exact h i

theorem ShardsAccounted.controlStep (h : s.ShardsAccounted config)
    (hstep : s.controlStep config = some s') : s'.ShardsAccounted config := by
  cases controlMoves_of_controlStep hstep with
  | started shardId => exact h.startShard shardId
  | up => exact h
  | passed control running => exact h
  | @asked shardId control hrequest =>
    intro i
    dsimp only [ShardedPipeline.setShard]
    by_cases hi : i = shardId
    · rw [hi, Function.update_self]
      have hshard := h shardId
      exact { hshard with }
    · rw [Function.update_of_ne hi]
      exact h i

/-- The router leaves the shards alone. -/
theorem shards_pumpStep (hinv : s.Inv config) (hstep : s.pumpStep config = some s') :
    s'.sharded.shards = s.sharded.shards ∧ s'.before = s.before := by
  rw [LivePipeline.pumpStep] at hstep
  split at hstep
  · rw [LivePipeline.routeStep] at hstep
    split at hstep
    · obtain ⟨sharded, hsharded, rfl⟩ := Option.map_eq_some_iff.mp hstep
      exact ⟨(ShardedPipeline.step_route hsharded).2.2.1, rfl⟩
    · rename_i hroute
      obtain ⟨sharded, hsharded, rfl⟩ := Option.map_eq_some_iff.mp hstep
      obtain ⟨done, -, ⟨hnot, -⟩ | ⟨frame, -, -, hcarries, -⟩⟩ := hinv.inside
      · exact absurd hroute hnot
      · exact ⟨(ShardedPipeline.step_router hcarries hsharded).1, rfl⟩
    · obtain ⟨ingest, -, rfl⟩ := Option.map_eq_some_iff.mp hstep
      exact ⟨rfl, rfl⟩
  · obtain ⟨ingest, -, rfl⟩ := Option.map_eq_some_iff.mp hstep
    exact ⟨rfl, rfl⟩

theorem ShardsAccounted.step {input : LiveInput} (hinv : s.Inv config)
    (h : s.ShardsAccounted config) (hstep : s.step config input = some s') :
    s'.ShardsAccounted config := by
  cases input with
  | pushMessage message =>
    obtain ⟨ingest, -, rfl⟩ := Option.map_eq_some_iff.mp hstep
    exact h
  | producer now =>
    obtain ⟨ingest, -, rfl⟩ := Option.map_eq_some_iff.mp hstep
    exact h
  | pumpIngest maxFrames =>
    rw [LivePipeline.step] at hstep
    split at hstep
    · obtain ⟨ingest, -, rfl⟩ := Option.map_eq_some_iff.mp hstep
      exact h
    · exact absurd hstep (by simp)
  | start =>
    obtain ⟨-, control, rfl⟩ := step_begin (.inl rfl) hstep
    exact h
  | stop =>
    obtain ⟨-, control, rfl⟩ := step_begin (.inr rfl) hstep
    exact h
  | pump =>
    obtain ⟨hshards, hbefore⟩ := shards_pumpStep hinv hstep
    rw [ShardsAccounted, hshards, hbefore]
    exact h
  | control => exact h.controlStep hstep
  | shard shardId handled =>
    obtain ⟨sharded, hsharded, rfl⟩ := Option.map_eq_some_iff.mp hstep
    intro i
    by_cases hi : i = shardId
    · rw [hi]
      exact ShardedPipeline.accounted_step (h shardId) hsharded
    · have hsame := (ShardedPipeline.step_shard hsharded).2.2.2 i hi
      dsimp only
      rw [hsame]
      exact h i

/-! ## The whole pipeline -/

/-- The counters, each added to what it showed before it was last set to zero. -/
structure Accounts (config : LivePipelineParts) (s : LivePipeline) : Prop where
  /-- The sink accepts or drops every message. -/
  pushed : s.ingest.producer = .idle →
    s.pushed.length = s.ingest.accepted.length + s.ingest.droppedCount
  /-- What is accepted and not pumped is in the frame queue. -/
  pumped : s.ingest.consumer = .idle → s.ingest.accepted.length =
    s.before.ingestFramesPumped + s.ingest.ingestFramesPumped + s.ingest.queue.size
  /-- The router succeeds or fails once for each frame. -/
  routed : s.ingest.consumer = .idle →
    s.before.ingestFramesPumped + s.ingest.ingestFramesPumped =
      s.before.routeSuccess + s.ingest.routeSuccess + (s.before.routeDrop + s.ingest.routeDrop)
  /-- It fails on frames that cannot be decoded, and where the queue of the shard is full. -/
  dropped : s.ingest.consumer = .idle → s.before.routeDrop + s.ingest.routeDrop =
    s.sharded.droppedCount + s.offered.countP (Undecodable config)
  /-- What is routed is in the queue of a shard or consumed. -/
  dispatched : s.ingest.consumer = .idle → s.before.routeSuccess + s.ingest.routeSuccess =
    ∑ i ∈ Finset.range config.resolvedShardCount,
      ((s.sharded.shards i).consumed.length + (s.sharded.queues i).size)
  /-- A shard applies what it consumes or counts an error, and calls its handler once for each event
  it applies. -/
  shards : s.ShardsAccounted config
  failures : s.ingest.frameReleaseFailures = 0

/-- Every accepted frame is in one queue, or has been taken from it. -/
theorem Inv.length_accepted (h : s.Inv config) : s.sharded.accepted.length =
    ∑ i ∈ Finset.range config.resolvedShardCount,
      ((s.sharded.shards i).consumed.length + (s.sharded.queues i).size) := by
  obtain ⟨items, hsharded⟩ := h.sharded
  have hrouted : (s.sharded.accepted.filterMap config.route).length =
      s.sharded.accepted.length := by
    rw [List.length_filterMap_eq_countP, List.countP_eq_length]
    intro frame hframe
    exact Option.isNone_eq_false_iff.mp (h.decodable frame hframe)
  have hbins : ∀ event ∈ s.sharded.accepted.filterMap config.route,
      event.routeKey.shardId < config.resolvedShardCount := by
    intro event hevent
    obtain ⟨frame, -, hroute⟩ := List.mem_filterMap.mp hevent
    rw [ShardedPipeline.shardId_eq hroute]
    exact Router.computeShardId_lt (Router.resolveShardCount_pos _)
  rw [← hrouted, Thinned.length_eq_sum_countP (fun event ↦ event.routeKey.shardId) hbins]
  refine Finset.sum_congr rfl fun i _ ↦ ?_
  have hconserved := congrArg List.length (hsharded.conserved i)
  rw [ShardedPipeline.acceptedFor, List.length_append, ← List.countP_eq_length_filter] at hconserved
  rw [hconserved, (hsharded.queue i).size_eq]

/-- Between two calls of the pump the router is done with every frame it was called with, and all
counters are published. -/
theorem Inv.of_idle (h : s.Inv config) (hidle : s.ingest.consumer = .idle) :
    s.before.ingestFramesPumped + s.ingest.ingestFramesPumped = s.offered.length ∧
      Thinned s.offered s.sharded.accepted (s.lostFrames config s.offered) ∧
      s.sharded.accepted.length = s.before.routeSuccess + s.ingest.routeSuccess ∧
      s.offered.length = s.before.routeSuccess + s.ingest.routeSuccess +
        (s.before.routeDrop + s.ingest.routeDrop) := by
  have houtside : ¬s.ingest.consumer.IsRouting := by
    rw [hidle]
    exact id
  have hroute : s.route = .entering := by
    by_contra hroute
    exact houtside (h.outside hroute)
  have hpumped := h.pumped
  have hsuccesses := h.successes
  have hdrops := h.drops
  rw [LiveIngest.total, hidle, hroute] at hsuccesses hdrops
  rw [LiveIngest.total, hidle] at hpumped
  refine ⟨?_, ?_, hsuccesses, ?_⟩
  · rcases h.offered with ⟨hrouting, -⟩ | ⟨-, hoffered⟩
    · exact absurd hrouting houtside
    · have hpopped := h.sound.popped
      rw [hidle, hoffered, List.length_map] at hpopped
      exact hpumped.symm.trans hpopped
  · obtain ⟨done, hthin, ⟨-, -, hdone⟩ | ⟨frame, hdispatching, -⟩⟩ := h.inside
    · rw [hdone]
      exact hthin
    · rw [hroute] at hdispatching
      exact absurd hdispatching (by simp)
  · rw [hdrops]
    simp only [PumpIngest.unpublished, PumpIngest.counts, RouteCall.successes, RouteCall.drops,
      reduceCtorEq, if_false]
    omega

theorem Inv.accounts (h : s.Inv config) (hshards : s.ShardsAccounted config) :
    s.Accounts config where
  pushed hidle := by
    obtain ⟨done, hthin, ⟨-, hdone⟩ | ⟨message, hcarries, -⟩⟩ := h.pushed
    · rw [hdone]
      exact hthin.length_eq
    · rw [hidle] at hcarries
      exact hcarries.elim
  pumped hidle := by
    have hpumped := h.pumped
    rw [LiveIngest.total, hidle] at hpumped
    rw [h.sound.none_lost, hpumped]
    rfl
  routed hidle := by
    obtain ⟨hpumped, -, -, hoffered⟩ := h.of_idle hidle
    exact hpumped.trans hoffered
  dropped hidle := by
    obtain ⟨-, hthin, hsuccess, hoffered⟩ := h.of_idle hidle
    have hlength := hthin.length_eq
    rw [lostFrames] at hlength
    omega
  dispatched hidle := by
    obtain ⟨-, -, hsuccess, -⟩ := h.of_idle hidle
    exact hsuccess.symm.trans h.length_accepted
  shards := hshards
  failures := h.sound.failures

theorem shardsAccounted_of_reaches (hcapacity : config.framePoolCapacity < 2 ^ 32)
    (h : (machine config).Reaches (create config) s) : s.ShardsAccounted config :=
  h.invariant (fun _ ↦ Shard.accounted_empty) fun hreaches hshards _ hstep ↦
    hshards.step (inv_of_reaches hcapacity hreaches) hstep

end LivePipeline

/-- **No message vanishes.** Whatever the interleaving of the feed, the shards and the main thread,
which starts them, pumps and stops them, the counters of the pipeline account for every message. -/
theorem live_accounts {config : LivePipelineParts} {s : LivePipeline}
    (hcapacity : config.framePoolCapacity < 2 ^ 32)
    (h : (LivePipeline.machine config).Reaches (.create config) s) : s.Accounts config := by
  have hinv := LivePipeline.inv_of_reaches hcapacity h
  exact hinv.accounts (LivePipeline.shardsAccounted_of_reaches hcapacity h)

/-- One message of three is dropped by the sink, one by the router, and one is applied. -/
theorem live_accounts_trade : ∃ s,
    (LivePipeline.machine wiredTrades).Reaches (.create wiredTrades) s ∧
      s.pushed.length = 3 ∧ s.ingest.droppedCount = 1 ∧ s.ingest.routeDrop = 1 ∧
      s.ingest.routeSuccess = 1 ∧ (s.sharded.shards 1).stats.applied = 1 ∧
      s.Accounts wiredTrades := by
  have hrun : ((LivePipeline.machine wiredTrades).runVia (fun _ _ ↦ True) (.create wiredTrades)
      wireRun).any (fun s ↦ s.pushed.length = 3 ∧ s.ingest.droppedCount = 1 ∧
        s.ingest.routeDrop = 1 ∧ s.ingest.routeSuccess = 1 ∧
        (s.sharded.shards 1).stats.applied = 1) = true := by
    decide +kernel
  obtain ⟨s, hreaches, hlast⟩ := Machine.exists_of_runVia hrun
  obtain ⟨hpushed, hdropped, hdrop, hsuccess, happlied⟩ := of_decide_eq_true hlast
  exact ⟨s, hreaches, hpushed, hdropped, hdrop, hsuccess, happlied,
    live_accounts (by decide) hreaches⟩

end TradingEngine
