import TradingEngine.Pipeline.EventHandlers
import TradingEngine.Strategy.StrategyOrders

/-!
# The live trader

The trader of `apps/trader/main.cpp` that runs an order manager: the live pipeline, a runner for
each shard as its event handler, and the order manager behind the runners. Nothing in it is modelled
again. The pipeline and the flow of orders are machines that run side by side, and they meet where a
shard calls its handler: the runner begins when it is called, and the shard goes on with what the
runner returns.

Two projections say that a run of the trader is a run of the pipeline and a run of the order flow,
so what is proved of either holds of the trader.
-/

namespace TradingEngine

structure LiveTraderConfig (Text τ σ : Type*) where
  pipeline : LivePipelineParts
  flow : OrderFlowConfig Text τ σ

/-- The event handler has been called and has not returned. -/
def ShardWorker.isHandling : ShardWorker → Bool
  | .handle _ => true
  | _ => false

namespace LiveTraderConfig

variable {Text τ σ : Type*} (config : LiveTraderConfig Text τ σ)

def strategyShardCount : ℕ := max config.pipeline.shardCount 1

/-- The pipeline with the handlers of the factory: one for each shard that has a strategy. -/
def pipelineConfig : LivePipelineParts :=
  { config.pipeline with hasEventHandler := fun i ↦ decide (i < config.strategyShardCount) }

def flowConfig : OrderFlowConfig Text τ σ :=
  { config.flow with shardCount := config.strategyShardCount }

/-- Every shard has a runner. -/
theorem resolvedShardCount_eq :
    config.pipelineConfig.resolvedShardCount = config.strategyShardCount := by
  change Router.resolveShardCount config.pipeline.shardCount = max config.pipeline.shardCount 1
  rw [Router.resolveShardCount]
  split <;> omega

end LiveTraderConfig

structure LiveTrader (Text τ σ : Type*) where
  pipeline : LivePipeline
  flow : OrderFlow Text τ σ

inductive LiveTraderInput
  /-- A step of the pipeline that is no step of a handler. -/
  | pipeline (input : LiveInput)
  /-- The handler of a shard is called, or returns. -/
  | handler (shardId : ℕ)
  /-- A strategy answers. -/
  | strategy (shardId : ℕ) (outcome : StrategyOutcome)
  /-- The next step of a runner, with a reading of the clock. -/
  | runner (shardId now : ℕ)
  /-- A step of the worker of the order manager, or of the thread that starts and stops it. -/
  | manager (input : OrderManagerInput)

namespace LiveTrader

variable {Text τ σ : Type*} (config : LiveTraderConfig Text τ σ)

def create (transport : τ) (sink : σ) : LiveTrader Text τ σ where
  pipeline := .create config.pipelineConfig
  flow := .create config.flowConfig transport sink

variable (s : LiveTrader Text τ σ)

/-- A shard whose handler has been called goes on when the handler returns. -/
def waitsForHandler : LiveInput → Bool
  | .shard shardId _ => (s.pipeline.sharded.shards shardId).worker.isHandling
  | _ => false

def withFlow (flow : OrderFlow Text τ σ) : LiveTrader Text τ σ := { s with flow := flow }

/-- The runner of a shard begins with the event, or ends. -/
def handlerStep (shardId : ℕ) : Option (LiveTrader Text τ σ) :=
  match (s.pipeline.sharded.shards shardId).worker with
  | .handle event =>
    match (s.flow.runners shardId).call with
    | .idle => (s.flow.step config.flowConfig (.onEvent shardId event)).map s.withFlow
    | .returned result =>
      (s.pipeline.step config.pipelineConfig (.shard shardId result)).bind fun pipeline ↦
        (s.flow.step config.flowConfig (.finish shardId)).map fun flow ↦
          { pipeline := pipeline, flow := flow }
    | _ => none
  | _ => none

def step : LiveTraderInput → Option (LiveTrader Text τ σ)
  | .pipeline input =>
    if s.waitsForHandler input then none
    else (s.pipeline.step config.pipelineConfig input).map fun pipeline ↦
      { s with pipeline := pipeline }
  | .handler shardId => s.handlerStep config shardId
  | .strategy shardId outcome =>
    (s.flow.step config.flowConfig (.strategy shardId outcome)).map s.withFlow
  | .runner shardId now => (s.flow.step config.flowConfig (.runner shardId now)).map s.withFlow
  | .manager input => (s.flow.step config.flowConfig (.manager input)).map s.withFlow

def machine : Machine (LiveTrader Text τ σ) LiveTraderInput where
  step := step config

end LiveTrader

/-! ## The two halves -/

namespace LiveTrader

variable {Text τ σ : Type*} {config : LiveTraderConfig Text τ σ} {s s' : LiveTrader Text τ σ}

/-- **What a step is to the two halves**: a step of one of them, or of both, where a handler
returns. -/
inductive Moves (config : LiveTraderConfig Text τ σ) (s : LiveTrader Text τ σ) :
    LiveTraderInput → LiveTrader Text τ σ → Prop
  | pipeline {input : LiveInput} {pipeline : LivePipeline} (hfree : s.waitsForHandler input = false)
      (hstep : s.pipeline.step config.pipelineConfig input = some pipeline) :
      Moves config s (.pipeline input) { s with pipeline := pipeline }
  | enter {shardId : ℕ} {event : NormalizedEvent} {flow : OrderFlow Text τ σ}
      (hworker : (s.pipeline.sharded.shards shardId).worker = .handle event)
      (hidle : (s.flow.runners shardId).call = .idle)
      (hstep : s.flow.step config.flowConfig (.onEvent shardId event) = some flow) :
      Moves config s (.handler shardId) { s with flow := flow }
  | leave {shardId : ℕ} {event : NormalizedEvent} {result : Bool} {pipeline : LivePipeline}
      {flow : OrderFlow Text τ σ}
      (hworker : (s.pipeline.sharded.shards shardId).worker = .handle event)
      (hreturned : (s.flow.runners shardId).call = .returned result)
      (hpipeline : s.pipeline.step config.pipelineConfig (.shard shardId result) = some pipeline)
      (hflow : s.flow.step config.flowConfig (.finish shardId) = some flow) :
      Moves config s (.handler shardId) { pipeline := pipeline, flow := flow }
  | strategy {shardId : ℕ} {outcome : StrategyOutcome} {flow : OrderFlow Text τ σ}
      (hstep : s.flow.step config.flowConfig (.strategy shardId outcome) = some flow) :
      Moves config s (.strategy shardId outcome) { s with flow := flow }
  | runner {shardId now : ℕ} {flow : OrderFlow Text τ σ}
      (hstep : s.flow.step config.flowConfig (.runner shardId now) = some flow) :
      Moves config s (.runner shardId now) { s with flow := flow }
  | manager {input : OrderManagerInput} {flow : OrderFlow Text τ σ}
      (hstep : s.flow.step config.flowConfig (.manager input) = some flow) :
      Moves config s (.manager input) { s with flow := flow }

theorem moves_of_step {input : LiveTraderInput} (hstep : s.step config input = some s') :
    Moves config s input s' := by
  cases input with
  | pipeline input =>
    rw [step] at hstep
    split at hstep
    · exact absurd hstep (by simp)
    · rename_i hfree
      obtain ⟨pipeline, hpipeline, rfl⟩ := Option.map_eq_some_iff.mp hstep
      exact .pipeline (Bool.eq_false_of_not_eq_true hfree) hpipeline
  | handler shardId =>
    rw [step, handlerStep] at hstep
    split at hstep
    · rename_i event hworker
      split at hstep
      · rename_i hidle
        obtain ⟨flow, hflow, rfl⟩ := Option.map_eq_some_iff.mp hstep
        exact .enter hworker hidle hflow
      · rename_i result hreturned
        obtain ⟨pipeline, hpipeline, hstep⟩ := Option.bind_eq_some_iff.mp hstep
        obtain ⟨flow, hflow, rfl⟩ := Option.map_eq_some_iff.mp hstep
        exact .leave hworker hreturned hpipeline hflow
      · exact absurd hstep (by simp)
    · exact absurd hstep (by simp)
  | strategy shardId outcome =>
    obtain ⟨flow, hflow, rfl⟩ := Option.map_eq_some_iff.mp hstep
    exact .strategy hflow
  | runner shardId now =>
    obtain ⟨flow, hflow, rfl⟩ := Option.map_eq_some_iff.mp hstep
    exact .runner hflow
  | manager input =>
    obtain ⟨flow, hflow, rfl⟩ := Option.map_eq_some_iff.mp hstep
    exact .manager hflow

variable {transport : τ} {sink : σ}

/-- **A run of the trader is a run of its pipeline.** -/
theorem pipeline_of_reaches
    (h : (machine config).Reaches (create config transport sink) s) :
    (LivePipeline.machine config.pipelineConfig).Reaches (.create config.pipelineConfig)
      s.pipeline := by
  refine h.project LiveTrader.pipeline fun _ _ hstep ↦ ?_
  cases moves_of_step hstep with
  | pipeline _ hpipeline => exact .single _ trivial hpipeline
  | @leave shardId _ result _ _ _ _ hpipeline _ =>
    exact .single (.shard shardId result) trivial hpipeline
  | _ => exact .refl

/-- **And a run of its order flow.** -/
theorem flow_of_reaches (h : (machine config).Reaches (create config transport sink) s) :
    (OrderFlow.machine config.flowConfig).Reaches (.create config.flowConfig transport sink)
      s.flow := by
  refine h.project LiveTrader.flow fun _ _ hstep ↦ ?_
  cases moves_of_step hstep with
  | pipeline _ _ => exact .refl
  | @enter shardId event _ _ _ hflow => exact .single (.onEvent shardId event) trivial hflow
  | @leave shardId _ _ _ _ _ _ _ hflow => exact .single (.finish shardId) trivial hflow
  | @strategy shardId outcome _ hflow => exact .single (.strategy shardId outcome) trivial hflow
  | @runner shardId now _ hflow => exact .single (.runner shardId now) trivial hflow
  | @manager input _ hflow => exact .single (.manager input) trivial hflow

end LiveTrader

end TradingEngine
