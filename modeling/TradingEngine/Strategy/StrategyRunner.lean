import TradingEngine.Internal.NormalizedEvent
import TradingEngine.Oms.Interfaces
import TradingEngine.Strategy.ShardRiskGate

/-!
# The strategy runner

A shard shows each event that its books accept to a runner. The runner asks its strategy for
intents, fills in what they leave open, has them judged by the risk gate of the shard, and hands
those that pass to the sink. Strategy, snapshot provider and sink are parties of their own: what
they answer is an argument of the step at which they do.
-/

namespace TradingEngine

/-! ## The parties -/

/-- What `IStrategy::on_event` does: it returns a decision, or throws, a `std::exception` with its
text or something else. -/
inductive StrategyOutcome
  | decided (intents : List OrderIntent)
  | threw (what : Option String)
  deriving DecidableEq

/-- The strategy that the trader is shipped with. -/
def NoopStrategy.onEvent (_ : NormalizedEvent) : StrategyOutcome := .decided []

/-- A provider of snapshots, over the state that it reads. -/
structure IShardRiskSnapshotProvider (σ : Type*) where
  snapshotFor : σ → ExchangeId → String → ShardRiskSnapshot

/-- The position comes from the ledger. Open orders and working quantity are not known there. -/
def LedgerShardRiskSnapshotProvider {σ : Type*} (provider : IPortfolioRiskSnapshotProvider σ) :
    IShardRiskSnapshotProvider σ where
  snapshotFor state exchange marketTicker :=
    { openOrdersMarket := 0
      workingQtyMarket := 0
      netPositionMarket :=
        (provider.snapshotFor state exchange marketTicker).netPositionMarket }

/-- A handler that shows its delegate the events of some markets only. What it returns by itself, or
`none` where the delegate is to answer. -/
def MarketFilterEventHandler.onEvent (allowedMarkets : List String) (hasDelegate : Bool)
    (event : NormalizedEvent) : Option Bool :=
  if hasDelegate = false then some false
  else if allowedMarkets = [] then none
  else if event.marketTicker ∈ allowedMarkets then none
  else some true

/-! ## The runner -/

structure StrategyRunnerStats where
  eventsProcessedCount : ℕ := 0
  intentsEmittedCount : ℕ := 0
  intentsSubmittedCount : ℕ := 0
  riskRejectCount : ℕ := 0
  sinkRejectCount : ℕ := 0
  strategyErrorCount : ℕ := 0
  deriving DecidableEq

/-- Where a call of `on_event` is. -/
inductive RunnerCall
  | idle
  /-- The strategy has been called. -/
  | deciding (event : NormalizedEvent)
  /-- At the head of the loop over the intents. -/
  | emitting (event : NormalizedEvent) (intents : List OrderIntent)
  /-- About to take a snapshot for this intent. -/
  | judging (event : NormalizedEvent) (intent : OrderIntent) (rest : List OrderIntent)
  /-- The sink has been called. -/
  | submitting (event : NormalizedEvent) (intent : OrderIntent) (rest : List OrderIntent)
  | returned (result : Bool)
  deriving DecidableEq

structure StrategyRunnerConfig (σ : Type*) where
  shardRisk : ShardRiskConfig := {}
  riskSnapshotProvider : Option (IShardRiskSnapshotProvider σ) := none

structure StrategyRunner where
  stats : StrategyRunnerStats := {}
  lastError : String := ""
  call : RunnerCall := .idle
  deriving DecidableEq

/-- An intent that leaves its exchange, market or time open takes them from the event. -/
def completeIntent (event : NormalizedEvent) (intent : OrderIntent) : OrderIntent :=
  let intent := if intent.exchange = .unknown then
    { intent with exchange := event.eventMeta.exchange } else intent
  let intent := if intent.marketTicker = "" then
    { intent with marketTicker := event.marketTicker } else intent
  if intent.intentTsNs = 0 then { intent with intentTsNs := event.eventMeta.recvNs } else intent

namespace StrategyRunner

variable (runner : StrategyRunner)

def onEvent (event : NormalizedEvent) : Option StrategyRunner :=
  match runner.call with
  | .idle =>
    some { runner with
      stats := { runner.stats with
        eventsProcessedCount := runner.stats.eventsProcessedCount + 1 }
      call := .deciding event }
  | _ => none

/-- The strategy answers. -/
def decide (outcome : StrategyOutcome) : Option StrategyRunner :=
  match runner.call with
  | .deciding event =>
    match outcome with
    | .decided intents => some { runner with call := .emitting event intents }
    | .threw what =>
      some { runner with
        stats := { runner.stats with
          strategyErrorCount := runner.stats.strategyErrorCount + 1 }
        lastError := what.getD "strategy error: unknown exception"
        call := .returned false }
  | _ => none

/-- The next intent, if there is one. Without a snapshot provider it is not judged. -/
def emit (hasRiskSnapshotProvider : Bool) : Option StrategyRunner :=
  match runner.call with
  | .emitting _ [] => some { runner with call := .returned true }
  | .emitting event (intent :: rest) =>
    let intent := completeIntent event intent
    some { runner with
      stats := { runner.stats with intentsEmittedCount := runner.stats.intentsEmittedCount + 1 }
      call := if hasRiskSnapshotProvider then .judging event intent rest
        else .submitting event intent rest }
  | _ => none

/-- The gate judges the intent. -/
def judge (shardRisk : ShardRiskConfig) (snapshot : ShardRiskSnapshot) : Option StrategyRunner :=
  match runner.call with
  | .judging event intent rest =>
    let decision := ShardRiskGate.evaluate shardRisk intent snapshot
    if decision.allow then some { runner with call := .submitting event intent rest }
    else
      some { runner with
        stats := { runner.stats with riskRejectCount := runner.stats.riskRejectCount + 1 }
        lastError := decision.reasonMessage
        call := .emitting event rest }
  | _ => none

/-- The sink answers, with its last error where it refuses. -/
def hearSink (submitted : Bool) (sinkError : String) : Option StrategyRunner :=
  match runner.call with
  | .submitting event _ rest =>
    if submitted then
      some { runner with
        stats := { runner.stats with
          intentsSubmittedCount := runner.stats.intentsSubmittedCount + 1 }
        call := .emitting event rest }
    else
      some { runner with
        stats := { runner.stats with sinkRejectCount := runner.stats.sinkRejectCount + 1 }
        lastError := sinkError
        call := .emitting event rest }
  | _ => none

end StrategyRunner

/-! ## What an intent is when it reaches the sink -/

theorem completeIntent_exchange (event : NormalizedEvent) (intent : OrderIntent) :
    (completeIntent event intent).exchange =
      if intent.exchange = .unknown then event.eventMeta.exchange else intent.exchange := by
  rw [completeIntent]
  split <;> split <;> split <;> rfl

theorem completeIntent_marketTicker (event : NormalizedEvent) (intent : OrderIntent) :
    (completeIntent event intent).marketTicker =
      if intent.marketTicker = "" then event.marketTicker else intent.marketTicker := by
  rw [completeIntent]
  by_cases hexchange : intent.exchange = .unknown
  all_goals
    by_cases hmarket : intent.marketTicker = ""
    all_goals
      simp only [hexchange, hmarket, if_true, if_false]
      split <;> rfl

/-- Nothing else is filled in. -/
theorem completeIntent_eq (event : NormalizedEvent) (intent : OrderIntent) :
    completeIntent event intent =
      { intent with
        exchange := (completeIntent event intent).exchange
        marketTicker := (completeIntent event intent).marketTicker
        intentTsNs := (completeIntent event intent).intentTsNs } := by
  rw [completeIntent]
  split <;> split <;> split <;> rfl

/-! ## The accounts of a runner -/

namespace RunnerCall

/-- Whether the strategy has been called and has not answered. -/
def isDeciding : RunnerCall → ℕ
  | .deciding _ => 1
  | _ => 0

/-- Whether an intent is counted as emitted and nothing else yet. -/
def inHand : RunnerCall → ℕ
  | .judging _ _ _ | .submitting _ _ _ => 1
  | _ => 0

end RunnerCall

namespace StrategyRunner

/-- Every intent emitted is submitted, or refused by the gate or by the sink; and every error is
that of an event. -/
structure Accounted (runner : StrategyRunner) : Prop where
  emitted : runner.stats.intentsEmittedCount = runner.stats.intentsSubmittedCount +
    runner.stats.riskRejectCount + runner.stats.sinkRejectCount + runner.call.inHand
  errors : runner.stats.strategyErrorCount + runner.call.isDeciding ≤
    runner.stats.eventsProcessedCount

variable {runner runner' : StrategyRunner}

theorem Accounted.onEvent {event : NormalizedEvent} (h : runner.Accounted)
    (hstep : runner.onEvent event = some runner') : runner'.Accounted := by
  obtain ⟨hemitted, herrors⟩ := h
  rw [StrategyRunner.onEvent] at hstep
  split at hstep
  · rename_i hat
    rw [hat] at hemitted herrors
    obtain rfl := Option.some.inj hstep
    exact ⟨hemitted, Nat.succ_le_succ herrors⟩
  · exact absurd hstep (by simp)

theorem Accounted.decide {outcome : StrategyOutcome} (h : runner.Accounted)
    (hstep : runner.decide outcome = some runner') : runner'.Accounted := by
  obtain ⟨hemitted, herrors⟩ := h
  rw [StrategyRunner.decide] at hstep
  split at hstep
  · rename_i hat
    rw [hat] at hemitted herrors
    split at hstep
    · obtain rfl := Option.some.inj hstep
      exact ⟨hemitted, Nat.le_of_succ_le herrors⟩
    · obtain rfl := Option.some.inj hstep
      exact ⟨hemitted, herrors⟩
  · exact absurd hstep (by simp)

theorem Accounted.emit {hasRiskSnapshotProvider : Bool} (h : runner.Accounted)
    (hstep : runner.emit hasRiskSnapshotProvider = some runner') : runner'.Accounted := by
  obtain ⟨hemitted, herrors⟩ := h
  rw [StrategyRunner.emit] at hstep
  split at hstep
  · rename_i hat
    rw [hat] at hemitted herrors
    obtain rfl := Option.some.inj hstep
    exact ⟨hemitted, herrors⟩
  · rename_i event intent rest hat
    rw [hat] at hemitted herrors
    obtain rfl := Option.some.inj hstep
    cases hasRiskSnapshotProvider with
    | true => exact ⟨congrArg (· + 1) hemitted, herrors⟩
    | false => exact ⟨congrArg (· + 1) hemitted, herrors⟩
  · exact absurd hstep (by simp)

theorem Accounted.judge {shardRisk : ShardRiskConfig} {snapshot : ShardRiskSnapshot}
    (h : runner.Accounted) (hstep : runner.judge shardRisk snapshot = some runner') :
    runner'.Accounted := by
  obtain ⟨hemitted, herrors⟩ := h
  rw [StrategyRunner.judge] at hstep
  split at hstep
  · rename_i event intent rest hat
    rw [hat] at hemitted herrors
    dsimp only at hstep
    split at hstep
    · obtain rfl := Option.some.inj hstep
      exact ⟨hemitted, herrors⟩
    · obtain rfl := Option.some.inj hstep
      refine ⟨?_, herrors⟩
      simp only [RunnerCall.inHand] at hemitted ⊢
      omega
  · exact absurd hstep (by simp)

theorem Accounted.hearSink {submitted : Bool} {sinkError : String} (h : runner.Accounted)
    (hstep : runner.hearSink submitted sinkError = some runner') : runner'.Accounted := by
  obtain ⟨hemitted, herrors⟩ := h
  rw [StrategyRunner.hearSink] at hstep
  split at hstep
  · rename_i event intent rest hat
    rw [hat] at hemitted herrors
    split at hstep
    all_goals
      obtain rfl := Option.some.inj hstep
      refine ⟨?_, herrors⟩
      simp only [RunnerCall.inHand] at hemitted ⊢
      omega
  · exact absurd hstep (by simp)

end StrategyRunner

end TradingEngine
