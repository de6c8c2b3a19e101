import TradingEngine.Apps.WireToOrders
import TradingEngine.Oms.RiskCaps

/-!
# The caps of the trader

The order manager keeps its caps per market only where a replace names its market. In the trader it
does: the books accept no event that names no market, a strategy is asked about accepted events
only, and the runner fills in the market that an intent leaves blank. So what the order manager does
not check is seen to by three other components, and all four caps of the global gate hold in every
run in which the exchange repeats the markets of the orders (`live_trader_caps`).
-/

namespace TradingEngine

open OrderManagerCore

/-! ## Every intent names a market -/

/-- What the runner has in hand names a market. -/
def RunnerCall.NamesMarket : RunnerCall → Prop
  | .idle | .returned _ => True
  | .deciding event | .emitting event _ => event.marketTicker ≠ ""
  | .judging event intent _ | .submitting event intent _ =>
    event.marketTicker ≠ "" ∧ intent.marketTicker ≠ ""

namespace StrategyRunner

variable {runner runner' : StrategyRunner}

theorem namesMarket_onEvent {event : NormalizedEvent} (hmarket : event.marketTicker ≠ "")
    (hstep : runner.onEvent event = some runner') : runner'.call.NamesMarket := by
  rw [onEvent] at hstep
  split at hstep
  · obtain rfl := Option.some.inj hstep
    exact hmarket
  · exact absurd hstep (by simp)

theorem namesMarket_decide {outcome : StrategyOutcome} (h : runner.call.NamesMarket)
    (hstep : runner.decide outcome = some runner') : runner'.call.NamesMarket := by
  rw [decide] at hstep
  split at hstep
  · rename_i event hat
    rw [hat] at h
    split at hstep
    · obtain rfl := Option.some.inj hstep
      exact h
    · obtain rfl := Option.some.inj hstep
      trivial
  · exact absurd hstep (by simp)

/-- A market that is left blank is filled in. -/
theorem namesMarket_emit {hasRiskSnapshotProvider : Bool} (h : runner.call.NamesMarket)
    (hstep : runner.emit hasRiskSnapshotProvider = some runner') : runner'.call.NamesMarket := by
  rw [emit] at hstep
  split at hstep
  · obtain rfl := Option.some.inj hstep
    trivial
  · rename_i event intent rest hat
    rw [hat] at h
    have hintent : (completeIntent event intent).marketTicker ≠ "" := by
      rw [completeIntent_marketTicker]
      split
      · exact h
      · assumption
    obtain rfl := Option.some.inj hstep
    cases hasRiskSnapshotProvider with
    | true => exact ⟨h, hintent⟩
    | false => exact ⟨h, hintent⟩
  · exact absurd hstep (by simp)

theorem namesMarket_judge {shardRisk : ShardRiskConfig} {snapshot : ShardRiskSnapshot}
    (h : runner.call.NamesMarket) (hstep : runner.judge shardRisk snapshot = some runner') :
    runner'.call.NamesMarket := by
  rw [judge] at hstep
  split at hstep
  · rename_i event intent rest hat
    rw [hat] at h
    dsimp only at hstep
    split at hstep
    · obtain rfl := Option.some.inj hstep
      exact h
    · obtain rfl := Option.some.inj hstep
      exact h.1
  · exact absurd hstep (by simp)

theorem namesMarket_hearSink {submitted : Bool} {sinkError : String} (h : runner.call.NamesMarket)
    (hstep : runner.hearSink submitted sinkError = some runner') : runner'.call.NamesMarket := by
  rw [hearSink] at hstep
  split at hstep
  · rename_i event intent rest hat
    rw [hat] at h
    split at hstep
    all_goals
      obtain rfl := Option.some.inj hstep
      exact h.1
  · exact absurd hstep (by simp)

end StrategyRunner

namespace OrderFlow

variable {Text τ σ : Type*} {config : OrderFlowConfig Text τ σ} {s s' : OrderFlow Text τ σ}

/-- The runners are called with events that name a market, and the exchange repeats the markets of
the orders. -/
def MarketsKnown (config : OrderFlowConfig Text τ σ) (s : OrderFlow Text τ σ) :
    OrderFlowInput → Prop
  | .onEvent _ event => event.marketTicker ≠ ""
  | .manager input => s.manager.RepeatsMarket config.orderManager input
  | _ => True

def NamesMarkets (s : OrderFlow Text τ σ) : Prop := ∀ i, (s.runners i).call.NamesMarket

theorem NamesMarkets.setRunner {i : ℕ} {runner : StrategyRunner} (h : s.NamesMarkets)
    (hrunner : runner.call.NamesMarket) : (s.setRunner i runner).NamesMarkets := by
  intro j
  rw [OrderFlow.setRunner]
  dsimp only
  by_cases hj : j = i
  · rw [hj, Function.update_self]
    exact hrunner
  · rw [Function.update_of_ne hj]
    exact h j

theorem NamesMarkets.submitStep {i now : ℕ} {intent : OrderIntent} (h : s.NamesMarkets)
    (hstep : s.submitStep config i intent now = some s') : s'.NamesMarkets := by
  rw [OrderFlow.submitStep] at hstep
  split at hstep
  · obtain ⟨manager, -, rfl⟩ := Option.map_eq_some_iff.mp hstep
    exact h
  · split at hstep
    · obtain ⟨manager, -, rfl⟩ := Option.map_eq_some_iff.mp hstep
      exact h
    · obtain ⟨manager, -, rfl⟩ := Option.map_eq_some_iff.mp hstep
      exact h
    · obtain ⟨manager, -, rfl⟩ := Option.map_eq_some_iff.mp hstep
      exact h
    · exact absurd hstep (by simp)
  · obtain ⟨runner, hrunner, rfl⟩ := Option.map_eq_some_iff.mp hstep
    exact h.setRunner (StrategyRunner.namesMarket_hearSink (h i) hrunner)
  · obtain rfl := Option.some.inj hstep
    exact h
  · obtain ⟨runner, hrunner, rfl⟩ := Option.map_eq_some_iff.mp hstep
    exact h.setRunner (StrategyRunner.namesMarket_hearSink (h i) hrunner)

theorem NamesMarkets.runnerStep {i now : ℕ} (h : s.NamesMarkets)
    (hstep : s.runnerStep config i now = some s') : s'.NamesMarkets := by
  rw [OrderFlow.runnerStep] at hstep
  split at hstep
  · exact absurd hstep (by simp)
  · exact absurd hstep (by simp)
  · exact absurd hstep (by simp)
  · obtain ⟨runner, hrunner, rfl⟩ := Option.map_eq_some_iff.mp hstep
    exact h.setRunner (StrategyRunner.namesMarket_emit (h i) hrunner)
  · split at hstep
    · exact absurd hstep (by simp)
    · obtain ⟨runner, hrunner, rfl⟩ := Option.map_eq_some_iff.mp hstep
      exact h.setRunner (StrategyRunner.namesMarket_judge (h i) hrunner)
  · exact h.submitStep hstep

theorem NamesMarkets.step {input : OrderFlowInput} (h : s.NamesMarkets)
    (hok : s.MarketsKnown config input) (hstep : s.step config input = some s') :
    s'.NamesMarkets := by
  cases input with
  | onEvent i event =>
    rw [OrderFlow.step] at hstep
    split at hstep
    · rw [OrderFlow.onEvent] at hstep
      split at hstep
      · obtain ⟨runner, hrunner, rfl⟩ := Option.map_eq_some_iff.mp hstep
        exact h.setRunner (StrategyRunner.namesMarket_onEvent hok hrunner)
      · split at hstep
        · obtain rfl := Option.some.inj hstep
          exact h.setRunner trivial
        · exact absurd hstep (by simp)
    · exact absurd hstep (by simp)
  | strategy i outcome =>
    rw [OrderFlow.step, OrderFlow.strategy] at hstep
    split at hstep
    · obtain ⟨runner, hrunner, rfl⟩ := Option.map_eq_some_iff.mp hstep
      exact h.setRunner (StrategyRunner.namesMarket_decide (h i) hrunner)
    · exact absurd hstep (by simp)
  | runner i now => exact h.runnerStep hstep
  | finish i =>
    rw [OrderFlow.step, OrderFlow.finish] at hstep
    split at hstep
    · obtain rfl := Option.some.inj hstep
      exact h.setRunner trivial
    · exact absurd hstep (by simp)
  | manager input =>
    rw [NamesMarkets, (call_of_manager hstep).2]
    exact h

variable {transport : τ} {sink : σ}

theorem namesMarkets_of_reaches
    (h : (machine config).ReachesVia (MarketsKnown config) (create config transport sink) s) :
    s.NamesMarkets := by
  have hcreate : (create config transport sink).NamesMarkets := fun _ ↦ trivial
  exact h.invariant hcreate fun _ hnamed hok hstep ↦ hnamed.step hok hstep

/-- To the order manager it is a run in which markets are known. -/
theorem manager_of_marketsKnown
    (h : (machine config).ReachesVia (MarketsKnown config) (create config transport sink) s) :
    (OrderManager.machine config.orderManager).ReachesVia
      (OrderManager.MarketsKnown config.orderManager)
      (.init config.orderManager transport sink) s.manager := by
  refine h.project OrderFlow.manager fun {s input s'} hreaches hok hstep ↦ ?_
  have hnamed := namesMarkets_of_reaches hreaches
  obtain ⟨-, hsame | ⟨own, hmanager, hown⟩⟩ | ⟨i, _, -, -, henqueue, -⟩ :=
    managerMoves_of_step hstep
  · rw [hsame]
    exact .refl
  · refine .single own ⟨?_, ?_⟩ hmanager
    · obtain rfl | ⟨hsubmission, -⟩ := hown
      · exact hok
      · -- a thread that submits does not hear from the exchange
        rintro hworker
        cases own with
        | worker now => cases hsubmission
        | _ => cases hworker
    · intro intent hintent
      obtain rfl | ⟨-, -, hsubmits⟩ := hown
      · have hother := isSubmission_of_manager hstep
        cases own with
        | submitBegin _ _ _ => cases hother
        | _ => cases hintent
      · obtain ⟨i, event, rest, hat⟩ := hsubmits intent hintent
        have hmarket := hnamed i
        rw [hat] at hmarket
        exact fun _ ↦ hmarket.2
  · refine .single (.submitEnqueue i) ⟨fun hworker ↦ ?_, fun intent hintent ↦ ?_⟩ henqueue
    · cases hworker
    · cases hintent

end OrderFlow

/-! ## All caps -/

namespace OrderManager

variable {Text τ σ : Type*} {config : OrderManagerConfig Text τ σ} {s : OrderManager Text τ σ}
  {transport : τ} {sink : σ}

/-- The live orders whose request was sent are within the limits of the global gate. -/
structure WithinCaps (limits : GlobalRiskConfig) (s : OrderManager Text τ σ) : Prop where
  activeOrdersGlobal : 0 < limits.maxActiveOrdersGlobal →
    s.sentTotal (fun _ ↦ 1) ≤ limits.maxActiveOrdersGlobal
  activeOrdersPerMarket : 0 < limits.maxActiveOrdersPerMarket → ∀ marketTicker,
    s.sentTotal (inMarket marketTicker fun _ ↦ 1) ≤ limits.maxActiveOrdersPerMarket
  outstandingQtyGlobal : 0 < limits.maxOutstandingQtyGlobal →
    s.sentTotal outstandingQty ≤ limits.maxOutstandingQtyGlobal
  outstandingQtyPerMarket : 0 < limits.maxOutstandingQtyPerMarket → ∀ marketTicker,
    s.sentTotal (inMarket marketTicker outstandingQty) ≤
      limits.maxOutstandingQtyPerMarket

theorem withinCaps_of_marketsKnown (hsized : config.adapter.RefusesUnsized)
    (hunnamed : config.adapter.RefusesUnnamed)
    (h : (machine config).ReachesVia (MarketsKnown config) (init config transport sink) s) :
    s.WithinCaps config.globalRisk where
  activeOrdersGlobal hlimit := sentTotal_le_limit (activeOrdersQuota hlimit) h
  activeOrdersPerMarket hlimit _ := activeOrdersPerMarket_le (fun _ ↦ hunnamed) h hlimit
  outstandingQtyGlobal hlimit := sentTotal_le_limit (outstandingQtyQuota hsized hlimit) h
  outstandingQtyPerMarket hlimit _ := outstandingQtyPerMarket_le (fun _ ↦ hunnamed) h hsized hlimit

end OrderManager

namespace LiveTrader

variable {Text τ σ : Type*} {config : LiveTraderConfig Text τ σ} {s s' : LiveTrader Text τ σ}

/-- An update that arrives repeats the market of the order it is about, or leaves it out. -/
def RepeatsMarket (config : LiveTraderConfig Text τ σ) (s : LiveTrader Text τ σ) :
    LiveTraderInput → Prop
  | .manager input => s.flow.manager.RepeatsMarket config.flowConfig.orderManager input
  | _ => True

instance (s : LiveTrader Text τ σ) : (input : LiveTraderInput) →
    Decidable (s.RepeatsMarket config input)
  | .manager input =>
    inferInstanceAs (Decidable (s.flow.manager.RepeatsMarket config.flowConfig.orderManager input))
  | .pipeline _ | .handler _ | .strategy _ _ | .runner _ _ => inferInstanceAs (Decidable True)

/-- The handler that is about to begin is called with an event that names a market. -/
theorem Linked.marketTicker_ne (h : s.Linked config)
    (hinformed : s.pipeline.HandlersInformed config.pipelineConfig) {i : ℕ}
    {event : NormalizedEvent} (hworker : (s.pipeline.sharded.shards i).worker = .handle event)
    (hidle : (s.flow.runners i).call = .idle) : event.marketTicker ≠ "" := by
  have hagrees := h i
  rw [hidle, Shard.handedOver, hworker] at hagrees
  obtain ⟨before, hhandled, -⟩ := hagrees
  refine hinformed.marketTicker_ne (i := i) ?_
  rw [hhandled]
  exact List.mem_append_right _ (List.mem_singleton_self event)

theorem flow_of_repeatsMarket {transport : τ} {sink : σ}
    (hcapacity : config.pipeline.framePoolCapacity < 2 ^ 32)
    (h : (machine config).ReachesVia (RepeatsMarket config) (create config transport sink) s) :
    (OrderFlow.machine config.flowConfig).ReachesVia (OrderFlow.MarketsKnown config.flowConfig)
      (.create config.flowConfig transport sink) s.flow := by
  refine h.project LiveTrader.flow fun {s input s'} hreaches hok hstep ↦ ?_
  cases moves_of_step hstep with
  | pipeline _ _ => exact .refl
  | @enter i event _ hworker hidle hflow =>
    have hcapacity' : config.pipelineConfig.framePoolCapacity < 2 ^ 32 := hcapacity
    have hinformed := LivePipeline.handlersInformed_of_reaches hcapacity'
      (pipeline_of_reaches hreaches.forget)
    have hlinked := linked_of_reaches hcapacity hreaches.forget
    exact .single (.onEvent i event) (hlinked.marketTicker_ne hinformed hworker hidle) hflow
  | @leave i _ _ _ _ _ _ _ hflow => exact .single (.finish i) trivial hflow
  | @strategy i outcome _ hflow => exact .single (.strategy i outcome) trivial hflow
  | @runner i now _ hflow => exact .single (.runner i now) trivial hflow
  | @manager input _ hflow => exact .single (.manager input) hok hflow

end LiveTrader

/-- **The caps of the trader.** With an adapter that encodes no request without a quantity and no
place without a market, in every run of the trader in which the exchange repeats the markets of the
orders, whatever the strategies decide (a replace that leaves its market blank included) and however
the threads are interleaved: the live orders whose request was sent are within the two global
limits, and in every market within the two limits per market. Quantities are exact integers: this is
about runs in which no sum of the gate leaves 64 bits. -/
theorem live_trader_caps {Text τ σ : Type*} {config : LiveTraderConfig Text τ σ} {transport : τ}
    {sink : σ} {s : LiveTrader Text τ σ}
    (hsized : config.flow.orderManager.adapter.RefusesUnsized)
    (hunnamed : config.flow.orderManager.adapter.RefusesUnnamed)
    (hcapacity : config.pipeline.framePoolCapacity < 2 ^ 32)
    (h : (LiveTrader.machine config).ReachesVia (LiveTrader.RepeatsMarket config)
      (.create config transport sink) s) :
    s.flow.manager.WithinCaps config.flow.orderManager.globalRisk := by
  have hflow := LiveTrader.flow_of_repeatsMarket hcapacity h
  have hmanager := OrderFlow.manager_of_marketsKnown hflow
  exact OrderManager.withinCaps_of_marketsKnown hsized hunnamed hmanager

/-- The same trader with room for one order in a market. -/
def cappedTrader : LiveTraderConfig (Option Json) (PaperOrderTransport.State (Option Json))
    PositionLedger :=
  { wiredTrader with
    flow := { twoRunners with
      orderManager := Trader.paperConfig JsonLibrary.trees { maxActiveOrdersPerMarket := 1 } {} } }

/-- A place, and a replace of it that names no market. The order manager has both before it sends
either. -/
def cappedTraderRun : List LiveTraderInput :=
  .manager .start :: wireRun.map .pipeline ++
    .handler 1 :: .strategy 1 (.decided
      [openIntent "c1" 5,
        { openIntent "c2" 5 with action := .replace, targetClientOrderId := some "c1" }]) ::
    List.replicate 15 (.runner 1 9) ++
    .handler 1 :: (List.replicate 6 (.worker 2)).map .manager

theorem live_trader_caps_replace : ∃ s,
    (LiveTrader.machine cappedTrader).ReachesVia (LiveTrader.RepeatsMarket cappedTrader)
      (.create cappedTrader {} {}) s ∧
      (s.flow.enqueuedOf 1).map (fun pending ↦ pending.intent.marketTicker) = ["A", "A"] ∧
      s.flow.manager.sentIds = [2] ∧
      s.flow.manager.sentTotal (OrderManager.inMarket "A" fun _ ↦ 1) ≤ 1 := by
  have hrun : ((LiveTrader.machine cappedTrader).runVia (LiveTrader.RepeatsMarket cappedTrader)
      (.create cappedTrader {} {}) cappedTraderRun).any
        (fun s ↦ (s.flow.enqueuedOf 1).map (fun pending ↦ pending.intent.marketTicker) =
          ["A", "A"] ∧ s.flow.manager.sentIds = [2]) = true := by
    decide +kernel
  obtain ⟨s, hreaches, hlast⟩ := Machine.exists_of_runVia hrun
  obtain ⟨hmarkets, hsent⟩ := of_decide_eq_true hlast
  have hcaps := live_trader_caps (Kalshi.refusesUnsized _) (Kalshi.refusesUnnamed _)
    (by decide) hreaches
  exact ⟨s, hreaches, hmarkets, hsent, hcaps.activeOrdersPerMarket (by decide) "A"⟩

end TradingEngine
