import TradingEngine.Strategy.StrategyOrders

/-!
# The limits of a shard

The trader judges the intents of its strategies against the ledger, which knows positions only. The
snapshot says that nothing is open and nothing works in the market, so the limits of the gate mean
something else than their names say: the limit on open orders has no effect on any run, and the
limit on the working quantity is a limit on the size of one order (`shard_limits_over_ledger`).
-/

namespace TradingEngine

namespace ShardRiskGate

/-- What the gate asks of an intent itself. -/
def WithinOrderLimits (config : ShardRiskConfig) (intent : OrderIntent) : Prop :=
  intent.action = .cancel ∨ intent.Creates ∧ 0 < intent.qtyLots ∧ intent.side ≠ .unknown ∧
    (0 < config.maxWorkingQtyPerMarket → intent.qtyLots ≤ config.maxWorkingQtyPerMarket)

variable {config : ShardRiskConfig} {intent : OrderIntent} {snapshot : ShardRiskSnapshot}

theorem signedIntentQty_ne_zero (h : signedIntentQtyWith .exact intent ≠ 0) :
    0 < intent.qtyLots ∧ intent.side ≠ .unknown := by
  obtain ⟨hside, hqty⟩ :=
    not_or.mp (mt (PortfolioRiskGate.signedIntentQty_eq_zero_iff intent).mpr h)
  exact ⟨not_le.mp hqty, hside⟩

theorem withinOrderLimits_of_allow (hworking : snapshot.workingQtyMarket = 0)
    (h : (evaluate config intent snapshot).allow = true) : WithinOrderLimits config intent := by
  rw [evaluate, evaluateWith] at h
  split at h
  · rename_i hcancel
    exact .inl hcancel
  split at h
  · exact absurd h (by simp [reject])
  rename_i haction
  dsimp only at h
  split at h
  · exact absurd h (by simp [reject])
  rename_i hqty
  obtain ⟨hpos, hside⟩ := signedIntentQty_ne_zero hqty
  split at h
  · exact absurd h (by simp [reject])
  split at h
  · exact absurd h (by simp [reject])
  rename_i hlimit
  refine .inr ⟨?_, hpos, hside, fun hset ↦ ?_⟩
  · rw [OrderIntent.Creates]
    by_contra hneither
    exact haction (not_or.mp hneither)
  · have hsum : Arithmetic.exact.add snapshot.workingQtyMarket intent.qtyLots =
        intent.qtyLots := by
      rw [hworking]
      exact zero_add _
    rw [hsum] at hlimit
    by_contra hover
    exact hlimit ⟨hset, not_le.mp hover⟩

/-- With no open orders the next one is the first, which every limit leaves room for. -/
theorem evaluate_openOrders (limit : ℕ) (hopen : snapshot.openOrdersMarket = 0) :
    evaluate { config with maxOpenOrdersPerMarket := limit } intent snapshot =
      evaluate config intent snapshot := by
  have hfirst : ∀ max : ℕ,
      ¬(max > 0 ∧ Arithmetic.exact.increment snapshot.openOrdersMarket > max) := by
    rintro max ⟨hpos, hover⟩
    rw [hopen] at hover
    exact absurd hover (not_lt.mpr hpos)
  rw [evaluate, evaluateWith, evaluateWith]
  simp only [if_neg (hfirst _)]

end ShardRiskGate

namespace OrderFlow

variable {Text τ σ : Type*} {config : OrderFlowConfig Text τ σ}
  {provider : IPortfolioRiskSnapshotProvider σ}

/-- The same traders with another limit on open orders. -/
def withOpenLimit (config : OrderFlowConfig Text τ σ) (limit : ℕ) : OrderFlowConfig Text τ σ :=
  { config with
    runner := { config.runner with
      shardRisk := { config.runner.shardRisk with maxOpenOrdersPerMarket := limit } } }

theorem runnerStep_withOpenLimit
    (hprovider : config.runner.riskSnapshotProvider =
      some (LedgerShardRiskSnapshotProvider provider))
    (limit : ℕ) (s : OrderFlow Text τ σ) (shardId now : ℕ) :
    s.runnerStep (withOpenLimit config limit) shardId now = s.runnerStep config shardId now := by
  rw [runnerStep, runnerStep]
  split
  · rfl
  · rfl
  · rfl
  · rfl
  · rename_i event intent rest hat
    rw [withOpenLimit, hprovider]
    simp only [StrategyRunner.judge, hat]
    rw [ShardRiskGate.evaluate_openOrders limit rfl]
  · rfl

theorem machine_withOpenLimit
    (hprovider : config.runner.riskSnapshotProvider =
      some (LedgerShardRiskSnapshotProvider provider)) (limit : ℕ) :
    (machine (withOpenLimit config limit) : Machine (OrderFlow Text τ σ) OrderFlowInput) =
      machine config := by
  refine congrArg Machine.mk (funext fun s ↦ funext fun input ↦ ?_)
  cases input with
  | runner shardId now => exact runnerStep_withOpenLimit hprovider limit s shardId now
  | _ => rfl

end OrderFlow

/-- **What the shard limits mean over the ledger.** In every run every order that enters the queue
is a cancel, or an order with a side and a positive quantity that the working limit, if there is
one, allows by itself; and whatever the limit on open orders is set to, the machine is the same. -/
theorem shard_limits_over_ledger {Text τ σ : Type*} {config : OrderFlowConfig Text τ σ}
    {provider : IPortfolioRiskSnapshotProvider σ}
    (hprovider : config.runner.riskSnapshotProvider =
      some (LedgerShardRiskSnapshotProvider provider)) :
    (∀ {transport : τ} {sink : σ} {s : OrderFlow Text τ σ},
      (OrderFlow.machine config).Reaches (.create config transport sink) s →
      ∀ i, ∀ pending ∈ s.enqueuedOf i,
        ShardRiskGate.WithinOrderLimits config.runner.shardRisk pending.intent) ∧
    ∀ limit, (OrderFlow.machine (OrderFlow.withOpenLimit config limit) :
      Machine (OrderFlow Text τ σ) OrderFlowInput) = OrderFlow.machine config := by
  refine ⟨fun h i pending hpending ↦ ?_, OrderFlow.machine_withOpenLimit hprovider⟩
  have hjudged := ((OrderFlow.inv_of_reaches h).shard i).passed pending hpending
  obtain ⟨state, hallow⟩ := hjudged.allows hprovider
  exact ShardRiskGate.withinOrderLimits_of_allow rfl hallow

/-- Of the three intents of shard 1 two are within the limit, which a limit on open orders would not
change. -/
theorem shard_limits_over_ledger_two_runners : ∃ s,
    (OrderFlow.machine twoRunners).Reaches (.create twoRunners {} {}) s ∧
      (s.enqueuedOf 1).map (fun pending ↦ pending.intent.qtyLots) = [5, 7] ∧
      (∀ pending ∈ s.enqueuedOf 1,
        ShardRiskGate.WithinOrderLimits twoRunners.runner.shardRisk pending.intent) ∧
      OrderFlow.machine (OrderFlow.withOpenLimit twoRunners 1) = OrderFlow.machine twoRunners := by
  have hrun : ((OrderFlow.machine twoRunners).runVia (fun _ _ ↦ True)
      (.create twoRunners {} {}) twoRunnersRun).any (fun s ↦
        (s.enqueuedOf 1).map (fun pending ↦ pending.intent.qtyLots) = [5, 7]) = true := by
    decide +kernel
  obtain ⟨s, hreaches, hlast⟩ := Machine.exists_of_runVia hrun
  have hprovider : twoRunners.runner.riskSnapshotProvider =
      some (LedgerShardRiskSnapshotProvider PositionLedger.snapshotProvider) := rfl
  obtain ⟨hwithin, hsame⟩ := shard_limits_over_ledger hprovider
  exact ⟨s, hreaches, of_decide_eq_true hlast, hwithin hreaches 1, hsame 1⟩

end TradingEngine
