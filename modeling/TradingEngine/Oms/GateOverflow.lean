import TradingEngine.Strategy.ShardRiskGate

/-!
# Risk gates in 64-bit arithmetic

The three gates are written down over the integers, and the source computes them with signed 64-bit
numbers. The quantity of an intent is whatever a strategy sends, and it is added to running totals:
a sum past 2⁶³ looks negative and passes every limit, which lets through exactly the largest orders
(`oversized_order_admitted`).

Both readings of a gate are one definition over an `Arithmetic`. Two readings of a chain of checks
agree when the first check that fails is the same, so an overflow matters only where its check is
reached: `gate_decisions_faithful_iff` says for each gate which inputs these are.
-/

namespace TradingEngine

open Arithmetic (SumMisjudged AbsMisjudged TotalMisjudged int64)
open Json (IsInt64 wrapInt64)

/-! ## Where an overflow changes the decision -/

/-- The allow flag and the reject code; the text follows from the code. -/
def GlobalRiskDecision.verdict (decision : GlobalRiskDecision) : Bool × GlobalRiskRejectCode :=
  (decision.allow, decision.code)

def PortfolioRiskDecision.verdict (decision : PortfolioRiskDecision) :
    Bool × PortfolioRiskRejectCode :=
  (decision.allow, decision.code)

def ShardRiskDecision.verdict (decision : ShardRiskDecision) : Bool × ShardRiskRejectCode :=
  (decision.allow, decision.code)

/-- A check of the outstanding quantity is reached with a sum that the machine misjudges. -/
def GlobalRiskGate.Overflows (config : GlobalRiskConfig) (intent : OrderIntent)
    (snapshot : GlobalRiskSnapshot) : Prop :=
  intent.Creates ∧
  ¬(0 < config.maxActiveOrdersGlobal ∧
    config.maxActiveOrdersGlobal ≤ snapshot.activeOrdersGlobal) ∧
  ¬(0 < config.maxActiveOrdersPerMarket ∧
    config.maxActiveOrdersPerMarket ≤ snapshot.activeOrdersMarket) ∧
  ((0 < config.maxOutstandingQtyGlobal ∧
      SumMisjudged (snapshot.outstandingQtyGlobal + max intent.qtyLots 0)) ∨
    (¬(0 < config.maxOutstandingQtyGlobal ∧ config.maxOutstandingQtyGlobal <
        snapshot.outstandingQtyGlobal + max intent.qtyLots 0) ∧
      0 < config.maxOutstandingQtyPerMarket ∧
      SumMisjudged (snapshot.outstandingQtyMarket + max intent.qtyLots 0)))

/-- A check of the position is reached with a position, or a gross position, that the machine
misjudges. -/
def PortfolioRiskGate.Overflows (config : PortfolioRiskConfig) (intent : OrderIntent)
    (snapshot : PortfolioRiskSnapshot) : Prop :=
  intent.Creates ∧
  ¬(config.enforceRealizedPnlFloor ∧
    snapshot.realizedPnlTicksTotal < config.minRealizedPnlTicks) ∧
  PortfolioRiskGate.signedIntentQty intent ≠ 0 ∧
  ((0 < config.maxAbsNetPositionPerMarket ∧
      AbsMisjudged config.maxAbsNetPositionPerMarket
        (snapshot.netPositionMarket + PortfolioRiskGate.signedIntentQty intent)) ∨
    (¬(0 < config.maxAbsNetPositionPerMarket ∧ config.maxAbsNetPositionPerMarket <
        |snapshot.netPositionMarket + PortfolioRiskGate.signedIntentQty intent|) ∧
      0 < config.maxAbsPositionGrossGlobal ∧
      TotalMisjudged config.maxAbsPositionGrossGlobal snapshot.grossPositionGlobal
        snapshot.netPositionMarket
        (snapshot.netPositionMarket + PortfolioRiskGate.signedIntentQty intent)))

/-- The count of open orders is full, or a check of the working quantity or of the position is
reached with a value that the machine misjudges. -/
def ShardRiskGate.Overflows (config : ShardRiskConfig) (intent : OrderIntent)
    (snapshot : ShardRiskSnapshot) : Prop :=
  intent.Creates ∧ PortfolioRiskGate.signedIntentQty intent ≠ 0 ∧
  ((0 < config.maxOpenOrdersPerMarket ∧ snapshot.openOrdersMarket = 2 ^ 64 - 1) ∨
    (¬(0 < config.maxOpenOrdersPerMarket ∧
        config.maxOpenOrdersPerMarket < snapshot.openOrdersMarket + 1) ∧
      ((0 < config.maxWorkingQtyPerMarket ∧
          SumMisjudged (snapshot.workingQtyMarket + intent.qtyLots)) ∨
        (¬(0 < config.maxWorkingQtyPerMarket ∧
            config.maxWorkingQtyPerMarket < snapshot.workingQtyMarket + intent.qtyLots) ∧
          0 < config.maxAbsNetPositionPerMarket ∧
          AbsMisjudged config.maxAbsNetPositionPerMarket
            (snapshot.netPositionMarket + PortfolioRiskGate.signedIntentQty intent)))))

/-! ## Values of the types of the source -/

/-- Limits that are not negative. -/
structure GlobalRiskConfig.InRange (config : GlobalRiskConfig) : Prop where
  global_nonneg : 0 ≤ config.maxOutstandingQtyGlobal
  global : IsInt64 config.maxOutstandingQtyGlobal
  market_nonneg : 0 ≤ config.maxOutstandingQtyPerMarket
  market : IsInt64 config.maxOutstandingQtyPerMarket

structure GlobalRiskSnapshot.InRange (snapshot : GlobalRiskSnapshot) : Prop where
  global : IsInt64 snapshot.outstandingQtyGlobal
  market : IsInt64 snapshot.outstandingQtyMarket

structure PortfolioRiskConfig.InRange (config : PortfolioRiskConfig) : Prop where
  net_nonneg : 0 ≤ config.maxAbsNetPositionPerMarket
  net : IsInt64 config.maxAbsNetPositionPerMarket
  gross_nonneg : 0 ≤ config.maxAbsPositionGrossGlobal
  gross : IsInt64 config.maxAbsPositionGrossGlobal

structure PortfolioRiskSnapshot.InRange (snapshot : PortfolioRiskSnapshot) : Prop where
  net : IsInt64 snapshot.netPositionMarket
  gross : IsInt64 snapshot.grossPositionGlobal

structure ShardRiskConfig.InRange (config : ShardRiskConfig) : Prop where
  orders : config.maxOpenOrdersPerMarket < 2 ^ 64
  working_nonneg : 0 ≤ config.maxWorkingQtyPerMarket
  working : IsInt64 config.maxWorkingQtyPerMarket
  net_nonneg : 0 ≤ config.maxAbsNetPositionPerMarket
  net : IsInt64 config.maxAbsNetPositionPerMarket

structure ShardRiskSnapshot.InRange (snapshot : ShardRiskSnapshot) : Prop where
  orders : snapshot.openOrdersMarket < 2 ^ 64
  working : IsInt64 snapshot.workingQtyMarket
  net : IsInt64 snapshot.netPositionMarket

/-! ## Faithful decisions -/

/-- A check of a limit that is switched on. -/
theorem check_iff {limit value value' : ℤ} {misjudged : Prop}
    (h : (limit < value ↔ limit < value') ↔ ¬misjudged) :
    ((limit > 0 ∧ value > limit ↔ limit > 0 ∧ value' > limit) ↔ ¬(0 < limit ∧ misjudged)) := by
  rw [gt_iff_lt, gt_iff_lt, gt_iff_lt, and_congr_right_iff, h, not_and]

namespace GlobalRiskGate

variable {config : GlobalRiskConfig} {intent : OrderIntent} {snapshot : GlobalRiskSnapshot}

/-- The part of the gate that adds. -/
theorem verdict_evaluateWith (arithmetic : Arithmetic) (hcreates : intent.Creates)
    (hglobal : ¬(config.maxActiveOrdersGlobal > 0 ∧
      snapshot.activeOrdersGlobal ≥ config.maxActiveOrdersGlobal))
    (hmarket : ¬(config.maxActiveOrdersPerMarket > 0 ∧
      snapshot.activeOrdersMarket ≥ config.maxActiveOrdersPerMarket)) :
    (evaluateWith arithmetic config intent snapshot).verdict =
      if config.maxOutstandingQtyGlobal > 0 ∧ arithmetic.add snapshot.outstandingQtyGlobal
          (max intent.qtyLots 0) > config.maxOutstandingQtyGlobal then
        (false, .outstandingQtyGlobalLimit)
      else if config.maxOutstandingQtyPerMarket > 0 ∧ arithmetic.add snapshot.outstandingQtyMarket
          (max intent.qtyLots 0) > config.maxOutstandingQtyPerMarket then
        (false, .outstandingQtyMarketLimit)
      else (true, .none) := by
  obtain ⟨hcancel, hother⟩ := (creates_iff intent).mp hcreates
  rw [evaluateWith, if_neg hcancel, if_neg hother, if_neg hglobal, if_neg hmarket]
  dsimp only [clampNonNegative]
  rw [apply_ite GlobalRiskDecision.verdict, apply_ite GlobalRiskDecision.verdict]
  rfl

/-- Ahead of it there is nothing to compute. -/
theorem evaluateWith_of_not (arithmetic : Arithmetic)
    (h : ¬(intent.Creates ∧
      ¬(config.maxActiveOrdersGlobal > 0 ∧
        snapshot.activeOrdersGlobal ≥ config.maxActiveOrdersGlobal) ∧
      ¬(config.maxActiveOrdersPerMarket > 0 ∧
        snapshot.activeOrdersMarket ≥ config.maxActiveOrdersPerMarket))) :
    evaluateWith arithmetic config intent snapshot = evaluate config intent snapshot := by
  rw [creates_iff] at h
  rw [evaluate, evaluateWith, evaluateWith]
  split_ifs with hcancel hother hglobal hmarket
  · rfl
  · rfl
  · rfl
  · rfl
  · exact absurd ⟨⟨hcancel, hother⟩, hglobal, hmarket⟩ h

theorem faithful_iff (hconfig : config.InRange) (hsnapshot : snapshot.InRange)
    (hqty : IsInt64 intent.qtyLots) :
    (evaluateWith .int64 config intent snapshot).verdict =
        (evaluate config intent snapshot).verdict ↔
      ¬Overflows config intent snapshot := by
  by_cases hreached : intent.Creates ∧
      ¬(config.maxActiveOrdersGlobal > 0 ∧
        snapshot.activeOrdersGlobal ≥ config.maxActiveOrdersGlobal) ∧
      ¬(config.maxActiveOrdersPerMarket > 0 ∧
        snapshot.activeOrdersMarket ≥ config.maxActiveOrdersPerMarket)
  · obtain ⟨hcreates, hglobal, hmarket⟩ := hreached
    have hmax : max intent.qtyLots 0 < 2 ^ 63 := max_lt hqty.2 (by decide)
    have hsum := check_iff (Arithmetic.lt_add_iff hconfig.global_nonneg hconfig.global.2
      hsnapshot.global (le_max_right intent.qtyLots 0) hmax)
    have hsumMarket := check_iff (Arithmetic.lt_add_iff hconfig.market_nonneg hconfig.market.2
      hsnapshot.market (le_max_right intent.qtyLots 0) hmax)
    rw [evaluate, verdict_evaluateWith .int64 hcreates hglobal hmarket,
      verdict_evaluateWith .exact hcreates hglobal hmarket, Overflows, and_iff_right hcreates,
      and_iff_right hglobal, and_iff_right hmarket]
    refine ite_eq_ite_iff ?_ ?_ hsum (ite_eq_ite_iff_last (by simp) hsumMarket)
    · split <;> simp
    · split <;> simp
  · rw [evaluateWith_of_not .int64 hreached]
    refine iff_of_true rfl fun hoverflows ↦ hreached ?_
    exact ⟨hoverflows.1, hoverflows.2.1, hoverflows.2.2.1⟩

end GlobalRiskGate

theorem abs_signedIntentQty_lt {intent : OrderIntent} (hqty : IsInt64 intent.qtyLots) :
    |PortfolioRiskGate.signedIntentQty intent| < 2 ^ 63 := by
  obtain ⟨_, hmax⟩ := hqty
  rw [PortfolioRiskGate.signedIntentQty, PortfolioRiskGate.signedIntentQtyWith,
    Arithmetic.exact_neg, abs_lt]
  split
  · decide
  · split <;> omega

namespace PortfolioRiskGate

variable {config : PortfolioRiskConfig} {intent : OrderIntent} {snapshot : PortfolioRiskSnapshot}

/-- The part of the gate that adds. -/
theorem verdict_evaluateWith {arithmetic : Arithmetic} (hcreates : intent.Creates)
    (hfloor : ¬(config.enforceRealizedPnlFloor ∧
      snapshot.realizedPnlTicksTotal < config.minRealizedPnlTicks))
    (hsigned : signedIntentQty intent ≠ 0)
    (hneg : signedIntentQtyWith arithmetic intent = signedIntentQty intent) :
    (evaluateWith arithmetic config intent snapshot).verdict =
      if config.maxAbsNetPositionPerMarket > 0 ∧
          arithmetic.abs (arithmetic.add snapshot.netPositionMarket (signedIntentQty intent)) >
            config.maxAbsNetPositionPerMarket then
        (false, .absNetPositionMarketLimit)
      else if config.maxAbsPositionGrossGlobal > 0 ∧
          arithmetic.add
            (arithmetic.sub snapshot.grossPositionGlobal
              (arithmetic.abs snapshot.netPositionMarket))
            (arithmetic.abs (arithmetic.add snapshot.netPositionMarket (signedIntentQty intent))) >
            config.maxAbsPositionGrossGlobal then
        (false, .absPositionGrossGlobalLimit)
      else (true, .none) := by
  obtain ⟨hcancel, hother⟩ := (creates_iff intent).mp hcreates
  rw [evaluateWith, if_neg hcancel, if_neg hother, if_neg hfloor]
  dsimp only
  rw [hneg, if_neg hsigned, apply_ite PortfolioRiskDecision.verdict,
    apply_ite PortfolioRiskDecision.verdict]
  rfl

/-- Ahead of it there is nothing to compute. -/
theorem evaluateWith_of_not {arithmetic : Arithmetic}
    (hneg : signedIntentQtyWith arithmetic intent = signedIntentQty intent)
    (h : ¬(intent.Creates ∧
      ¬(config.enforceRealizedPnlFloor ∧
        snapshot.realizedPnlTicksTotal < config.minRealizedPnlTicks) ∧
      signedIntentQty intent ≠ 0)) :
    evaluateWith arithmetic config intent snapshot = evaluate config intent snapshot := by
  rw [creates_iff] at h
  have hexact : signedIntentQtyWith .exact intent = signedIntentQty intent := rfl
  rw [evaluate, evaluateWith, evaluateWith, hneg, hexact]
  split_ifs with hcancel hother hfloor
  · rfl
  · rfl
  · rfl
  · have hsigned : signedIntentQty intent = 0 :=
      not_not.mp fun hsigned ↦ h ⟨⟨hcancel, hother⟩, hfloor, hsigned⟩
    dsimp only
    rw [if_pos hsigned, if_pos hsigned]

theorem faithful_iff (hconfig : config.InRange) (hsnapshot : snapshot.InRange)
    (hqty : IsInt64 intent.qtyLots) :
    (evaluateWith .int64 config intent snapshot).verdict =
        (evaluate config intent snapshot).verdict ↔
      ¬Overflows config intent snapshot := by
  have hneg : signedIntentQtyWith .int64 intent = signedIntentQty intent :=
    signedIntentQtyWith_int64 hqty
  by_cases hreached : intent.Creates ∧
      ¬(config.enforceRealizedPnlFloor ∧
        snapshot.realizedPnlTicksTotal < config.minRealizedPnlTicks) ∧
      signedIntentQty intent ≠ 0
  · obtain ⟨hcreates, hfloor, hsigned⟩ := hreached
    have hsmall := abs_signedIntentQty_lt hqty
    have hnet := check_iff (Arithmetic.lt_abs_add_iff hconfig.net_nonneg hconfig.net.2
      hsnapshot.net hsmall)
    have hgross := check_iff (Arithmetic.lt_total_iff hconfig.gross_nonneg hconfig.gross.2
      hsnapshot.gross hsnapshot.net hsmall)
    rw [evaluate, verdict_evaluateWith hcreates hfloor hsigned hneg,
      verdict_evaluateWith hcreates hfloor hsigned rfl, Overflows, and_iff_right hcreates,
      and_iff_right hfloor, and_iff_right hsigned]
    refine ite_eq_ite_iff ?_ ?_ hnet (ite_eq_ite_iff_last (by simp) hgross)
    · split <;> simp
    · split <;> simp
  · rw [evaluateWith_of_not hneg hreached]
    refine iff_of_true rfl fun hoverflows ↦ hreached ?_
    exact ⟨hoverflows.1, hoverflows.2.1, hoverflows.2.2.1⟩

end PortfolioRiskGate

namespace ShardRiskGate

variable {config : ShardRiskConfig} {intent : OrderIntent} {snapshot : ShardRiskSnapshot}

/-- The part of the gate that adds. -/
theorem verdict_evaluateWith {arithmetic : Arithmetic} (hcreates : intent.Creates)
    (hsigned : PortfolioRiskGate.signedIntentQty intent ≠ 0)
    (hneg : signedIntentQtyWith arithmetic intent = PortfolioRiskGate.signedIntentQty intent) :
    (evaluateWith arithmetic config intent snapshot).verdict =
      if config.maxOpenOrdersPerMarket > 0 ∧
          arithmetic.increment snapshot.openOrdersMarket > config.maxOpenOrdersPerMarket then
        (false, .openOrdersPerMarketLimit)
      else if config.maxWorkingQtyPerMarket > 0 ∧
          arithmetic.add snapshot.workingQtyMarket intent.qtyLots >
            config.maxWorkingQtyPerMarket then
        (false, .workingQtyPerMarketLimit)
      else if config.maxAbsNetPositionPerMarket > 0 ∧
          arithmetic.abs (arithmetic.add snapshot.netPositionMarket
            (PortfolioRiskGate.signedIntentQty intent)) > config.maxAbsNetPositionPerMarket then
        (false, .absNetPositionPerMarketLimit)
      else (true, .none) := by
  obtain ⟨hcancel, hother⟩ := (creates_iff intent).mp hcreates
  rw [evaluateWith, if_neg hcancel, if_neg hother]
  dsimp only
  rw [hneg, if_neg hsigned, apply_ite ShardRiskDecision.verdict,
    apply_ite ShardRiskDecision.verdict, apply_ite ShardRiskDecision.verdict]
  rfl

/-- Ahead of it there is nothing to compute. -/
theorem evaluateWith_of_not {arithmetic : Arithmetic}
    (hneg : signedIntentQtyWith arithmetic intent = PortfolioRiskGate.signedIntentQty intent)
    (h : ¬(intent.Creates ∧ PortfolioRiskGate.signedIntentQty intent ≠ 0)) :
    evaluateWith arithmetic config intent snapshot = evaluate config intent snapshot := by
  rw [creates_iff] at h
  have hexact : signedIntentQtyWith .exact intent = PortfolioRiskGate.signedIntentQty intent := rfl
  rw [evaluate, evaluateWith, evaluateWith, hneg, hexact]
  by_cases hcancel : intent.action = .cancel
  · rw [if_pos hcancel, if_pos hcancel]
  by_cases hother : intent.action ≠ .place ∧ intent.action ≠ .replace
  · rw [if_neg hcancel, if_neg hcancel, if_pos hother, if_pos hother]
  have hsigned : PortfolioRiskGate.signedIntentQty intent = 0 :=
    not_not.mp fun hsigned ↦ h ⟨⟨hcancel, hother⟩, hsigned⟩
  rw [if_neg hcancel, if_neg hcancel, if_neg hother, if_neg hother]
  dsimp only
  rw [if_pos hsigned, if_pos hsigned]

/-- One more than the largest count is none. -/
theorem increment_check_iff (hconfig : config.InRange) (hsnapshot : snapshot.InRange) :
    (config.maxOpenOrdersPerMarket > 0 ∧
        int64.increment snapshot.openOrdersMarket > config.maxOpenOrdersPerMarket ↔
      config.maxOpenOrdersPerMarket > 0 ∧
        Arithmetic.exact.increment snapshot.openOrdersMarket > config.maxOpenOrdersPerMarket) ↔
      ¬(0 < config.maxOpenOrdersPerMarket ∧ snapshot.openOrdersMarket = 2 ^ 64 - 1) := by
  have hlimit := hconfig.orders
  have hcount := hsnapshot.orders
  rw [int64, Arithmetic.exact_increment]
  dsimp only
  omega

theorem faithful_iff (hconfig : config.InRange) (hsnapshot : snapshot.InRange)
    (hqty : IsInt64 intent.qtyLots) :
    (evaluateWith .int64 config intent snapshot).verdict =
        (evaluate config intent snapshot).verdict ↔
      ¬Overflows config intent snapshot := by
  have hneg : signedIntentQtyWith .int64 intent = PortfolioRiskGate.signedIntentQty intent :=
    PortfolioRiskGate.signedIntentQtyWith_int64 hqty
  by_cases hreached : intent.Creates ∧ PortfolioRiskGate.signedIntentQty intent ≠ 0
  · obtain ⟨hcreates, hsigned⟩ := hreached
    have hpos : 0 ≤ intent.qtyLots := by
      by_contra hneg
      exact hsigned (if_pos (not_le.mp hneg).le)
    have hworking := check_iff (Arithmetic.lt_add_iff hconfig.working_nonneg hconfig.working.2
      hsnapshot.working hpos hqty.2)
    have hnet := check_iff (Arithmetic.lt_abs_add_iff hconfig.net_nonneg hconfig.net.2
      hsnapshot.net (abs_signedIntentQty_lt hqty))
    rw [evaluate, verdict_evaluateWith hcreates hsigned hneg,
      verdict_evaluateWith hcreates hsigned rfl, Overflows, and_iff_right hcreates,
      and_iff_right hsigned]
    refine ite_eq_ite_iff ?_ ?_ (increment_check_iff hconfig hsnapshot)
      (ite_eq_ite_iff ?_ ?_ hworking (ite_eq_ite_iff_last (by simp) hnet))
    · split_ifs <;> simp
    · split_ifs <;> simp
    · split <;> simp
    · split <;> simp
  · rw [evaluateWith_of_not hneg hreached]
    exact iff_of_true rfl fun hoverflows ↦ hreached ⟨hoverflows.1, hoverflows.2.1⟩

end ShardRiskGate

/-- **The gates decide as their rules do over the integers** exactly where no check is reached with
a value that the machine misjudges. -/
theorem gate_decisions_faithful_iff {intent : OrderIntent} (hqty : IsInt64 intent.qtyLots)
    {globalConfig : GlobalRiskConfig} (hglobal : globalConfig.InRange)
    {globalSnapshot : GlobalRiskSnapshot} (hglobal' : globalSnapshot.InRange)
    {portfolioConfig : PortfolioRiskConfig} (hportfolio : portfolioConfig.InRange)
    {portfolioSnapshot : PortfolioRiskSnapshot} (hportfolio' : portfolioSnapshot.InRange)
    {shardConfig : ShardRiskConfig} (hshard : shardConfig.InRange)
    {shardSnapshot : ShardRiskSnapshot} (hshard' : shardSnapshot.InRange) :
    ((GlobalRiskGate.evaluateWith .int64 globalConfig intent globalSnapshot).verdict =
        (GlobalRiskGate.evaluate globalConfig intent globalSnapshot).verdict ↔
      ¬GlobalRiskGate.Overflows globalConfig intent globalSnapshot) ∧
    ((PortfolioRiskGate.evaluateWith .int64 portfolioConfig intent portfolioSnapshot).verdict =
        (PortfolioRiskGate.evaluate portfolioConfig intent portfolioSnapshot).verdict ↔
      ¬PortfolioRiskGate.Overflows portfolioConfig intent portfolioSnapshot) ∧
    ((ShardRiskGate.evaluateWith .int64 shardConfig intent shardSnapshot).verdict =
        (ShardRiskGate.evaluate shardConfig intent shardSnapshot).verdict ↔
      ¬ShardRiskGate.Overflows shardConfig intent shardSnapshot) :=
  ⟨GlobalRiskGate.faithful_iff hglobal hglobal' hqty,
    PortfolioRiskGate.faithful_iff hportfolio hportfolio' hqty,
    ShardRiskGate.faithful_iff hshard hshard' hqty⟩

namespace GateOverflowExample

/-- All three gates are set to 100 lots, and one lot is there. -/
def globalConfig : GlobalRiskConfig where
  maxOutstandingQtyGlobal := 100

def globalSnapshot : GlobalRiskSnapshot where
  outstandingQtyGlobal := 1

def portfolioConfig : PortfolioRiskConfig where
  maxAbsNetPositionPerMarket := 100

def portfolioSnapshot : PortfolioRiskSnapshot where
  netPositionMarket := 1

def shardConfig : ShardRiskConfig where
  maxWorkingQtyPerMarket := 100

def shardSnapshot : ShardRiskSnapshot where
  workingQtyMarket := 1

end GateOverflowExample

open SampleOrders GateOverflowExample in
/-- The largest order there is passes every gate, and none of them should let it through. -/
theorem oversized_order_admitted :
    ((GlobalRiskGate.evaluateWith .int64 globalConfig (buy (2 ^ 63 - 1)) globalSnapshot).verdict =
        (true, .none) ∧
      (GlobalRiskGate.evaluate globalConfig (buy (2 ^ 63 - 1)) globalSnapshot).verdict =
        (false, .outstandingQtyGlobalLimit)) ∧
    ((PortfolioRiskGate.evaluateWith .int64 portfolioConfig (buy (2 ^ 63 - 1))
        portfolioSnapshot).verdict = (true, .none) ∧
      (PortfolioRiskGate.evaluate portfolioConfig (buy (2 ^ 63 - 1)) portfolioSnapshot).verdict =
        (false, .absNetPositionMarketLimit)) ∧
    ((ShardRiskGate.evaluateWith .int64 shardConfig (buy (2 ^ 63 - 1)) shardSnapshot).verdict =
        (true, .none) ∧
      (ShardRiskGate.evaluate shardConfig (buy (2 ^ 63 - 1)) shardSnapshot).verdict =
        (false, .workingQtyPerMarketLimit)) := by
  decide

open SampleOrders GateOverflowExample in
theorem gate_decisions_faithful_small :
    ¬GlobalRiskGate.Overflows globalConfig (buy 10) globalSnapshot ∧
      ¬PortfolioRiskGate.Overflows portfolioConfig (buy 10) portfolioSnapshot ∧
      ¬ShardRiskGate.Overflows shardConfig (buy 10) shardSnapshot := by
  obtain ⟨hglobal, hportfolio, hshard⟩ := gate_decisions_faithful_iff
    (show IsInt64 (buy 10).qtyLots by decide)
    (show globalConfig.InRange from ⟨by decide, by decide, by decide, by decide⟩)
    (show globalSnapshot.InRange from ⟨by decide, by decide⟩)
    (show portfolioConfig.InRange from ⟨by decide, by decide, by decide, by decide⟩)
    (show portfolioSnapshot.InRange from ⟨by decide, by decide⟩)
    (show shardConfig.InRange from ⟨by decide, by decide, by decide, by decide, by decide⟩)
    (show shardSnapshot.InRange from ⟨by decide, by decide, by decide⟩)
  exact ⟨hglobal.mp (by decide), hportfolio.mp (by decide), hshard.mp (by decide)⟩

end TradingEngine
