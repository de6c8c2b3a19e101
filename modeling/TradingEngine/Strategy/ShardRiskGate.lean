import TradingEngine.Oms.RiskGates

/-!
# The risk gate of a shard

`ShardRiskGate` judges the intents of a strategy before they reach the order manager, against the
open orders, the working quantity and the position of their market. It is stricter than the gates of
the order manager about the intent itself: an action it does not know is refused, and so is an
intent without side or quantity. The arithmetic is a parameter, and `evaluate` is the gate over the
integers.
-/

namespace TradingEngine

structure ShardRiskConfig where
  maxOpenOrdersPerMarket : ℕ := 0
  maxWorkingQtyPerMarket : ℤ := 0
  maxAbsNetPositionPerMarket : ℤ := 0
  deriving DecidableEq

structure ShardRiskSnapshot where
  openOrdersMarket : ℕ := 0
  workingQtyMarket : ℤ := 0
  netPositionMarket : ℤ := 0
  deriving DecidableEq

inductive ShardRiskRejectCode
  | none | invalidIntent | openOrdersPerMarketLimit | workingQtyPerMarketLimit
  | absNetPositionPerMarketLimit
  deriving DecidableEq

structure ShardRiskDecision where
  allow : Bool := true
  code : ShardRiskRejectCode := .none
  reasonMessage : String := ""
  deriving DecidableEq

namespace ShardRiskGate

def allowDecision : ShardRiskDecision := {}

def reject (code : ShardRiskRejectCode) (reasonMessage : String) : ShardRiskDecision :=
  { allow := false, code, reasonMessage }

/-- The helper of the portfolio gate, copied in the source. -/
def signedIntentQtyWith : Arithmetic → OrderIntent → ℤ := PortfolioRiskGate.signedIntentQtyWith

/-- The checks run in the order of the source; the first one that fails names the reject. -/
def evaluateWith (arithmetic : Arithmetic) (config : ShardRiskConfig) (intent : OrderIntent)
    (snapshot : ShardRiskSnapshot) : ShardRiskDecision :=
  if intent.action = .cancel then allowDecision
  else if intent.action ≠ .place ∧ intent.action ≠ .replace then
    reject .invalidIntent "shard risk reject: action is invalid"
  else
    let intentSignedQty := signedIntentQtyWith arithmetic intent
    if intentSignedQty = 0 then
      reject .invalidIntent "shard risk reject: side/qty is invalid"
    else if config.maxOpenOrdersPerMarket > 0 ∧
        arithmetic.increment snapshot.openOrdersMarket > config.maxOpenOrdersPerMarket then
      reject .openOrdersPerMarketLimit "shard risk reject: max_open_orders_per_market exceeded"
    else if config.maxWorkingQtyPerMarket > 0 ∧
        arithmetic.add snapshot.workingQtyMarket intent.qtyLots >
          config.maxWorkingQtyPerMarket then
      reject .workingQtyPerMarketLimit "shard risk reject: max_working_qty_per_market exceeded"
    else
      let projectedNetPosition := arithmetic.add snapshot.netPositionMarket intentSignedQty
      if config.maxAbsNetPositionPerMarket > 0 ∧
          arithmetic.abs projectedNetPosition > config.maxAbsNetPositionPerMarket then
        reject .absNetPositionPerMarketLimit
          "shard risk reject: max_abs_net_position_per_market exceeded"
      else allowDecision

def evaluate : ShardRiskConfig → OrderIntent → ShardRiskSnapshot → ShardRiskDecision :=
  evaluateWith .exact

def rejectCodeName : ShardRiskRejectCode → String
  | .none => "none"
  | .invalidIntent => "invalid_intent"
  | .openOrdersPerMarketLimit => "open_orders_per_market_limit"
  | .workingQtyPerMarketLimit => "working_qty_per_market_limit"
  | .absNetPositionPerMarketLimit => "abs_net_position_per_market_limit"

end ShardRiskGate

end TradingEngine
