import TradingEngine.Oms.Interfaces
import TradingEngine.Oms.PositionLedgerCore

/-!
# The position ledger as event sink and snapshot provider

`PositionLedger` puts a lock around `PositionLedgerCore` and remembers the last error. It receives
the accepted updates of the order manager and answers the portfolio gate.
-/

namespace TradingEngine

structure PositionLedger where
  core : PositionLedgerCore := {}
  lastError : String := ""

namespace PositionLedger

def onOrderUpdate (ledger : PositionLedger) (update : OrderStateUpdate) : Bool × PositionLedger :=
  match ledger.core.onOrderUpdate update with
  | (.ok (), core) => (true, { ledger with core := core })
  | (.error message, core) => (false, { core := core, lastError := message })

def snapshotFor (ledger : PositionLedger) (exchange : ExchangeId) (marketTicker : String) :
    PortfolioRiskSnapshot :=
  ledger.core.portfolioRiskSnapshot exchange marketTicker

def eventSink : IOrderEventSink PositionLedger where
  onOrderUpdate := onOrderUpdate

def snapshotProvider : IPortfolioRiskSnapshotProvider PositionLedger where
  snapshotFor := snapshotFor

@[simp] theorem onOrderUpdate_core (ledger : PositionLedger) (update : OrderStateUpdate) :
    (ledger.onOrderUpdate update).2.core = (ledger.core.onOrderUpdate update).2 := by
  rw [onOrderUpdate]
  split
  · rename_i core h
    rw [h]
  · rename_i message core h
    rw [h]

end PositionLedger

end TradingEngine
