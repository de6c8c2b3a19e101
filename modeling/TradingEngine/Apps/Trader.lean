import TradingEngine.Adapters.KalshiOms
import TradingEngine.Oms.OrderManager
import TradingEngine.Oms.PaperOrderTransport
import TradingEngine.Oms.PositionLedger

/-!
# The trader in paper mode

How `apps/trader/main.cpp` puts the order manager together in paper mode: the Kalshi adapter, the
paper transport with automatic fills, and one ledger that is both the event sink and the provider of
portfolio snapshots.
-/

namespace TradingEngine.Trader

/-- The order manager of the trader, for any JSON library and any limits. -/
def paperConfig {Text : Type*} (json : JsonLibrary Text) (globalRisk : GlobalRiskConfig)
    (portfolioRisk : PortfolioRiskConfig) :
    OrderManagerConfig Text (PaperOrderTransport.State Text) PositionLedger where
  adapter := Kalshi.omsAdapter json
  transport := PaperOrderTransport.transport json true
  eventSink := PositionLedger.eventSink
  portfolioSnapshotProvider := some PositionLedger.snapshotProvider
  globalRisk := globalRisk
  portfolioRisk := portfolioRisk

/-- The trader as constructed, with an empty ledger. -/
def paperInit {Text : Type*} (json : JsonLibrary Text) (globalRisk : GlobalRiskConfig)
    (portfolioRisk : PortfolioRiskConfig) :
    OrderManager Text (PaperOrderTransport.State Text) PositionLedger :=
  OrderManager.init (paperConfig json globalRisk portfolioRisk) {} {}

/-- The trader with every limit switched off, over documents as texts. -/
abbrev unlimited : OrderManagerConfig (Option Json) (PaperOrderTransport.State (Option Json))
    PositionLedger :=
  paperConfig JsonLibrary.trees {} {}

/-! ## Scripts for concrete runs -/

/-- A complete place of a Kalshi order. -/
def placeIntent (clientOrderId marketTicker : String) (side : Side) (qtyLots limitPrice : ℤ) :
    OrderIntent where
  exchange := .kalshi
  action := .place
  clientOrderId := clientOrderId
  marketTicker := marketTicker
  side := side
  qtyLots := qtyLots
  limitPriceTicks := some limitPrice
  timeInForce := .gtc

/-- The four regions of a submission, one after the other. -/
def submit (thread : ThreadId) (intent : OrderIntent) : List OrderManagerInput :=
  [.submitBegin thread intent 1, .submitTrack thread, .submitEnqueue thread, .submitCount thread]

/-- One pass of the worker over the queue with `n` intents that pass both gates, up to and
including the last send, from the head of its loop. -/
def drain (n : ℕ) : List OrderManagerInput := List.replicate (2 + 3 * n) (.worker 2)

end TradingEngine.Trader
