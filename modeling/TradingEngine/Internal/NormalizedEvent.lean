import TradingEngine.Internal.Types

/-!
# Normalized market events

The event a parser hands to a shard. The sequence id of an event is the one the exchange message
carried, or else the one in its metadata, where zero means that there is none.
-/

namespace TradingEngine

inductive EventType
  | unknown | snapshot | delta | trade | heartbeat | status
  deriving DecidableEq

structure EventMeta where
  exchange : ExchangeId := .unknown
  marketId : ℕ := 0
  sequenceId : ℕ := 0
  recvNs : ℕ := 0
  exchangeTsNs : ℕ := 0
  deriving DecidableEq

structure Level where
  priceTicks : ℤ := 0
  qtyLots : ℤ := 0
  deriving DecidableEq

structure SnapshotData where
  bids : List Level := []
  asks : List Level := []
  deriving DecidableEq

structure DeltaData where
  side : Side := .unknown
  priceTicks : ℤ := 0
  deltaQtyLots : ℤ := 0
  deriving DecidableEq

structure TradeData where
  priceTicks : ℤ := 0
  qtyLots : ℤ := 0
  aggressor : Side := .unknown
  tradeId : Option String := none
  deriving DecidableEq

inductive EventData
  | monostate
  | snapshot (snapshot : SnapshotData)
  | delta (delta : DeltaData)
  | trade (trade : TradeData)
  deriving DecidableEq

/-- A market event. `raw_payload` is left out: it is kept for audit and read by nobody. -/
structure NormalizedEvent where
  type : EventType := .unknown
  eventMeta : EventMeta := {}
  marketTicker : String := ""
  rawSequenceId : Option ℕ := none
  data : EventData := .monostate
  deriving DecidableEq

def NormalizedEvent.effectiveSequenceId (event : NormalizedEvent) : Option ℕ :=
  match event.rawSequenceId with
  | some id => some id
  | none => if event.eventMeta.sequenceId ≠ 0 then some event.eventMeta.sequenceId else none

/-! ## Samples

Events of one market, for the concrete runs that go with the theorems. -/

namespace SampleEvents

def snapshot (sequenceId : ℕ) (bids : List Level) : NormalizedEvent where
  type := .snapshot
  marketTicker := "KXBTC-YES"
  rawSequenceId := some sequenceId
  data := .snapshot { bids }

def delta (sequenceId : Option ℕ) (side : Side) (priceTicks deltaQtyLots : ℤ) :
    NormalizedEvent where
  type := .delta
  marketTicker := "KXBTC-YES"
  rawSequenceId := sequenceId
  data := .delta { side, priceTicks, deltaQtyLots }

end SampleEvents

end TradingEngine
