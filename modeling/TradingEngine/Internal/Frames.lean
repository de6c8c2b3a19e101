import TradingEngine.Internal.Types

/-!
# Frames

A message is a `RawFrame` in the frame pool while it waits for the router, where a `FrameRef` stands
for it, and a `RoutedEvent` in the queue of its shard afterwards.
-/

namespace TradingEngine

/-- A claim on a slot of the frame pool. -/
structure FrameRef where
  recvTimestampNs : ℕ := 0
  generation : ℕ := 0
  monoTimestampNs : ℕ := 0
  slot : ℕ := 0
  payloadSize : ℕ := 0
  deriving DecidableEq

/-- A message as it was received; the timestamp is in nanoseconds of the steady clock. -/
structure RawFrame where
  recvTimestamp : ℤ := 0
  source : String := ""
  payload : String := ""
  marketTicker : String := ""
  seqId : Option ℕ := none
  deriving DecidableEq

structure RouteKey where
  marketTicker : String := ""
  shardId : ℕ := 0
  deriving DecidableEq

structure RoutedFrame where
  exchange : ExchangeId := .unknown
  marketTicker : String := ""
  sequenceId : Option ℕ := none
  recvNs : ℕ := 0
  rawPayload : String := ""
  deriving DecidableEq

structure RoutedEvent where
  routeKey : RouteKey := {}
  frame : RoutedFrame := {}
  deriving DecidableEq

end TradingEngine
