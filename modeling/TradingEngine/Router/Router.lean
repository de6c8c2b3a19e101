import TradingEngine.Internal.Frames
import TradingEngine.Parsers.KalshiParser

/-!
# Decoding and routing

The decoder reads just enough of a frame to know its market; the router turns the market into a
shard with `std::hash`, which is a parameter here. The decoder of Polymarket accepts nothing yet.
-/

namespace TradingEngine

open OnDemand (Value)

/-! ## Decoding -/

/-- The exchanges that have a decoder. -/
inductive DecodeExchangeId
  | kalshi | polymarket
  deriving DecidableEq

inductive DecodeStatus
  | ok | missingField | unsupportedMessage
  deriving DecidableEq

structure ExtractedFields where
  status : DecodeStatus := .unsupportedMessage
  marketTicker : String := ""
  seqId : Option ℕ := none
  recvTimestamp : ℤ := 0
  source : String := ""
  deriving DecidableEq

namespace KalshiExtractor

/-- The sequence id of the message, or the one that is there already. -/
def extractSequence (root message : Value) (seqId : Option ℕ) : Option ℕ :=
  ((KalshiParser.getSequence root).or (KalshiParser.getSequence message)).or seqId

/-- The market of a message is under its `msg`, unless the frame has one. -/
def extract (iterate : String → Option Value) (frame : RawFrame) : ExtractedFields :=
  let fields : ExtractedFields :=
    { status := .missingField
      marketTicker := frame.marketTicker
      seqId := frame.seqId
      recvTimestamp := frame.recvTimestamp
      source := frame.source }
  if fields.marketTicker ≠ "" then { fields with status := .ok }
  else match (iterate frame.payload).bind Value.getObject with
    | none => fields
    | some root =>
      match KalshiParser.getString root "type" with
      | none => fields
      | some type =>
        if type ≠ "orderbook_snapshot" ∧ type ≠ "orderbook_delta" ∧ type ≠ "trade" then
          { fields with status := .unsupportedMessage }
        else match KalshiParser.getObject root "msg" with
          | none => fields
          | some message =>
            match KalshiParser.getString message "market_ticker" with
            | none => fields
            | some marketTicker =>
              if marketTicker = "" then fields
              else { fields with
                marketTicker := marketTicker
                seqId := extractSequence root message fields.seqId
                status := .ok }

end KalshiExtractor

def PolymarketExtractor.extract (frame : RawFrame) : ExtractedFields where
  status := .missingField
  recvTimestamp := frame.recvTimestamp
  source := frame.source

def resolveDecoder (iterate : String → Option Value) :
    DecodeExchangeId → RawFrame → ExtractedFields
  | .kalshi => KalshiExtractor.extract iterate
  | .polymarket => PolymarketExtractor.extract

/-! ## Routing -/

/-- A router: the decoder, the number of shards and the exchange it writes into its frames. -/
structure Router where
  decodeFn : RawFrame → ExtractedFields
  shardCount : ℕ
  exchangeId : ExchangeId := .kalshi

namespace Router

/-- There is at least one shard. -/
def resolveShardCount (shardCount : ℕ) : ℕ := if shardCount = 0 then 1 else shardCount

theorem resolveShardCount_pos (shardCount : ℕ) : 0 < resolveShardCount shardCount := by
  rw [resolveShardCount]
  split <;> omega

theorem resolveShardCount_idem (shardCount : ℕ) :
    resolveShardCount (resolveShardCount shardCount) = resolveShardCount shardCount := by
  have hpos := resolveShardCount_pos shardCount
  rw [resolveShardCount, if_neg (by omega)]

def create (decodeFn : RawFrame → ExtractedFields) (shardCount : ℕ) (exchangeId : ExchangeId) :
    Router where
  decodeFn := decodeFn
  shardCount := resolveShardCount shardCount
  exchangeId := exchangeId

def computeShardId (hash : String → ℕ) (marketTicker : String) (shardCount : ℕ) : ℕ :=
  if marketTicker = "" then 0 else hash marketTicker % shardCount

/-- What `route` dispatches, if the frame can be decoded. A time before the epoch of the clock is
zero. -/
def route (hash : String → ℕ) (router : Router) (frame : RawFrame) : Option RoutedEvent :=
  let fields := router.decodeFn frame
  if fields.status = .ok then
    some
      { routeKey :=
          { marketTicker := fields.marketTicker
            shardId := computeShardId hash fields.marketTicker router.shardCount }
        frame :=
          { exchange := router.exchangeId
            marketTicker := fields.marketTicker
            sequenceId := fields.seqId
            recvNs := fields.recvTimestamp.toNat
            rawPayload := frame.payload } }
  else none

theorem computeShardId_lt {hash : String → ℕ} {marketTicker : String} {shardCount : ℕ}
    (h : 0 < shardCount) : computeShardId hash marketTicker shardCount < shardCount := by
  rw [computeShardId]
  split
  · exact h
  · exact Nat.mod_lt _ h

/-- **A route is determined by its market.** -/
theorem shardId_of_route {hash : String → ℕ} {router : Router} {frame : RawFrame}
    {event : RoutedEvent} (h : router.route hash frame = some event) :
    event.routeKey.shardId =
      computeShardId hash event.frame.marketTicker router.shardCount := by
  rw [route] at h
  split at h
  · obtain rfl := Option.some.inj h
    rfl
  · exact absurd h (by simp)

end Router

end TradingEngine
