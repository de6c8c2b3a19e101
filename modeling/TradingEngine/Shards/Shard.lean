import TradingEngine.Ingest.BoundedFifo
import TradingEngine.Router.Router
import TradingEngine.Shards.BookStore

/-!
# Shards

A shard takes routed events from its queue, parses them and applies them to its books. The books are
its own, so an event is parsed in one step, applied in a second and shown to the event handler in a
third; taking it from the queue is a step for each access.

A shard can be stopped and started again. It finishes the event in hand, and its books stay.
-/

namespace TradingEngine

open OnDemand (Value)

/-- The parser of the exchange that a frame is from. Polymarket has no parser yet. -/
def RoutedEventParser.parse (iterate : String → Option Value) (event : RoutedEvent) :
    Except ParseError NormalizedEvent :=
  let frame : RouterFrame :=
    { exchange := event.frame.exchange
      marketTicker := event.frame.marketTicker
      sequenceId := event.frame.sequenceId
      recvNs := event.frame.recvNs
      rawPayloadView := event.frame.rawPayload }
  match event.frame.exchange with
  | .kalshi => KalshiParser.parse iterate frame
  | .polymarket => .error .unsupportedMessageType
  | .unknown => .error .unsupportedMessageType

theorem RoutedEventParser.marketTicker_of_parse {iterate : String → Option Value}
    {event : RoutedEvent} {parsed : NormalizedEvent} (h : parse iterate event = .ok parsed) :
    parsed.marketTicker = event.frame.marketTicker := by
  rw [parse] at h
  split at h
  · exact (KalshiParser.parsed_of_parse h).marketTicker
  · exact absurd h (by simp)
  · exact absurd h (by simp)

structure ShardStats where
  consumed : ℕ := 0
  parsed : ℕ := 0
  parseErrors : ℕ := 0
  applied : ℕ := 0
  handlerInvoked : ℕ := 0
  handlerErrors : ℕ := 0

/-- Where the worker of a shard is. -/
inductive ShardWorker
  | notRunning
  | loop
  | tryPop (call : PopCall RoutedEvent)
  | parse (event : RoutedEvent)
  | apply (event : NormalizedEvent)
  | handle (event : NormalizedEvent)

/-- A shard, with a record of the events it took from its queue. -/
structure Shard where
  worker : ShardWorker := .notRunning
  stopRequested : Bool := false
  stats : ShardStats := {}
  books : BookStore := {}
  consumed : List RoutedEvent := []

namespace Shard

/-- The counters start again, the books do not. -/
def start (shard : Shard) : Option Shard :=
  match shard.worker with
  | .notRunning => some { shard with worker := .loop, stopRequested := false, stats := {} }
  | _ => none

def requestStop (shard : Shard) : Shard := { shard with stopRequested := true }

/-- The body of the loop of `run`, apart from the pop. `handled` is what the event handler returns,
if there is one. -/
def runStep (iterate : String → Option Value) (hasEventHandler handled : Bool) (shard : Shard) :
    Option Shard :=
  match shard.worker with
  | .notRunning => none
  | .loop =>
    if shard.stopRequested then some { shard with worker := .notRunning }
    else some { shard with worker := .tryPop .loadTail }
  | .tryPop _ => none
  | .parse event =>
    let stats := { shard.stats with consumed := shard.stats.consumed + 1 }
    match RoutedEventParser.parse iterate event with
    | .error _ =>
      some { shard with
        stats := { stats with parseErrors := stats.parseErrors + 1 }
        worker := .loop }
    | .ok parsed =>
      some { shard with
        stats := { stats with parsed := stats.parsed + 1 }
        worker := .apply parsed }
  | .apply event =>
    let (applied, books) := shard.books.apply event
    if applied then
      let stats := { shard.stats with applied := shard.stats.applied + 1 }
      if hasEventHandler then
        some { shard with
          stats := { stats with handlerInvoked := stats.handlerInvoked + 1 }
          books := books
          worker := .handle event }
      else some { shard with stats := stats, books := books, worker := .loop }
    else
      some { shard with
        stats := { shard.stats with parseErrors := shard.stats.parseErrors + 1 }
        books := books
        worker := .loop }
  | .handle _ =>
    let stats := if handled then shard.stats
      else { shard.stats with handlerErrors := shard.stats.handlerErrors + 1 }
    some { shard with stats := stats, worker := .loop }

end Shard

end TradingEngine
