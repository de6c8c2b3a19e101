import TradingEngine.Oms.RiskGates

/-!
# The parties around the order manager

The order manager is written against four interfaces: the adapter that encodes requests and decodes
updates of one exchange, the transport that carries the payloads, the sink that receives every
accepted update, and the provider of portfolio snapshots. A stateful party is a record of functions
on its state; what the real party may do at a call, a fresh answer from the network included, is
part of that state. Results about every order manager quantify over all of them.
-/

namespace TradingEngine

inductive ParseError
  | none | invalidJson | missingField | invalidField | unsupportedMessageType
  deriving DecidableEq

/-- An exchange adapter. An encoder that throws returns the text of its exception. -/
structure IExchangeOmsAdapter (Text : Type*) where
  supports : OrderIntent → Bool
  buildRequest : OrderIntent → Except String Text
  parseUpdate : Text → Except ParseError OrderStateUpdate

/-- A transport with states `τ`. The configuration given to `connect` is fixed per transport. A
read may wait for the network, as that of a websocket does; the read of the paper transport returns
at once. -/
structure IOrderTransport (Text τ : Type*) where
  connect : τ → Bool × τ
  sendText : τ → Text → Bool × τ
  /-- A read that is called in this state does not return. -/
  recvBlocks : τ → Bool := fun _ ↦ false
  /-- What a read answers when it returns. -/
  recvText : τ → Option Text × τ
  close : τ → τ
  lastError : τ → String

/-- An event sink with states `σ`. -/
structure IOrderEventSink (σ : Type*) where
  onOrderUpdate : σ → OrderStateUpdate → Bool × σ

/-- A snapshot provider. It reads the state the sink writes, which covers the ledger that plays
both parts as well as a provider of its own. -/
structure IPortfolioRiskSnapshotProvider (σ : Type*) where
  snapshotFor : σ → ExchangeId → String → PortfolioRiskSnapshot

end TradingEngine
