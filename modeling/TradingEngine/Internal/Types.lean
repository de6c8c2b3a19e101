import Mathlib.Data.Int.Notation
import Mathlib.Data.Nat.Notation

/-!
# The shared vocabulary

The enumerations and records of `internal/market_types.hpp` and `internal/oms_types.hpp`. Field
defaults are the source's. Quantities, prices and signed totals are `ℤ`; timestamps, request ids and
counters are `ℕ`. Where the width of a machine integer decides something, the width is written at
that place.
-/

namespace TradingEngine

/-! ## Market types -/

inductive ExchangeId
  | unknown | kalshi | polymarket
  deriving DecidableEq

inductive Side
  | unknown | bid | ask | buy | sell
  deriving DecidableEq

/-! ## Orders -/

abbrev ClientOrderId := String
abbrev ExchangeOrderId := String

inductive OmsAction
  | unknown | place | cancel | replace
  deriving DecidableEq

inductive OmsTimeInForce
  | unknown | gtc | ioc | fok
  deriving DecidableEq

inductive OmsOrderStatus
  | unknown | accepted | rejected | canceled | partiallyFilled | filled | replaced
  deriving DecidableEq

inductive OmsLiquidity
  | unknown | maker | taker
  deriving DecidableEq

structure OrderIntent where
  exchange : ExchangeId := .unknown
  action : OmsAction := .unknown
  clientOrderId : ClientOrderId := ""
  targetClientOrderId : Option ClientOrderId := none
  targetExchangeOrderId : Option ExchangeOrderId := none
  marketTicker : String := ""
  side : Side := .unknown
  qtyLots : ℤ := 0
  limitPriceTicks : Option ℤ := none
  timeInForce : OmsTimeInForce := .unknown
  intentTsNs : ℕ := 0
  deriving DecidableEq

structure OrderAck where
  clientOrderId : ClientOrderId := ""
  exchangeOrderId : Option ExchangeOrderId := none
  marketTicker : String := ""
  acceptedQtyLots : ℤ := 0
  deriving DecidableEq

structure OrderReject where
  clientOrderId : ClientOrderId := ""
  exchangeOrderId : Option ExchangeOrderId := none
  reasonCode : String := ""
  reasonMessage : String := ""
  deriving DecidableEq

structure OrderFill where
  clientOrderId : ClientOrderId := ""
  exchangeOrderId : Option ExchangeOrderId := none
  marketTicker : String := ""
  fillQtyLots : ℤ := 0
  fillPriceTicks : ℤ := 0
  side : Side := .unknown
  liquidity : OmsLiquidity := .unknown
  deriving DecidableEq

inductive OmsUpdateData
  | monostate
  | ack (ack : OrderAck)
  | reject (reject : OrderReject)
  | fill (fill : OrderFill)
  deriving DecidableEq

/-- An order update. `raw_payload` is left out: it is written by the adapter and read by nobody. -/
structure OrderStateUpdate where
  exchange : ExchangeId := .unknown
  status : OmsOrderStatus := .unknown
  clientOrderId : ClientOrderId := ""
  exchangeOrderId : Option ExchangeOrderId := none
  marketTicker : String := ""
  recvTsNs : ℕ := 0
  data : OmsUpdateData := .monostate
  deriving DecidableEq

/-- The requests that create an order when they are accepted. -/
def OrderIntent.Creates (intent : OrderIntent) : Prop :=
  intent.action = .place ∨ intent.action = .replace

instance (intent : OrderIntent) : Decidable intent.Creates := inferInstanceAs (Decidable (_ ∨ _))

/-- The requests that act on an order that is already tracked. -/
def OrderIntent.Targets (intent : OrderIntent) : Prop :=
  intent.action = .cancel ∨ intent.action = .replace

instance (intent : OrderIntent) : Decidable intent.Targets := inferInstanceAs (Decidable (_ ∨ _))

/-- The quantity a fill update carries; an update of any other kind carries none. -/
def OrderStateUpdate.fillQty (update : OrderStateUpdate) : ℤ :=
  match update.data with
  | .fill fill => fill.fillQtyLots
  | _ => 0

/-! ## Samples

An order and what happens to it, for the concrete runs that go with the theorems. -/

namespace SampleOrders

/-- A purchase of so many lots. -/
def buy (qtyLots : ℤ) : OrderIntent where
  exchange := .kalshi
  action := .place
  clientOrderId := "cl-1"
  marketTicker := "KXBTC-YES"
  side := .buy
  qtyLots := qtyLots

/-- The exchange has taken it, under an id of its own. -/
def ack : OrderStateUpdate where
  exchange := .kalshi
  status := .accepted
  clientOrderId := "cl-1"
  exchangeOrderId := some "ex-1"
  recvTsNs := 5
  data := .ack {}

def fill (side : Side) (qtyLots priceTicks : ℤ) : OrderFill where
  fillQtyLots := qtyLots
  fillPriceTicks := priceTicks
  side := side

/-- The fill in the market of the order, as it arrives. -/
def fillOf (side : Side) (qtyLots priceTicks : ℤ) : OrderStateUpdate where
  exchange := .kalshi
  status := .partiallyFilled
  marketTicker := "KXBTC-YES"
  data := .fill (fill side qtyLots priceTicks)

end SampleOrders

end TradingEngine
