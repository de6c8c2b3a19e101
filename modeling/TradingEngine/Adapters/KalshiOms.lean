import TradingEngine.Lib.Json
import TradingEngine.Oms.Interfaces

/-!
# The Kalshi adapter for orders

Requests are checked and printed as flat JSON objects; updates are parsed from objects that carry a
`type` and a `msg`. Every fill is reported as a complete one: the adapter has no message for a
partial fill.

The JSON library is a parameter. Fields are listed in key order, which is the order in which the
library keeps them.
-/

namespace TradingEngine.Kalshi

/-! ## Names on the wire -/

def actionToString : OmsAction → String
  | .place => "place_order"
  | .cancel => "cancel_order"
  | .replace => "replace_order"
  | .unknown => "unknown"

def sideToString : Side → String
  | .buy => "buy"
  | .sell => "sell"
  | .bid => "bid"
  | .ask => "ask"
  | .unknown => "unknown"

def sideFromString (side : String) : Option Side :=
  if side = "buy" then some .buy
  else if side = "sell" then some .sell
  else if side = "bid" then some .bid
  else if side = "ask" then some .ask
  else none

def tifToString : OmsTimeInForce → String
  | .gtc => "gtc"
  | .ioc => "ioc"
  | .fok => "fok"
  | .unknown => "unknown"

/-- A side that is known survives the wire. -/
theorem sideFromString_sideToString {side : Side} (h : side ≠ .unknown) :
    sideFromString (sideToString side) = some side := by
  cases side with
  | unknown => exact absurd rfl h
  | bid => rfl
  | ask => rfl
  | buy => rfl
  | sell => rfl

/-! ## Requests -/

variable {Text : Type*} (json : JsonLibrary Text)

def supports (intent : OrderIntent) : Bool :=
  intent.exchange = .kalshi && intent.action ≠ .unknown

/-- The document of a place. -/
def placeDocument (intent : OrderIntent) (limitPriceTicks : ℤ) : Json :=
  .object [
    ("action", .string (actionToString intent.action)),
    ("client_order_id", .string intent.clientOrderId),
    ("limit_price", .numberInteger limitPriceTicks),
    ("market_ticker", .string intent.marketTicker),
    ("qty", .numberInteger intent.qtyLots),
    ("side", .string (sideToString intent.side)),
    ("time_in_force", .string (tifToString intent.timeInForce))]

def buildPlaceRequest (intent : OrderIntent) : Except String Text :=
  if intent.clientOrderId = "" ∨ intent.marketTicker = "" ∨ intent.qtyLots ≤ 0 ∨
      intent.side = .unknown then .error "Invalid place intent"
  else match intent.limitPriceTicks with
    | none => .error "Invalid place intent"
    | some limitPriceTicks => .ok (json.dump (placeDocument intent limitPriceTicks))

/-- The target ids of a cancel or replace, each written only when it is given. -/
def targetFields (intent : OrderIntent) : List (String × Json) :=
  (intent.targetClientOrderId.map fun id ↦ ("target_client_order_id", Json.string id)).toList ++
  (intent.targetExchangeOrderId.map fun id ↦ ("target_exchange_order_id", Json.string id)).toList

def buildCancelRequest (intent : OrderIntent) : Except String Text :=
  if intent.clientOrderId = "" ∧ intent.targetClientOrderId = none ∧
      intent.targetExchangeOrderId = none then .error "Invalid cancel intent"
  else .ok (json.dump (.object ([
    ("action", .string (actionToString intent.action)),
    ("client_order_id", .string intent.clientOrderId)] ++ targetFields intent)))

def buildReplaceRequest (intent : OrderIntent) : Except String Text :=
  if intent.targetClientOrderId = none ∧ intent.targetExchangeOrderId = none then
    .error "Invalid replace intent"
  else if intent.clientOrderId = "" ∨ intent.qtyLots ≤ 0 then
    .error "Invalid replace intent payload"
  else match intent.limitPriceTicks with
    | none => .error "Invalid replace intent payload"
    | some limitPriceTicks => .ok (json.dump (.object ([
        ("action", .string (actionToString intent.action)),
        ("client_order_id", .string intent.clientOrderId),
        ("limit_price", .numberInteger limitPriceTicks),
        ("qty", .numberInteger intent.qtyLots)] ++ targetFields intent)))

def buildRequest (intent : OrderIntent) : Except String Text :=
  if supports intent = false then
    .error "Kalshi OmsAdapter does not support this order intent"
  else match intent.action with
    | .place => buildPlaceRequest json intent
    | .cancel => buildCancelRequest json intent
    | .replace => buildReplaceRequest json intent
    | .unknown => .error "Unknown OMS action"

/-! ## Updates -/

/-- A field that must be there. -/
def required {α : Type*} : Option α → Except ParseError α
  | some value => .ok value
  | none => .error .missingField

/-- The reception time of an update. A value of the wrong kind throws, and the exception is caught
around the whole parse. The default of the source is an `unsigned int`, so the time is cut down to
32 bits. -/
def recvTsNs (root : Json) : Except ParseError ℕ :=
  match root.valueUInt32 "recv_ts_ns" with
  | some value => .ok value
  | none => .error .invalidJson

def parseAck (root message : Json) : Except ParseError OrderStateUpdate := do
  let clientOrderId ← required (message.tryGetString "client_order_id")
  let marketTicker ← required (message.tryGetString "market_ticker")
  let acceptedQty ← required (message.tryGetInt64 "accepted_qty")
  let recvTsNs ← recvTsNs root
  .ok {
    exchange := .kalshi
    status := .accepted
    clientOrderId := clientOrderId
    exchangeOrderId := message.tryGetString "exchange_order_id"
    marketTicker := marketTicker
    recvTsNs := recvTsNs
    data := .ack {
      clientOrderId := clientOrderId
      exchangeOrderId := message.tryGetString "exchange_order_id"
      marketTicker := marketTicker
      acceptedQtyLots := acceptedQty } }

def parseReject (root message : Json) : Except ParseError OrderStateUpdate := do
  let clientOrderId ← required (message.tryGetString "client_order_id")
  let reasonCode ← required (message.tryGetString "reason_code")
  let recvTsNs ← recvTsNs root
  .ok {
    exchange := .kalshi
    status := .rejected
    clientOrderId := clientOrderId
    exchangeOrderId := message.tryGetString "exchange_order_id"
    marketTicker := (message.tryGetString "market_ticker").getD ""
    recvTsNs := recvTsNs
    data := .reject {
      clientOrderId := clientOrderId
      exchangeOrderId := message.tryGetString "exchange_order_id"
      reasonCode := reasonCode
      reasonMessage := (message.tryGetString "reason_message").getD "unspecified" } }

def tryGetSide (message : Json) (key : String) : Option Side :=
  (message.tryGetString key).bind sideFromString

def parseFill (root message : Json) : Except ParseError OrderStateUpdate := do
  let clientOrderId ← required (message.tryGetString "client_order_id")
  let marketTicker ← required (message.tryGetString "market_ticker")
  let fillQty ← required (message.tryGetInt64 "fill_qty")
  let fillPrice ← required (message.tryGetInt64 "fill_price")
  let recvTsNs ← recvTsNs root
  .ok {
    exchange := .kalshi
    status := .filled
    clientOrderId := clientOrderId
    exchangeOrderId := message.tryGetString "exchange_order_id"
    marketTicker := marketTicker
    recvTsNs := recvTsNs
    data := .fill {
      clientOrderId := clientOrderId
      exchangeOrderId := message.tryGetString "exchange_order_id"
      marketTicker := marketTicker
      fillQtyLots := fillQty
      fillPriceTicks := fillPrice
      side := (tryGetSide message "side").getD .unknown
      liquidity := .unknown } }

/-- The update in a document. -/
def parseDocument (root : Json) : Except ParseError OrderStateUpdate :=
  if root.isObject = false then .error .invalidJson
  else match root.tryGetString "type", root.find "msg" with
    | some type, some message =>
      if message.isObject = false then .error .missingField
      else if type = "order_ack" then parseAck root message
      else if type = "order_reject" then parseReject root message
      else if type = "fill" then parseFill root message
      else .error .unsupportedMessageType
    | _, _ => .error .missingField

def parseUpdate (payload : Text) : Except ParseError OrderStateUpdate :=
  match json.parse payload with
  | none => .error .invalidJson
  | some root => parseDocument root

/-- The adapter. -/
def omsAdapter : IExchangeOmsAdapter Text where
  supports := supports
  buildRequest := buildRequest json
  parseUpdate := parseUpdate json

/-! ## What the adapter lets through -/

variable {json}

/-- What the adapter asks of a place. -/
structure ValidPlace (intent : OrderIntent) (limitPriceTicks : ℤ) : Prop where
  exchange : intent.exchange = .kalshi
  clientOrderId : intent.clientOrderId ≠ ""
  marketTicker : intent.marketTicker ≠ ""
  qtyLots : 0 < intent.qtyLots
  side : intent.side ≠ .unknown
  limitPriceTicks : intent.limitPriceTicks = some limitPriceTicks

theorem buildRequest_place {intent : OrderIntent} {payload : Text}
    (h : buildRequest json intent = .ok payload) (haction : intent.action = .place) :
    ∃ limitPriceTicks, ValidPlace intent limitPriceTicks ∧
      payload = json.dump (placeDocument intent limitPriceTicks) := by
  rw [buildRequest, haction] at h
  split at h
  · exact absurd h (by simp)
  rename_i hsupports
  have hexchange : intent.exchange = .kalshi := by
    rw [supports, Bool.not_eq_false, Bool.and_eq_true] at hsupports
    exact of_decide_eq_true hsupports.1
  dsimp only [buildPlaceRequest] at h
  split at h
  · exact absurd h (by simp)
  rename_i hvalid
  obtain ⟨hid, hmarket, hqty, hside⟩ : intent.clientOrderId ≠ "" ∧ intent.marketTicker ≠ "" ∧
      ¬intent.qtyLots ≤ 0 ∧ intent.side ≠ .unknown := by
    simpa only [not_or] using hvalid
  split at h
  · exact absurd h (by simp)
  rename_i price hprice
  exact ⟨price, ⟨hexchange, hid, hmarket, not_le.mp hqty, hside, hprice⟩, (Except.ok.inj h).symm⟩

/-- A place or replace that is encoded states its quantity. -/
theorem qtyLots_pos_of_buildRequest {intent : OrderIntent} {payload : Text}
    (h : buildRequest json intent = .ok payload) (hcreates : intent.Creates) :
    0 < intent.qtyLots := by
  rcases hcreates with haction | haction
  · obtain ⟨_, hvalid, _⟩ := buildRequest_place h haction
    exact hvalid.qtyLots
  · rw [buildRequest, haction] at h
    split at h
    · exact absurd h (by simp)
    dsimp only [buildReplaceRequest] at h
    split at h
    · exact absurd h (by simp)
    split at h
    · exact absurd h (by simp)
    · rename_i hvalid
      omega

/-- A computation that succeeds has succeeded at its first step. -/
theorem exists_ok_of_bind {ε α β : Type} {x : Except ε α} {f : α → Except ε β} {b : β}
    (h : (x >>= f) = .ok b) : ∃ a, x = .ok a ∧ f a = .ok b := by
  cases x with
  | error _ => cases h
  | ok a => exact ⟨a, rfl, h⟩

theorem required_ok {α : Type} {value : Option α} {a : α} (h : required value = .ok a) :
    value = some a := by
  cases value with
  | none => cases h
  | some value => exact congrArg some (Except.ok.inj h)

theorem parseAck_ok {root message : Json} {update : OrderStateUpdate}
    (h : parseAck root message = .ok update) :
    update.status = .accepted ∧ recvTsNs root = .ok update.recvTsNs ∧
      ∃ ack, update.data = .ack ack ∧
        message.tryGetInt64 "accepted_qty" = some ack.acceptedQtyLots := by
  obtain ⟨_, _, h⟩ := exists_ok_of_bind h
  obtain ⟨_, _, h⟩ := exists_ok_of_bind h
  obtain ⟨_, hqty, h⟩ := exists_ok_of_bind h
  obtain ⟨_, hrecv, h⟩ := exists_ok_of_bind h
  obtain rfl := Except.ok.inj h
  exact ⟨rfl, hrecv, _, rfl, required_ok hqty⟩

theorem parseReject_ok {root message : Json} {update : OrderStateUpdate}
    (h : parseReject root message = .ok update) :
    update.status = .rejected ∧ recvTsNs root = .ok update.recvTsNs ∧
      ∃ reject, update.data = .reject reject := by
  obtain ⟨_, _, h⟩ := exists_ok_of_bind h
  obtain ⟨_, _, h⟩ := exists_ok_of_bind h
  obtain ⟨_, hrecv, h⟩ := exists_ok_of_bind h
  obtain rfl := Except.ok.inj h
  exact ⟨rfl, hrecv, _, rfl⟩

theorem parseFill_ok {root message : Json} {update : OrderStateUpdate}
    (h : parseFill root message = .ok update) :
    update.status = .filled ∧ recvTsNs root = .ok update.recvTsNs ∧
      ∃ fill, update.data = .fill fill ∧
        message.tryGetInt64 "fill_qty" = some fill.fillQtyLots ∧
        message.tryGetInt64 "fill_price" = some fill.fillPriceTicks := by
  obtain ⟨_, _, h⟩ := exists_ok_of_bind h
  obtain ⟨_, _, h⟩ := exists_ok_of_bind h
  obtain ⟨_, hqty, h⟩ := exists_ok_of_bind h
  obtain ⟨_, hprice, h⟩ := exists_ok_of_bind h
  obtain ⟨_, hrecv, h⟩ := exists_ok_of_bind h
  obtain rfl := Except.ok.inj h
  exact ⟨rfl, hrecv, _, rfl, required_ok hqty, required_ok hprice⟩

/-- **A payload that is parsed**, by the type of its message. -/
theorem parseUpdate_cases {payload : Text} {update : OrderStateUpdate}
    (h : parseUpdate json payload = .ok update) :
    ∃ root message type, json.parse payload = some root ∧
      root.tryGetString "type" = some type ∧ root.find "msg" = some message ∧
      ((type = "order_ack" ∧ parseAck root message = .ok update) ∨
        (type = "order_reject" ∧ parseReject root message = .ok update) ∨
        (type = "fill" ∧ parseFill root message = .ok update)) := by
  rw [parseUpdate] at h
  split at h
  · exact absurd h (by simp)
  rename_i root hroot
  rw [parseDocument] at h
  split at h
  · exact absurd h (by simp)
  split at h
  · rename_i type message htype hmessage
    refine ⟨root, message, type, hroot, htype, hmessage, ?_⟩
    split at h
    · exact absurd h (by simp)
    split at h
    · rename_i hack
      exact .inl ⟨hack, h⟩
    split at h
    · rename_i hreject
      exact .inr (.inl ⟨hreject, h⟩)
    split at h
    · rename_i hfill
      exact .inr (.inr ⟨hfill, h⟩)
    · exact absurd h (by simp)
  · exact absurd h (by simp)

/-- Every update is an acknowledgement, a reject or a complete fill. -/
theorem parseUpdate_kinds {payload : Text} {update : OrderStateUpdate}
    (h : parseUpdate json payload = .ok update) :
    (update.status = .accepted ∧ ∃ ack, update.data = .ack ack) ∨
    (update.status = .rejected ∧ ∃ reject, update.data = .reject reject) ∨
    (update.status = .filled ∧ ∃ fill, update.data = .fill fill) := by
  obtain ⟨_, _, _, _, _, _, ⟨_, h⟩ | ⟨_, h⟩ | ⟨_, h⟩⟩ := parseUpdate_cases h
  · obtain ⟨hstatus, _, ack, hdata, _⟩ := parseAck_ok h
    exact .inl ⟨hstatus, ack, hdata⟩
  · obtain ⟨hstatus, _, reject, hdata⟩ := parseReject_ok h
    exact .inr (.inl ⟨hstatus, reject, hdata⟩)
  · obtain ⟨hstatus, _, fill, hdata, _⟩ := parseFill_ok h
    exact .inr (.inr ⟨hstatus, fill, hdata⟩)

end TradingEngine.Kalshi
