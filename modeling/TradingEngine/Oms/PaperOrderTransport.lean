import TradingEngine.Lib.Json
import TradingEngine.Oms.Interfaces

/-!
# The paper transport

A transport without an exchange behind it. A place is acknowledged and, with `autoFillOnPlace`,
filled in full at its limit price; a cancel or replace is answered with a reject. The answers wait
in a queue that `recv_text` empties from the front while the transport is connected; closing the
transport keeps them.

The counters are unsigned 64-bit numbers: they are printed modulo `2 ^ 64`.
-/

namespace TradingEngine

namespace PaperOrderTransport

inductive ErrorCode
  | none | notConnected | invalidPayload | invalidRequest | unknownAction
  deriving DecidableEq

def ErrorCode.text : ErrorCode → String
  | .none => ""
  | .notConnected => "paper transport not connected"
  | .invalidPayload => "paper transport invalid request payload"
  | .invalidRequest => "paper transport invalid request"
  | .unknownAction => "paper transport unknown action"

/-- The state of the transport; payloads have type `Text`. -/
structure State (Text : Type*) where
  connected : Bool := false
  nextRecvTsNs : ℕ := 1
  nextExchangeOrderId : ℕ := 1
  inboundUpdates : List Text := []
  lastErrorCode : ErrorCode := .none

variable {Text : Type*} (json : JsonLibrary Text) (autoFillOnPlace : Bool)

/-- The envelope of an answer. -/
def envelope (type : String) (recvTsNs : ℕ) (message : Json) : Json :=
  .object [
    ("msg", message),
    ("recv_ts_ns", .numberInteger (recvTsNs % 2 ^ 64 : ℕ)),
    ("type", .string type)]

def ackDocument (recvTsNs : ℕ) (clientOrderId exchangeOrderId marketTicker : String) (qty : ℤ) :
    Json :=
  envelope "order_ack" recvTsNs (.object [
    ("accepted_qty", .numberInteger qty),
    ("client_order_id", .string clientOrderId),
    ("exchange_order_id", .string exchangeOrderId),
    ("market_ticker", .string marketTicker)])

def fillDocument (recvTsNs : ℕ) (clientOrderId exchangeOrderId marketTicker : String)
    (qty limitPrice : ℤ) (side : String) : Json :=
  envelope "fill" recvTsNs (.object [
    ("client_order_id", .string clientOrderId),
    ("exchange_order_id", .string exchangeOrderId),
    ("fill_price", .numberInteger limitPrice),
    ("fill_qty", .numberInteger qty),
    ("market_ticker", .string marketTicker),
    ("side", .string side)])

def rejectDocument (recvTsNs : ℕ) (clientOrderId marketTicker : String) : Json :=
  envelope "order_reject" recvTsNs (.object [
    ("client_order_id", .string clientOrderId),
    ("market_ticker", .string marketTicker),
    ("reason_code", .string "paper_action_unsupported"),
    ("reason_message", .string "paper transport currently supports place_order only")])

def connect (s : State Text) : Bool × State Text :=
  (true, { s with connected := true, lastErrorCode := .none })

def fail (s : State Text) (code : ErrorCode) : Bool × State Text :=
  (false, { s with lastErrorCode := code })

def exchangeOrderIdOf (s : State Text) : String :=
  "paper-ex-" ++ toString (s.nextExchangeOrderId % 2 ^ 64)

/-- The answers to a valid place. -/
def answerPlace (s : State Text) (clientOrderId marketTicker : String) (qty limitPrice : ℤ)
    (side : String) : State Text :=
  let exchangeOrderId := exchangeOrderIdOf s
  let acked := { s with
    nextExchangeOrderId := s.nextExchangeOrderId + 1
    nextRecvTsNs := s.nextRecvTsNs + 1
    inboundUpdates := s.inboundUpdates ++
      [json.dump (ackDocument s.nextRecvTsNs clientOrderId exchangeOrderId marketTicker qty)]
    lastErrorCode := .none }
  if autoFillOnPlace then
    { acked with
      nextRecvTsNs := acked.nextRecvTsNs + 1
      inboundUpdates := acked.inboundUpdates ++
        [json.dump (fillDocument acked.nextRecvTsNs clientOrderId exchangeOrderId marketTicker qty
          limitPrice side)] }
  else acked

def sendPlace (s : State Text) (request : Json) (clientOrderId : String) : Bool × State Text :=
  match request.tryGetString "market_ticker", request.tryGetInt64 "qty",
      request.tryGetInt64 "limit_price", request.tryGetString "side" with
  | some marketTicker, some qty, some limitPrice, some side =>
    if qty ≤ 0 then fail s .invalidRequest
    else (true, answerPlace json autoFillOnPlace s clientOrderId marketTicker qty limitPrice side)
  | _, _, _, _ => fail s .invalidRequest

/-- The answer to a cancel or a replace. -/
def sendUnsupported (s : State Text) (request : Json) (clientOrderId : String) :
    Bool × State Text :=
  (true, { s with
    nextRecvTsNs := s.nextRecvTsNs + 1
    inboundUpdates := s.inboundUpdates ++ [json.dump (rejectDocument s.nextRecvTsNs clientOrderId
      ((request.tryGetString "market_ticker").getD "paper"))]
    lastErrorCode := .none })

def sendRequest (s : State Text) (request : Json) : Bool × State Text :=
  if request.isObject = false then fail s .invalidPayload
  else match request.tryGetString "action", request.tryGetString "client_order_id" with
    | some action, some clientOrderId =>
      if clientOrderId = "" then fail s .invalidRequest
      else if action = "place_order" then
        sendPlace json autoFillOnPlace s request clientOrderId
      else if action = "cancel_order" ∨ action = "replace_order" then
        sendUnsupported json s request clientOrderId
      else fail s .unknownAction
    | _, _ => fail s .invalidRequest

def sendText (s : State Text) (payload : Text) : Bool × State Text :=
  if s.connected = false then fail s .notConnected
  else match json.parse payload with
    | none => fail s .invalidPayload
    | some request => sendRequest json autoFillOnPlace s request

def recvText (s : State Text) : Option Text × State Text :=
  if s.connected = false then (none, s)
  else match s.inboundUpdates with
    | [] => (none, s)
    | payload :: rest => (some payload, { s with inboundUpdates := rest })

def close (s : State Text) : State Text := { s with connected := false }

/-- The transport. -/
def transport : IOrderTransport Text (State Text) where
  connect := connect
  sendText := sendText json autoFillOnPlace
  recvText := recvText
  close := close
  lastError s := s.lastErrorCode.text

end PaperOrderTransport

end TradingEngine
