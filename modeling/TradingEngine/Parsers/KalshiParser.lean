import TradingEngine.Internal.NormalizedEvent
import TradingEngine.Lib.Json
import TradingEngine.Lib.OnDemand
import TradingEngine.Oms.Interfaces

/-!
# The Kalshi market data parser

A message is an object with a `type` and, under `msg`, the fields of an order book snapshot, an
order book delta or a trade. The sequence id is the one of the frame, unless the message has its
own.

`iterate` stands for the JSON library: it takes a text to a document, or to nothing when the text is
not JSON.
-/

namespace TradingEngine

open OnDemand (Value)

/-- The frame that the router hands to a parser. -/
structure RouterFrame where
  exchange : ExchangeId := .unknown
  marketTicker : String := ""
  sequenceId : Option ℕ := none
  recvNs : ℕ := 0
  rawPayloadView : String := ""
  deriving DecidableEq

namespace KalshiParser

/-! ## Fields -/

def getString (object : Value) (key : String) : Option String :=
  (object.findField key).bind Value.getString

def getInt64 (object : Value) (key : String) : Option ℤ :=
  (object.findField key).bind Value.getInt64

/-- An unsigned value, or a signed one that is not negative. -/
def getUInt64 (object : Value) (key : String) : Option ℕ :=
  match (object.findField key).bind Value.getUInt64 with
  | some value => some value
  | none =>
    match getInt64 object key with
    | some value => if value < 0 then none else some value.toNat
    | none => none

def getObject (object : Value) (key : String) : Option Value :=
  (object.findField key).bind Value.getObject

def getArray (object : Value) (key : String) : Option (List Value) :=
  (object.findField key).bind Value.getArray

/-- The value of a list of decimal digits. -/
def digitsValue (digits : List Char) : ℕ :=
  digits.foldl (fun value digit ↦ 10 * value + (digit.toNat - '0'.toNat)) 0

/-- A whole number as decimal text, with nothing but zeros behind the point. -/
def parseNonNegativeDecimalStringToInt64 (text : String) : Option ℤ :=
  let value := text.toList
  if value = [] then none
  else if value.head? = some '-' then none
  else
    let intPart := value.takeWhile fun c ↦ c ≠ '.'
    let fracPart := (value.dropWhile fun c ↦ c ≠ '.').drop 1
    if intPart = [] then none
    else if intPart.any fun c ↦ c < '0' || c > '9' then none
    else if fracPart.any fun c ↦ c ≠ '0' then none
    else if digitsValue intPart > 2 ^ 63 - 1 then none
    else some (digitsValue intPart)

/-- The quantity of a trade: an integer, a floating-point number without fraction, or a text. The
bound on a floating-point number is the largest `int64` rounded up to `2 ^ 63`, and the conversion
of that number itself wraps around. -/
def getLotCount (message : Value) : Option ℤ :=
  match (getInt64 message "count").or (getInt64 message "count_fp") with
  | some count => if count ≥ 0 then some count else none
  | none =>
    match (message.findField "count_fp").bind Value.getDouble with
    | some count =>
      if count < 0 then none
      else if count.den ≠ 1 ∨ count > 2 ^ 63 then none
      else some (Json.wrapInt64 count.num)
    | none => (getString message "count_fp").bind parseNonNegativeDecimalStringToInt64

def parseBookSide (sideToken : String) : Side :=
  if sideToken = "yes" ∨ sideToken = "bid" then .bid
  else if sideToken = "no" ∨ sideToken = "ask" then .ask
  else .unknown

def parseTradeSide (sideToken : String) : Side :=
  if sideToken = "yes" ∨ sideToken = "buy" then .buy
  else if sideToken = "no" ∨ sideToken = "sell" then .sell
  else .unknown

/-! ## Sequence ids -/

/-- The sequence id of an object, under either of its names. -/
def getSequence (object : Value) : Option ℕ :=
  (getUInt64 object "seq").or (getUInt64 object "seq_id")

def withSequence (event : NormalizedEvent) (seq : ℕ) : NormalizedEvent :=
  { event with
    rawSequenceId := some seq
    eventMeta := { event.eventMeta with sequenceId := seq } }

def setSequenceFromRoot (root : Value) (event : NormalizedEvent) : NormalizedEvent :=
  match getSequence root with
  | some seq => withSequence event seq
  | none => event

def setSequenceFromMsg (message : Value) (event : NormalizedEvent) : NormalizedEvent :=
  match getSequence message with
  | some seq => withSequence event seq
  | none =>
    match event.rawSequenceId with
    | some seq => { event with eventMeta := { event.eventMeta with sequenceId := seq } }
    | none => event

/-! ## Messages -/

/-- One level: a price and a quantity, whatever follows them. -/
def parseLevel (value : Value) : Option Level :=
  match value.getArray with
  | some (price :: qty :: _) =>
    match price.getInt64, qty.getInt64 with
    | some priceTicks, some qtyLots =>
      if priceTicks < 0 ∨ qtyLots < 0 then none else some { priceTicks, qtyLots }
    | _, _ => none
  | _ => none

def parseLevels (values : List Value) : Option (List Level) := values.mapM parseLevel

def parseSnapshot (message : Value) (event : NormalizedEvent) :
    Except ParseError NormalizedEvent :=
  if event.rawSequenceId = none then .error .missingField
  else match getArray message "yes" with
    | none => .error .missingField
    | some yesLevels =>
      match parseLevels yesLevels with
      | none => .error .invalidField
      | some bids =>
        match getArray message "no" with
        | none => .error .missingField
        | some noLevels =>
          match parseLevels noLevels with
          | none => .error .invalidField
          | some asks =>
            .ok { event with type := .snapshot, data := .snapshot { bids, asks } }

def parseDelta (message : Value) (event : NormalizedEvent) (strictFieldValidation : Bool) :
    Except ParseError NormalizedEvent :=
  if event.rawSequenceId = none then .error .missingField
  else match getInt64 message "price", getInt64 message "delta" with
    | some priceTicks, some deltaQtyLots =>
      if priceTicks < 0 then .error .invalidField
      else match getString message "side" with
        | none => .error .missingField
        | some sideToken =>
          let side := parseBookSide sideToken
          if side = .unknown ∧ strictFieldValidation then .error .invalidField
          else .ok { event with
            type := .delta
            data := .delta { side, priceTicks, deltaQtyLots } }
    | _, _ => .error .missingField

/-- The side of the aggressor. It may be left out when validation is not strict. -/
def parseAggressor (message : Value) (strictFieldValidation : Bool) : Except ParseError Side :=
  match getString message "taker_side" with
  | none => if strictFieldValidation then .error .missingField else .ok .unknown
  | some takerSide =>
    let aggressor := parseTradeSide takerSide
    if aggressor = .unknown ∧ strictFieldValidation then .error .invalidField else .ok aggressor

def parseTrade (message : Value) (event : NormalizedEvent) (strictFieldValidation : Bool) :
    Except ParseError NormalizedEvent :=
  let event := { setSequenceFromMsg message event with type := .trade }
  match (getInt64 message "yes_price").or (getInt64 message "price"), getLotCount message with
  | some priceTicks, some qtyLots =>
    if priceTicks < 0 ∨ qtyLots < 0 then .error .invalidField
    else match parseAggressor message strictFieldValidation with
      | .error error => .error error
      | .ok aggressor =>
        .ok { event with data := .trade {
          priceTicks, qtyLots, aggressor, tradeId := getString message "trade_id" } }
  | _, _ => .error .missingField

/-- The event of a frame before its message is looked at. -/
def frameEvent (frame : RouterFrame) : NormalizedEvent where
  eventMeta := {
    exchange := .kalshi
    recvNs := frame.recvNs
    sequenceId := frame.sequenceId.getD 0 }
  marketTicker := frame.marketTicker
  rawSequenceId := frame.sequenceId

/-- A parser validates strictly: nothing sets the flag to another value. -/
def strictFieldValidation : Bool := true

def parseObject (root : Value) (frame : RouterFrame) : Except ParseError NormalizedEvent :=
  match getString root "type" with
  | none => .error .missingField
  | some type =>
    let event := setSequenceFromRoot root (frameEvent frame)
    if type = "orderbook_snapshot" ∨ type = "orderbook_delta" ∨ type = "trade" then
      match getObject root "msg" with
      | none => .error .missingField
      | some message =>
        if type = "orderbook_snapshot" then parseSnapshot message event
        else if type = "orderbook_delta" then parseDelta message event strictFieldValidation
        else parseTrade message event strictFieldValidation
    else .error .unsupportedMessageType

def parse (iterate : String → Option Value) (frame : RouterFrame) :
    Except ParseError NormalizedEvent :=
  match (iterate frame.rawPayloadView).bind Value.getObject with
  | none => .error .invalidJson
  | some root => parseObject root frame

/-! ## What the parser lets through -/

/-- An event as the parser makes it. Levels may have the quantity zero. -/
inductive Parsed (frame : RouterFrame) (event : NormalizedEvent) : Prop
  | snapshot (snapshot : SnapshotData) (htype : event.type = .snapshot)
      (hdata : event.data = .snapshot snapshot) (hticker : event.marketTicker = frame.marketTicker)
      (hlevels : ∀ level ∈ snapshot.bids ++ snapshot.asks,
        0 ≤ level.priceTicks ∧ 0 ≤ level.qtyLots)
  | delta (delta : DeltaData) (htype : event.type = .delta) (hdata : event.data = .delta delta)
      (hticker : event.marketTicker = frame.marketTicker) (hprice : 0 ≤ delta.priceTicks)
      (hside : delta.side ≠ .unknown)
  | trade (trade : TradeData) (htype : event.type = .trade) (hdata : event.data = .trade trade)
      (hticker : event.marketTicker = frame.marketTicker)

theorem Parsed.marketTicker {frame : RouterFrame} {event : NormalizedEvent}
    (h : Parsed frame event) : event.marketTicker = frame.marketTicker := by
  rcases h with ⟨_, _, _, hticker, _⟩ | ⟨_, _, _, hticker, _, _⟩ | ⟨_, _, _, hticker⟩ <;>
    exact hticker

theorem parseLevel_some {value : Value} {level : Level} (h : parseLevel value = some level) :
    0 ≤ level.priceTicks ∧ 0 ≤ level.qtyLots := by
  rw [parseLevel] at h
  split at h
  · split at h
    · split at h
      · exact absurd h (by simp)
      · rename_i hvalid
        obtain rfl := Option.some.inj h
        exact ⟨not_lt.mp fun hneg ↦ hvalid (.inl hneg), not_lt.mp fun hneg ↦ hvalid (.inr hneg)⟩
    · exact absurd h (by simp)
  · exact absurd h (by simp)

theorem parseLevels_some (values : List Value) : ∀ {levels : List Level},
    parseLevels values = some levels →
    ∀ level ∈ levels, 0 ≤ level.priceTicks ∧ 0 ≤ level.qtyLots := by
  induction values with
  | nil =>
    intro levels h level hlevel
    obtain rfl : [] = levels := Option.some.inj h
    exact absurd hlevel List.not_mem_nil
  | cons value values ih =>
    intro levels h level hlevel
    rw [parseLevels, List.mapM_cons] at h
    obtain ⟨first, hfirst, h⟩ := Option.bind_eq_some_iff.mp h
    obtain ⟨rest, hrest, h⟩ := Option.bind_eq_some_iff.mp h
    obtain rfl := Option.some.inj h
    rcases List.mem_cons.mp hlevel with rfl | hlevel
    · exact parseLevel_some hfirst
    · exact ih hrest level hlevel

theorem parseSnapshot_ok {message : Value} {event result : NormalizedEvent}
    (h : parseSnapshot message event = .ok result) :
    ∃ snapshot, result = { event with type := .snapshot, data := .snapshot snapshot } ∧
      ∀ level ∈ snapshot.bids ++ snapshot.asks, 0 ≤ level.priceTicks ∧ 0 ≤ level.qtyLots := by
  rw [parseSnapshot] at h
  split at h
  · exact absurd h (by simp)
  split at h
  · exact absurd h (by simp)
  split at h
  · exact absurd h (by simp)
  rename_i bids hbids
  split at h
  · exact absurd h (by simp)
  split at h
  · exact absurd h (by simp)
  rename_i asks hasks
  refine ⟨{ bids, asks }, (Except.ok.inj h).symm, fun level hlevel ↦ ?_⟩
  rcases List.mem_append.mp hlevel with hbid | hask
  · exact parseLevels_some _ hbids level hbid
  · exact parseLevels_some _ hasks level hask

theorem parseDelta_ok {message : Value} {event result : NormalizedEvent}
    (h : parseDelta message event true = .ok result) :
    ∃ delta, result = { event with type := .delta, data := .delta delta } ∧
      0 ≤ delta.priceTicks ∧ delta.side ≠ .unknown := by
  rw [parseDelta] at h
  split at h
  · exact absurd h (by simp)
  split at h
  · split at h
    · exact absurd h (by simp)
    rename_i hprice
    split at h
    · exact absurd h (by simp)
    dsimp only at h
    split at h
    · exact absurd h (by simp)
    rename_i hside
    exact ⟨_, (Except.ok.inj h).symm, not_lt.mp hprice, fun hunknown ↦ hside ⟨hunknown, rfl⟩⟩
  · exact absurd h (by simp)

theorem parseTrade_ok {message : Value} {event result : NormalizedEvent} {strict : Bool}
    (h : parseTrade message event strict = .ok result) :
    result.type = .trade ∧ result.marketTicker = event.marketTicker ∧
      result.rawSequenceId = (setSequenceFromMsg message event).rawSequenceId ∧
      ∃ trade, result.data = .trade trade := by
  have hticker : (setSequenceFromMsg message event).marketTicker = event.marketTicker := by
    rw [setSequenceFromMsg]
    split
    · rfl
    · split <;> rfl
  rw [parseTrade] at h
  dsimp only at h
  split at h
  · split at h
    · exact absurd h (by simp)
    split at h
    · exact absurd h (by simp)
    obtain rfl := Except.ok.inj h
    exact ⟨rfl, hticker, rfl, _, rfl⟩
  · exact absurd h (by simp)

/-- **What a successful parse gives.** -/
theorem parsed_of_parse {iterate : String → Option Value} {frame : RouterFrame}
    {event : NormalizedEvent} (h : parse iterate frame = .ok event) : Parsed frame event := by
  rw [parse] at h
  split at h
  · exact absurd h (by simp)
  rename_i root _
  have hticker : (setSequenceFromRoot root (frameEvent frame)).marketTicker
      = frame.marketTicker := by
    rw [setSequenceFromRoot]
    split <;> rfl
  rw [parseObject] at h
  split at h
  · exact absurd h (by simp)
  dsimp only at h
  split at h
  · split at h
    · exact absurd h (by simp)
    split at h
    · obtain ⟨snapshot, rfl, hlevels⟩ := parseSnapshot_ok h
      exact .snapshot snapshot rfl rfl hticker hlevels
    split at h
    · obtain ⟨delta, rfl, hprice, hside⟩ := parseDelta_ok h
      exact .delta delta rfl rfl hticker hprice hside
    · obtain ⟨htype, hsame, _, trade, hdata⟩ := parseTrade_ok h
      exact .trade trade htype hdata (hsame.trans hticker)
  · exact absurd h (by simp)

end KalshiParser

/-! ## Samples

Messages of the exchange and what they are to a JSON library, for the concrete runs that go with the
theorems. -/

namespace SampleMessages

/-- A library that reads these texts and no other. -/
def reads (messages : List (String × Value)) (text : String) : Option Value := messages.lookup text

/-- An integer that fits all three types. -/
def number (value : ℕ) : Value :=
  .number { int64 := some value, uint64 := some value, double := some value }

/-- A trade of three lots, with a sequence id in the root and one in its message. -/
def tradeText (marketTicker : String) (root message : ℕ) : String :=
  "\x7b\"type\":\"trade\",\"seq\":" ++ toString root ++ ",\"msg\":\x7b\"market_ticker\":\"" ++
    marketTicker ++ "\",\"seq\":" ++ toString message ++
    ",\"yes_price\":40,\"count\":3,\"taker_side\":\"yes\"\x7d\x7d"

def trade (marketTicker : String) (root message : ℕ) : Value :=
  .object [
    ("type", .string "trade"),
    ("seq", number root),
    ("msg", .object [
      ("market_ticker", .string marketTicker),
      ("seq", number message),
      ("yes_price", number 40),
      ("count", number 3),
      ("taker_side", .string "yes")])]

/-- A snapshot: a bid at 40 for `qty` lots and no asks. -/
def snapshotText (qty : ℕ) : String :=
  "\x7b\"type\":\"orderbook_snapshot\",\"seq\":7,\"msg\":\x7b\"market_ticker\":\"KXBTC-YES\"," ++
    "\"yes\":[[40," ++ toString qty ++ "]],\"no\":[]\x7d\x7d"

def snapshot (qty : ℕ) : Value :=
  .object [
    ("type", .string "orderbook_snapshot"),
    ("seq", number 7),
    ("msg", .object [
      ("market_ticker", .string "KXBTC-YES"),
      ("yes", .array [.array [number 40, number qty]]),
      ("no", .array [])])]

/-- One bid more at 40. -/
def deltaText : String :=
  "\x7b\"type\":\"orderbook_delta\",\"seq\":8,\"msg\":\x7b\"market_ticker\":\"KXBTC-YES\"," ++
    "\"price\":40,\"delta\":1,\"side\":\"yes\"\x7d\x7d"

def delta : Value :=
  .object [
    ("type", .string "orderbook_delta"),
    ("seq", number 8),
    ("msg", .object [
      ("market_ticker", .string "KXBTC-YES"),
      ("price", number 40),
      ("delta", number 1),
      ("side", .string "yes")])]

end SampleMessages

end TradingEngine
