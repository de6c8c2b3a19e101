import TradingEngine.Adapters.KalshiOms
import TradingEngine.Oms.OrderManagerSteps
import TradingEngine.Oms.PaperOrderTransport

/-!
# What the paper transport answers

A round trip in three parts. A place that the Kalshi adapter encodes is read by the paper transport
as it was meant. The transport answers with an acknowledgement and a fill. The adapter reads these
back as updates with the client order id, the market, the side and the quantity of the place.

A cancel or replace is answered with a refusal, which is read back with the client order id of the
request. Behind an order manager the answers wait in the queue of the transport, and a step of the
manager takes the front of the queue or adds the answers to the request that it sends.

Quantities and prices are signed 64-bit numbers, as they are on the wire.
-/

namespace TradingEngine

open Json

/-- The intent's numbers fit their type. -/
def OrderIntent.IsInt64 (intent : OrderIntent) : Prop :=
  Json.IsInt64 intent.qtyLots ∧ ∀ price ∈ intent.limitPriceTicks, Json.IsInt64 price

instance (intent : OrderIntent) : Decidable intent.IsInt64 :=
  inferInstanceAs (Decidable (_ ∧ ∀ price ∈ intent.limitPriceTicks, _))

namespace PaperOrderTransport

variable {Text : Type*} {json : JsonLibrary Text} {clientOrderId exchangeOrderId marketTicker
  side : String} {recvTsNs : ℕ} {qty price : ℤ}

/-! ## The documents print -/

theorem prints_recvTsNs : (numberInteger (recvTsNs % 2 ^ 64 : ℕ)).prints := by
  have hlt : recvTsNs % 2 ^ 64 < 2 ^ 64 := Nat.mod_lt _ (by decide)
  rw [prints, decide_eq_true_eq]
  omega

theorem prints_envelope {type : String} {message : Json} (h : message.prints) :
    (envelope type recvTsNs message).prints := by
  refine prints_object ["msg", "recv_ts_ns", "type"] rfl (by decide) ?_
  simpa using ⟨h, prints_recvTsNs⟩

theorem prints_placeDocument {intent : OrderIntent} (hqty : Json.IsInt64 intent.qtyLots)
    (hprice : Json.IsInt64 price) : (Kalshi.placeDocument intent price).prints := by
  refine prints_object ["action", "client_order_id", "limit_price", "market_ticker", "qty", "side",
    "time_in_force"] rfl (by decide) ?_
  simpa using ⟨prints_numberInteger hprice, prints_numberInteger hqty⟩

theorem prints_ackDocument (hqty : Json.IsInt64 qty) :
    (ackDocument recvTsNs clientOrderId exchangeOrderId marketTicker qty).prints := by
  refine prints_envelope (prints_object ["accepted_qty", "client_order_id", "exchange_order_id",
    "market_ticker"] rfl (by decide) ?_)
  simpa using prints_numberInteger hqty

theorem prints_fillDocument (hqty : Json.IsInt64 qty) (hprice : Json.IsInt64 price) :
    (fillDocument recvTsNs clientOrderId exchangeOrderId marketTicker qty price side).prints := by
  refine prints_envelope (prints_object ["client_order_id", "exchange_order_id", "fill_price",
    "fill_qty", "market_ticker", "side"] rfl (by decide) ?_)
  simpa using ⟨prints_numberInteger hprice, prints_numberInteger hqty⟩

/-! ## The queue of answers -/

theorem connected_of_sendText {autoFillOnPlace : Bool} {s : State Text} {payload : Text}
    (h : (sendText json autoFillOnPlace s payload).1 = true) : s.connected = true := by
  refine Bool.eq_true_of_not_eq_false fun hclosed ↦ ?_
  rw [sendText, if_pos hclosed] at h
  exact absurd h Bool.false_ne_true

theorem sendPlace_cases (autoFillOnPlace : Bool) (s : State Text) (request : Json)
    (clientOrderId : String) :
    (sendPlace json autoFillOnPlace s request clientOrderId).1 = true ∨
    (sendPlace json autoFillOnPlace s request clientOrderId).2.inboundUpdates
      = s.inboundUpdates := by
  rw [sendPlace]
  split
  · split
    · exact .inr rfl
    · exact .inl rfl
  · exact .inr rfl

theorem sendRequest_cases (autoFillOnPlace : Bool) (s : State Text) (request : Json) :
    (sendRequest json autoFillOnPlace s request).1 = true ∨
    (sendRequest json autoFillOnPlace s request).2.inboundUpdates = s.inboundUpdates := by
  rw [sendRequest]
  split
  · exact .inr rfl
  split
  · split
    · exact .inr rfl
    split
    · exact sendPlace_cases autoFillOnPlace s request _
    split
    · exact .inl rfl
    · exact .inr rfl
  · exact .inr rfl

/-- A request is taken, or it is not answered. -/
theorem sendText_cases (autoFillOnPlace : Bool) (s : State Text) (payload : Text) :
    (sendText json autoFillOnPlace s payload).1 = true ∨
    (sendText json autoFillOnPlace s payload).2.inboundUpdates = s.inboundUpdates := by
  rw [sendText]
  split
  · exact .inr rfl
  split
  · exact .inr rfl
  · exact sendRequest_cases autoFillOnPlace s _

/-- What is received is the front of the queue. -/
theorem inboundUpdates_of_recvText {s : State Text} {payload : Text}
    (h : (recvText s).1 = some payload) :
    s.inboundUpdates = payload :: (recvText s).2.inboundUpdates := by
  rw [recvText] at h ⊢
  by_cases hclosed : s.connected = false
  · rw [if_pos hclosed] at h
    exact absurd h (by simp)
  · rw [if_neg hclosed] at h ⊢
    cases hinbound : s.inboundUpdates with
    | nil =>
      rw [hinbound] at h
      exact absurd h (by simp)
    | cons front rest =>
      rw [hinbound] at h
      obtain rfl := Option.some.inj h
      rfl

theorem recvText_of_none {s : State Text} (h : (recvText s).1 = none) : (recvText s).2 = s := by
  rw [recvText] at h ⊢
  split at h
  · rename_i hclosed
    rw [if_pos hclosed]
  · rename_i hopen
    rw [if_neg hopen]
    split at h
    · rfl
    · exact absurd h (by simp)

/-! ## The way there -/

/-- A place is answered with an acknowledgement and a fill. -/
theorem sendText_place {s : State Text} {intent : OrderIntent} (hconnected : s.connected = true)
    (haction : intent.action = .place) (hid : intent.clientOrderId ≠ "") (hpos : 0 < intent.qtyLots)
    (hqty : Json.IsInt64 intent.qtyLots) (hprice : Json.IsInt64 price) :
    sendText json true s (json.dump (Kalshi.placeDocument intent price)) =
      (true, answerPlace json true s intent.clientOrderId intent.marketTicker intent.qtyLots price
        (Kalshi.sideToString intent.side)) := by
  rw [sendText, if_neg (by rw [hconnected]; decide),
    json.parse_dump _ (prints_placeDocument hqty hprice)]
  dsimp only
  have hread : sendRequest json true s (Kalshi.placeDocument intent price) =
      if intent.clientOrderId = "" then fail s .invalidRequest
      else if Kalshi.actionToString intent.action = "place_order" then
        if wrapInt64 intent.qtyLots ≤ 0 then fail s .invalidRequest
        else (true, answerPlace json true s intent.clientOrderId intent.marketTicker
          (wrapInt64 intent.qtyLots) (wrapInt64 price) (Kalshi.sideToString intent.side))
      else if Kalshi.actionToString intent.action = "cancel_order" ∨
          Kalshi.actionToString intent.action = "replace_order" then
        sendUnsupported json s (Kalshi.placeDocument intent price) intent.clientOrderId
      else fail s .unknownAction := rfl
  have hplace : Kalshi.actionToString intent.action = "place_order" := by rw [haction]; rfl
  rw [hread, if_neg hid, if_pos hplace, wrapInt64_of_isInt64 hqty, wrapInt64_of_isInt64 hprice,
    if_neg (not_le.mpr hpos)]

/-! ## The way back -/

/-- The update that an acknowledgement is read as. -/
def ackUpdate (recvTsNs : ℕ) (clientOrderId exchangeOrderId marketTicker : String) (qty : ℤ) :
    OrderStateUpdate where
  exchange := .kalshi
  status := .accepted
  clientOrderId := clientOrderId
  exchangeOrderId := some exchangeOrderId
  marketTicker := marketTicker
  recvTsNs := recvTsNs
  data := .ack {
    clientOrderId := clientOrderId
    exchangeOrderId := some exchangeOrderId
    marketTicker := marketTicker
    acceptedQtyLots := qty }

/-- The update that a fill is read as. -/
def fillUpdate (recvTsNs : ℕ) (clientOrderId exchangeOrderId marketTicker : String) (qty price : ℤ)
    (side : Side) : OrderStateUpdate where
  exchange := .kalshi
  status := .filled
  clientOrderId := clientOrderId
  exchangeOrderId := some exchangeOrderId
  marketTicker := marketTicker
  recvTsNs := recvTsNs
  data := .fill {
    clientOrderId := clientOrderId
    exchangeOrderId := some exchangeOrderId
    marketTicker := marketTicker
    fillQtyLots := qty
    fillPriceTicks := price
    side := side
    liquidity := .unknown }

/-- A time is printed with 64 bits and read with 32. -/
theorem toNat_recvTsNs : (((recvTsNs % 2 ^ 64 : ℕ) : ℤ) % 2 ^ 32).toNat = recvTsNs % 2 ^ 32 := by
  omega

theorem parseUpdate_ackDocument (hqty : Json.IsInt64 qty) :
    Kalshi.parseUpdate json (json.dump (ackDocument recvTsNs clientOrderId exchangeOrderId
        marketTicker qty)) =
      .ok (ackUpdate (recvTsNs % 2 ^ 32) clientOrderId exchangeOrderId marketTicker qty) := by
  rw [Kalshi.parseUpdate, json.parse_dump _ (prints_ackDocument hqty)]
  have hread : Kalshi.parseDocument (ackDocument recvTsNs clientOrderId exchangeOrderId
      marketTicker qty) =
      .ok (ackUpdate (((recvTsNs % 2 ^ 64 : ℕ) : ℤ) % 2 ^ 32).toNat clientOrderId exchangeOrderId
        marketTicker (wrapInt64 qty)) := rfl
  dsimp only
  rw [hread, toNat_recvTsNs, wrapInt64_of_isInt64 hqty]

theorem parseUpdate_fillDocument (hqty : Json.IsInt64 qty) (hprice : Json.IsInt64 price)
    {side : Side} (hside : side ≠ .unknown) :
    Kalshi.parseUpdate json (json.dump (fillDocument recvTsNs clientOrderId exchangeOrderId
        marketTicker qty price (Kalshi.sideToString side))) =
      .ok (fillUpdate (recvTsNs % 2 ^ 32) clientOrderId exchangeOrderId marketTicker qty price
        side) := by
  rw [Kalshi.parseUpdate, json.parse_dump _ (prints_fillDocument hqty hprice)]
  have hread : Kalshi.parseDocument (fillDocument recvTsNs clientOrderId exchangeOrderId
      marketTicker qty price (Kalshi.sideToString side)) =
      .ok (fillUpdate (((recvTsNs % 2 ^ 64 : ℕ) : ℤ) % 2 ^ 32).toNat clientOrderId exchangeOrderId
        marketTicker (wrapInt64 qty) (wrapInt64 price)
        ((Kalshi.sideFromString (Kalshi.sideToString side)).getD .unknown)) := rfl
  dsimp only
  rw [hread, toNat_recvTsNs, wrapInt64_of_isInt64 hqty, wrapInt64_of_isInt64 hprice,
    Kalshi.sideFromString_sideToString hside, Option.getD_some]

/-- **A place that is taken is acknowledged and filled.** The two answers are read back with the
client order id, the market, the side and the quantity of the place. -/
theorem sendText_answers {s : State Text} {intent : OrderIntent} {payload : Text}
    (haction : intent.action = .place) (hint : intent.IsInt64)
    (hbuild : Kalshi.buildRequest json intent = .ok payload)
    (hsend : (sendText json true s payload).1 = true) :
    ∃ price exchangeOrderId ackTs fillTs ack fill, Kalshi.ValidPlace intent price ∧
      (sendText json true s payload).2.inboundUpdates = s.inboundUpdates ++ [ack, fill] ∧
      Kalshi.parseUpdate json ack = .ok (ackUpdate ackTs intent.clientOrderId exchangeOrderId
        intent.marketTicker intent.qtyLots) ∧
      Kalshi.parseUpdate json fill = .ok (fillUpdate fillTs intent.clientOrderId exchangeOrderId
        intent.marketTicker intent.qtyLots price intent.side) := by
  obtain ⟨hqty, hprice⟩ := hint
  obtain ⟨price, hvalid, rfl⟩ := Kalshi.buildRequest_place hbuild haction
  have hprice := hprice price hvalid.limitPriceTicks
  rw [sendText_place (connected_of_sendText hsend) haction hvalid.clientOrderId hvalid.qtyLots hqty
    hprice]
  exact ⟨price, exchangeOrderIdOf s, _, _, _, _, hvalid, List.append_assoc _ [_] [_],
    parseUpdate_ackDocument hqty, parseUpdate_fillDocument hqty hprice hvalid.side⟩

/-! ## Refusals -/

/-- The update that a refusal is read as. -/
def rejectUpdate (recvTsNs : ℕ) (clientOrderId marketTicker : String) : OrderStateUpdate where
  exchange := .kalshi
  status := .rejected
  clientOrderId := clientOrderId
  exchangeOrderId := none
  marketTicker := marketTicker
  recvTsNs := recvTsNs
  data := .reject {
    clientOrderId := clientOrderId
    exchangeOrderId := none
    reasonCode := "paper_action_unsupported"
    reasonMessage := "paper transport currently supports place_order only" }

theorem prints_rejectDocument : (rejectDocument recvTsNs clientOrderId marketTicker).prints := by
  refine prints_envelope (prints_object ["client_order_id", "market_ticker", "reason_code",
    "reason_message"] rfl (by decide) ?_)
  simp

theorem parseUpdate_rejectDocument :
    Kalshi.parseUpdate json (json.dump (rejectDocument recvTsNs clientOrderId marketTicker)) =
      .ok (rejectUpdate (recvTsNs % 2 ^ 32) clientOrderId marketTicker) := by
  rw [Kalshi.parseUpdate, json.parse_dump _ prints_rejectDocument]
  have hread : Kalshi.parseDocument (rejectDocument recvTsNs clientOrderId marketTicker) =
      .ok (rejectUpdate (((recvTsNs % 2 ^ 64 : ℕ) : ℤ) % 2 ^ 32).toNat clientOrderId
        marketTicker) := rfl
  dsimp only
  rw [hread, toNat_recvTsNs]

/-- The target ids print, behind any fields with smaller keys. -/
theorem prints_targetFields (keys : List String) {intent : OrderIntent}
    {fields : List (String × Json)} (hkeys : fields.map Prod.fst = keys)
    (horder : (keys ++ ["target_client_order_id", "target_exchange_order_id"]).Pairwise (· < ·))
    (hfields : ∀ value ∈ fields.map Prod.snd, value.prints) :
    (Json.object (fields ++ Kalshi.targetFields intent)).prints := by
  have hsublist : ((Kalshi.targetFields intent).map Prod.fst).Sublist
      ["target_client_order_id", "target_exchange_order_id"] := by
    rw [Kalshi.targetFields, List.map_append]
    change List.Sublist _ (["target_client_order_id"] ++ ["target_exchange_order_id"])
    refine List.Sublist.append ?_ ?_
    · rcases intent.targetClientOrderId with _ | id
      · exact List.nil_sublist _
      · exact List.Sublist.refl _
    · rcases intent.targetExchangeOrderId with _ | id
      · exact List.nil_sublist _
      · exact List.Sublist.refl _
  refine prints_object _ rfl ?_ ?_
  · rw [List.map_append, hkeys]
    exact horder.sublist (hsublist.append_left _)
  · intro value hvalue
    rw [List.map_append] at hvalue
    rcases List.mem_append.mp hvalue with hfield | htarget
    · exact hfields value hfield
    · rw [Kalshi.targetFields] at htarget
      obtain ⟨id, -, rfl⟩ | ⟨id, -, rfl⟩ :
          (∃ id, intent.targetClientOrderId = some id ∧ Json.string id = value) ∨
          ∃ id, intent.targetExchangeOrderId = some id ∧ Json.string id = value := by
        simpa using htarget
      · exact prints_string id
      · exact prints_string id

/-- A cancel or replace, as it is encoded. -/
theorem buildRequest_targets {intent : OrderIntent} {payload : Text} (htargets : intent.Targets)
    (hint : intent.IsInt64) (hbuild : Kalshi.buildRequest json intent = .ok payload) :
    ∃ action rest, (action = "cancel_order" ∨ action = "replace_order") ∧
      json.parse payload = some (.object (("action", .string action) ::
        ("client_order_id", .string intent.clientOrderId) :: rest)) := by
  rw [Kalshi.buildRequest] at hbuild
  split at hbuild
  · exact absurd hbuild (by simp)
  rcases htargets with haction | haction
  · rw [haction] at hbuild
    dsimp only [Kalshi.buildCancelRequest] at hbuild
    split at hbuild
    · exact absurd hbuild (by simp)
    · obtain rfl := Except.ok.inj hbuild
      refine ⟨"cancel_order", Kalshi.targetFields intent, .inl rfl, ?_⟩
      rw [json.parse_dump _ (prints_targetFields ["action", "client_order_id"] rfl (by decide)
        (by simp)), haction]
      rfl
  · rw [haction] at hbuild
    dsimp only [Kalshi.buildReplaceRequest] at hbuild
    split at hbuild
    · exact absurd hbuild (by simp)
    split at hbuild
    · exact absurd hbuild (by simp)
    split at hbuild
    · exact absurd hbuild (by simp)
    · rename_i price hprice
      obtain rfl := Except.ok.inj hbuild
      refine ⟨"replace_order", ("limit_price", .numberInteger price) ::
        ("qty", .numberInteger intent.qtyLots) :: Kalshi.targetFields intent, .inr rfl, ?_⟩
      have hprints := prints_numberInteger (hint.2 price hprice)
      rw [json.parse_dump _ (prints_targetFields ["action", "client_order_id", "limit_price", "qty"]
        rfl (by decide) (by simpa using ⟨hprints, prints_numberInteger hint.1⟩)), haction]
      rfl

/-- **A cancel or replace is answered with a refusal**, if it is answered. -/
theorem sendText_refusal (autoFillOnPlace : Bool) {s : State Text} {intent : OrderIntent}
    {payload : Text} (htargets : intent.Targets) (hint : intent.IsInt64)
    (hbuild : Kalshi.buildRequest json intent = .ok payload) :
    (sendText json autoFillOnPlace s payload).2.inboundUpdates = s.inboundUpdates ∨
    ∃ recvTsNs marketTicker, (sendText json autoFillOnPlace s payload).2.inboundUpdates =
      s.inboundUpdates ++ [json.dump (rejectDocument recvTsNs intent.clientOrderId
        marketTicker)] := by
  obtain ⟨action, rest, haction, hparse⟩ := buildRequest_targets htargets hint hbuild
  have hplace : action ≠ "place_order" := by
    rcases haction with rfl | rfl <;> decide
  rw [sendText, hparse]
  split
  · exact .inl rfl
  have hread : sendRequest json autoFillOnPlace s (.object (("action", .string action) ::
      ("client_order_id", .string intent.clientOrderId) :: rest)) =
      if intent.clientOrderId = "" then fail s .invalidRequest
      else if action = "place_order" then
        sendPlace json autoFillOnPlace s (.object (("action", .string action) ::
          ("client_order_id", .string intent.clientOrderId) :: rest)) intent.clientOrderId
      else if action = "cancel_order" ∨ action = "replace_order" then
        sendUnsupported json s (.object (("action", .string action) ::
          ("client_order_id", .string intent.clientOrderId) :: rest)) intent.clientOrderId
      else fail s .unknownAction := rfl
  dsimp only
  rw [hread, if_neg hplace, if_pos haction]
  split
  · exact .inl rfl
  · exact .inr ⟨_, _, rfl⟩

/-- Whatever is sent, answers are added at the end. -/
theorem sendText_appends (autoFillOnPlace : Bool) (s : State Text) (payload : Text) :
    s.inboundUpdates <+: (sendText json autoFillOnPlace s payload).2.inboundUpdates := by
  rw [sendText]
  split
  · exact List.prefix_rfl
  split
  · exact List.prefix_rfl
  rw [sendRequest]
  split
  · exact List.prefix_rfl
  split
  · split
    · exact List.prefix_rfl
    split
    · rw [sendPlace]
      split
      · split
        · exact List.prefix_rfl
        · rw [answerPlace]
          dsimp only
          split
          · rw [List.append_assoc]
            exact List.prefix_append _ _
          · exact List.prefix_append _ _
      · exact List.prefix_rfl
    split
    · exact List.prefix_append _ _
    · exact List.prefix_rfl
  · exact List.prefix_rfl

end PaperOrderTransport

/-! ## The queue behind an order manager -/

namespace OrderManager

/-- An order manager over the paper transport, whatever its sink and its limits. -/
def overPaper {Text σ : Type*} (json : JsonLibrary Text) (autoFillOnPlace : Bool)
    (eventSink : IOrderEventSink σ) (provider : Option (IPortfolioRiskSnapshotProvider σ))
    (globalRisk : GlobalRiskConfig) (portfolioRisk : PortfolioRiskConfig) :
    OrderManagerConfig Text (PaperOrderTransport.State Text) σ where
  adapter := Kalshi.omsAdapter json
  transport := PaperOrderTransport.transport json autoFillOnPlace
  eventSink := eventSink
  portfolioSnapshotProvider := provider
  globalRisk := globalRisk
  portfolioRisk := portfolioRisk

variable {Text σ : Type*} {json : JsonLibrary Text} {autoFillOnPlace : Bool}
  {eventSink : IOrderEventSink σ} {provider : Option (IPortfolioRiskSnapshotProvider σ)}
  {globalRisk : GlobalRiskConfig} {portfolioRisk : PortfolioRiskConfig}
  {s s' : OrderManager Text (PaperOrderTransport.State Text) σ} {input : OrderManagerInput}

/-- A request that is not sent is not answered. -/
theorem inboundUpdates_of_unsent {pending : PendingIntent}
    {transport : PaperOrderTransport.State Text}
    (hfailed : s.sends (overPaper json autoFillOnPlace eventSink provider globalRisk portfolioRisk)
      pending = false)
    (htransport : transport = s.transport ∨
      ∃ payload, Kalshi.buildRequest json pending.intent = .ok payload ∧
        transport = (PaperOrderTransport.sendText json autoFillOnPlace s.transport payload).2) :
    transport.inboundUpdates = s.transport.inboundUpdates := by
  obtain rfl | ⟨payload, hbuild, rfl⟩ := htransport
  · rfl
  · have hadapter : (overPaper json autoFillOnPlace eventSink provider globalRisk
        portfolioRisk).adapter.buildRequest pending.intent = .ok payload := hbuild
    have hrefused : (PaperOrderTransport.sendText json autoFillOnPlace s.transport payload).1 =
        false := by
      rw [sends, hadapter] at hfailed
      exact hfailed
    obtain hsent | hsame := PaperOrderTransport.sendText_cases autoFillOnPlace s.transport payload
    · exact absurd (hsent.symm.trans hrefused) (by decide)
    · exact hsame

/-- The queue of answers: it stays as it is, loses its front, or gains what a request is answered
with. -/
theorem inboundUpdates_cases
    (h : Effect (overPaper json autoFillOnPlace eventSink provider globalRisk portfolioRisk) s input
      s') :
    s'.transport.inboundUpdates = s.transport.inboundUpdates ∨
    (s.worker = .pumping ∧
      ∃ payload, s.transport.inboundUpdates = payload :: s'.transport.inboundUpdates) ∨
    (∃ pending rest payload, s.worker = .cleared pending rest ∧
      Kalshi.buildRequest json pending.intent = .ok payload ∧
      (PaperOrderTransport.sendText json autoFillOnPlace s.transport payload).1 = true ∧
      s'.transport = (PaperOrderTransport.sendText json autoFillOnPlace s.transport payload).2 ∧
      s'.core = s.core ∧ s.waiting = pending :: s'.waiting ∧ s'.submits = s.submits) := by
  cases h with
  | quiet _ htransport =>
    refine .inl ?_
    obtain rfl | rfl := htransport <;> rfl
  | unheard hworker _ =>
    rcases hrecv : (PaperOrderTransport.recvText s.transport).1 with _ | payload
    · exact .inl (congrArg (·.inboundUpdates) (PaperOrderTransport.recvText_of_none hrecv))
    · exact .inr (.inl ⟨hworker, payload, PaperOrderTransport.inboundUpdates_of_recvText hrecv⟩)
  | @sent _ pending rest payload _ hworker hbuild hsend =>
    refine .inr (.inr ⟨pending, rest, payload, hworker, hbuild, hsend, rfl, rfl, ?_, rfl⟩)
    rw [waiting, hworker]
    rfl
  | unsent _ hfailed htransport => exact .inl (inboundUpdates_of_unsent hfailed htransport)
  | @received _ payload _ _ _ _ _ _ hworker hrecv _ _ =>
    exact .inr (.inl ⟨hworker, payload, PaperOrderTransport.inboundUpdates_of_recvText hrecv⟩)
  | _ => exact .inl rfl

end OrderManager

end TradingEngine
