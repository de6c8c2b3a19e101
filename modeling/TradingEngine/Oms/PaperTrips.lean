import TradingEngine.Oms.ClosedLoop
import TradingEngine.Oms.LedgerInvariants

/-!
# Places on their way through the paper transport

A place that the paper transport has taken is answered twice, and the answers come back in the order
in which the places were sent: an acknowledgement and a fill for the first, then for the second, and
so on. So what the transport holds is known from the list of places: some are filled, at most one is
acknowledged and not filled, the others wait for both answers. This is `Trips`, and each part of the
system is described against it:

* `Wire`: the messages in the transport, and the numbers from which it makes exchange order ids;
* `Orders`: the orders of the core, and where their exchange order ids lead;
* `Books`: what the ledger has bought and sold.

Each of the three is kept by sending a place and by delivering a message.
-/

namespace TradingEngine

open OrderManagerCore PositionLedgerCore

/-- A place that can be traded. -/
structure OrderIntent.IsComplete (intent : OrderIntent) : Prop where
  action : intent.action = .place
  isInt64 : intent.IsInt64
  valid : ∃ price, Kalshi.ValidPlace intent price

/-! ## Trips -/

/-- A place that the transport has taken, and the number that it was given. -/
structure Trip where
  intent : OrderIntent
  number : ℕ

def Trip.exchangeOrderId (trip : Trip) : ExchangeOrderId :=
  "paper-ex-" ++ toString (trip.number % 2 ^ 64)

theorem Trip.exchangeOrderId_ne_empty (trip : Trip) : trip.exchangeOrderId ≠ "" := by
  intro h
  have hlength := congrArg String.length h
  rw [exchangeOrderId, String.length_append] at hlength
  exact absurd hlength (by simp)

/-- The number is printed in decimal, so it can be read off the exchange order id. -/
theorem Trip.number_eq {trip trip' : Trip} (hlt : trip.number < 2 ^ 64)
    (hlt' : trip'.number < 2 ^ 64) (h : trip.exchangeOrderId = trip'.exchangeOrderId) :
    trip.number = trip'.number := by
  rw [exchangeOrderId, exchangeOrderId, Nat.mod_eq_of_lt hlt, Nat.mod_eq_of_lt hlt'] at h
  have hrepr : Nat.repr trip.number = Nat.repr trip'.number := (String.append_right_inj _).mp h
  have hdigits := congrArg String.toList hrepr
  rw [Nat.toList_repr, Nat.toList_repr] at hdigits
  calc trip.number = Nat.ofDigitChars 10 (Nat.toDigits 10 trip.number) 0 :=
        Nat.ofDigitChars_ten_toDigits.symm
    _ = Nat.ofDigitChars 10 (Nat.toDigits 10 trip'.number) 0 := by rw [hdigits]
    _ = trip'.number := Nat.ofDigitChars_ten_toDigits

/-- The places that were sent, in the order of the answers: filled, acknowledged, unanswered. -/
structure Trips where
  filled : List Trip := []
  acked : Option Trip := none
  sent : List Trip := []

/-- A message of the transport. -/
inductive Message
  | ack (trip : Trip)
  | fill (trip : Trip)

/-- The place that a message is about. -/
def Message.trip : Message → Trip
  | .ack trip | .fill trip => trip

/-- The update that a message is read as. -/
def Message.Tells : Message → OrderStateUpdate → Prop
  | .ack trip, update => ∃ recvTsNs, update =
      PaperOrderTransport.ackUpdate recvTsNs trip.intent.clientOrderId trip.exchangeOrderId
        trip.intent.marketTicker trip.intent.qtyLots
  | .fill trip, update => ∃ recvTsNs price, Kalshi.ValidPlace trip.intent price ∧ update =
      PaperOrderTransport.fillUpdate recvTsNs trip.intent.clientOrderId trip.exchangeOrderId
        trip.intent.marketTicker trip.intent.qtyLots price trip.intent.side

def Message.Reads {Text : Type*} (json : JsonLibrary Text) (message : Message) (payload : Text) :
    Prop :=
  ∃ update, Kalshi.parseUpdate json payload = .ok update ∧ message.Tells update

namespace Trips

variable {trips trips' : Trips} {trip : Trip} {message : Message}

def all (trips : Trips) : List Trip := trips.filled ++ (trips.acked.toList ++ trips.sent)

/-- The messages that are still to be delivered. -/
def messages (trips : Trips) : List Message :=
  (trips.acked.map Message.fill).toList ++ trips.sent.flatMap fun trip ↦ [.ack trip, .fill trip]

/-- A further place is taken. -/
def send (trips : Trips) (trip : Trip) : Trips := { trips with sent := trips.sent ++ [trip] }

/-- The delivery of a message. -/
inductive Delivers : Trips → Message → Trips → Prop
  | ack {filled sent : List Trip} {trip : Trip} :
      Delivers ⟨filled, none, trip :: sent⟩ (.ack trip) ⟨filled, some trip, sent⟩
  | fill {filled sent : List Trip} {trip : Trip} :
      Delivers ⟨filled, some trip, sent⟩ (.fill trip) ⟨filled ++ [trip], none, sent⟩

theorem all_send (trips : Trips) (trip : Trip) : (trips.send trip).all = trips.all ++ [trip] := by
  simp only [all, send, List.append_assoc]

theorem messages_send (trips : Trips) (trip : Trip) :
    (trips.send trip).messages = trips.messages ++ [.ack trip, .fill trip] := by
  simp [messages, send]

theorem Delivers.all_eq (h : trips.Delivers message trips') : trips'.all = trips.all := by
  rcases h with _ | _
  · rfl
  · exact List.append_assoc _ [_] _

theorem Delivers.messages_eq (h : trips.Delivers message trips') :
    trips.messages = message :: trips'.messages := by
  rcases h with _ | _ <;> rfl

theorem Delivers.mem_all (h : trips.Delivers message trips') : message.trip ∈ trips.all := by
  rcases h with _ | _
  · exact List.mem_append_right _ List.mem_cons_self
  · exact List.mem_append_right _ List.mem_cons_self

/-- The places that a delivery leaves alone have other client order ids. -/
theorem Delivers.other (h : trips.Delivers message trips')
    (hids : (trips.all.map fun trip ↦ trip.intent.clientOrderId).Nodup)
    (htrip : trip ∈ trips.filled ++ trips'.sent) :
    trip ∈ trips.all ∧ trip.intent.clientOrderId ≠ message.trip.intent.clientOrderId := by
  have hall : trips.all = trips.filled ++ message.trip :: trips'.sent := by
    rcases h with _ | _
    · rfl
    · rfl
  rw [hall] at hids ⊢
  rw [List.map_append, List.map_cons, List.nodup_middle, List.nodup_cons, ← List.map_append] at hids
  refine ⟨?_, fun hid ↦ hids.1 (hid ▸ List.mem_map_of_mem htrip)⟩
  rw [List.mem_append, List.mem_cons]
  rcases List.mem_append.mp htrip with hfilled | hsent
  · exact .inl hfilled
  · exact .inr (.inr hsent)

/-- There is nothing to deliver, or a next message. -/
theorem messages_cases (trips : Trips) :
    (trips.messages = [] ∧ trips.all = trips.filled) ∨
      ∃ message trips', trips.Delivers message trips' := by
  obtain ⟨filled, _ | trip, _ | ⟨next, sent⟩⟩ := trips
  · exact .inl ⟨rfl, List.append_nil filled⟩
  · exact .inr ⟨_, _, .ack⟩
  · exact .inr ⟨_, _, .fill⟩
  · exact .inr ⟨_, _, .fill⟩

end Trips

/-! ## The transport -/

section Wire

variable {Text : Type*} {json : JsonLibrary Text} {transport : PaperOrderTransport.State Text}
  {trips : Trips}

/-- The transport is connected, holds the messages, and numbers the places from one on. -/
structure Wire (json : JsonLibrary Text) (trips : Trips)
    (transport : PaperOrderTransport.State Text) : Prop where
  connected : transport.connected = true
  answers : List.Forall₂ (Message.Reads json) trips.messages transport.inboundUpdates
  numbers : trips.all.map Trip.number = List.range' 1 trips.all.length
  next : transport.nextExchangeOrderId = trips.all.length + 1

theorem wire_connect {s : PaperOrderTransport.State Text} (hinbound : s.inboundUpdates = [])
    (hnext : s.nextExchangeOrderId = 1) :
    Wire json {} (PaperOrderTransport.connect s).2 where
  connected := rfl
  answers := by
    have hsame : (PaperOrderTransport.connect s).2.inboundUpdates = s.inboundUpdates := rfl
    rw [hsame, hinbound]
    exact .nil
  numbers := rfl
  next := hnext

namespace Wire

variable (h : Wire json trips transport)

include h

/-- Places have numbers of their own. -/
theorem number_inj {trip trip' : Trip} (hmem : trip ∈ trips.all) (hmem' : trip' ∈ trips.all)
    (hnumber : trip.number = trip'.number) : trip = trip' := by
  have hnodup : (trips.all.map Trip.number).Nodup := h.numbers ▸ List.nodup_range'
  exact List.inj_on_of_nodup_map hnodup hmem hmem' hnumber

theorem number_le {trip : Trip} (hmem : trip ∈ trips.all) : trip.number ≤ trips.all.length := by
  have hrange : trip.number ∈ List.range' 1 trips.all.length :=
    h.numbers ▸ List.mem_map_of_mem hmem
  rw [List.mem_range'_1] at hrange
  omega

/-- As long as the counter does not wrap around, exchange order ids are different. -/
theorem exchangeOrderId_inj (hfew : trips.all.length < 2 ^ 64) {trip trip' : Trip}
    (hmem : trip ∈ trips.all) (hmem' : trip' ∈ trips.all)
    (hid : trip.exchangeOrderId = trip'.exchangeOrderId) : trip = trip' := by
  refine h.number_inj hmem hmem' (Trip.number_eq ?_ ?_ hid)
  · exact (h.number_le hmem).trans_lt hfew
  · exact (h.number_le hmem').trans_lt hfew

/-- **A complete place is encoded, taken and answered.** -/
theorem sent {intent : OrderIntent} (hcomplete : intent.IsComplete) :
    ∃ payload, Kalshi.buildRequest json intent = .ok payload ∧
      (PaperOrderTransport.sendText json true transport payload).1 = true ∧
      Wire json (trips.send ⟨intent, transport.nextExchangeOrderId⟩)
        (PaperOrderTransport.sendText json true transport payload).2 := by
  obtain ⟨haction, ⟨hqty, hprices⟩, price, hvalid⟩ := hcomplete
  have hprice := hprices price hvalid.limitPriceTicks
  have hbuild : Kalshi.buildRequest json intent =
      .ok (json.dump (Kalshi.placeDocument intent price)) := by
    rw [Kalshi.buildRequest, if_neg (by simp [Kalshi.supports, hvalid.exchange, haction]), haction]
    dsimp only [Kalshi.buildPlaceRequest]
    rw [if_neg (by simp [hvalid.clientOrderId, hvalid.marketTicker, hvalid.qtyLots, hvalid.side]),
      hvalid.limitPriceTicks]
  refine ⟨_, hbuild, ?_⟩
  rw [PaperOrderTransport.sendText_place h.connected haction hvalid.clientOrderId hvalid.qtyLots
    hqty hprice]
  refine ⟨rfl, h.connected, ?_, ?_, ?_⟩
  · -- the two answers join the others at the end
    rw [Trips.messages_send]
    have hinbound : (PaperOrderTransport.answerPlace json true transport intent.clientOrderId
        intent.marketTicker intent.qtyLots price (Kalshi.sideToString intent.side)).inboundUpdates =
        transport.inboundUpdates ++ [_, _] := List.append_assoc _ [_] [_]
    rw [hinbound]
    refine List.rel_append h.answers (.cons ?_ (.cons ?_ .nil))
    · exact ⟨_, PaperOrderTransport.parseUpdate_ackDocument hqty, _, rfl⟩
    · exact ⟨_, PaperOrderTransport.parseUpdate_fillDocument hqty hprice hvalid.side, _, price,
        hvalid, rfl⟩
  · rw [Trips.all_send, List.map_append, List.length_append, h.numbers, List.map_singleton,
      h.next, List.length_singleton, List.range'_concat, Nat.one_mul, Nat.add_comm 1]
  · rw [Trips.all_send, List.length_append]
    exact congrArg (· + 1) h.next

/-- **The next message is received.** -/
theorem received {message : Message} {trips' : Trips} (hdelivers : trips.Delivers message trips') :
    ∃ payload transport', PaperOrderTransport.recvText transport = (some payload, transport') ∧
      message.Reads json payload ∧ Wire json trips' transport' := by
  obtain ⟨hconnected, hanswers, hnumbers, hnext⟩ := h
  rw [hdelivers.messages_eq] at hanswers
  obtain ⟨payload, rest, hreads, hrest, hinbound⟩ := List.forall₂_cons_left_iff.mp hanswers
  refine ⟨payload, { transport with inboundUpdates := rest }, ?_, hreads, hconnected, hrest, ?_, ?_⟩
  · rw [PaperOrderTransport.recvText, if_neg (by rw [hconnected]; decide), hinbound]
  · rw [hdelivers.all_eq]
    exact hnumbers
  · rw [hdelivers.all_eq]
    exact hnext

end Wire

end Wire

/-! ## The orders -/

/-- The order of a place. -/
structure StandsAs (core : OrderManagerCore) (intent : OrderIntent) (order : InFlightOrder) :
    Prop where
  lookup : core.inFlightOrders.lookup intent.clientOrderId = some order
  clientOrderId : order.clientOrderId = intent.clientOrderId
  requestedQtyLots : order.requestedQtyLots = intent.qtyLots

/-- The order of a place that is acknowledged: it can be found by its exchange order id. -/
structure FoundAs (core : OrderManagerCore) (trip : Trip) (order : InFlightOrder) : Prop where
  stands : StandsAs core trip.intent order
  exchangeOrderId : order.exchangeOrderId = some trip.exchangeOrderId
  found : core.exchangeToClient.lookup trip.exchangeOrderId = some trip.intent.clientOrderId

/-- The orders of the core, for the intents that are accepted and not yet sent, and for the places
that were sent. -/
structure Orders (core : OrderManagerCore) (unsettled : PendingIntent → Prop) (trips : Trips) :
    Prop where
  waiting : ∀ pending, unsettled pending →
    ∃ order, StandsAs core pending.intent order ∧ order.status = .pending
  sent : ∀ trip ∈ trips.sent, ∃ order, StandsAs core trip.intent order ∧ order.status = .pending
  acked : ∀ trip ∈ trips.acked, ∃ order, FoundAs core trip order ∧ order.status = .accepted
  filled : ∀ trip ∈ trips.filled, ∃ order, FoundAs core trip order ∧ order.status = .filled ∧
    order.filledQtyLots = order.requestedQtyLots
  /-- There are no other orders. -/
  tracked : ∀ id order, core.inFlightOrders.lookup id = some order →
    (∃ pending, unsettled pending ∧ id = pending.intent.clientOrderId) ∨
      ∃ trip ∈ trips.all, id = trip.intent.clientOrderId

section Transition

variable {core : OrderManagerCore} {intent : OrderIntent} {trip trip' : Trip}
  {order order' : InFlightOrder} {now : ℕ} {update : OrderStateUpdate} {next : InFlightStatus}

/-- A transition leaves the other orders where they are. -/
theorem StandsAs.applyTransition {key : ClientOrderId} (h : StandsAs core intent order)
    (hne : intent.clientOrderId ≠ key) :
    StandsAs (core.applyTransition now update next key order') intent order := by
  refine ⟨?_, h.clientOrderId, h.requestedQtyLots⟩
  rw [lookup_applyTransition, if_neg hne]
  exact h.lookup

theorem exchangeToClient_applyTransition {key : ClientOrderId}
    (hid : update.exchangeOrderId = some trip.exchangeOrderId) :
    (core.applyTransition now update next key order).exchangeToClient =
      core.exchangeToClient.insert trip.exchangeOrderId order.clientOrderId := by
  have hrecord : (core.applyTransition now update next key order).exchangeToClient =
      core.recordExchangeId update order.clientOrderId := rfl
  rw [hrecord, recordExchangeId, hid]
  dsimp only
  rw [if_pos trip.exchangeOrderId_ne_empty]

/-- It records one exchange order id, and the others lead where they led. -/
theorem FoundAs.applyTransition (h : FoundAs core trip order)
    (hid : update.exchangeOrderId = some trip'.exchangeOrderId)
    (hne : trip.intent.clientOrderId ≠ trip'.intent.clientOrderId)
    (hne' : trip.exchangeOrderId ≠ trip'.exchangeOrderId) :
    FoundAs (core.applyTransition now update next trip'.intent.clientOrderId order') trip
      order := by
  refine ⟨h.stands.applyTransition hne, h.exchangeOrderId, ?_⟩
  rw [exchangeToClient_applyTransition hid, AList.lookup_insert_ne hne']
  exact h.found

/-- The order that moves is found by the exchange order id of the update. -/
theorem StandsAs.foundAs (h : StandsAs core trip.intent order)
    (hid : update.exchangeOrderId = some trip.exchangeOrderId) :
    FoundAs (core.applyTransition now update next trip.intent.clientOrderId order) trip
      (transitionOrder order next now update) := by
  refine ⟨⟨?_, ?_, ?_⟩, ?_, ?_⟩
  · rw [lookup_applyTransition, if_pos rfl]
  · rw [transitionOrder_clientOrderId, h.clientOrderId]
  · rw [transitionOrder_requestedQtyLots, h.requestedQtyLots]
  · rw [transitionOrder_exchangeOrderId, hid]
    exact if_pos trip.exchangeOrderId_ne_empty
  · rw [exchangeToClient_applyTransition hid, AList.lookup_insert, h.clientOrderId]

end Transition

namespace Orders

variable {core : OrderManagerCore} {unsettled unsettled' : PendingIntent → Prop}
  {trips trips' : Trips} {message : Message}

theorem empty {unsettled : PendingIntent → Prop} (hcore : core.inFlightOrders = ∅)
    (hnone : ∀ pending, ¬unsettled pending) : Orders core unsettled {} where
  waiting pending h := absurd h (hnone pending)
  sent _ h := absurd h (by simp)
  acked _ h := absurd h (by simp)
  filled _ h := absurd h (by simp)
  tracked id order h := by
    rw [hcore] at h
    exact absurd h (by simp)

theorem congr (h : Orders core unsettled trips)
    (hunsettled : ∀ pending, unsettled' pending ↔ unsettled pending) :
    Orders core unsettled' trips := by
  obtain rfl : unsettled' = unsettled := funext fun pending ↦ propext (hunsettled pending)
  exact h

/-- A new order is tracked under an id that was free. -/
theorem track (h : Orders core unsettled trips) {new : PendingIntent} {order : InFlightOrder}
    (hfree : core.inFlightOrders.lookup new.intent.clientOrderId = none)
    (horder : order.clientOrderId = new.intent.clientOrderId)
    (hqty : order.requestedQtyLots = new.intent.qtyLots) (hstatus : order.status = .pending)
    (hunsettled : ∀ pending, unsettled' pending ↔ unsettled pending ∨ pending = new) :
    Orders (core.track order) unsettled' trips := by
  have hlookup : (core.track order).inFlightOrders.lookup new.intent.clientOrderId =
      some order := by
    rw [← horder]
    exact AList.lookup_insert _
  -- the id was free, so no order that was there before is overwritten
  have hother : ∀ {id order'}, core.inFlightOrders.lookup id = some order' →
      (core.track order).inFlightOrders.lookup id = some order' := by
    intro id order' hid
    refine (AList.lookup_insert_ne ?_).trans hid
    rintro rfl
    rw [horder, hfree] at hid
    exact absurd hid (by simp)
  have hstands : ∀ {intent order'}, StandsAs core intent order' →
      StandsAs (core.track order) intent order' := fun hold ↦
    ⟨hother hold.lookup, hold.clientOrderId, hold.requestedQtyLots⟩
  refine ⟨?_, ?_, ?_, ?_, ?_⟩
  · intro pending hpending
    rcases (hunsettled pending).mp hpending with hold | rfl
    · obtain ⟨order', hold, hstatus'⟩ := h.waiting pending hold
      exact ⟨order', hstands hold, hstatus'⟩
    · exact ⟨order, ⟨hlookup, horder, hqty⟩, hstatus⟩
  · intro trip htrip
    obtain ⟨order', hold, hstatus'⟩ := h.sent trip htrip
    exact ⟨order', hstands hold, hstatus'⟩
  · intro trip htrip
    obtain ⟨order', hold, hstatus'⟩ := h.acked trip htrip
    exact ⟨order', ⟨hstands hold.stands, hold.exchangeOrderId, hold.found⟩, hstatus'⟩
  · intro trip htrip
    obtain ⟨order', hold, hstatus'⟩ := h.filled trip htrip
    exact ⟨order', ⟨hstands hold.stands, hold.exchangeOrderId, hold.found⟩, hstatus'⟩
  · intro id order' hid
    by_cases hnew : id = order.clientOrderId
    · exact .inl ⟨new, (hunsettled new).mpr (.inr rfl), hnew.trans horder⟩
    · have hold : core.inFlightOrders.lookup id = some order' :=
        (AList.lookup_insert_ne hnew).symm.trans hid
      rcases h.tracked id order' hold with ⟨pending, hpending, hid⟩ | htrip
      · exact .inl ⟨pending, (hunsettled pending).mpr (.inl hpending), hid⟩
      · exact .inr htrip

/-- A place is sent: its intent is settled, its order is the same. -/
theorem settle (h : Orders core unsettled trips) {new : PendingIntent} {number : ℕ}
    (hnew : unsettled new)
    (hunsettled : ∀ pending, unsettled' pending → unsettled pending)
    (hleft : ∀ pending, unsettled pending → unsettled' pending ∨ pending = new) :
    Orders core unsettled' (trips.send ⟨new.intent, number⟩) := by
  refine ⟨fun pending hpending ↦ h.waiting pending (hunsettled pending hpending), ?_, h.acked,
    h.filled, ?_⟩
  · -- the order that was waiting is the order of the last trip
    intro trip htrip
    rcases List.mem_append.mp htrip with hold | hlast
    · exact h.sent trip hold
    · obtain rfl := List.mem_singleton.mp hlast
      exact h.waiting new hnew
  · intro id order hid
    rw [Trips.all_send]
    rcases h.tracked id order hid with ⟨pending, hpending, rfl⟩ | ⟨trip, htrip, hid⟩
    · rcases hleft pending hpending with hkept | rfl
      · exact .inl ⟨pending, hkept, rfl⟩
      · exact .inr ⟨_, List.mem_append_right _ List.mem_cons_self, rfl⟩
    · exact .inr ⟨trip, List.mem_append_left _ htrip, hid⟩

/-- The order that a message is for can take the status that it tells. -/
theorem awaits (h : Orders core unsettled trips) (hdelivers : trips.Delivers message trips')
    {update : OrderStateUpdate} (htells : message.Tells update) :
    ∃ next order, toInFlightStatus update.status = some next ∧
      StandsAs core message.trip.intent order ∧ canTransition order.status next = true := by
  rcases hdelivers with _ | _
  · obtain ⟨_, rfl⟩ := htells
    obtain ⟨order, hstands, hstatus⟩ := h.sent _ List.mem_cons_self
    exact ⟨.accepted, order, rfl, hstands, by rw [hstatus]; rfl⟩
  · obtain ⟨_, _, _, rfl⟩ := htells
    obtain ⟨order, hfound, hstatus⟩ := h.acked _ rfl
    exact ⟨.filled, order, rfl, hfound.stands, by rw [hstatus]; rfl⟩

/-- **One message.** The order that it is for moves on, and the others stay where they are. -/
theorem delivered (h : Orders core unsettled trips) (hdelivers : trips.Delivers message trips')
    (hids : (trips.all.map fun trip ↦ trip.intent.clientOrderId).Nodup)
    (hexchange : ∀ trip ∈ trips.all, ∀ trip' ∈ trips.all,
      trip.exchangeOrderId = trip'.exchangeOrderId → trip = trip')
    (hapart : ∀ pending, unsettled pending → ∀ trip ∈ trips.all,
      pending.intent.clientOrderId ≠ trip.intent.clientOrderId)
    {update : OrderStateUpdate} (htells : message.Tells update) {next : InFlightStatus}
    {order : InFlightOrder} (hnext : toInFlightStatus update.status = some next)
    (hstands : StandsAs core message.trip.intent order) (now : ℕ) :
    Orders (core.applyTransition now update next message.trip.intent.clientOrderId order) unsettled
      trips' := by
  have hid : update.exchangeOrderId = some message.trip.exchangeOrderId := by
    rcases message with trip | trip
    · obtain ⟨_, rfl⟩ := htells
      rfl
    · obtain ⟨_, _, _, rfl⟩ := htells
      rfl
  have hfound : FoundAs (core.applyTransition now update next message.trip.intent.clientOrderId
      order) message.trip (transitionOrder order next now update) := hstands.foundAs hid
  -- an exchange order id of its own keeps a filled place where it is
  have hfilled : ∀ trip ∈ trips.filled, ∃ order', FoundAs (core.applyTransition now update next
      message.trip.intent.clientOrderId order) trip order' ∧ order'.status = .filled ∧
      order'.filledQtyLots = order'.requestedQtyLots := by
    intro trip htrip
    obtain ⟨order', hold, hstatus⟩ := h.filled trip htrip
    obtain ⟨hmem, hne⟩ := hdelivers.other hids (List.mem_append_left _ htrip)
    refine ⟨order', hold.applyTransition hid hne fun hsame ↦ hne ?_, hstatus⟩
    rw [hexchange trip hmem _ hdelivers.mem_all hsame]
  refine ⟨?_, ?_, ?_, ?_, ?_⟩
  · intro pending hpending
    obtain ⟨order', hold, hstatus⟩ := h.waiting pending hpending
    exact ⟨order', hold.applyTransition (hapart pending hpending _ hdelivers.mem_all), hstatus⟩
  · intro trip htrip
    have hsent : trip ∈ trips.sent := by
      rcases hdelivers with _ | _
      · exact List.mem_cons_of_mem _ htrip
      · exact htrip
    obtain ⟨order', hold, hstatus⟩ := h.sent trip hsent
    have hne := (hdelivers.other hids (List.mem_append_right _ htrip)).2
    exact ⟨order', hold.applyTransition hne, hstatus⟩
  · intro trip htrip
    rcases hdelivers with _ | _
    · -- an acknowledgement moves the first unanswered place
      obtain rfl := Option.some.inj htrip
      obtain ⟨_, rfl⟩ := htells
      obtain rfl := Option.some.inj hnext
      exact ⟨_, hfound, transitionOrder_status ..⟩
    · exact absurd htrip (by simp)
  · intro trip htrip
    rcases hdelivers with _ | _
    · exact hfilled trip htrip
    · rcases List.mem_append.mp htrip with hold | hlast
      · exact hfilled trip hold
      · -- a fill moves the acknowledged place, and fills what was asked for
        obtain rfl := List.mem_singleton.mp hlast
        obtain ⟨_, _, hvalid, rfl⟩ := htells
        obtain rfl := Option.some.inj hnext
        refine ⟨_, hfound, transitionOrder_status .., ?_⟩
        rw [transitionOrder_filledQtyLots_of_fill _ _ _ _ rfl, transitionOrder_requestedQtyLots,
          if_pos ⟨rfl, hstands.requestedQtyLots ▸ hvalid.qtyLots⟩]
  · intro id order' hlookup
    rw [lookup_applyTransition] at hlookup
    rw [hdelivers.all_eq]
    split at hlookup
    · rename_i hkey
      exact .inr ⟨message.trip, hdelivers.mem_all, hkey⟩
    · exact h.tracked id order' hlookup

end Orders

/-! ## The ledger -/

/-- What an intent buys in a market. -/
def boughtLots (marketTicker : String) (intent : OrderIntent) : ℤ :=
  if intent.marketTicker = marketTicker ∧ (intent.side = .buy ∨ intent.side = .bid) then
    intent.qtyLots else 0

/-- What an intent sells in a market. -/
def soldLots (marketTicker : String) (intent : OrderIntent) : ℤ :=
  if intent.marketTicker = marketTicker ∧ (intent.side = .sell ∨ intent.side = .ask) then
    intent.qtyLots else 0

/-- The ledger has booked these places and no others. -/
structure Books (core : PositionLedgerCore) (filled : List Trip) : Prop where
  bought : ∀ marketTicker, (core.positionAt ⟨.kalshi, marketTicker⟩).boughtQtyLots =
    (filled.map fun trip ↦ boughtLots marketTicker trip.intent).sum
  sold : ∀ marketTicker, (core.positionAt ⟨.kalshi, marketTicker⟩).soldQtyLots =
    (filled.map fun trip ↦ soldLots marketTicker trip.intent).sum
  net : ∀ key, (core.positionAt key).netQtyLots =
    (core.positionAt key).boughtQtyLots - (core.positionAt key).soldQtyLots

section Books

variable {core : PositionLedgerCore} {filled : List Trip} {intent : OrderIntent} {price : ℤ}

theorem Books.empty : Books {} [] := ⟨fun _ ↦ rfl, fun _ ↦ rfl, fun _ ↦ rfl⟩

theorem Books.congr {core' : PositionLedgerCore} (h : Books core filled)
    (hpositions : core'.positions = core.positions) : Books core' filled := by
  have hat : ∀ key, core'.positionAt key = core.positionAt key := by
    intro key
    rw [positionAt, hpositions, ← positionAt]
  refine ⟨fun marketTicker ↦ ?_, fun marketTicker ↦ ?_, fun key ↦ ?_⟩
  · rw [hat, h.bought]
  · rw [hat, h.sold]
  · rw [hat, h.net]

/-- The signed quantity of an intent, split by its sign. -/
theorem signedIntentQty_split (hvalid : Kalshi.ValidPlace intent price) :
    max (PortfolioRiskGate.signedIntentQty intent) 0 = boughtLots intent.marketTicker intent ∧
    max (-PortfolioRiskGate.signedIntentQty intent) 0 = soldLots intent.marketTicker intent := by
  have hpos := hvalid.qtyLots
  rw [OrderManager.signedIntentQty_of_valid hvalid, boughtLots, soldLots]
  rcases intent.side with _ | _ | _ | _ | _ <;> simp [sideToSignedQty] <;> omega

/-- **One fill is booked.** -/
theorem Books.booked (h : Books core filled) {trip : Trip}
    (hvalid : Kalshi.ValidPlace trip.intent price) {b : Booking}
    (hkey : b.key = { exchange := .kalshi, marketTicker := trip.intent.marketTicker })
    (hqty : b.signedQty = PortfolioRiskGate.signedIntentQty trip.intent) :
    Books (core.applyBooking b) (filled ++ [trip]) := by
  obtain ⟨hbuys, hsells⟩ := signedIntentQty_split hvalid
  refine ⟨fun marketTicker ↦ ?_, fun marketTicker ↦ ?_, fun key ↦ ?_⟩
  · rw [List.map_append, List.sum_append, List.map_singleton, List.sum_singleton,
      positionAt_applyBooking, ← h.bought]
    split
    · rename_i hsame
      obtain rfl : marketTicker = trip.intent.marketTicker :=
        (MarketKey.mk.inj (hsame.trans hkey)).2
      rw [book_boughtQtyLots, hqty, hbuys]
    · -- a fill in another market adds nothing here
      rename_i hother
      have hticker : trip.intent.marketTicker ≠ marketTicker := by
        rintro rfl
        exact hother hkey.symm
      rw [boughtLots, if_neg fun hmarket ↦ hticker hmarket.1, add_zero]
  · rw [List.map_append, List.sum_append, List.map_singleton, List.sum_singleton,
      positionAt_applyBooking, ← h.sold]
    split
    · rename_i hsame
      obtain rfl : marketTicker = trip.intent.marketTicker :=
        (MarketKey.mk.inj (hsame.trans hkey)).2
      rw [book_soldQtyLots, hqty, hsells]
    · rename_i hother
      have hticker : trip.intent.marketTicker ≠ marketTicker := by
        rintro rfl
        exact hother hkey.symm
      rw [soldLots, if_neg fun hmarket ↦ hticker hmarket.1, add_zero]
  · rw [positionAt_applyBooking]
    split
    · rw [book_netQtyLots, book_boughtQtyLots, book_soldQtyLots, h.net]
      omega
    · exact h.net key

theorem Message.Tells.clientOrderId {message : Message} {update : OrderStateUpdate}
    (h : message.Tells update) : update.clientOrderId = message.trip.intent.clientOrderId := by
  rcases message with trip | trip
  · obtain ⟨_, rfl⟩ := h
    rfl
  · obtain ⟨_, _, _, rfl⟩ := h
    rfl

/-- No order has anything to add to a message. -/
theorem Message.Tells.enriched {message : Message} {update : OrderStateUpdate}
    (h : message.Tells update) (order : InFlightOrder) : enrichUpdate order update = update := by
  rcases message with trip | trip
  · obtain ⟨_, rfl⟩ := h
    rfl
  · obtain ⟨_, _, hvalid, rfl⟩ := h
    exact enrichUpdate_of_side order rfl hvalid.side

/-- **One message.** The ledger takes it, and books it if it is a fill. -/
theorem Books.delivered {ledger : PositionLedger} {trips trips' : Trips} {message : Message}
    (h : Books ledger.core trips.filled) (hdelivers : trips.Delivers message trips')
    {update : OrderStateUpdate} (htells : message.Tells update) :
    (ledger.onOrderUpdate update).1 = true ∧
      (ledger.onOrderUpdate update).2.core.rejectedFillCount = ledger.core.rejectedFillCount ∧
      Books (ledger.onOrderUpdate update).2.core trips'.filled := by
  rcases hdelivers with _ | @⟨filled, sent, trip⟩
  · -- an acknowledgement is not booked
    obtain ⟨_, rfl⟩ := htells
    exact ⟨rfl, rfl, h.congr rfl⟩
  · obtain ⟨recvTsNs, price, hvalid, rfl⟩ := htells
    have hbooking := OrderManager.bookingOf_fillUpdate hvalid recvTsNs trip.exchangeOrderId
    rcases ledger.core.onOrderUpdate_cases _ with ⟨hnone, _⟩ | ⟨_, hnone, _⟩ | ⟨b, hb, _, heq⟩
    · exact absurd (hbooking.symm.trans hnone) (by simp)
    · exact absurd (hbooking.symm.trans hnone) (by simp)
    · obtain rfl := Option.some.inj (hbooking.symm.trans hb)
      rw [PositionLedger.onOrderUpdate, heq]
      refine ⟨rfl, rfl, h.booked hvalid ?_ rfl⟩
      rw [hvalid.exchange]

end Books

end TradingEngine
