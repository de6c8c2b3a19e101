import TradingEngine.Apps.Trader
import TradingEngine.Oms.ClientIds
import TradingEngine.Oms.PaperAnswers
import TradingEngine.Oms.PositionLimits

/-!
# The limits of the portfolio gate in the closed loop

Order manager, Kalshi adapter, paper transport and ledger form a loop: what passes the gate is sent,
what is sent is filled, and what is filled moves the ledger that the gate reads.

The gate projects one intent onto the ledger as it stands. It does not know of the orders that are
sent and whose fills still wait in the transport, and the worker sends a whole batch before it pumps
one update. So two intents that fit one by one may exceed a limit together
(`batch_exceeds_limits`). Besides an order so large that a sum of the gate leaves 64 bits, this is
the only way to exceed one: `positions_within_limits` holds for every run in which the sums fit and
an intent that the gate lets through also fits once the waiting fills are booked.

Every waiting fill is booked, sooner or later. The core knows its order by its client order id, and
nothing ends that order before the fill arrives (`Answer`). So the ledger to look at is the one with
all waiting fills booked, `projectedLedger`, and the invariant is that the ledger stays within the
limits on the way there, and that an intent which both gates have cleared fits at the end of it.
-/

namespace TradingEngine

open OrderManagerCore PositionLedgerCore

/-- The intent that the portfolio gate is about to be asked about. -/
def Worker.atPortfolioGate : Worker → Option PendingIntent
  | .gated pending _ => some pending
  | .notJoinable | .loop | .polling | .draining _ | .cleared _ _ | .pumping | .exited => none

/-- A place whose numbers fit their type. -/
def OrderIntent.IsPlace (intent : OrderIntent) : Prop := intent.action = .place ∧ intent.IsInt64

instance (intent : OrderIntent) : Decidable intent.IsPlace := inferInstanceAs (Decidable (_ ∧ _))

/-- The room that the gate looks for. -/
def FitsIntent (limits : PortfolioRiskConfig) (core : PositionLedgerCore) (intent : OrderIntent) :
    Prop :=
  Fits limits core { exchange := intent.exchange, marketTicker := intent.marketTicker }
    (PortfolioRiskGate.signedIntentQty intent)

instance (limits : PortfolioRiskConfig) (core : PositionLedgerCore) (intent : OrderIntent) :
    Decidable (FitsIntent limits core intent) :=
  inferInstanceAs (Decidable (Fits limits core _ _))

namespace OrderManager

variable {Text : Type*} {json : JsonLibrary Text} {globalRisk : GlobalRiskConfig}
  {limits : PortfolioRiskConfig}
  {s s' : OrderManager Text (PaperOrderTransport.State Text) PositionLedger}
  {input : OrderManagerInput}

/-! ## Waiting fills -/

/-- What the ledger books when it receives this payload. -/
def fillOf (json : JsonLibrary Text) (payload : Text) : Option Booking :=
  (Kalshi.parseUpdate json payload).toOption.bind bookingOf

def waitingFills (json : JsonLibrary Text)
    (s : OrderManager Text (PaperOrderTransport.State Text) PositionLedger) : List Booking :=
  s.transport.inboundUpdates.filterMap (fillOf json)

/-- The ledger with all waiting fills booked. -/
def projectedLedger (json : JsonLibrary Text)
    (s : OrderManager Text (PaperOrderTransport.State Text) PositionLedger) : PositionLedgerCore :=
  s.sink.core.bookAll (s.waitingFills json)

theorem fillOf_of_parse {payload : Text} {update : OrderStateUpdate}
    (h : Kalshi.parseUpdate json payload = .ok update) :
    fillOf json payload = bookingOf update := by
  rw [fillOf, h]
  rfl

/-! ## The condition -/

/-- Only places are submitted, and a restart leaves nothing behind: no accepted intent and no
waiting answer. -/
def PlacesOnly (s : OrderManager Text (PaperOrderTransport.State Text) PositionLedger)
    (input : OrderManagerInput) : Prop :=
  (∀ intent ∈ input.submitted, intent.IsPlace) ∧ s.RestartsSettled input ∧
  (input = .start → s.worker = .notJoinable → s.transport.inboundUpdates = [])

/-- No sum that a gate computes in this turn of the worker leaves 64 bits. -/
def SumsFit (s : OrderManager Text (PaperOrderTransport.State Text) PositionLedger)
    (input : OrderManagerInput) : Prop :=
  input.isWorker = true →
    (∀ pending ∈ s.worker.atGlobalGate,
      GlobalRiskGate.SumsFit s.core.globalRiskGate pending.intent
        (s.core.buildRiskSnapshot pending.intent.marketTicker pending.intent.clientOrderId)) ∧
    ∀ pending ∈ s.worker.atPortfolioGate, PortfolioRiskGate.SumsFit pending.intent
      (s.sink.core.portfolioRiskSnapshot pending.intent.exchange pending.intent.marketTicker)

/-- In such a turn both gates of the source answer as the gates over the integers. -/
theorem SumsFit.gates_eq {s : OrderManager Text (PaperOrderTransport.State Text) PositionLedger}
    {now : ℕ} (h : s.SumsFit (.worker now)) :
    (∀ pending ∈ s.worker.atGlobalGate, s.core.evaluateGlobalRiskWith .int64 pending.intent =
      s.core.evaluateGlobalRisk pending.intent) ∧
    ∀ pending ∈ s.worker.atPortfolioGate,
      let snapshot :=
        s.sink.core.portfolioRiskSnapshot pending.intent.exchange pending.intent.marketTicker
      s.core.evaluatePortfolioRiskWith .int64 pending.intent snapshot =
        s.core.evaluatePortfolioRisk pending.intent snapshot :=
  ⟨fun pending hgated ↦ evaluateGlobalRiskWith_int64 ((h rfl).1 pending hgated),
    fun pending hgated ↦ evaluatePortfolioRiskWith_int64 ((h rfl).2 pending hgated)⟩

/-- What the 64-bit portfolio gate lets through while fills wait also fits once these are booked. -/
def GateSeesFills (json : JsonLibrary Text) (limits : PortfolioRiskConfig)
    (s : OrderManager Text (PaperOrderTransport.State Text) PositionLedger)
    (input : OrderManagerInput) : Prop :=
  input.isWorker = true → ∀ pending ∈ s.worker.atPortfolioGate,
    (PortfolioRiskGate.evaluateWith .int64 limits pending.intent
      (s.sink.core.portfolioRiskSnapshot pending.intent.exchange
        pending.intent.marketTicker)).allow = true →
    s.waitingFills json ≠ [] → FitsIntent limits (s.projectedLedger json) pending.intent

/-- All three. -/
def PlacesSeen (json : JsonLibrary Text) (limits : PortfolioRiskConfig)
    (s : OrderManager Text (PaperOrderTransport.State Text) PositionLedger)
    (input : OrderManagerInput) : Prop :=
  s.PlacesOnly input ∧ s.SumsFit input ∧ s.GateSeesFills json limits input

instance (s : OrderManager Text (PaperOrderTransport.State Text) PositionLedger)
    (input : OrderManagerInput) : Decidable (s.PlacesOnly input) :=
  inferInstanceAs (Decidable ((∀ intent ∈ input.submitted, _) ∧ _ ∧ (_ → _ → _)))

instance (s : OrderManager Text (PaperOrderTransport.State Text) PositionLedger)
    (input : OrderManagerInput) : Decidable (s.SumsFit input) :=
  inferInstanceAs (Decidable (_ → (∀ pending ∈ s.worker.atGlobalGate, _) ∧
    ∀ pending ∈ s.worker.atPortfolioGate, _))

instance (json : JsonLibrary Text) (limits : PortfolioRiskConfig)
    (s : OrderManager Text (PaperOrderTransport.State Text) PositionLedger)
    (input : OrderManagerInput) : Decidable (s.PlacesSeen json limits input) :=
  inferInstanceAs (Decidable (_ ∧ _ ∧ (_ → ∀ pending ∈ s.worker.atPortfolioGate, _ → _ → _)))

/-! ## Answers are not lost -/

/-- A payload in the queue, and the update it is read as. -/
structure Answer (json : JsonLibrary Text)
    (s : OrderManager Text (PaperOrderTransport.State Text) PositionLedger) (payload : Text)
    (update : OrderStateUpdate) : Prop where
  parse : Kalshi.parseUpdate json payload = .ok update
  progress : update.status = .accepted ∨ update.status = .filled
  /-- No order has anything to add to it. -/
  enriched : ∀ order, enrichUpdate order update = update
  /-- The order that a fill is for waits for it, and is nobody else's. -/
  awaited : ∀ b, bookingOf update = some b →
    s.Fillable update.clientOrderId ∧ s.Free update.clientOrderId

/-- Everything in the queue is an answer. -/
def AllAnswers (json : JsonLibrary Text)
    (s : OrderManager Text (PaperOrderTransport.State Text) PositionLedger) : Prop :=
  ∀ payload ∈ s.transport.inboundUpdates, ∃ update, Answer json s payload update

theorem AllAnswers.deliversProgress (hs : s.AllAnswers json) :
    s.DeliversProgress (Trader.paperConfig json globalRisk limits) := by
  intro payload update hrecv hparse
  have hfront := PaperOrderTransport.inboundUpdates_of_recvText hrecv
  obtain ⟨update', hanswer⟩ := hs payload (hfront ▸ List.mem_cons_self)
  obtain rfl := Except.ok.inj (hparse.symm.trans hanswer.parse)
  exact hanswer.progress

/-- An answer that waits stays one, whatever happens before it is received. -/
theorem Answer.of_effect {payload : Text} {update : OrderStateUpdate}
    (hanswer : Answer json s payload update) (hstart : input = .start → s.worker ≠ .notJoinable)
    (hprogress : s.DeliversProgress (Trader.paperConfig json globalRisk limits))
    (hcreates : s'.Intends OrderIntent.Creates)
    (h : Effect (Trader.paperConfig json globalRisk limits) s input s') :
    Answer json s' payload update where
  parse := hanswer.parse
  progress := hanswer.progress
  enriched := hanswer.enriched
  awaited b hb := by
    obtain ⟨hfillable, hfree⟩ := hanswer.awaited b hb
    refine ⟨fillable_of_effect hstart hprogress h (fun pending hpop _ ↦ ?_) hfillable,
      free_of_effect h hcreates hfillable hfree⟩
    exact hfree pending (.inl (hpop ▸ List.mem_cons_self))

theorem signedIntentQty_of_valid {intent : OrderIntent} {price : ℤ}
    (hvalid : Kalshi.ValidPlace intent price) :
    PortfolioRiskGate.signedIntentQty intent = sideToSignedQty intent.side intent.qtyLots :=
  if_neg (not_le.mpr hvalid.qtyLots)

theorem bookingOf_fillUpdate {intent : OrderIntent} {price : ℤ}
    (hvalid : Kalshi.ValidPlace intent price) (recvTsNs : ℕ) (exchangeOrderId : String) :
    bookingOf (PaperOrderTransport.fillUpdate recvTsNs intent.clientOrderId exchangeOrderId
        intent.marketTicker intent.qtyLots price intent.side) = some
      { key := { exchange := intent.exchange, marketTicker := intent.marketTicker }
        signedQty := PortfolioRiskGate.signedIntentQty intent
        price := price
        recvTsNs := recvTsNs } := by
  rw [bookingOf_fill rfl rfl hvalid.qtyLots hvalid.marketTicker hvalid.side,
    signedIntentQty_of_valid hvalid, hvalid.exchange]
  rfl

theorem allAnswers_of_effect (hs : s.AllAnswers json) (hown : s.OwnOrders)
    (hplaces : s.Intends OrderIntent.IsPlace) (hcreates : s'.Intends OrderIntent.Creates)
    (hok : s.PlacesOnly input)
    (h : Effect (Trader.paperConfig json globalRisk limits) s input s') : s'.AllAnswers json := by
  have hkeep : ∀ payload ∈ s.transport.inboundUpdates, ∃ update, Answer json s' payload update := by
    intro payload hpayload
    obtain ⟨update, hanswer⟩ := hs payload hpayload
    refine ⟨update, hanswer.of_effect (fun hinput hstopped ↦ ?_) hs.deliversProgress hcreates h⟩
    rw [hok.2.2 hinput hstopped] at hpayload
    exact absurd hpayload (by simp)
  intro payload hpayload
  obtain hsame | ⟨_, front, hpop⟩ | ⟨pending, rest, request, hworker, hbuild, hsend, htransport,
    hcore, hpop, hsubmits⟩ := inboundUpdates_cases h
  · exact hkeep payload (hsame ▸ hpayload)
  · exact hkeep payload (hpop ▸ List.mem_cons_of_mem _ hpayload)
  · have hunsettled := unsettled_of_cleared hworker
    obtain ⟨haction, hint⟩ := hplaces.unsettled pending hunsettled
    obtain ⟨price, exchangeOrderId, ackTs, fillTs, ack, fill, hvalid, hqueue, hack, hfill⟩ :=
      PaperOrderTransport.sendText_answers haction hint hbuild hsend
    rw [htransport, hqueue, List.mem_append] at hpayload
    obtain hold | hnew := hpayload
    · exact hkeep payload hold
    · obtain rfl | hnew := List.mem_cons.mp hnew
      · exact ⟨_, hack, .inl rfl, fun _ ↦ rfl, fun b hb ↦ by cases hb⟩
      · obtain rfl := List.mem_singleton.mp hnew
        refine ⟨_, hfill, .inr rfl, fun order ↦ enrichUpdate_of_side order rfl hvalid.side,
          fun _ _ ↦ ⟨?_, hown.free_of_pop hpop hsubmits⟩⟩
        obtain ⟨order, horder, hcan⟩ := hown.fillable pending hunsettled
        exact ⟨order, hcore ▸ horder, hcan⟩

/-! ## The invariant -/

/-- The limits hold now and while the waiting fills are booked, and there is room behind them for
the intent that is about to be sent. -/
structure Contained (json : JsonLibrary Text) (limits : PortfolioRiskConfig)
    (s : OrderManager Text (PaperOrderTransport.State Text) PositionLedger) : Prop where
  stays : StaysWithin limits s.sink.core (s.waitingFills json)
  cleared : ∀ pending ∈ s.worker.aboutToSend,
    FitsIntent limits (s.projectedLedger json) pending.intent

/-- Steps that touch neither positions nor waiting fills, and clear nothing new. -/
theorem Contained.frame (hs : s.Contained json limits)
    (hpositions : s'.sink.core.positions = s.sink.core.positions)
    (hinbound : s'.transport.inboundUpdates = s.transport.inboundUpdates)
    (hworker : ∀ pending ∈ s'.worker.aboutToSend, pending ∈ s.worker.aboutToSend) :
    s'.Contained json limits := by
  have hfills : s'.waitingFills json = s.waitingFills json := by
    rw [waitingFills, hinbound, ← waitingFills]
  refine ⟨?_, fun pending hpending ↦ ?_⟩
  · rw [hfills]
    exact hs.stays.congr hpositions
  · have hfits := hs.cleared pending (hworker pending hpending)
    rw [projectedLedger, hfills]
    exact hfits.congr (bookAll_positions_congr hpositions _)

/-- What the sink of the trader does with an update. -/
theorem positions_onOrderUpdate (ledger : PositionLedger) (update : OrderStateUpdate) :
    ((Trader.paperConfig json globalRisk limits).eventSink.onOrderUpdate ledger
      update).2.core.positions = ((bookingOf update).elim ledger.core
        ledger.core.applyBooking).positions := by
  have hledger : ((Trader.paperConfig json globalRisk limits).eventSink.onOrderUpdate ledger
      update).2.core = (ledger.core.onOrderUpdate update).2 := ledger.onOrderUpdate_core update
  rw [hledger, onOrderUpdate_positions_eq]

/-- The reject of a gate moves no position. -/
theorem positions_of_riskReject {now : ℕ} {intent : OrderIntent}
    {reasonCode reasonMessage : String} {core : OrderManagerCore} {sink : PositionLedger}
    {log : List (LogEntry Text)} (h : Handled (Trader.paperConfig json globalRisk limits) s now
      (makeRiskRejectUpdate intent reasonCode reasonMessage now) core sink log) :
    sink.core.positions = s.sink.core.positions := by
  cases h with
  | dropped _ _ => rfl
  | applied _ _ _ _ => exact positions_onOrderUpdate _ _

/-- **A waiting fill is booked when it is received**, and an acknowledgement moves no position. -/
theorem positions_of_answer {now : ℕ} {payload : Text} {update : OrderStateUpdate}
    {core : OrderManagerCore} {sink : PositionLedger} {log : List (LogEntry Text)}
    (hanswer : Answer json s payload update)
    (hhandled : Handled (Trader.paperConfig json globalRisk limits) s now update core sink log) :
    sink.core.positions = ((bookingOf update).elim s.sink.core s.sink.core.applyBooking).positions
      := by
  cases hhandled with
  | dropped _ hrefused =>
    cases hb : bookingOf update with
    | none => rfl
    | some b =>
      -- the order waits for its fill, so the core cannot have refused it
      obtain ⟨⟨order, horder, hcan⟩, _⟩ := hanswer.awaited b hb
      have hfilled : update.status = .filled := by
        refine hanswer.progress.resolve_left fun haccepted ↦ ?_
        rw [bookingOf, haccepted] at hb
        exact absurd hb (by simp)
      have hcannot := hrefused .filled _ _ (by rw [hfilled]; rfl) (matchOrder_of_lookup horder)
      exact absurd (hcan.symm.trans hcannot) (by decide)
  | applied _ _ _ _ =>
    rw [hanswer.enriched]
    exact positions_onOrderUpdate _ _

theorem stays_of_received {now : ℕ} {payload : Text} {update : OrderStateUpdate}
    {core : OrderManagerCore} {sink : PositionLedger} {log : List (LogEntry Text)}
    (hs : s.Contained json limits) (hanswer : Answer json s payload update) {rest : List Text}
    (hfront : s.transport.inboundUpdates = payload :: rest)
    (hhandled : Handled (Trader.paperConfig json globalRisk limits) s now update core sink log) :
    StaysWithin limits sink.core (rest.filterMap (fillOf json)) := by
  have hpositions := positions_of_answer hanswer hhandled
  have hstays := hs.stays
  rw [waitingFills, hfront, List.filterMap_cons, fillOf_of_parse hanswer.parse] at hstays
  cases hb : bookingOf update with
  | none =>
    rw [hb] at hpositions hstays
    exact hstays.congr hpositions
  | some b =>
    rw [hb] at hpositions hstays
    exact hstays.2.congr hpositions

theorem stays_of_sent (hs : s.Contained json limits) {pending : PendingIntent}
    {rest : List PendingIntent} {payload : Text} (hworker : s.worker = .cleared pending rest)
    (hplace : pending.intent.IsPlace)
    (hbuild : Kalshi.buildRequest json pending.intent = .ok payload)
    (hsend : (PaperOrderTransport.sendText json true s.transport payload).1 = true) :
    StaysWithin limits s.sink.core ((PaperOrderTransport.sendText json true s.transport
      payload).2.inboundUpdates.filterMap (fillOf json)) := by
  obtain ⟨price, exchangeOrderId, ackTs, fillTs, ack, fill, hvalid, hqueue, hack, hfill⟩ :=
    PaperOrderTransport.sendText_answers hplace.1 hplace.2 hbuild hsend
  have hackOf : fillOf json ack = none := fillOf_of_parse hack
  have hfillOf := (fillOf_of_parse hfill).trans (bookingOf_fillUpdate hvalid fillTs exchangeOrderId)
  rw [hqueue, List.filterMap_append, List.filterMap_cons_none hackOf,
    List.filterMap_cons_some hfillOf, List.filterMap_nil]
  exact hs.stays.append (hs.cleared pending (by rw [hworker]; rfl))

/-- **One step.** Every effect but three leaves positions and answers alone: the gate clears an
intent that fits, sending it adds a fill to the waiting ones, and receiving a fill books it. -/
theorem contained_of_effect (hnet : 0 < limits.maxAbsNetPositionPerMarket)
    (hgross : 0 < limits.maxAbsPositionGrossGlobal) (hgate : s.core.portfolioRiskGate = limits)
    (hplaces : s.Intends OrderIntent.IsPlace) (hanswers : s.AllAnswers json)
    (hs : s.Contained json limits) (hfit : s.SumsFit input)
    (hok : s.GateSeesFills json limits input)
    (h : Effect (Trader.paperConfig json globalRisk limits) s input s') :
    s'.Contained json limits := by
  -- no intent is cleared by a worker that has none in hand
  have hnotCleared : ∀ {worker : Worker}, worker.inHand = none →
      ∀ pending ∈ worker.aboutToSend, pending ∈ s.worker.aboutToSend := by
    intro worker hhand pending hpending
    rw [Worker.aboutToSend_of_inHand hhand] at hpending
    exact absurd hpending (by simp)
  cases h with
  | quiet hworker htransport =>
    refine hs.frame rfl ?_ ?_
    · obtain rfl | rfl := htransport <;> rfl
    · obtain rfl | ⟨_, hhand⟩ := hworker
      · exact fun _ h ↦ h
      · exact hnotCleared hhand
  | unheard _ hnone =>
    cases hrecv : (PaperOrderTransport.recvText s.transport).1 with
    | none =>
      refine hs.frame rfl ?_ (hnotCleared rfl)
      exact congrArg (·.inboundUpdates) (PaperOrderTransport.recvText_of_none hrecv)
    | some payload =>
      -- every answer can be read
      have hfront := PaperOrderTransport.inboundUpdates_of_recvText hrecv
      obtain ⟨update, hanswer⟩ := hanswers payload (hfront ▸ List.mem_cons_self)
      obtain ⟨error, herror⟩ := hnone payload hrecv
      cases hanswer.parse.symm.trans herror
  | restarted _ hworker =>
    refine hs.frame rfl rfl ?_
    obtain rfl | rfl := hworker
    · exact hnotCleared rfl
    · exact hnotCleared rfl
  | began _ _ => exact hs.frame rfl rfl fun _ h ↦ h
  | refused _ _ => exact hs.frame rfl rfl fun _ h ↦ h
  | accepted _ _ => exact hs.frame rfl rfl fun _ h ↦ h
  | enqueued _ => exact hs.frame rfl rfl fun _ h ↦ h
  | counted _ => exact hs.frame rfl rfl fun _ h ↦ h
  | polled _ => exact hs.frame rfl rfl (hnotCleared rfl)
  | gated _ _ => exact hs.frame rfl rfl fun _ h ↦ by cases h
  | @cleared now pending rest hworker hallow =>
    refine ⟨hs.stays, fun pending' hpending ↦ ?_⟩
    obtain rfl := Option.some.inj hpending
    have hwaiting : pending ∈ s.waiting := by
      rw [waiting, hworker]
      exact List.mem_cons_self
    have hplace := hplaces.unsettled pending (.inl hwaiting)
    have hallow : (PortfolioRiskGate.evaluate limits pending.intent
        (s.sink.core.portfolioRiskSnapshot pending.intent.exchange
          pending.intent.marketTicker)).allow = true := by
      rw [← hgate]
      exact hallow
    have hgated : pending ∈ s.worker.atPortfolioGate := by
      rw [hworker]
      rfl
    by_cases hempty : s.waitingFills json = []
    · -- nothing waits: the gate has looked at the right ledger
      have hprojected : s.projectedLedger json = s.sink.core := by
        rw [projectedLedger, hempty]
        rfl
      have hfits : FitsIntent limits s.sink.core pending.intent :=
        fits_of_allow hnet hgross (.inl hplace.1) hallow
      exact hprojected ▸ hfits
    · -- no sum of the gate overflows, so its decision is that of the source
      refine hok rfl pending hgated ?_ hempty
      rw [PortfolioRiskGate.evaluateWith_int64 ((hfit rfl).2 pending hgated)]
      exact hallow
  | rejected _ hhandled =>
    exact hs.frame (positions_of_riskReject hhandled) rfl (hnotCleared rfl)
  | @sent now pending rest payload counters hworker hbuild hsend =>
    have hplace := hplaces.unsettled pending (unsettled_of_cleared hworker)
    exact ⟨stays_of_sent hs hworker hplace hbuild hsend, fun _ h ↦ by cases h⟩
  | unsent _ hfailed htransport =>
    exact hs.frame rfl (inboundUpdates_of_unsent hfailed htransport) (hnotCleared rfl)
  | @received now payload update lastError core sink log counters hworker hrecv hparse hhandled =>
    have hfront := PaperOrderTransport.inboundUpdates_of_recvText hrecv
    obtain ⟨update', hanswer⟩ := hanswers payload (hfront ▸ List.mem_cons_self)
    obtain rfl := Except.ok.inj (hparse.symm.trans hanswer.parse)
    exact ⟨stays_of_received hs hanswer hfront hhandled, fun _ h ↦ by cases h⟩

/-- All parts of the invariant. -/
structure Loop (json : JsonLibrary Text) (limits : PortfolioRiskConfig)
    (s : OrderManager Text (PaperOrderTransport.State Text) PositionLedger) : Prop where
  places : s.Intends OrderIntent.IsPlace
  own : s.OwnOrders
  answers : s.AllAnswers json
  contained : s.Contained json limits

theorem loop_of_effect (hnet : 0 < limits.maxAbsNetPositionPerMarket)
    (hgross : 0 < limits.maxAbsPositionGrossGlobal) (hgate : s.core.portfolioRiskGate = limits)
    (hs : s.Loop json limits) (hok : s.PlacesSeen json limits input)
    (h : Effect (Trader.paperConfig json globalRisk limits) s input s') : s'.Loop json limits := by
  obtain ⟨⟨hsubmitted, hrestarts, hqueue⟩, hfit, hsees⟩ := hok
  have hplaces : s'.Intends OrderIntent.IsPlace :=
    hs.places.of_effect (fun _ _ hplace ↦ hplace) hsubmitted h
  have hcreates : s'.Intends OrderIntent.Creates :=
    ⟨fun thread call hcall pending hpending ↦
        .inl (hplaces.call thread call hcall pending hpending).1,
      fun pending hunsettled ↦ .inl (hplaces.unsettled pending hunsettled).1⟩
  exact ⟨hplaces, hs.own.of_effect h hcreates hrestarts hs.answers.deliversProgress,
    allAnswers_of_effect hs.answers hs.own hs.places hcreates ⟨hsubmitted, hrestarts, hqueue⟩ h,
    contained_of_effect hnet hgross hgate hs.places hs.answers hs.contained hfit hsees h⟩

/-- **Positions are within the limits when the gate sees the waiting fills.** In every run in which
only places are submitted, a restart leaves nothing behind, no sum of a gate leaves 64 bits, and
what the portfolio gate lets through while fills wait also fits once these are booked: the net
position of every market and the gross position of every exchange are within their limits. -/
theorem positions_within_limits (json : JsonLibrary Text) (globalRisk : GlobalRiskConfig)
    (limits : PortfolioRiskConfig) (hnet : 0 < limits.maxAbsNetPositionPerMarket)
    (hgross : 0 < limits.maxAbsPositionGrossGlobal)
    (h : (machine (Trader.paperConfig json globalRisk limits)).ReachesVia
      (PlacesSeen json limits) (Trader.paperInit json globalRisk limits) s) :
    (∀ key position, s.sink.core.positions.lookup key = some position →
      |position.netQtyLots| ≤ limits.maxAbsNetPositionPerMarket) ∧
    ∀ exchange marketTicker,
      (s.sink.core.portfolioRiskSnapshot exchange marketTicker).grossPositionGlobal
        ≤ limits.maxAbsPositionGrossGlobal := by
  have hloop : s.Loop json limits := by
    refine h.invariant (P := Loop json limits) ⟨intends_init _ _ _, ownOrders_init _ _, ?_, ?_⟩ ?_
    · intro payload hpayload
      exact absurd hpayload (by simp [init])
    · exact ⟨WithinLimits.empty hnet.le hgross.le, fun _ h ↦ by cases h⟩
    · intro s input s' hreaches hs hok hstep
      exact loop_of_effect hnet hgross (riskGates_of_reaches hreaches).2 hs hok
        (effect_of_step hstep)
  have hwithin := hloop.contained.stays.within
  refine ⟨fun key position hposition ↦ ?_, fun exchange _ ↦ hwithin.gross exchange⟩
  have hnet := hwithin.net key
  rw [netPosition, positionAt_of_lookup hposition] at hnet
  exact hnet

/-! ## Concrete runs -/

/-- Ten lots in one market, and ten lots in all. -/
def tenLots : PortfolioRiskConfig where
  maxAbsNetPositionPerMarket := 10
  maxAbsPositionGrossGlobal := 10

/-- Two purchases are submitted before the worker looks at its queue. It sends what passes the
gates, and then pumps what it can. -/
def batchRun (first second : ℤ) : List OrderManagerInput :=
  [.start] ++ Trader.submit 0 (Trader.placeIntent "c1" "KXBTC-YES" .buy first 40)
    ++ Trader.submit 1 (Trader.placeIntent "c2" "KXBTC-YES" .buy second 40) ++ Trader.drain 2
    ++ List.replicate 11 (.worker 3)

open Trader in
/-- Six lots and four lots: both are bought, and the position is at its limit. -/
theorem positions_within_limits_batch :
    ∃ s, (machine (paperConfig JsonLibrary.trees {} tenLots)).ReachesVia
        (PlacesSeen JsonLibrary.trees tenLots) (paperInit JsonLibrary.trees {} tenLots) s ∧
      s.sink.core.processedFillCount = 2 ∧
      (∀ key position, s.sink.core.positions.lookup key = some position →
        |position.netQtyLots| ≤ 10) ∧
      ∀ exchange marketTicker,
        (s.sink.core.portfolioRiskSnapshot exchange marketTicker).grossPositionGlobal ≤ 10 := by
  have hrun : ((machine (paperConfig JsonLibrary.trees {} tenLots)).runVia
      (PlacesSeen JsonLibrary.trees tenLots) (paperInit JsonLibrary.trees {} tenLots)
      (batchRun 6 4)).any (fun s ↦ s.sink.core.processedFillCount = 2) = true := by
    decide +kernel
  obtain ⟨s, hreaches, hfilled⟩ := Machine.exists_of_runVia hrun
  obtain ⟨hnet, hgross⟩ := positions_within_limits JsonLibrary.trees {} tenLots (by decide)
    (by decide) hreaches
  exact ⟨s, hreaches, of_decide_eq_true hfilled, hnet, hgross⟩

open Trader in
/-- Ten lots twice: both pass the gate, and twenty lots are held, twice the net limit and twice the
gross limit. -/
theorem batch_exceeds_limits :
    ∃ s, (machine (paperConfig JsonLibrary.trees {} tenLots)).ReachesVia PlacesOnly
        (paperInit JsonLibrary.trees {} tenLots) s ∧
      s.sink.core.netPosition { exchange := .kalshi, marketTicker := "KXBTC-YES" } = 20 ∧
      (s.sink.core.portfolioRiskSnapshot .kalshi "KXBTC-YES").grossPositionGlobal = 20 := by
  have hrun : ((machine (paperConfig JsonLibrary.trees {} tenLots)).runVia PlacesOnly
      (paperInit JsonLibrary.trees {} tenLots) (batchRun 10 10)).any (fun s ↦
        s.sink.core.netPosition { exchange := .kalshi, marketTicker := "KXBTC-YES" } = 20 ∧
        (s.sink.core.portfolioRiskSnapshot .kalshi "KXBTC-YES").grossPositionGlobal = 20)
          = true := by
    decide +kernel
  obtain ⟨s, hreaches, hs⟩ := Machine.exists_of_runVia hrun
  exact ⟨s, hreaches, of_decide_eq_true hs⟩

end OrderManager

end TradingEngine
