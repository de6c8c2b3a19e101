import TradingEngine.Apps.Trader
import TradingEngine.Oms.RequestIds

/-!
# Fills in the order manager and in the ledger

A fill is read twice. The core moves the order it belongs to, the ledger books it to a position. The
two should agree: what an order has filled is what was booked for it.

They agree on an order that is filled in one piece. On a partial fill they do not: the adapter has
no status for it and reports every fill as complete, and the core then takes the whole requested
quantity as filled, while the ledger adds what the fill says (`partial_fill_counts_whole`).
`fill_accounting` says that this is the only way to disagree: in every run in which each execution
is for the whole requested quantity, names a market, and has a side of its own or of its order,
every order agrees with its fills, and the ledger is the one that has seen exactly the accepted
updates.
-/

namespace TradingEngine

open OrderManagerCore PositionLedgerCore

/-! ## Accepted updates -/

variable {Text : Type*}

/-- The updates that were accepted for the order of a request, newest first. -/
def acceptedFor (log : List (LogEntry Text)) (requestId : ℕ) : List OrderStateUpdate :=
  log.filterMap fun entry ↦
    match entry with
    | .applied id update => if id = requestId then some update else none
    | .accepted _ _ | .sent _ _ => none

/-- All accepted updates, oldest first. -/
def acceptedUpdates (log : List (LogEntry Text)) : List OrderStateUpdate :=
  (log.filterMap fun entry ↦
    match entry with
    | .applied _ update => some update
    | .accepted _ _ | .sent _ _ => none).reverse

/-- The quantity that the fills of an order report. -/
def fillTotal (log : List (LogEntry Text)) (requestId : ℕ) : ℤ :=
  ((acceptedFor log requestId).map OrderStateUpdate.fillQty).sum

/-- The quantity of an update that the ledger books. -/
def bookedQty (update : OrderStateUpdate) : ℤ :=
  match bookingOf update with
  | some booking => |booking.signedQty|
  | none => 0

/-- The quantity that the ledger has booked for an order. -/
def bookedTotal (log : List (LogEntry Text)) (requestId : ℕ) : ℤ :=
  ((acceptedFor log requestId).map bookedQty).sum

theorem acceptedFor_applied (log : List (LogEntry Text)) (requestId : ℕ)
    (update : OrderStateUpdate) :
    acceptedFor (.applied requestId update :: log) requestId
      = update :: acceptedFor log requestId := by
  simp [acceptedFor]

theorem acceptedFor_applied_of_ne (log : List (LogEntry Text)) {id requestId : ℕ}
    (update : OrderStateUpdate) (h : id ≠ requestId) :
    acceptedFor (.applied id update :: log) requestId = acceptedFor log requestId := by
  simp [acceptedFor, h]

theorem fillTotal_applied (log : List (LogEntry Text)) (requestId : ℕ) (update : OrderStateUpdate) :
    fillTotal (.applied requestId update :: log) requestId
      = update.fillQty + fillTotal log requestId := by
  rw [fillTotal, acceptedFor_applied, List.map_cons, List.sum_cons, ← fillTotal]

theorem bookedTotal_applied (log : List (LogEntry Text)) (requestId : ℕ)
    (update : OrderStateUpdate) :
    bookedTotal (.applied requestId update :: log) requestId
      = bookedQty update + bookedTotal log requestId := by
  rw [bookedTotal, acceptedFor_applied, List.map_cons, List.sum_cons, ← bookedTotal]

/-- A request that the history does not know has no updates. -/
theorem acceptedFor_of_fresh {log : List (LogEntry Text)} {requestId : ℕ}
    (h : ∀ entry ∈ log, entry.requestId ≠ requestId) : acceptedFor log requestId = [] := by
  refine List.filterMap_eq_nil_iff.mpr fun entry hentry ↦ ?_
  have hne := h entry hentry
  cases entry with
  | applied id update => exact if_neg hne
  | accepted id target => rfl
  | sent id => rfl

/-! ## One fill -/

theorem fillQty_of_not_fill {update : OrderStateUpdate}
    (hdata : ∀ fill, update.data ≠ .fill fill) : update.fillQty = 0 := by
  rw [OrderStateUpdate.fillQty]
  split
  · rename_i fill hfill
    exact absurd hfill (hdata fill)
  · rfl

theorem bookedQty_of_not_fill {update : OrderStateUpdate}
    (hdata : ∀ fill, update.data ≠ .fill fill) : bookedQty update = 0 := by
  rw [bookedQty]
  split
  · rename_i booking hbooking
    obtain ⟨fill, hfill, _⟩ := bookingOf_some hbooking
    exact absurd hfill (hdata fill)
  · rfl

/-- A complete fill with a market and a side is booked with its quantity. -/
theorem bookedQty_of_fill {update : OrderStateUpdate} {fill : OrderFill}
    (hstatus : update.status = .filled) (hdata : update.data = .fill fill)
    (hqty : 0 < fill.fillQtyLots) (hmarket : fill.marketTicker ≠ "")
    (hside : fill.side ≠ .unknown) :
    bookedQty update = fill.fillQtyLots := by
  rw [bookedQty, bookingOf_fill hstatus hdata hqty hmarket hside]
  exact abs_sideToSignedQty hside hqty

namespace OrderManager

variable {τ : Type*} {config : OrderManagerConfig Text τ PositionLedger}
  {s s' : OrderManager Text τ PositionLedger} {input : OrderManagerInput} {transport : τ}

/-! ## The condition -/

/-- What the next step of the worker receives: an update and the order that takes it. -/
def incoming {σ : Type*} (config : OrderManagerConfig Text τ σ) (s : OrderManager Text τ σ)
    (input : OrderManagerInput) : Option (OrderStateUpdate × InFlightOrder) :=
  if input.isWorker = true ∧ s.worker = .pumping then
    (config.transport.recvText s.transport).1.bind fun payload ↦
      (config.adapter.parseUpdate payload).toOption.bind fun update ↦
        (toInFlightStatus update.status).bind fun next ↦
          (s.core.matchOrder update).bind fun found ↦
            if canTransition found.2.status next then some (update, found.2) else none
  else none

/-- The fill that the next step of the worker receives, and the order that takes it. -/
def incomingFill {σ : Type*} (config : OrderManagerConfig Text τ σ) (s : OrderManager Text τ σ)
    (input : OrderManagerInput) : Option (OrderFill × InFlightOrder) :=
  match s.incoming config input with
  | some (update, order) =>
    match update.data with
    | .fill fill => some (fill, order)
    | _ => none
  | none => none

/-- The exchange reports an execution: a positive quantity, and with the ones before not more than
was requested. -/
def ReportsExecution {σ : Type*} (config : OrderManagerConfig Text τ σ) (s : OrderManager Text τ σ)
    (input : OrderManagerInput) : Prop :=
  ∀ found ∈ s.incomingFill config input, 0 < found.1.fillQtyLots ∧
    fillTotal s.log found.2.requestId + found.1.fillQtyLots ≤ found.2.requestedQtyLots

/-- The execution is for the whole requested quantity, in a market and with a side. -/
def ReportsWhole {σ : Type*} (config : OrderManagerConfig Text τ σ) (s : OrderManager Text τ σ)
    (input : OrderManagerInput) : Prop :=
  ∀ found ∈ s.incomingFill config input, found.1.fillQtyLots = found.2.requestedQtyLots ∧
    found.1.marketTicker ≠ "" ∧ (found.1.side ≠ .unknown ∨ found.2.side ≠ .unknown)

/-- Both. -/
def WholeExecutions {σ : Type*} (config : OrderManagerConfig Text τ σ) (s : OrderManager Text τ σ)
    (input : OrderManagerInput) : Prop :=
  s.ReportsExecution config input ∧ s.ReportsWhole config input

instance {σ : Type*} (config : OrderManagerConfig Text τ σ) (s : OrderManager Text τ σ)
    (input : OrderManagerInput) : Decidable (s.ReportsExecution config input) :=
  inferInstanceAs (Decidable (∀ found ∈ s.incomingFill config input, _))

instance {σ : Type*} (config : OrderManagerConfig Text τ σ) (s : OrderManager Text τ σ)
    (input : OrderManagerInput) : Decidable (s.WholeExecutions config input) :=
  inferInstanceAs (Decidable ((∀ found ∈ s.incomingFill config input, _) ∧
    ∀ found ∈ s.incomingFill config input, _))

/-- The condition, at an update that is applied. -/
theorem incomingFill_of_received (now : ℕ) {payload : Text} {update : OrderStateUpdate}
    {next : InFlightStatus} {key : ClientOrderId} {order : InFlightOrder} {fill : OrderFill}
    (hworker : s.worker = .pumping)
    (hrecv : (config.transport.recvText s.transport).1 = some payload)
    (hparse : config.adapter.parseUpdate payload = .ok update)
    (hstatus : toInFlightStatus update.status = some next)
    (hmatch : s.core.matchOrder update = some (key, order))
    (hcan : canTransition order.status next = true) (hdata : update.data = .fill fill) :
    s.incomingFill config (.worker now) = some (fill, order) := by
  have hincoming : s.incoming config (.worker now) = some (update, order) := by
    rw [incoming, if_pos ⟨rfl, hworker⟩]
    simp [hrecv, hparse, hstatus, hmatch, hcan, Except.toOption]
  rw [incomingFill, hincoming]
  simp only [hdata]

/-! ## Agreement -/

/-- An order agrees with the fills accepted for it, in the core and in the ledger. -/
structure Agrees (log : List (LogEntry Text)) (order : InFlightOrder) : Prop where
  filled : order.filledQtyLots = fillTotal log order.requestId
  booked : bookedTotal log order.requestId = fillTotal log order.requestId
  nonneg : 0 ≤ fillTotal log order.requestId
  complete : order.status = .filled → fillTotal log order.requestId = order.requestedQtyLots

/-- Entries about other requests do not matter. -/
theorem Agrees.of_acceptedFor_eq {log log' : List (LogEntry Text)} {order : InFlightOrder}
    (h : Agrees log order)
    (hlog : acceptedFor log' order.requestId = acceptedFor log order.requestId) :
    Agrees log' order := by
  have hfill : fillTotal log' order.requestId = fillTotal log order.requestId := by
    rw [fillTotal, hlog, ← fillTotal]
  have hbooked : bookedTotal log' order.requestId = bookedTotal log order.requestId := by
    rw [bookedTotal, hlog, ← bookedTotal]
  exact ⟨h.filled.trans hfill.symm, hbooked.trans (h.booked.trans hfill.symm),
    h.nonneg.trans_eq hfill.symm, fun hstatus ↦ hfill.trans (h.complete hstatus)⟩

/-- A new order: nothing is filled, and the history does not know it. -/
theorem Agrees.of_fresh {log : List (LogEntry Text)} {order : InFlightOrder}
    (hfresh : ∀ entry ∈ log, entry.requestId ≠ order.requestId) (hfilled : order.filledQtyLots = 0)
    (hstatus : order.status = .pending) : Agrees log order := by
  have hnone := acceptedFor_of_fresh hfresh
  refine ⟨?_, ?_, ?_, fun hfull ↦ ?_⟩
  · rw [hfilled, fillTotal, hnone]
    rfl
  · rw [bookedTotal, fillTotal, hnone]
    rfl
  · rw [fillTotal, hnone]
    exact le_rfl
  · rw [hstatus] at hfull
    exact absurd hfull (by simp)

/-- An update that is no fill changes nothing about the quantities. -/
theorem Agrees.of_not_fill {log : List (LogEntry Text)} {order : InFlightOrder} {now : ℕ}
    {update : OrderStateUpdate} {next : InFlightStatus} (h : Agrees log order)
    (hnext : next ≠ .filled) (hdata : ∀ fill, update.data ≠ .fill fill) :
    Agrees (.applied order.requestId (enrichUpdate order update) :: log)
      (transitionOrder order next now update) := by
  have hfillTotal : fillTotal (.applied order.requestId update :: log) order.requestId
      = fillTotal log order.requestId := by
    rw [fillTotal_applied, fillQty_of_not_fill hdata, zero_add]
  have hbookedTotal : bookedTotal (.applied order.requestId update :: log) order.requestId
      = bookedTotal log order.requestId := by
    rw [bookedTotal_applied, bookedQty_of_not_fill hdata, zero_add]
  rw [enrichUpdate_of_not_fill order hdata]
  refine ⟨?_, ?_, ?_, fun hstatus ↦ ?_⟩
  · rw [transitionOrder_requestId, hfillTotal,
      transitionOrder_filledQtyLots_of_not_fill _ _ _ _ hdata]
    exact h.filled
  · rw [transitionOrder_requestId, hfillTotal, hbookedTotal]
    exact h.booked
  · rw [transitionOrder_requestId, hfillTotal]
    exact h.nonneg
  · rw [transitionOrder_status] at hstatus
    exact absurd hstatus hnext

/-- A fill of the whole requested quantity completes the order in both books. -/
theorem Agrees.of_whole_fill {log : List (LogEntry Text)} {order : InFlightOrder} {now : ℕ}
    {update : OrderStateUpdate} {fill : OrderFill} (h : Agrees log order)
    (hstatus : update.status = .filled) (hdata : update.data = .fill fill)
    (hqty : 0 < fill.fillQtyLots)
    (hfit : fillTotal log order.requestId + fill.fillQtyLots ≤ order.requestedQtyLots)
    (hwhole : fill.fillQtyLots = order.requestedQtyLots) (hmarket : fill.marketTicker ≠ "")
    (hside : fill.side ≠ .unknown ∨ order.side ≠ .unknown) :
    Agrees (.applied order.requestId (enrichUpdate order update) :: log)
      (transitionOrder order .filled now update) := by
  have henrich : (enrichUpdate order update).data = .fill (enrichFill order fill) := by
    rw [enrichUpdate, hdata]
  have hstatus' : (enrichUpdate order update).status = .filled := by
    rw [enrichUpdate, hdata]
    exact hstatus
  have hfill := enrichFill_known hside
  have hbooked : bookedQty (enrichUpdate order update) = fill.fillQtyLots := by
    rw [bookedQty_of_fill hstatus' henrich (hfill.1 ▸ hqty) (hfill.2.1 ▸ hmarket) hfill.2.2,
      hfill.1]
  have hqty' : (enrichUpdate order update).fillQty = fill.fillQtyLots := by
    rw [OrderStateUpdate.fillQty, henrich]
    exact hfill.1
  -- the exchange reports no more than was requested, so this is the only execution
  have hzero : fillTotal log order.requestId = 0 := by
    have hnonneg := h.nonneg
    omega
  have htotal : fillTotal (.applied order.requestId (enrichUpdate order update) :: log)
      order.requestId = order.requestedQtyLots := by
    rw [fillTotal_applied, hqty', hzero, add_zero, hwhole]
  have hbookedTotal : bookedTotal (.applied order.requestId (enrichUpdate order update) :: log)
      order.requestId = order.requestedQtyLots := by
    rw [bookedTotal_applied, hbooked, h.booked, hzero, add_zero, hwhole]
  have hpos : order.requestedQtyLots > 0 := hwhole ▸ hqty
  refine ⟨?_, ?_, ?_, fun _ ↦ ?_⟩
  · rw [transitionOrder_requestId, htotal, transitionOrder_filledQtyLots_of_fill _ _ _ _ hdata,
      if_pos ⟨rfl, hpos⟩]
  · rw [transitionOrder_requestId, htotal, hbookedTotal]
  · rw [transitionOrder_requestId, htotal]
    exact hpos.le
  · rw [transitionOrder_requestId, htotal, transitionOrder_requestedQtyLots]

/-- Every tracked order agrees with its fills. -/
def AllAgree (s : OrderManager Text τ PositionLedger) : Prop :=
  ∀ id order, s.core.inFlightOrders.lookup id = some order → Agrees s.log order

/-- An update reaches one order only, so it is enough that this order agrees afterwards. -/
theorem agrees_of_handled (hwf : s.WellFormed) (hs : s.AllAgree) {now : ℕ}
    {update : OrderStateUpdate} {core : OrderManagerCore} {sink : PositionLedger}
    {log : List (LogEntry Text)} (hhandled : Handled config s now update core sink log)
    (hupdate : ∀ {key order next}, toInFlightStatus update.status = some next →
      s.core.matchOrder update = some (key, order) → canTransition order.status next = true →
      Agrees (.applied order.requestId (enrichUpdate order update) :: s.log)
        (transitionOrder order next now update))
    {id : ClientOrderId} {order' : InFlightOrder}
    (hlookup : core.inFlightOrders.lookup id = some order') : Agrees log order' := by
  cases hhandled with
  | dropped hcore _ => exact hs id order' (hcore.inFlightOrders ▸ hlookup)
  | @applied next key order hstatus hmatch hcan hcore =>
    rw [hcore.inFlightOrders, lookup_applyTransition] at hlookup
    split at hlookup
    · obtain rfl := Option.some.inj hlookup
      exact hupdate hstatus hmatch hcan
    · rename_i hne
      refine (hs id order' hlookup).of_acceptedFor_eq (acceptedFor_applied_of_ne _ _ fun hid ↦ ?_)
      exact hne (hwf.order_inj _ _ _ _ (matchOrder_lookup hmatch) hlookup hid).symm

theorem allAgree_of_effect {json : JsonLibrary Text}
    (hadapter : config.adapter.parseUpdate = Kalshi.parseUpdate json) (hwf : s.WellFormed)
    (hs : s.AllAgree) (hok : s.WholeExecutions config input) (h : Effect config s input s') :
    s'.AllAgree := by
  intro id order' hlookup
  cases h with
  | restarted _ _ => cases hlookup
  | refused _ hcore => exact hs id order' (hcore.inFlightOrders ▸ hlookup)
  | @accepted thread pending tracked hcall hadmission =>
    obtain hold | ⟨rfl, _⟩ := lookup_of_tracked hlookup
    · exact (hs id order' hold).of_acceptedFor_eq rfl
    · obtain ⟨_, _, _, hrequest, hstatus, hfilled⟩ := admission_some_fields hadmission
      have hagrees : Agrees s.log order' := by
        refine .of_fresh (fun entry hentry hid ↦ hwf.fresh _ _ hcall ?_) hfilled hstatus
        exact .inr (.inr ⟨entry, hentry, hid.trans hrequest⟩)
      exact hagrees.of_acceptedFor_eq rfl
  | rejected _ hhandled =>
    refine agrees_of_handled hwf hs hhandled (fun hstatus hmatch _ ↦ ?_) hlookup
    obtain rfl := Option.some.inj hstatus
    refine (hs _ _ (matchOrder_lookup hmatch)).of_not_fill (by decide) fun fill hfill ↦ ?_
    cases hfill
  | sent _ _ _ => exact (hs id order' hlookup).of_acceptedFor_eq rfl
  | @received now _ _ _ _ _ _ _ hworker hrecv hparse hhandled =>
    refine agrees_of_handled hwf hs hhandled (fun hstatus hmatch hcan ↦ ?_) hlookup
    have hagrees := hs _ _ (matchOrder_lookup hmatch)
    rw [hadapter] at hparse
    obtain ⟨hkind, _, hdata⟩ | ⟨hkind, _, hdata⟩ | ⟨hkind, fill, hdata⟩ :=
      Kalshi.parseUpdate_kinds hparse
    · rw [hkind] at hstatus
      obtain rfl := Option.some.inj hstatus
      exact hagrees.of_not_fill (by decide) fun fill hfill ↦ by cases hdata.symm.trans hfill
    · rw [hkind] at hstatus
      obtain rfl := Option.some.inj hstatus
      exact hagrees.of_not_fill (by decide) fun fill hfill ↦ by cases hdata.symm.trans hfill
    · have hincoming := incomingFill_of_received now hworker hrecv (hadapter ▸ hparse) hstatus
        hmatch hcan hdata
      obtain ⟨hqty, hfit⟩ := hok.1 _ hincoming
      obtain ⟨hwhole, hmarket, hside⟩ := hok.2 _ hincoming
      rw [hkind] at hstatus
      obtain rfl := Option.some.inj hstatus
      exact hagrees.of_whole_fill hkind hdata hqty hfit hwhole hmarket hside
  | _ => exact hs id order' hlookup

/-! ## The ledger -/

/-- The ledger has seen the accepted updates and nothing else. -/
def LedgerFollows (s : OrderManager Text τ PositionLedger) : Prop :=
  s.sink.core = ({} : PositionLedgerCore).run (acceptedUpdates s.log)

theorem ledgerFollows_of_effect (hsink : config.eventSink = PositionLedger.eventSink)
    (hs : s.LedgerFollows) (h : Effect config s input s') : s'.LedgerFollows := by
  have hhandled : ∀ {now update core sink log}, Handled config s now update core sink log →
      sink.core = ({} : PositionLedgerCore).run (acceptedUpdates log) := by
    intro now update core sink log hhandled
    cases hhandled with
    | dropped _ _ => exact hs
    | @applied next key order _ _ _ _ =>
      have happend : acceptedUpdates (.applied order.requestId (enrichUpdate order update) :: s.log)
          = acceptedUpdates s.log ++ [enrichUpdate order update] := by
        simp [acceptedUpdates]
      have hledger := s.sink.onOrderUpdate_core (enrichUpdate order update)
      rw [happend, run_append_singleton, ← hs, hsink]
      exact hledger
  cases h with
  | accepted _ _ => exact hs
  | rejected _ h => exact hhandled h
  | sent _ _ _ => exact hs
  | received _ _ _ h => exact hhandled h
  | _ => exact hs

/-- **Orders and ledger agree on the fills.** In every run of the Kalshi adapter and a ledger in
which each execution is reported once, positive, and for the whole requested quantity: the filled
quantity of an order is the sum of the fills accepted for it, the ledger has booked that sum, and an
order is filled only when the sum is what was requested. -/
theorem fill_accounting (json : JsonLibrary Text)
    (hadapter : config.adapter.parseUpdate = Kalshi.parseUpdate json)
    (hsink : config.eventSink = PositionLedger.eventSink)
    (h : (machine config).ReachesVia (WholeExecutions config) (init config transport {}) s) :
    s.LedgerFollows ∧ ∀ id order, s.core.inFlightOrders.lookup id = some order →
      order.filledQtyLots = fillTotal s.log order.requestId ∧
      bookedTotal s.log order.requestId = fillTotal s.log order.requestId ∧
      (order.status = .filled → fillTotal s.log order.requestId = order.requestedQtyLots) := by
  have hledger : s.LedgerFollows := by
    refine invariant_of_effect (P := LedgerFollows) ?_ ?_ h
    · rfl
    · intro s s' input _ hs _ heffect
      exact ledgerFollows_of_effect hsink hs heffect
  have hagree : s.AllAgree := by
    refine invariant_of_effect (P := AllAgree) ?_ ?_ h
    · intro id order horder
      cases horder
    · intro s s' input hwf hs hok heffect
      exact allAgree_of_effect hadapter hwf hs hok heffect
  refine ⟨hledger, fun id order horder ↦ ?_⟩
  have hagrees := hagree id order horder
  exact ⟨hagrees.filled, hagrees.booked, hagrees.complete⟩

/-! ## Concrete runs -/

/-- A transport that takes every request and delivers what its state holds, one payload at a
time. -/
def scriptedTransport : IOrderTransport Text (List Text) where
  connect inbound := (true, inbound)
  sendText inbound _ := (true, inbound)
  recvText inbound := (inbound.head?, inbound.tail)
  close inbound := inbound
  lastError _ := ""

/-- A ledger behind the scripted transport. -/
abbrev scriptedConfig : OrderManagerConfig (Option Json) (List (Option Json)) PositionLedger where
  adapter := Kalshi.omsAdapter JsonLibrary.trees
  transport := scriptedTransport
  eventSink := PositionLedger.eventSink

/-- A place of ten lots is sent, and a fill of it arrives. -/
def fillRun : List OrderManagerInput :=
  [.start] ++ Trader.submit 0 (Trader.placeIntent "c1" "KXBTC-YES" .buy 10 40) ++ Trader.drain 1
    ++ [.worker 3, .worker 4]

/-- The payload of a fill. -/
def fillPayload (qty : ℤ) : Option Json :=
  some (PaperOrderTransport.fillDocument 1 "c1" "ex-1" "KXBTC-YES" qty 40 "buy")

/-- The order is filled in one piece. -/
theorem fill_accounting_whole :
    ∃ s order, (machine scriptedConfig).ReachesVia (WholeExecutions scriptedConfig)
        (init scriptedConfig [fillPayload 10] {}) s ∧
      s.core.inFlightOrders.lookup "c1" = some order ∧ order.status = .filled ∧
      order.filledQtyLots = fillTotal s.log order.requestId ∧
      bookedTotal s.log order.requestId = fillTotal s.log order.requestId ∧
      fillTotal s.log order.requestId = order.requestedQtyLots := by
  have hrun : ∃ s, (machine scriptedConfig).runVia (WholeExecutions scriptedConfig)
      (init scriptedConfig [fillPayload 10] {}) fillRun = some s ∧
      ∃ order, s.core.inFlightOrders.lookup "c1" = some order ∧ order.status = .filled :=
    ⟨_, rfl, _, rfl, rfl⟩
  obtain ⟨s, hrun, order, horder, hfilled⟩ := hrun
  have hreaches := Machine.reachesVia_of_runVia hrun
  obtain ⟨_, hagree⟩ := fill_accounting JsonLibrary.trees rfl rfl hreaches
  obtain ⟨hfill, hbooked, hcomplete⟩ := hagree "c1" order horder
  exact ⟨s, order, hreaches, horder, hfilled, hfill, hbooked, hcomplete hfilled⟩

/-- Four of ten lots are executed: the core has a filled order of ten, the ledger a position of
four. -/
theorem partial_fill_counts_whole :
    ∃ s order, (machine scriptedConfig).ReachesVia (ReportsExecution scriptedConfig)
        (init scriptedConfig [fillPayload 4] {}) s ∧
      s.core.inFlightOrders.lookup "c1" = some order ∧ order.status = .filled ∧
      order.requestedQtyLots = 10 ∧ order.filledQtyLots = 10 ∧
      fillTotal s.log order.requestId = 4 ∧ bookedTotal s.log order.requestId = 4 := by
  have hrun : ∃ s, (machine scriptedConfig).runVia (ReportsExecution scriptedConfig)
      (init scriptedConfig [fillPayload 4] {}) fillRun = some s ∧
      ∃ order, s.core.inFlightOrders.lookup "c1" = some order ∧ order.status = .filled ∧
        order.requestedQtyLots = 10 ∧ order.filledQtyLots = 10 ∧
        fillTotal s.log order.requestId = 4 ∧ bookedTotal s.log order.requestId = 4 :=
    ⟨_, rfl, _, rfl, rfl, rfl, rfl, rfl, rfl⟩
  obtain ⟨s, hrun, order, h⟩ := hrun
  exact ⟨s, order, Machine.reachesVia_of_runVia hrun, h⟩

end OrderManager

end TradingEngine
