import TradingEngine.Apps.Trader
import TradingEngine.Oms.RequestIds

/-!
# Requests and the orders they are tracked as

A request that goes out should be tracked, so that its answers can be matched, and an order that is
tracked should belong to a request that is still to go out or has gone out. Both fail on a path that
the source does not guard:

* `start` resets the core but not the outbound queue. A place that was still queued when the manager
  was stopped is sent by the next session, which does not track it (`handed_over_untracked`).
* A request that cannot be encoded or sent is counted and forgotten, with its order left pending
  (`leaked_order`).

Outside of these paths both hold in every run: `handed_over_tracked` for runs that restart only when
nothing is left over, `no_leaked_order` for runs in which what passes the gates is sent.
-/

namespace TradingEngine

open OrderManagerCore

namespace OrderManager

variable {Text τ σ : Type*} {config : OrderManagerConfig Text τ σ} {s s' : OrderManager Text τ σ}
  {input : OrderManagerInput} {transport : τ} {sink : σ}

/-! ## What is sent is tracked -/

/-- The worker is about to hand the request of this intent to the transport. -/
def HandsOver (config : OrderManagerConfig Text τ σ) (s : OrderManager Text τ σ)
    (pending : PendingIntent) : Prop :=
  ∃ rest payload, s.worker = .cleared pending rest ∧
    config.adapter.buildRequest pending.intent = .ok payload

/-- The accepted intents that are neither sent nor dropped, as a list. -/
def unsettled (s : OrderManager Text τ σ) : List PendingIntent :=
  s.waiting ++ s.submits.collect SubmitCall.pushes

theorem mem_unsettled {pending : PendingIntent} (h : s.Unsettled pending) :
    pending ∈ s.unsettled := by
  obtain hwaiting | ⟨thread, hcall⟩ := h
  · exact List.mem_append_left _ hwaiting
  · exact List.mem_append_right _ (UnorderedMap.mem_collect hcall rfl)

/-- A step that is not a restart with a place or replace left over. -/
def RestartsSettled (s : OrderManager Text τ σ) (input : OrderManagerInput) : Prop :=
  input = .start → s.worker = .notJoinable → ∀ pending ∈ s.unsettled, ¬pending.intent.Creates

instance (s : OrderManager Text τ σ) (input : OrderManagerInput) :
    Decidable (s.RestartsSettled input) := inferInstanceAs (Decidable (_ → _ → _))

/-- Every place or replace that is still to be handled is tracked under its id. -/
def UnsettledTracked (s : OrderManager Text τ σ) : Prop :=
  ∀ pending, s.Unsettled pending → pending.intent.Creates →
    ∃ order, s.core.inFlightOrders.lookup pending.intent.clientOrderId = some order

theorem unsettledTracked_of_effect (hs : s.UnsettledTracked) (hok : s.RestartsSettled input)
    (h : Effect config s input s') : s'.UnsettledTracked := by
  intro pending hunsettled hcreates
  obtain hold | ⟨thread, tracked, _, _, hadmission, hcore⟩ := unsettled_of_effect h hunsettled
  · obtain hevolves | ⟨hinput, hstopped⟩ := core_evolves_of_effect h
    · obtain ⟨order, horder⟩ := hs pending hold hcreates
      obtain ⟨order', horder', _⟩ := hevolves _ _ horder
      exact ⟨order', horder'⟩
    · -- a restart forgets every order, so nothing may be left over
      exact absurd hcreates (hok hinput hstopped pending (mem_unsettled hold))
  · obtain ⟨order, rfl, hid⟩ := admission_of_creates hadmission hcreates
    refine ⟨order, ?_⟩
    rw [hcore, ← hid]
    exact AList.lookup_insert _

/-- **What goes out is tracked.** In every run whose restarts leave no place or replace behind, a
place or replace that is handed to the transport is tracked at that moment. -/
theorem handed_over_tracked
    (h : (machine config).ReachesVia RestartsSettled (init config transport sink) s)
    {pending : PendingIntent} (hhands : s.HandsOver config pending)
    (hcreates : pending.intent.Creates) :
    ∃ order, s.core.inFlightOrders.lookup pending.intent.clientOrderId = some order := by
  have hinv : s.UnsettledTracked := by
    refine invariant_of_effect (P := UnsettledTracked) ?_ ?_ h
    · rintro pending (hwaiting | ⟨thread, hcall⟩)
      · cases hwaiting
      · cases hcall
    · intro s s' input _ hs hok heffect
      exact unsettledTracked_of_effect hs hok heffect
  obtain ⟨rest, _, hworker, _⟩ := hhands
  exact hinv pending (unsettled_of_cleared hworker) hcreates

open Trader in
/-- A place of the second session, at the moment it is sent. The first session had sent its own. -/
theorem handed_over_tracked_place :
    ∃ s pending, (machine unlimited).ReachesVia RestartsSettled (init unlimited {} {}) s ∧
      s.HandsOver unlimited pending ∧ pending.intent.clientOrderId = "c2" ∧
      ∃ order, s.core.inFlightOrders.lookup pending.intent.clientOrderId = some order := by
  have hrun : ∃ s, (machine unlimited).runVia RestartsSettled (init unlimited {} {})
      ([.start] ++ submit 0 (placeIntent "c1" "KXBTC-YES" .buy 10 40) ++ drain 1
        ++ [.stopBegin, .stopClose, .worker 3, .worker 3, .worker 3, .stopJoin, .start]
        ++ submit 0 (placeIntent "c2" "KXBTC-YES" .buy 10 40)
        ++ [.worker 4, .worker 4, .worker 4, .worker 4]) = some s ∧
      ∃ pending, s.HandsOver unlimited pending ∧ pending.intent.clientOrderId = "c2" ∧
        pending.intent.Creates :=
    ⟨_, rfl, _, ⟨_, _, rfl, rfl⟩, rfl, .inl rfl⟩
  obtain ⟨s, hrun, pending, hhands, hid, hcreates⟩ := hrun
  have hreaches := Machine.reachesVia_of_runVia hrun
  exact ⟨s, pending, hreaches, hhands, hid, handed_over_tracked hreaches hhands hcreates⟩

open Trader in
/-- A place is queued, the manager is stopped before the worker looks, and started again: the place
goes out and is not tracked. -/
theorem handed_over_untracked :
    ∃ s pending, (machine unlimited).Reaches (init unlimited {} {}) s ∧
      s.HandsOver unlimited pending ∧ pending.intent.Creates ∧
      s.core.inFlightOrders.lookup pending.intent.clientOrderId = none := by
  have hrun : ∃ s, (machine unlimited).runVia (fun _ _ ↦ True) (init unlimited {} {})
      ([.start] ++ submit 0 (placeIntent "c1" "KXBTC-YES" .buy 10 40)
        ++ [.stopBegin, .stopClose, .worker 2, .stopJoin, .start]
        ++ [.worker 3, .worker 4, .worker 5, .worker 6]) = some s ∧
      ∃ pending, s.HandsOver unlimited pending ∧ pending.intent.Creates ∧
        s.core.inFlightOrders.lookup pending.intent.clientOrderId = none :=
    ⟨_, rfl, _, ⟨_, _, rfl, rfl⟩, .inl rfl, rfl⟩
  obtain ⟨s, hrun, pending, hhands, hcreates, hnone⟩ := hrun
  exact ⟨s, pending, Machine.reachesVia_of_runVia hrun, hhands, hcreates, hnone⟩

/-! ## What is tracked goes out -/

/-- The order of this intent is tracked and live. -/
def OrderLive (s : OrderManager Text τ σ) (pending : PendingIntent) : Prop :=
  ∃ order ∈ s.core.inFlightOrders.lookup pending.intent.clientOrderId,
    order.requestId = pending.requestId ∧ isTerminalState order.status = false

/-- A step that does not lose a place or replace that has passed the gates: it is sent, or its
order is not live any more. -/
def SendsCleared (config : OrderManagerConfig Text τ σ) (s : OrderManager Text τ σ)
    (input : OrderManagerInput) : Prop :=
  input.isWorker = true → ∀ pending ∈ s.worker.aboutToSend, pending.intent.Creates →
    s.OrderLive pending → s.sends config pending = true

instance (s : OrderManager Text τ σ) (pending : PendingIntent) : Decidable (s.OrderLive pending) :=
  inferInstanceAs (Decidable (∃ order ∈ s.core.inFlightOrders.lookup _, _))

instance (config : OrderManagerConfig Text τ σ) (s : OrderManager Text τ σ)
    (input : OrderManagerInput) : Decidable (s.SendsCleared config input) :=
  inferInstanceAs (Decidable (_ → ∀ pending ∈ s.worker.aboutToSend, _))

/-- Every live order has an intent that is still to be handled, or a request that was sent. -/
def NoLeak (s : OrderManager Text τ σ) : Prop :=
  ∀ id order, s.core.inFlightOrders.lookup id = some order →
    isTerminalState order.status = false →
    (∃ pending, s.Unsettled pending ∧ pending.requestId = order.requestId) ∨
      s.Sent order.requestId

/-- **A reject reaches the order** under its client order id, if that order is live. -/
theorem Handled.applied_of_reject {now : ℕ} {update : OrderStateUpdate} {core : OrderManagerCore}
    {sink : σ} {log : List (LogEntry Text)} (hhandled : Handled config s now update core sink log)
    (hreject : update.status = .rejected) {order : InFlightOrder}
    (horder : s.core.inFlightOrders.lookup update.clientOrderId = some order)
    (hlive : isTerminalState order.status = false) :
    (s.core.applyTransition now update .rejected update.clientOrderId order).SameOrders core ∧
      sink = (config.eventSink.onOrderUpdate s.sink (enrichUpdate order update)).2 := by
  have hmatch := matchOrder_of_lookup horder
  have hnext : toInFlightStatus update.status = some .rejected := by
    rw [hreject]
    rfl
  -- every live status may go to rejected, so the core cannot drop the reject
  have hcan := canTransition_rejected hlive
  cases hhandled with
  | dropped _ hrefused =>
    have hcannot := hrefused .rejected _ _ hnext hmatch
    exact absurd (hcan.symm.trans hcannot) (by decide)
  | applied hstatus hmatch' _ hcore =>
    obtain ⟨rfl, rfl⟩ := Prod.mk.inj (Option.some.inj (hmatch.symm.trans hmatch'))
    obtain rfl := Option.some.inj (hstatus.symm.trans hnext)
    exact ⟨hcore, rfl⟩

theorem Handled.status_of_reject {now : ℕ} {update : OrderStateUpdate} {core : OrderManagerCore}
    {sink : σ} {log : List (LogEntry Text)} (hhandled : Handled config s now update core sink log)
    (hreject : update.status = .rejected) {order order' : InFlightOrder}
    (horder : s.core.inFlightOrders.lookup update.clientOrderId = some order)
    (hlive : isTerminalState order.status = false)
    (horder' : core.inFlightOrders.lookup update.clientOrderId = some order') :
    order'.status = .rejected := by
  obtain ⟨hcore, _⟩ := hhandled.applied_of_reject hreject horder hlive
  rw [hcore.inFlightOrders, lookup_applyTransition, if_pos rfl] at horder'
  obtain rfl := Option.some.inj horder'
  exact transitionOrder_status ..

theorem noLeak_of_effect (hwf : s.WellFormed) (hs : s.NoLeak) (hok : s.SendsCleared config input)
    (h : Effect config s input s') : s'.NoLeak := by
  intro id order' horder' hlive'
  obtain ⟨order, horder, hmoved⟩ | ⟨thread, pending, _, _, hcall, hadmission, _⟩ :=
    orders_of_effect h horder'
  · rw [hmoved.evolves.requestId]
    have hlive : isTerminalState order.status = false := hmoved.evolves.live hlive'
    obtain ⟨pending, hunsettled, hid⟩ | hsent := hs id order horder hlive
    · obtain hunsettled' | ⟨now, hinput, hsettles⟩ := unsettled_forward h hunsettled
      · exact .inl ⟨pending, hunsettled', hid⟩
      · -- the worker is done with the intent: its order is this one
        have htracked := hwf.tracked pending hunsettled id order horder hid.symm
        have hid' := htracked.id_eq
        subst hid'
        cases hsettles with
        | rejected _ hhandled =>
          have hrejected := hhandled.status_of_reject rfl horder hlive horder'
          rw [hrejected] at hlive'
          exact absurd hlive' (by decide)
        | sent _ _ _ hlog =>
          rw [← hid, Sent, hlog]
          exact .inr (sentIn_cons.mpr (.inl rfl))
        | unsent hworker hfailed _ _ =>
          have hsends := hok (by rw [hinput]; rfl) pending (by rw [hworker]; rfl) htracked.creates
            ⟨order, horder, hid.symm, hlive⟩
          exact absurd (hsends.symm.trans hfailed) (by decide)
    · exact .inr (sent_of_effect h hsent)
  · -- the order is new, and its call is still to push the intent
    refine .inl ⟨pending, .inr ⟨thread, hcall⟩, ?_⟩
    rw [(admission_some_fields hadmission).2.2.2.1]

/-- **No order is leaked.** In every run in which a place or replace that has passed the gates is
sent, or its order is already over, and at every moment between two passes of the worker: a live
order has its intent in the queue, or a call that is about to push it, or its request sent. -/
theorem no_leaked_order
    (h : (machine config).ReachesVia (SendsCleared config) (init config transport sink) s)
    (hbetween : s.worker.batch = []) {id : ClientOrderId} {order : InFlightOrder}
    (horder : s.core.inFlightOrders.lookup id = some order)
    (hlive : isTerminalState order.status = false) :
    (∃ pending ∈ s.outboundQueue, pending.requestId = order.requestId) ∨
    (∃ thread pending, s.submits.lookup thread = some (.enqueuing pending) ∧
      pending.requestId = order.requestId) ∨
    s.Sent order.requestId := by
  have hinv : s.NoLeak := by
    refine invariant_of_effect (P := NoLeak) ?_ ?_ h
    · intro id order horder
      cases horder
    · intro s s' input hwf hs hok heffect
      exact noLeak_of_effect hwf hs hok heffect
  obtain ⟨pending, hwaiting | ⟨thread, hcall⟩, hid⟩ | hsent := hinv id order horder hlive
  · rw [waiting, hbetween, List.nil_append] at hwaiting
    exact .inl ⟨pending, hwaiting, hid⟩
  · exact .inr (.inl ⟨thread, _, hcall, hid⟩)
  · exact .inr (.inr hsent)

open Trader in
/-- One place, sent. -/
theorem no_leaked_order_place :
    ∃ s order, (machine unlimited).ReachesVia (SendsCleared unlimited) (init unlimited {} {}) s ∧
      s.core.inFlightOrders.lookup "c1" = some order ∧
      ((∃ pending ∈ s.outboundQueue, pending.requestId = order.requestId) ∨
        (∃ thread pending, s.submits.lookup thread = some (.enqueuing pending) ∧
          pending.requestId = order.requestId) ∨
        s.Sent order.requestId) := by
  have hrun : ∃ s, (machine unlimited).runVia (SendsCleared unlimited) (init unlimited {} {})
      ([.start] ++ submit 0 (placeIntent "c1" "KXBTC-YES" .buy 10 40) ++ drain 1) = some s ∧
      s.worker.batch = [] ∧ ∃ order, s.core.inFlightOrders.lookup "c1" = some order ∧
        isTerminalState order.status = false :=
    ⟨_, rfl, rfl, _, rfl, rfl⟩
  obtain ⟨s, hrun, hbetween, order, horder, hlive⟩ := hrun
  have hreaches := Machine.reachesVia_of_runVia hrun
  exact ⟨s, order, hreaches, horder, no_leaked_order hreaches hbetween horder hlive⟩

open Trader in
/-- A place without a limit price is tracked, passes the gates and cannot be encoded. It is gone,
and its order keeps a slot and its quantity. -/
theorem leaked_order :
    ∃ s order, (machine unlimited).Reaches (init unlimited {} {}) s ∧ s.worker.batch = [] ∧
      s.core.inFlightOrders.lookup "c1" = some order ∧ isTerminalState order.status = false ∧
      s.outboundQueue = [] ∧ s.submits = ∅ ∧ ¬s.Sent order.requestId ∧
      (s.core.buildRiskSnapshot "" "").activeOrdersGlobal = 1 ∧
      (s.core.buildRiskSnapshot "" "").outstandingQtyGlobal = 10 := by
  have hrun : ∃ s, (machine unlimited).runVia (fun _ _ ↦ True) (init unlimited {} {})
      ([.start] ++ submit 0 { placeIntent "c1" "KXBTC-YES" .buy 10 40 with limitPriceTicks := none }
        ++ drain 1) = some s ∧
      s.worker.batch = [] ∧ ∃ order, s.core.inFlightOrders.lookup "c1" = some order ∧
        isTerminalState order.status = false ∧ s.outboundQueue = [] ∧ s.submits = ∅ ∧
        ¬s.Sent order.requestId ∧ (s.core.buildRiskSnapshot "" "").activeOrdersGlobal = 1 ∧
        (s.core.buildRiskSnapshot "" "").outstandingQtyGlobal = 10 :=
    ⟨_, rfl, rfl, _, rfl, rfl, rfl, rfl, by decide, rfl, rfl⟩
  obtain ⟨s, hrun, hbetween, order, h⟩ := hrun
  exact ⟨s, order, Machine.reachesVia_of_runVia hrun, hbetween, h⟩

end OrderManager

end TradingEngine
