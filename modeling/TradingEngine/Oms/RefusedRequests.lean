import TradingEngine.Oms.ClientIds
import TradingEngine.Oms.PaperAnswers

/-!
# Refused cancels and replaces

The paper transport refuses every cancel and every replace. A refusal carries the client order id of
the request, and the core looks that id up among its orders. A replace must come with a new id, so
its refusal ends the order that the replace itself has created. A cancel creates no order, and it
may come with any id, also with the id of the order that it is to cancel. Then the refusal is taken
for one of that order, and ends it (`refused_cancel_ends_order`).

This is the only way in which a refusal reaches the order that the request was aimed at
(`refusal_keeps_target_iff`).

## Causes

The order manager does not remember which request an answer is for. `traced` runs it beside a list
of causes, one for each answer that waits in the transport.
-/

namespace TradingEngine

open OrderManagerCore

namespace OrderManager

variable {Text σ : Type*} {json : JsonLibrary Text} {autoFillOnPlace : Bool}
  {eventSink : IOrderEventSink σ} {provider : Option (IPortfolioRiskSnapshotProvider σ)}
  {globalRisk : GlobalRiskConfig} {portfolioRisk : PortfolioRiskConfig}

/-! ## Causes of the answers that wait -/

/-- The order manager, and the intents whose requests caused the answers in its transport. -/
structure Traced (Text σ : Type*) where
  manager : OrderManager Text (PaperOrderTransport.State Text) σ
  causes : List PendingIntent := []

/-- The answers that a step adds are caused by the request that it sends. What a step takes, it
takes from the front. -/
def nextCauses (s s' : OrderManager Text (PaperOrderTransport.State Text) σ)
    (causes : List PendingIntent) : List PendingIntent :=
  match s.worker.aboutToSend with
  | some pending => causes ++ List.replicate
      (s'.transport.inboundUpdates.length - s.transport.inboundUpdates.length) pending
  | none => causes.drop
      (s.transport.inboundUpdates.length - s'.transport.inboundUpdates.length)

/-- The order manager with its causes. -/
def traced (config : OrderManagerConfig Text (PaperOrderTransport.State Text) σ) :
    Machine (Traced Text σ) OrderManagerInput where
  step t input := ((machine config).step t.manager input).map fun s' ↦
    { manager := s', causes := nextCauses t.manager s' t.causes }

/-- A step of a caller: the numbers of an intent fit their type. -/
def Fits64 (_ : Traced Text σ) (input : OrderManagerInput) : Prop :=
  ∀ intent ∈ input.submitted, intent.IsInt64

instance (t : Traced Text σ) (input : OrderManagerInput) : Decidable (Fits64 t input) :=
  inferInstanceAs (Decidable (∀ intent ∈ input.submitted, _))

/-- The worker is about to receive an answer to the request of this intent. -/
def Traced.Delivers (t : Traced Text σ) (pending : PendingIntent) : Prop :=
  t.manager.worker = .pumping ∧
    (PaperOrderTransport.recvText t.manager.transport).1.isSome = true ∧
    t.causes.head? = some pending

/-- The submission was accepted for the order that the request `target` had created. -/
def TargetsRequest (s : OrderManager Text (PaperOrderTransport.State Text) σ)
    (pending : PendingIntent) (target : ℕ) : Prop :=
  pending.intent.Targets ∧ .accepted pending.requestId (some target) ∈ s.log

/-- The order that this request has created, if it is tracked, has the same status afterwards. -/
def KeepsStatus (s s' : OrderManager Text (PaperOrderTransport.State Text) σ) (requestId : ℕ) :
    Prop :=
  ∀ id order, s.core.inFlightOrders.lookup id = some order → order.requestId = requestId →
    ∃ order', s'.core.inFlightOrders.lookup id = some order' ∧ order'.status = order.status

/-- The request came under the client order id of its own target, which is still live. -/
def NamesTarget (s : OrderManager Text (PaperOrderTransport.State Text) σ) (pending : PendingIntent)
    (target : ℕ) : Prop :=
  ∃ order, s.core.inFlightOrders.lookup pending.intent.clientOrderId = some order ∧
    order.requestId = target ∧ isTerminalState order.status = false

/-! ## Every refusal has its cause -/

variable {s s' : OrderManager Text (PaperOrderTransport.State Text) σ} {input : OrderManagerInput}
  {t t' : Traced Text σ} {pending : PendingIntent}

/-- An answer to a cancel or replace is a refusal under the id of the request. -/
def Answers (json : JsonLibrary Text) (cause : PendingIntent) (payload : Text) : Prop :=
  cause.intent.Targets → ∃ recvTsNs marketTicker, payload =
    json.dump (PaperOrderTransport.rejectDocument recvTsNs cause.intent.clientOrderId marketTicker)

/-- Each waiting answer has its cause. -/
def Explained (json : JsonLibrary Text) (t : Traced Text σ) : Prop :=
  List.Forall₂ (Answers json) t.causes t.manager.transport.inboundUpdates

theorem nextCauses_of_same (causes : List PendingIntent)
    (h : s'.transport.inboundUpdates = s.transport.inboundUpdates) :
    nextCauses s s' causes = causes := by
  rw [nextCauses, h, Nat.sub_self]
  split
  · exact List.append_nil causes
  · rfl

/-- What is sent is answered at the end of the queue, in the way it is answered. -/
theorem answers_of_send (hint : pending.intent.IsInt64) {payload : Text}
    (hbuild : Kalshi.buildRequest json pending.intent = .ok payload)
    (transport : PaperOrderTransport.State Text) :
    ∃ added, (PaperOrderTransport.sendText json autoFillOnPlace transport
        payload).2.inboundUpdates = transport.inboundUpdates ++ added ∧
      ∀ answer ∈ added, Answers json pending answer := by
  by_cases htargets : pending.intent.Targets
  · obtain hsame | ⟨recvTsNs, marketTicker, hrefused⟩ :=
      PaperOrderTransport.sendText_refusal autoFillOnPlace htargets hint hbuild
    · exact ⟨[], by rw [hsame, List.append_nil], by simp⟩
    · refine ⟨_, hrefused, fun answer hanswer _ ↦ ?_⟩
      exact ⟨recvTsNs, marketTicker, List.mem_singleton.mp hanswer⟩
  · obtain ⟨added, hadded⟩ : transport.inboundUpdates <+: (PaperOrderTransport.sendText json
        autoFillOnPlace transport payload).2.inboundUpdates :=
      PaperOrderTransport.sendText_appends autoFillOnPlace transport payload
    exact ⟨added, hadded.symm, fun answer _ h ↦ absurd h htargets⟩

/-- The queue of answers: it stays as it is, loses its front, or gains answers to what is sent. -/
theorem inbound_of_effect (hints : s.Intends OrderIntent.IsInt64)
    (h : Effect (overPaper json autoFillOnPlace eventSink provider globalRisk portfolioRisk) s input
      s') :
    s'.transport.inboundUpdates = s.transport.inboundUpdates ∨
    (s.worker.aboutToSend = none ∧
      ∃ payload, s.transport.inboundUpdates = payload :: s'.transport.inboundUpdates) ∨
    ∃ pending added, s.worker.aboutToSend = some pending ∧
      s'.transport.inboundUpdates = s.transport.inboundUpdates ++ added ∧
      ∀ answer ∈ added, Answers json pending answer := by
  rcases inboundUpdates_cases h with hsame | ⟨hworker, payload, hpop⟩ |
    ⟨pending, rest, payload, hworker, hbuild, _, htransport, _⟩
  · exact .inl hsame
  · exact .inr (.inl ⟨by rw [hworker]; rfl, payload, hpop⟩)
  · have hint := hints.unsettled pending (unsettled_of_cleared hworker)
    obtain ⟨added, hadded, hanswers⟩ := answers_of_send hint hbuild s.transport
    exact .inr (.inr ⟨pending, added, by rw [hworker]; rfl, htransport ▸ hadded, hanswers⟩)

/-- Causes stay in step with the answers. -/
theorem explained_of_effect {causes : List PendingIntent}
    (hs : Explained json ⟨s, causes⟩) (hints : s.Intends OrderIntent.IsInt64)
    (h : Effect (overPaper json autoFillOnPlace eventSink provider globalRisk portfolioRisk) s input
      s') :
    Explained json ⟨s', nextCauses s s' causes⟩ := by
  rw [Explained] at hs ⊢
  rcases inbound_of_effect hints h with hsame | ⟨hidle, payload, hpop⟩ |
    ⟨pending, added, hsends, hpush, hanswers⟩
  · rw [nextCauses_of_same causes hsame]
    exact hsame ▸ hs
  · -- an answer was received, and its cause goes with it
    dsimp only at hs ⊢
    have hdrop : nextCauses s s' causes = causes.drop 1 := by
      rw [nextCauses, hidle, hpop, List.length_cons, Nat.add_sub_cancel_left]
    rw [hdrop]
    rw [hpop] at hs
    rcases hs with _ | ⟨_, hrest⟩
    exact hrest
  · -- the intent that was sent is the cause of every answer that was added
    dsimp only at hs ⊢
    have hgrow : nextCauses s s' causes = causes ++ List.replicate added.length pending := by
      rw [nextCauses, hsends, hpush, List.length_append, Nat.add_sub_cancel_left]
    rw [hgrow, hpush]
    refine List.rel_append hs ?_
    clear hpush hgrow
    induction added with
    | nil => exact .nil
    | cons answer added ih =>
      obtain ⟨hanswer, hrest⟩ := List.forall_mem_cons.mp hanswers
      exact .cons hanswer (ih hrest)

/-- In every run, each waiting answer has its cause. -/
theorem explained_of_reaches {sink : σ}
    (h : (traced (overPaper json autoFillOnPlace eventSink provider globalRisk
      portfolioRisk)).ReachesVia Fits64 { manager := init (overPaper json autoFillOnPlace eventSink
        provider globalRisk portfolioRisk) {} sink } t) : Explained json t := by
  suffices hinv : t.manager.Intends OrderIntent.IsInt64 ∧ Explained json t from hinv.2
  refine h.invariant (P := fun t ↦ t.manager.Intends OrderIntent.IsInt64 ∧ Explained json t) ?_ ?_
  · exact ⟨intends_init _ _ _, List.Forall₂.nil⟩
  · intro t input t' _ hs hok hstep
    obtain ⟨s', hmanager, rfl⟩ := Option.map_eq_some_iff.mp hstep
    have heffect := effect_of_step hmanager
    exact ⟨hs.1.of_effect (fun _ _ hint ↦ hint) hok heffect,
      explained_of_effect hs.2 hs.1 heffect⟩

/-! ## What a refusal does -/

/-- A refusal is received and handled as a reject of the order under the id of the request. -/
theorem handled_of_refusal {config : OrderManagerConfig Text (PaperOrderTransport.State Text) σ}
    {now : ℕ} {payload : Text} {update : OrderStateUpdate} (hworker : s.worker = .pumping)
    (hrecv : (config.transport.recvText s.transport).1 = some payload)
    (hparse : config.adapter.parseUpdate payload = .ok update)
    (hstep : (machine config).step s (.worker now) = some s') :
    ∃ sink log, Handled config s now update s'.core sink log := by
  have hpumped : s' = s.pumpIncomingUpdate config now := by
    have hrun : s.runWorker config now = some s' := hstep
    rw [runWorker, hworker] at hrun
    dsimp only at hrun
    split at hrun
    · exact absurd hrun (by simp)
    · exact (Option.some.inj hrun).symm
  rw [hpumped, pumpIncomingUpdate]
  generalize config.transport.recvText s.transport = received at hrecv
  obtain ⟨text, transport⟩ := received
  obtain rfl : text = some payload := hrecv
  dsimp only
  rw [hparse]
  dsimp only
  obtain ⟨core, sink, log, counters, lastError, hhandled, hcore⟩ :=
    handled_handleUpdate config { s with
      worker := .loop
      transport := transport
      counters := { s.counters with receiveCount := s.counters.receiveCount + 1 } } now update
  rw [hcore]
  refine ⟨sink, log, ?_⟩
  cases hhandled with
  | dropped hsame hrefused => exact .dropped hsame hrefused
  | applied hstatus hmatch hcan hsame => exact .applied hstatus hmatch hcan hsame

/-- A reject that carries no exchange order id reaches the order under its client order id. -/
theorem keepsStatus_iff_of_reject
    {config : OrderManagerConfig Text (PaperOrderTransport.State Text) σ} {now target : ℕ}
    {update : OrderStateUpdate} {sink : σ} {log : List (LogEntry Text)}
    (hhandled : Handled config s now update s'.core sink log) (hreject : update.status = .rejected)
    (hexchange : update.exchangeOrderId = none)
    (hid : update.clientOrderId = pending.intent.clientOrderId) :
    s.KeepsStatus s' target ↔ ¬s.NamesTarget pending target := by
  constructor
  · -- a live order takes every reject, so it would have changed
    rintro hkeeps ⟨order, horder, htarget, hlive⟩
    obtain ⟨order', horder', hsame⟩ := hkeeps _ order horder htarget
    rw [← hid] at horder horder'
    have hrejected := hhandled.status_of_reject hreject horder hlive horder'
    rw [← hsame, hrejected] at hlive
    exact absurd hlive (by decide)
  · intro hother id order horder htarget
    obtain ⟨order', horder', rfl | ⟨next, hnext, hmatch, hcan, hstatus⟩⟩ :=
      hhandled.lookup horder
    · exact ⟨order', horder', rfl⟩
    · -- the order under the id of the request is over, and a reject does not revive it
      have hkey := (matchOrder_key hexchange hmatch).trans hid
      have hterminal : isTerminalState order.status = true := by
        refine Bool.eq_true_of_not_eq_false fun hlive ↦ hother ⟨order, ?_, htarget, hlive⟩
        rw [← hkey]
        exact horder
      refine ⟨order', horder', ?_⟩
      rw [hstatus]
      exact canTransition_of_terminal hterminal hcan

/-- **A refused cancel or replace leaves its target alone, unless it bears the target's name.** In
every run, with or without automatic fills: when the worker receives the answer to a cancel or a
replace, the order that the request was aimed at keeps its status exactly when it is not a live
order under the client order id of the request itself. -/
theorem refusal_keeps_target_iff (json : JsonLibrary Text) (autoFillOnPlace : Bool)
    (eventSink : IOrderEventSink σ) (provider : Option (IPortfolioRiskSnapshotProvider σ))
    (globalRisk : GlobalRiskConfig) (portfolioRisk : PortfolioRiskConfig) (sink : σ)
    (h : (traced (overPaper json autoFillOnPlace eventSink provider globalRisk
      portfolioRisk)).ReachesVia Fits64 { manager := init (overPaper json autoFillOnPlace eventSink
        provider globalRisk portfolioRisk) {} sink } t) {now target : ℕ}
    (hdelivers : t.Delivers pending) (htargets : t.manager.TargetsRequest pending target)
    (hstep : (traced (overPaper json autoFillOnPlace eventSink provider globalRisk
      portfolioRisk)).step t (.worker now) = some t') :
    t.manager.KeepsStatus t'.manager target ↔ ¬t.manager.NamesTarget pending target := by
  obtain ⟨hworker, hsome, hhead⟩ := hdelivers
  obtain ⟨payload, hrecv⟩ := Option.isSome_iff_exists.mp hsome
  have hexplained := explained_of_reaches h
  obtain ⟨s', hmanager, rfl⟩ := Option.map_eq_some_iff.mp hstep
  obtain ⟨rest, hcauses⟩ := List.head?_eq_some_iff.mp hhead
  -- the answer received is the one that belongs to the first cause
  rw [Explained, hcauses, PaperOrderTransport.inboundUpdates_of_recvText hrecv,
    List.forall₂_cons] at hexplained
  obtain ⟨recvTsNs, marketTicker, rfl⟩ := hexplained.1 htargets.1
  obtain ⟨_, _, hhandled⟩ := handled_of_refusal hworker hrecv
    PaperOrderTransport.parseUpdate_rejectDocument hmanager
  exact keepsStatus_iff_of_reject hhandled rfl rfl rfl

/-! ## Concrete runs -/

/-- A cancel of the order `target`, under the client order id `clientOrderId`. -/
def cancelUnder (clientOrderId : String) (target : Option String) : OrderIntent where
  exchange := .kalshi
  action := .cancel
  clientOrderId := clientOrderId
  targetClientOrderId := target

/-- The trader's order manager, with the fills left to the exchange. -/
abbrev unfilled : OrderManagerConfig (Option Json) (PaperOrderTransport.State (Option Json))
    PositionLedger :=
  overPaper JsonLibrary.trees false PositionLedger.eventSink (some PositionLedger.snapshotProvider)
    {} {}

open Trader in
/-- An order is placed under the id `c1` and acknowledged, then a cancel of it is submitted and
sent, and the worker is about to receive the answer. -/
def cancelRun (intent : OrderIntent) : List OrderManagerInput :=
  [.start] ++ submit 0 (placeIntent "c1" "KXBTC-YES" .buy 10 40) ++ drain 1 ++
    [.worker 3, .worker 4] ++ submit 1 intent ++ drain 1 ++ [.worker 5]

/-- Under an id of its own, the refused cancel does no harm. -/
theorem refusal_keeps_target_iff_other_id :
    ∃ t t' pending, (traced unfilled).ReachesVia Fits64 { manager := init unfilled {} {} } t ∧
      t.Delivers pending ∧ t.manager.TargetsRequest pending 1 ∧
      (traced unfilled).step t (.worker 6) = some t' ∧
      (t.manager.KeepsStatus t'.manager 1 ↔ ¬t.manager.NamesTarget pending 1) ∧
      t.manager.KeepsStatus t'.manager 1 := by
  have hrun : ∃ t, (traced unfilled).runVia Fits64 { manager := init unfilled {} {} }
      (cancelRun (cancelUnder "x1" (some "c1"))) = some t ∧
      ∃ pending, t.Delivers pending ∧ t.manager.TargetsRequest pending 1 ∧
        t.manager.core.inFlightOrders.lookup pending.intent.clientOrderId = none ∧
        ∃ t', (traced unfilled).step t (.worker 6) = some t' :=
    ⟨_, rfl, _, ⟨rfl, rfl, rfl⟩, ⟨.inl rfl, .tail _ (.head _)⟩, rfl, _, rfl⟩
  obtain ⟨t, hrun, pending, hdelivers, htargets, huntracked, t', hstep⟩ := hrun
  have hreaches := Machine.reachesVia_of_runVia hrun
  have hiff := refusal_keeps_target_iff _ _ _ _ _ _ _ hreaches hdelivers htargets hstep
  refine ⟨t, t', pending, hreaches, hdelivers, htargets, hstep, hiff, hiff.mpr ?_⟩
  rintro ⟨order, horder, _⟩
  exact absurd (huntracked.symm.trans horder) (by simp)

/-- A cancel that names its order by its own id is refused, and the live order is rejected. -/
theorem refused_cancel_ends_order :
    ∃ t t' pending, (traced unfilled).ReachesVia Fits64 { manager := init unfilled {} {} } t ∧
      t.Delivers pending ∧ t.manager.TargetsRequest pending 1 ∧
      (traced unfilled).step t (.worker 6) = some t' ∧
      (t.manager.core.inFlightOrders.lookup "c1").map (·.status) = some .accepted ∧
      (t'.manager.core.inFlightOrders.lookup "c1").map (·.status) = some .rejected ∧
      ¬t.manager.KeepsStatus t'.manager 1 := by
  have hrun : ∃ t, (traced unfilled).runVia Fits64 { manager := init unfilled {} {} }
      (cancelRun (cancelUnder "c1" none)) = some t ∧
      ∃ pending, t.Delivers pending ∧ t.manager.TargetsRequest pending 1 ∧
        ∃ t', (traced unfilled).step t (.worker 6) = some t' ∧
        ∃ order order', t.manager.core.inFlightOrders.lookup "c1" = some order ∧
          order.requestId = 1 ∧ order.status = .accepted ∧
          t'.manager.core.inFlightOrders.lookup "c1" = some order' ∧ order'.status = .rejected :=
    ⟨_, rfl, _, ⟨rfl, rfl, rfl⟩, ⟨.inl rfl, .tail _ (.head _)⟩, _, rfl, _, _, rfl, rfl, rfl, rfl,
      rfl⟩
  obtain ⟨t, hrun, pending, hdelivers, htargets, t', hstep, order, order', horder, hid, haccepted,
    horder', hrejected⟩ := hrun
  refine ⟨t, t', pending, Machine.reachesVia_of_runVia hrun, hdelivers, htargets, hstep, ?_, ?_, ?_⟩
  · rw [horder, Option.map_some, haccepted]
  · rw [horder', Option.map_some, hrejected]
  · intro hkeeps
    obtain ⟨order'', horder'', hsame⟩ := hkeeps "c1" order horder hid
    obtain rfl := Option.some.inj (horder'.symm.trans horder'')
    rw [haccepted, hrejected] at hsame
    exact absurd hsame (by decide)

end OrderManager

end TradingEngine
