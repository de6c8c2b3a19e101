import TradingEngine.Oms.GateOrder

/-!
# What a manager that judges in turn knows

In a session that no update disturbs, the only orders that end are those a gate refuses. If the
worker judges in turn as well, then every order comes to the gate alone, and the verdicts are those
of `deskLive` on the orders that were settled before.

The invariant `Follows` splits the accepted orders into `late`, those whose intents are not settled
yet, and `settled`, both newest first. It says which orders are live and what their terms are, and
it is kept by each of the three things that can happen to an order: it is accepted, handed over or
refused.
-/

namespace TradingEngine

open OrderManagerCore

/-- The intents among these that create an order. -/
def ordersOf (pendings : List PendingIntent) : List OrderIntent :=
  (pendings.map PendingIntent.intent).filter fun intent ↦ decide intent.Creates

theorem ordersOf_append (pendings pendings' : List PendingIntent) :
    ordersOf (pendings ++ pendings') = ordersOf pendings ++ ordersOf pendings' := by
  rw [ordersOf, List.map_append, List.filter_append, ordersOf, ordersOf]

theorem ordersOf_cons_of_creates {pending : PendingIntent} (pendings : List PendingIntent)
    (h : pending.intent.Creates) :
    ordersOf (pending :: pendings) = pending.intent :: ordersOf pendings := by
  rw [ordersOf, List.map_cons, List.filter_cons_of_pos (by simpa using h), ordersOf]

theorem ordersOf_cons_of_not_creates {pending : PendingIntent} (pendings : List PendingIntent)
    (h : ¬pending.intent.Creates) : ordersOf (pending :: pendings) = ordersOf pendings := by
  rw [ordersOf, List.map_cons, List.filter_cons_of_neg (by simpa using h), ordersOf]

theorem Worker.inHand_of_aboutToSend {worker : Worker} {pending : PendingIntent}
    (h : worker.aboutToSend = some pending) : worker.inHand = some pending := by
  cases worker with
  | cleared first rest => exact h
  | _ => cases h

/-- The rejects of the gates do not move the portfolio. -/
def OrderManagerConfig.RejectsKeepSnapshots {Text τ σ : Type*}
    (config : OrderManagerConfig Text τ σ) : Prop :=
  ∀ provider ∈ config.portfolioSnapshotProvider, ∀ sink intent reasonCode reasonMessage now,
    provider.snapshotFor (config.eventSink.onOrderUpdate sink
      (makeRiskRejectUpdate intent reasonCode reasonMessage now)).2 = provider.snapshotFor sink

/-- The ledger of the trader does not book rejects. -/
theorem rejectsKeepSnapshots_of_ledger {Text τ : Type*}
    {config : OrderManagerConfig Text τ PositionLedger}
    (hsink : config.eventSink = PositionLedger.eventSink)
    (hprovider : config.portfolioSnapshotProvider = some PositionLedger.snapshotProvider) :
    config.RejectsKeepSnapshots := by
  intro provider hmem sink intent reasonCode reasonMessage now
  obtain rfl := Option.some.inj (hprovider.symm.trans hmem)
  rw [hsink]
  rfl

namespace OrderManager

variable {Text τ σ : Type*} {config : OrderManagerConfig Text τ σ} {s s' : OrderManager Text τ σ}
  {input : OrderManagerInput} {sink : σ}

theorem unsettled_of_settled {pending : PendingIntent}
    (hwaiting : s.waiting = pending :: s'.waiting) (hsubmits : s'.submits = s.submits) :
    s.unsettled = pending :: s'.unsettled := by
  rw [OrderManager.unsettled, OrderManager.unsettled, hwaiting, hsubmits, List.cons_append]

/-! ## Undisturbed sessions -/

/-- A step that hears no update and forgets no order. -/
structure Undisturbed (config : OrderManagerConfig Text τ σ) (s : OrderManager Text τ σ)
    (input : OrderManagerInput) : Prop where
  hears : input.isWorker = true → s.worker = .pumping →
    ∀ payload ∈ (config.transport.recvText s.transport).1,
      (config.adapter.parseUpdate payload).isOk = false
  forgets : input = .start → s.worker = .notJoinable → s.core.inFlightOrders.entries = []

instance (config : OrderManagerConfig Text τ σ) (s : OrderManager Text τ σ)
    (input : OrderManagerInput) : Decidable (Undisturbed config s input) :=
  decidable_of_iff
    ((input.isWorker = true → s.worker = .pumping →
      ∀ payload ∈ (config.transport.recvText s.transport).1,
        (config.adapter.parseUpdate payload).isOk = false) ∧
      (input = .start → s.worker = .notJoinable → s.core.inFlightOrders.entries = []))
    ⟨fun h ↦ ⟨h.1, h.2⟩, fun h ↦ ⟨h.hears, h.forgets⟩⟩

/-- A gate's reject ends the live order under the id of the intent and touches nothing else. -/
theorem Handled.of_riskReject {now : ℕ} {intent : OrderIntent} {reasonCode reasonMessage : String}
    {core : OrderManagerCore} {sink' : σ} {log : List (LogEntry Text)}
    (h : Handled config s now (makeRiskRejectUpdate intent reasonCode reasonMessage now) core sink'
      log) {order : InFlightOrder}
    (horder : s.core.inFlightOrders.lookup intent.clientOrderId = some order)
    (hlive : isTerminalState order.status = false) :
    (∃ order', core.inFlightOrders.lookup intent.clientOrderId = some order' ∧
      order'.requestId = order.requestId ∧ isTerminalState order'.status = true) ∧
    (∀ id, id ≠ intent.clientOrderId →
      core.inFlightOrders.lookup id = s.core.inFlightOrders.lookup id) ∧
    core.exchangeToClient = s.core.exchangeToClient ∧
    sink' = (config.eventSink.onOrderUpdate s.sink
      (makeRiskRejectUpdate intent reasonCode reasonMessage now)).2 := by
  obtain ⟨hcore, hsink⟩ := h.applied_of_reject rfl horder hlive
  have hlookup := fun id ↦ congrArg (AList.lookup id) hcore.inFlightOrders
  simp only [lookup_applyTransition] at hlookup
  refine ⟨⟨_, (hlookup _).trans (if_pos rfl), transitionOrder_requestId .., ?_⟩,
    fun id hid ↦ (hlookup id).trans (if_neg hid), hcore.exchangeToClient, hsink⟩
  rw [transitionOrder_status]
  rfl

/-! ## The invariant -/

/-- A live order is tracked under this id. -/
def LiveAt (s : OrderManager Text τ σ) (id : ClientOrderId) : Prop :=
  ∃ order, s.core.inFlightOrders.lookup id = some order ∧ isTerminalState order.status = false

/-- **The manager follows the desk.** The live orders are those of the desk and the late ones. -/
structure Follows (config : OrderManagerConfig Text τ σ) (sink : σ) (s : OrderManager Text τ σ)
    (late settled : List PendingIntent) : Prop where
  nodup : ((late ++ settled).map fun p ↦ p.intent.clientOrderId).Nodup
  tracked : ∀ p ∈ late ++ settled, ∃ order,
    s.core.inFlightOrders.lookup p.intent.clientOrderId = some order ∧ order.requestId = p.requestId
  unsettled : late.Perm (s.unsettled.filter fun p ↦ decide p.intent.Creates)
  live : ∀ id, s.LiveAt id ↔
    (∃ intent ∈ deskLive config sink (settled.map PendingIntent.intent),
      intent.clientOrderId = id) ∨ ∃ p ∈ late, p.intent.clientOrderId = id
  terms : ∀ id order, s.core.inFlightOrders.lookup id = some order →
    isTerminalState order.status = false → order.filledQtyLots = 0 ∧
      termsOf ((late ++ settled).map PendingIntent.intent) id = some order.terms
  exchangeIds : s.core.exchangeToClient = ∅
  snapshots : ∀ provider ∈ config.portfolioSnapshotProvider,
    provider.snapshotFor s.sink = provider.snapshotFor sink

theorem follows_init (config : OrderManagerConfig Text τ σ) (transport : τ) (sink : σ) :
    Follows config sink (init config transport sink) [] [] where
  nodup := List.nodup_nil
  tracked _ h := by cases h
  unsettled := .nil
  live id := by
    refine ⟨fun ⟨_, horder, _⟩ ↦ ?_, fun h ↦ ?_⟩
    · cases horder
    · obtain ⟨_, h, _⟩ | ⟨_, h, _⟩ := h
      · cases h
      · cases h
  terms _ _ horder := by cases horder
  exchangeIds := rfl
  snapshots _ _ := rfl

namespace Follows

variable {late settled : List PendingIntent} {p : PendingIntent}

/-- A late order is live, as the order of its own intent. -/
theorem orderLive (hs : Follows config sink s late settled) (hp : p ∈ late) : s.OrderLive p := by
  obtain ⟨order, horder, hid⟩ := hs.tracked p (List.mem_append_left _ hp)
  obtain ⟨order', horder', hlive⟩ := (hs.live _).mpr (.inr ⟨p, hp, rfl⟩)
  obtain rfl := Option.some.inj (horder.symm.trans horder')
  exact ⟨order, horder, hid, hlive⟩

/-- A step that leaves the orders and the sink alone. -/
theorem frame (hs : Follows config sink s late settled)
    (hunsettled : late.Perm (s'.unsettled.filter fun p ↦ decide p.intent.Creates))
    (horders : s'.core.inFlightOrders = s.core.inFlightOrders)
    (hids : s'.core.exchangeToClient = s.core.exchangeToClient ∨ s'.core.exchangeToClient = ∅)
    (hsink : s'.sink = s.sink) : Follows config sink s' late settled where
  nodup := hs.nodup
  tracked := by
    rw [horders]
    exact hs.tracked
  unsettled := hunsettled
  live := by
    simp only [LiveAt, horders]
    exact hs.live
  terms := by
    rw [horders]
    exact hs.terms
  exchangeIds := hids.elim (fun h ↦ h.trans hs.exchangeIds) id
  snapshots := by
    rw [hsink]
    exact hs.snapshots

/-- A new order is late. -/
theorem accept (hs : Follows config sink s late settled) {order : InFlightOrder}
    (hadmission : s.core.admission p.requestId p.intent = .ok (some order))
    (hcore : s'.core = s.core.track order) (hsink : s'.sink = s.sink)
    (hunsettled : s'.unsettled.Perm (p :: s.unsettled)) :
    Follows config sink s' (p :: late) settled := by
  obtain ⟨hcreates, hid, hfresh, hrequest, hstatus, hfilled⟩ := admission_some_fields hadmission
  have hself : s'.core.inFlightOrders.lookup p.intent.clientOrderId = some order := by
    rw [hcore, track, hid]
    exact AList.lookup_insert _
  have hother : ∀ id, id ≠ p.intent.clientOrderId →
      s'.core.inFlightOrders.lookup id = s.core.inFlightOrders.lookup id := by
    intro id hne
    rw [hcore, track, hid]
    exact AList.lookup_insert_ne hne
  have hnew : ∀ q ∈ late ++ settled, q.intent.clientOrderId ≠ p.intent.clientOrderId := by
    intro q hq heq
    obtain ⟨order', horder', _⟩ := hs.tracked q hq
    rw [heq, hfresh] at horder'
    cases horder'
  refine ⟨?_, ?_, ?_, ?_, ?_, ?_, ?_⟩
  · refine List.nodup_cons.mpr ⟨fun hmem ↦ ?_, hs.nodup⟩
    obtain ⟨q, hq, heq⟩ := List.mem_map.mp hmem
    exact hnew q hq heq
  · intro q hq
    obtain rfl | hq := List.mem_cons.mp hq
    · exact ⟨order, hself, hrequest⟩
    · rw [hother _ (hnew q hq)]
      exact hs.tracked q hq
  · refine .trans ?_ (hunsettled.filter _).symm
    rw [List.filter_cons_of_pos (by simpa using hcreates)]
    exact hs.unsettled.cons p
  · intro id
    by_cases hne : id = p.intent.clientOrderId
    · subst hne
      have hlive : s'.LiveAt p.intent.clientOrderId := ⟨order, hself, by rw [hstatus]; rfl⟩
      exact ⟨fun _ ↦ .inr ⟨p, List.mem_cons_self, rfl⟩, fun _ ↦ hlive⟩
    · rw [LiveAt, hother id hne]
      refine (hs.live id).trans (or_congr_right ⟨?_, ?_⟩)
      · rintro ⟨q, hq, rfl⟩
        exact ⟨q, List.mem_cons_of_mem _ hq, rfl⟩
      · rintro ⟨q, hq, rfl⟩
        obtain rfl | hq := List.mem_cons.mp hq
        · exact absurd rfl hne
        · exact ⟨q, hq, rfl⟩
  · intro id order' horder' hlive
    rw [List.cons_append, List.map_cons]
    by_cases hne : id = p.intent.clientOrderId
    · subst hne
      obtain rfl := Option.some.inj (hself.symm.trans horder')
      rw [termsOf_cons_self, terms_of_admission hs.exchangeIds
        (fun id order horder hlive ↦ (hs.terms id order horder hlive).2) hadmission]
      exact ⟨hfilled, rfl⟩
    · rw [termsOf_cons_of_ne (Ne.symm hne)]
      exact hs.terms id order' ((hother id hne).symm.trans horder') hlive
  · rw [hcore]
    exact hs.exchangeIds
  · rw [hsink]
    exact hs.snapshots

/-! ### Settling an order -/

section Settle

variable (hs : Follows config sink s (late ++ [p]) settled)

include hs

/-- The ids of orders that are settled, or late with this one, are not its own. -/
theorem ne_of_settled {q : PendingIntent} (hq : q ∈ settled) :
    q.intent.clientOrderId ≠ p.intent.clientOrderId := by
  intro heq
  have hnodup := hs.nodup
  rw [List.append_assoc, List.map_append] at hnodup
  have hfirst := (List.nodup_cons.mp hnodup.of_append_right).1
  exact hfirst (List.mem_map.mpr ⟨q, hq, heq⟩)

theorem ne_of_late {q : PendingIntent} (hq : q ∈ late) :
    q.intent.clientOrderId ≠ p.intent.clientOrderId := by
  intro heq
  have hnodup := hs.nodup
  rw [List.append_assoc, List.map_append, List.nodup_append] at hnodup
  exact hnodup.2.2 _ (List.mem_map.mpr ⟨q, hq, rfl⟩) _ List.mem_cons_self heq

theorem ne_of_deskLive {intent : OrderIntent}
    (h : intent ∈ deskLive config sink (settled.map PendingIntent.intent)) :
    intent.clientOrderId ≠ p.intent.clientOrderId := by
  obtain ⟨q, hq, rfl⟩ := List.mem_map.mp ((deskLive_sublist config sink _).mem h)
  exact hs.ne_of_settled hq

variable (hother : ∀ id, id ≠ p.intent.clientOrderId →
  s'.core.inFlightOrders.lookup id = s.core.inFlightOrders.lookup id)

include hother

theorem tracked_of_settle {order : InFlightOrder}
    (horder : s'.core.inFlightOrders.lookup p.intent.clientOrderId = some order)
    (hrequest : order.requestId = p.requestId) {q : PendingIntent}
    (hq : q ∈ late ++ p :: settled) :
    ∃ order, s'.core.inFlightOrders.lookup q.intent.clientOrderId = some order ∧
      order.requestId = q.requestId := by
  obtain hlate | hq := List.mem_append.mp hq
  · rw [hother _ (hs.ne_of_late hlate)]
    exact hs.tracked q (by simp [hlate])
  · obtain rfl | hsettled := List.mem_cons.mp hq
    · exact ⟨order, horder, hrequest⟩
    · rw [hother _ (hs.ne_of_settled hsettled)]
      exact hs.tracked q (by simp [hsettled])

theorem live_of_settle
    (hverdict : s'.LiveAt p.intent.clientOrderId ↔
      DeskPasses config sink (settled.map PendingIntent.intent) p.intent) (id : ClientOrderId) :
    s'.LiveAt id ↔
      (∃ intent ∈ deskLive config sink ((p :: settled).map PendingIntent.intent),
        intent.clientOrderId = id) ∨ ∃ q ∈ late, q.intent.clientOrderId = id := by
  rw [List.map_cons, mem_deskLive_cons]
  by_cases hid : id = p.intent.clientOrderId
  · subst hid
    refine hverdict.trans ⟨fun hpasses ↦ .inl (.inl ⟨hpasses, rfl⟩), fun h ↦ ?_⟩
    obtain (⟨hpasses, _⟩ | ⟨intent, hintent, heq⟩) | ⟨q, hq, heq⟩ := h
    · exact hpasses
    · exact absurd heq (hs.ne_of_deskLive hintent)
    · exact absurd heq (hs.ne_of_late hq)
  · -- the verdict on this order is about another id
    rw [LiveAt, hother id hid]
    refine (hs.live id).trans (or_congr ⟨.inr, ?_⟩ ⟨?_, ?_⟩)
    · rintro (⟨_, rfl⟩ | h)
      · exact absurd rfl hid
      · exact h
    · rintro ⟨q, hq, rfl⟩
      obtain hq | hq := List.mem_append.mp hq
      · exact ⟨q, hq, rfl⟩
      · exact absurd (by rw [List.mem_singleton.mp hq]) hid
    · rintro ⟨q, hq, rfl⟩
      exact ⟨q, List.mem_append_left _ hq, rfl⟩

/-- An order is settled, live if the desk lets it through. -/
theorem settle (hcreates : p.intent.Creates)
    (hself : ∃ order, s'.core.inFlightOrders.lookup p.intent.clientOrderId = some order ∧
      order.requestId = p.requestId ∧ (isTerminalState order.status = false →
        s.core.inFlightOrders.lookup p.intent.clientOrderId = some order))
    (hverdict : s'.LiveAt p.intent.clientOrderId ↔
      DeskPasses config sink (settled.map PendingIntent.intent) p.intent)
    (hids : s'.core.exchangeToClient = s.core.exchangeToClient)
    (hsnapshots : ∀ provider ∈ config.portfolioSnapshotProvider,
      provider.snapshotFor s'.sink = provider.snapshotFor s.sink)
    (hunsettled : s.unsettled = p :: s'.unsettled) :
    Follows config sink s' late (p :: settled) := by
  have haccepted : late ++ p :: settled = late ++ [p] ++ settled := List.append_cons ..
  obtain ⟨order, horder, hrequest, hstill⟩ := hself
  refine ⟨haccepted ▸ hs.nodup, fun q hq ↦ hs.tracked_of_settle hother horder hrequest hq, ?_,
    hs.live_of_settle hother hverdict, ?_, hids.trans hs.exchangeIds, fun provider hprovider ↦
      (hsnapshots provider hprovider).trans (hs.snapshots provider hprovider)⟩
  · have hperm := (List.perm_append_singleton p late).symm.trans hs.unsettled
    rw [hunsettled, List.filter_cons_of_pos (by simpa using hcreates)] at hperm
    exact hperm.cons_inv
  · rw [haccepted]
    intro id order' horder' hlive
    by_cases hid : id = p.intent.clientOrderId
    · subst hid
      obtain rfl := Option.some.inj (horder.symm.trans horder')
      exact hs.terms _ order (hstill hlive) hlive
    · exact hs.terms id order' ((hother id hid).symm.trans horder') hlive

end Settle

/-! ### The gates -/

/-- **An order comes to the gate alone** when the worker judges in turn. -/
theorem late_eq (hs : Follows config sink s late settled) (hturn : s.JudgesInTurn input)
    (hworker : input.isWorker = true) (hgate : s.worker.atGlobalGate = some p)
    (hcreates : p.intent.Creates) : late = [p] := by
  obtain ⟨behind, hwaiting⟩ := waiting_of_atGlobalGate hgate
  have hunsettled : s.unsettled = p :: s.unsettled.tail := by
    rw [OrderManager.unsettled, hwaiting]
    rfl
  have hperm := hs.unsettled
  rw [hunsettled, List.filter_cons_of_pos (by simpa using hcreates)] at hperm
  have hnodup := hs.nodup
  rw [List.map_append] at hnodup
  have hids := ((hperm.map fun q ↦ q.intent.clientOrderId).nodup_iff).mp hnodup.of_append_left
  have hnone : (s.unsettled.tail.filter fun q ↦ decide q.intent.Creates) = [] := by
    refine List.eq_nil_iff_forall_not_mem.mpr fun q hq ↦ ?_
    have hne : q.intent.clientOrderId ≠ p.intent.clientOrderId := fun heq ↦
      (List.nodup_cons.mp hids).1 (List.mem_map.mpr ⟨q, hq, heq⟩)
    exact hturn hworker p hgate hcreates q (List.mem_filter.mp hq).1 hne
      (hs.orderLive (hperm.mem_iff.mpr (List.mem_cons_of_mem _ hq)))
  rw [hnone] at hperm
  exact List.perm_singleton.mp hperm

/-- The global gate answers as the desk does. -/
theorem globalAllows_eq (hs : Follows config sink s [p] settled)
    (hlimits : s.core.globalRiskGate = config.globalRisk)
    (hnamed : p.intent.clientOrderId ≠ "") :
    s.globalAllows p = deskGlobalAllows config (settled.map PendingIntent.intent)
      (deskLive config sink (settled.map PendingIntent.intent)) p.intent := by
  have hnodup := hs.nodup
  rw [List.singleton_append, List.map_cons, List.nodup_cons] at hnodup
  have hsublist := (deskLive_sublist config sink (settled.map PendingIntent.intent)).map
    OrderIntent.clientOrderId
  rw [List.map_map] at hsublist
  have hne : ∀ id ∈ (deskLive config sink (settled.map PendingIntent.intent)).map
      OrderIntent.clientOrderId, id ≠ p.intent.clientOrderId := by
    rintro _ hid rfl
    exact hnodup.1 (hsublist.mem hid)
  rw [globalAllows, deskGlobalAllows, hlimits, buildRiskSnapshot_eq_deskSnapshot hnamed
    (hnodup.2.sublist hsublist) ?_ ?_]
  · intro id hid
    obtain ⟨intent, hintent, rfl⟩ := List.mem_map.mp hid
    obtain ⟨order, horder, hlive⟩ := (hs.live _).mpr (.inl ⟨intent, hintent, rfl⟩)
    obtain ⟨hfilled, hterms⟩ := hs.terms _ order horder hlive
    rw [List.singleton_append, List.map_cons, termsOf_cons_of_ne (hne _ hid).symm] at hterms
    exact ⟨hne _ hid, order, horder, hlive, hfilled, hterms⟩
  · intro id order horder hlive hid
    obtain ⟨intent, hintent, rfl⟩ | ⟨q, hq, rfl⟩ := (hs.live id).mp ⟨order, horder, hlive⟩
    · exact absurd (List.mem_map_of_mem hintent) hid
    · rw [List.mem_singleton.mp hq]

/-- And so does the portfolio gate. -/
theorem portfolioAllows_eq (hs : Follows config sink s late settled)
    (hlimits : s.core.portfolioRiskGate = config.portfolioRisk) :
    s.portfolioAllows config p = deskPortfolioAllows config sink p.intent := by
  rw [portfolioAllows, deskPortfolioAllows]
  cases hprovider : config.portfolioSnapshotProvider with
  | none => rfl
  | some provider =>
    dsimp only
    rw [hlimits, hs.snapshots provider hprovider]

/-- The order in hand is handed over. -/
theorem handOver (hs : Follows config sink s (late ++ [p]) settled) (hcreates : p.intent.Creates)
    (hpasses : DeskPasses config sink (settled.map PendingIntent.intent) p.intent)
    (hcore : s'.core = s.core) (hsink : s'.sink = s.sink)
    (hunsettled : s.unsettled = p :: s'.unsettled) :
    Follows config sink s' late (p :: settled) := by
  obtain ⟨order, horder, hid, hlive⟩ := hs.orderLive (p := p) (by simp)
  have horder' : s'.core.inFlightOrders.lookup p.intent.clientOrderId = some order := by
    rw [hcore]
    exact horder
  exact hs.settle (fun _ _ ↦ by rw [hcore]) hcreates ⟨order, horder', hid, fun _ ↦ horder⟩
    ⟨fun _ ↦ hpasses, fun _ ↦ ⟨order, horder', hlive⟩⟩ (by rw [hcore]) (fun _ _ ↦ by rw [hsink])
    hunsettled

/-- An order is refused. -/
theorem refuse (hs : Follows config sink s (late ++ [p]) settled)
    (hsteady : config.RejectsKeepSnapshots) (hcreates : p.intent.Creates)
    (hfails : ¬DeskPasses config sink (settled.map PendingIntent.intent) p.intent) {now : ℕ}
    {reasonCode reasonMessage : String} {log : List (LogEntry Text)}
    (hhandled : Handled config s now
      (makeRiskRejectUpdate p.intent reasonCode reasonMessage now) s'.core s'.sink log)
    (hunsettled : s.unsettled = p :: s'.unsettled) :
    Follows config sink s' late (p :: settled) := by
  obtain ⟨order, horder, hid, hlive⟩ := hs.orderLive (p := p) (by simp)
  obtain ⟨⟨order', horder', hid', hterminal⟩, hother, hids, hsink⟩ :=
    hhandled.of_riskReject horder hlive
  have hnot : ∀ {P : Prop}, isTerminalState order'.status = false → P := fun hlive' ↦
    absurd (hterminal.symm.trans hlive') (by decide)
  refine hs.settle hother hcreates ⟨order', horder', hid'.trans hid, hnot⟩
    ⟨?_, fun hpasses ↦ absurd hpasses hfails⟩ hids ?_ hunsettled
  · rintro ⟨order'', horder'', hlive'⟩
    obtain rfl := Option.some.inj (horder'.symm.trans horder'')
    exact hnot hlive'
  · intro provider hprovider
    rw [hsink, hsteady provider hprovider]

end Follows

end OrderManager

end TradingEngine
