import TradingEngine.Oms.CausalOrder
import TradingEngine.Oms.RequestTracking
import TradingEngine.Oms.SequentialDesk

/-!
# Later orders at the global gate

A submission is tracked at once and judged when the worker gets to it. The snapshot that the global
gate is given counts every live order but the one being judged, and so also the orders that were
submitted after it. With room for one order, two submissions that the worker finds in one batch end
with the first refused and the second sent (`later_order_pushes_out_earlier`).

Where the worker judges in turn, which is to say that no order of an intent further back is live
when an intent comes to the gate, this cannot happen. Then a refusal is owed to the orders enqueued
before, and in a session without inbound updates the orders sent are those of the desk that judges
the enqueued intents one at a time, whatever the batches were.
-/

namespace TradingEngine

open OrderManagerCore

namespace OrderManager

variable {Text τ σ : Type*} {config : OrderManagerConfig Text τ σ} {s s' : OrderManager Text τ σ}
  {input : OrderManagerInput}

/-! ## The condition -/

/-- A step that does not judge an order while the order of an intent further back is live. -/
def JudgesInTurn (s : OrderManager Text τ σ) (input : OrderManagerInput) : Prop :=
  input.isWorker = true → ∀ pending ∈ s.worker.atGlobalGate, pending.intent.Creates →
    ∀ later ∈ s.unsettled.tail, later.intent.clientOrderId ≠ pending.intent.clientOrderId →
      ¬s.OrderLive later

instance (s : OrderManager Text τ σ) (input : OrderManagerInput) :
    Decidable (s.JudgesInTurn input) :=
  inferInstanceAs (Decidable (_ → ∀ pending ∈ s.worker.atGlobalGate, _ → ∀ later ∈ _, _ → _))

/-- The request that this step hands to the transport. -/
def handsOver (config : OrderManagerConfig Text τ σ) (s : OrderManager Text τ σ) :
    OrderManagerInput → Option PendingIntent
  | .worker _ => s.worker.aboutToSend.filter fun pending ↦
      (config.adapter.buildRequest pending.intent).isOk
  | _ => none

/-- A manager beside the intents that were enqueued and those that were handed to the transport, in
this order. -/
structure Journal (Text τ σ : Type*) where
  manager : OrderManager Text τ σ
  enqueued : List PendingIntent := []
  handedOver : List PendingIntent := []

namespace Journal

def init (config : OrderManagerConfig Text τ σ) (transport : τ) (sink : σ) : Journal Text τ σ where
  manager := OrderManager.init config transport sink

def machine (config : OrderManagerConfig Text τ σ) :
    Machine (Journal Text τ σ) OrderManagerInput where
  step j input := ((OrderManager.machine config).step j.manager input).map fun manager ↦
    { manager
      enqueued := j.enqueued ++ (j.manager.joins input).toList
      handedOver := j.handedOver ++ (j.manager.handsOver config input).toList }

/-- The request ids of the intents enqueued before this one. -/
def enqueuedBefore (j : Journal Text τ σ) (pending : PendingIntent) : List ℕ :=
  (j.enqueued.map PendingIntent.requestId).takeWhile (· ≠ pending.requestId)

/-- The snapshot for an intent with nothing counted but the orders of intents enqueued before. -/
def snapshotBefore (j : Journal Text τ σ) (pending : PendingIntent) : GlobalRiskSnapshot :=
  (j.manager.core.inFlightOrders.entries.filter fun entry ↦
      decide (entry.2.requestId ∈ j.enqueuedBefore pending)).foldl
    (fun snapshot entry ↦ addToSnapshot pending.intent.marketTicker pending.intent.clientOrderId
      snapshot entry.1 entry.2) {}

/-- A refusal at the global gate is owed to the orders of intents enqueued before: the same limit is
exceeded when only they are counted. -/
def RefusedByEarlier (config : OrderManagerConfig Text τ σ) (j : Journal Text τ σ) : Prop :=
  ∀ pending ∈ j.manager.worker.atGlobalGate, ∀ decision core,
    j.manager.core.evaluateGlobalRisk pending.intent = (some decision, core) →
    GlobalRiskGate.evaluate config.globalRisk pending.intent (j.snapshotBefore pending) = decision

end Journal

/-! ## What a step records -/

/-- The step that pushes an accepted submission, in full. -/
theorem submitEnqueue_cases {thread : ThreadId} (h : s.submitEnqueue thread = some s') :
    ∃ pending, s.submits.lookup thread = some (.enqueuing pending) ∧
      s' = { s with
        outboundQueue := s.outboundQueue ++ [pending]
        submits := s.submits.insert thread (.counting pending.requestId) } := by
  rw [submitEnqueue] at h
  split at h
  · rename_i pending hcall
    exact ⟨pending, hcall, (Option.some.inj h).symm⟩
  · exact absurd h (by simp)

/-- **The line and its record.** A step that records nothing new keeps the line or takes its first
intent off; otherwise a call pushes its intent and does nothing else. -/
theorem joins_cases (h : (machine config).step s input = some s') :
    (s.joins input = none ∧
      (s'.waiting = s.waiting ∨ ∃ pending, s.waiting = pending :: s'.waiting) ∧
      ∀ thread pending, s.submits.lookup thread = some (.enqueuing pending) →
        s'.submits.lookup thread = some (.enqueuing pending)) ∨
    (∃ thread pending, s.joins input = some pending ∧
      s.submits.lookup thread = some (.enqueuing pending) ∧
      s'.submits = s.submits.insert thread (.counting pending.requestId) ∧
      s'.waiting = s.waiting ++ [pending] ∧ s'.core = s.core ∧ s'.sink = s.sink ∧
      s'.worker = s.worker ∧ s'.nextRequestId = s.nextRequestId ∧ input.isWorker = false) := by
  cases hjoins : s.joins input with
  | none =>
    refine .inl ⟨rfl, ?_⟩
    obtain ⟨hkept, hcalls⟩ | ⟨thread, pending, rfl, hcall, _⟩ |
      ⟨_, pending, _, hpop, hsubmits, _⟩ := waiting_cases (effect_of_step h)
    · exact ⟨.inl hkept, hcalls⟩
    · rw [joins, hcall] at hjoins
      cases hjoins
    · exact ⟨.inr ⟨pending, hpop⟩, fun _ _ hcall ↦ hsubmits ▸ hcall⟩
  | some joined =>
    cases input with
    | submitEnqueue thread =>
      obtain ⟨pending, hcall, rfl⟩ := submitEnqueue_cases h
      rw [joins, hcall] at hjoins
      obtain rfl := Option.some.inj hjoins
      exact .inr ⟨thread, pending, rfl, hcall, rfl, (List.append_assoc ..).symm, rfl, rfl, rfl, rfl,
        rfl⟩
    | _ => cases hjoins

/-- The intent at the gate is the first of the line. -/
theorem waiting_of_atGlobalGate {pending : PendingIntent}
    (h : s.worker.atGlobalGate = some pending) : ∃ behind, s.waiting = pending :: behind := by
  rw [waiting]
  cases hworker : s.worker with
  | draining batch =>
    rw [hworker] at h
    cases batch with
    | nil => cases h
    | cons first rest =>
      obtain rfl := Option.some.inj h
      exact ⟨rest ++ s.outboundQueue, rfl⟩
  | _ =>
    rw [hworker] at h
    cases h

section Behind

variable {pending : PendingIntent} {behind : List PendingIntent} {p : PendingIntent}

theorem unsettled_of_behind (hwaiting : s.waiting = pending :: behind)
    (h : p ∈ behind ∨ ∃ thread, s.submits.lookup thread = some (.enqueuing p)) :
    s.Unsettled p := by
  refine h.imp_left fun hbehind ↦ ?_
  rw [hwaiting]
  exact List.mem_cons_of_mem _ hbehind

theorem mem_tail_unsettled (hwaiting : s.waiting = pending :: behind)
    (h : p ∈ behind ∨ ∃ thread, s.submits.lookup thread = some (.enqueuing p)) :
    p ∈ s.unsettled.tail := by
  rw [unsettled, hwaiting, List.cons_append, List.tail_cons]
  obtain hbehind | ⟨thread, hcall⟩ := h
  · exact List.mem_append_left _ hbehind
  · exact List.mem_append_right _ (UnorderedMap.mem_collect hcall rfl)

end Behind

/-- A request that is about to be sent leaves the line, whatever becomes of it. -/
theorem step_of_aboutToSend {now : ℕ} {pending : PendingIntent}
    (h : (machine config).step s (.worker now) = some s')
    (hsend : s.worker.aboutToSend = some pending) :
    s.waiting = pending :: s'.waiting ∧ s'.submits = s.submits ∧ s'.core = s.core ∧
      s'.sink = s.sink ∧ s'.worker.inHand = none := by
  cases hworker : s.worker with
  | cleared first rest =>
    rw [hworker] at hsend
    obtain rfl := Option.some.inj hsend
    have hs' : s' = s.sendRequest config first rest := by
      simp only [machine, runWorker, hworker] at h
      exact (Option.some.inj h).symm
    rw [hs', waiting, waiting, hworker, sendRequest]
    split
    · exact ⟨rfl, rfl, rfl, rfl, rfl⟩
    · dsimp only
      split
      · exact ⟨rfl, rfl, rfl, rfl, rfl⟩
      · exact ⟨rfl, rfl, rfl, rfl, rfl⟩
  | _ =>
    rw [hworker] at hsend
    cases hsend

namespace Journal

variable {j j' : Journal Text τ σ} {transport : τ} {sink : σ}
  {ok : Journal Text τ σ → OrderManagerInput → Prop}

theorem step_eq_some (h : (machine config).step j input = some j') :
    (OrderManager.machine config).step j.manager input = some j'.manager ∧
      j'.enqueued = j.enqueued ++ (j.manager.joins input).toList ∧
      j'.handedOver = j.handedOver ++ (j.manager.handsOver config input).toList := by
  obtain ⟨manager, hmanager, rfl⟩ := Option.map_eq_some_iff.mp h
  exact ⟨hmanager, rfl, rfl⟩

theorem reaches_manager (h : (machine config).ReachesVia ok (init config transport sink) j) :
    (OrderManager.machine config).Reaches (OrderManager.init config transport sink) j.manager := by
  induction h with
  | refl => exact .refl
  | tail _ _ hstep ih => exact .tail ih trivial (step_eq_some hstep).1

/-! ## Refusals are owed to earlier orders -/

/-- What the record says about the line and the orders. -/
structure Recorded (j : Journal Text τ σ) : Prop where
  line : ∃ done, j.enqueued = done ++ j.manager.waiting
  nodup : (j.enqueued.map PendingIntent.requestId).Nodup
  lt : ∀ requestId ∈ j.enqueued.map PendingIntent.requestId, requestId < j.manager.nextRequestId
  call : ∀ thread call, j.manager.submits.lookup thread = some call →
    ∀ pending ∈ call.pending, pending.requestId ∉ j.enqueued.map PendingIntent.requestId
  /-- The intent of an order is recorded, or its call is still to push it. -/
  order : ∀ id order, j.manager.core.inFlightOrders.lookup id = some order →
    order.requestId ∈ j.enqueued.map PendingIntent.requestId ∨
      ∃ thread pending, j.manager.submits.lookup thread = some (.enqueuing pending) ∧
        pending.requestId = order.requestId
  named : ∀ id order, j.manager.core.inFlightOrders.lookup id = some order → id ≠ ""

theorem recorded_init : (init config transport sink).Recorded where
  line := ⟨[], rfl⟩
  nodup := List.nodup_nil
  lt _ h := by cases h
  call _ _ h := by cases h
  order _ _ h := by cases h
  named _ _ h := by cases h

namespace Recorded

theorem named_of_effect (hs : j.Recorded) (h : Effect config j.manager input s')
    {id : ClientOrderId} {order' : InFlightOrder}
    (horder' : s'.core.inFlightOrders.lookup id = some order') : id ≠ "" := by
  obtain ⟨order, horder, _⟩ | ⟨_, _, _, _, _, hadmission, hid⟩ := orders_of_effect h horder'
  · exact hs.named id order horder
  · exact hid ▸ (admission_some hadmission).1

theorem of_step (hs : j.Recorded) (hwf : j.manager.WellFormed)
    (h : (machine config).step j input = some j') : j'.Recorded := by
  obtain ⟨hmanager, henqueued, _⟩ := step_eq_some h
  have heffect := effect_of_step hmanager
  obtain ⟨done, hline⟩ := hs.line
  obtain ⟨hjoins, hwaiting, hcalls⟩ |
    ⟨thread, pending, hjoins, hcall, hsubmits, hwaiting, hcore, _, _, hnext, _⟩ :=
      joins_cases hmanager
  · rw [hjoins, Option.toList_none, List.append_nil] at henqueued
    refine ⟨?_, henqueued ▸ hs.nodup, ?_, ?_, ?_, fun _ _ ↦ hs.named_of_effect heffect⟩
    · rw [henqueued, hline]
      obtain hkept | ⟨pending, hpop⟩ := hwaiting
      · exact ⟨done, by rw [hkept]⟩
      · exact ⟨done ++ [pending], by rw [hpop, List.append_assoc]; rfl⟩
    · rw [henqueued]
      exact fun requestId hid ↦ (hs.lt requestId hid).trans_le (nextRequestId_le_of_effect heffect)
    · rw [henqueued]
      intro thread call hcall pending hpending
      obtain ⟨call', hcall', hpending⟩ | ⟨_, hid, _⟩ := pending_of_effect heffect hcall hpending
      · exact hs.call thread call' hcall' pending hpending
      · rw [hid]
        exact fun hmem ↦ lt_irrefl _ (hs.lt _ hmem)
    · rw [henqueued]
      intro id order' horder'
      obtain ⟨order, horder, hmoved⟩ | ⟨thread, pending, _, _, hcall, hadmission, _⟩ :=
        orders_of_effect heffect horder'
      · rw [hmoved.evolves.requestId]
        refine (hs.order id order horder).imp_right ?_
        rintro ⟨thread, pending, hcall, hid⟩
        exact ⟨thread, pending, hcalls thread pending hcall, hid⟩
      · exact .inr ⟨thread, pending, hcall, (admission_some_fields hadmission).2.2.2.1.symm⟩
  · rw [hjoins, Option.toList_some] at henqueued
    have hids : j'.enqueued.map PendingIntent.requestId =
        j.enqueued.map PendingIntent.requestId ++ [pending.requestId] := by
      rw [henqueued, List.map_append]
      rfl
    refine ⟨⟨done, by rw [henqueued, hline, hwaiting, List.append_assoc]⟩, ?_, ?_, ?_, ?_,
      fun _ _ ↦ hs.named_of_effect heffect⟩
    · rw [hids]
      refine List.nodup_append.mpr ⟨hs.nodup, List.nodup_singleton _, ?_⟩
      rintro _ hid _ hnew rfl
      obtain rfl := List.mem_singleton.mp hnew
      exact hs.call thread _ hcall pending rfl hid
    · rw [hids, hnext]
      intro requestId hid
      obtain hid | hid := List.mem_append.mp hid
      · exact hs.lt requestId hid
      · rw [List.mem_singleton.mp hid]
        exact hwf.call_lt thread _ hcall
    · rw [hids, hsubmits]
      intro thread' call' hcall' other hother hid
      by_cases hthread : thread' = thread
      · -- the call that has pushed its intent brings no other
        rw [hthread, AList.lookup_insert] at hcall'
        obtain rfl := Option.some.inj hcall'
        cases hother
      rw [AList.lookup_insert_ne hthread] at hcall'
      obtain hid | hid := List.mem_append.mp hid
      · exact hs.call thread' call' hcall' other hother hid
      · refine hthread (hwf.call_inj _ _ _ _ hcall' hcall ?_)
        rw [SubmitCall.requestId_of_pending hother, List.mem_singleton.mp hid]
        rfl
    · rw [hids, hsubmits, hcore]
      intro id order horder
      obtain hid | ⟨thread', other, hcall', hid⟩ := hs.order id order horder
      · exact .inl (List.mem_append_left _ hid)
      · by_cases hthread : thread' = thread
        · -- the call of this order is the one that pushes its intent
          rw [hthread, hcall] at hcall'
          obtain rfl := SubmitCall.enqueuing.inj (Option.some.inj hcall')
          exact .inl (List.mem_append_right _ (List.mem_singleton.mpr hid.symm))
        · exact .inr ⟨thread', other, (AList.lookup_insert_ne hthread).trans hcall', hid⟩

theorem of_reaches (h : (machine config).ReachesVia ok (init config transport sink) j) :
    j.Recorded :=
  h.invariant recorded_init fun hj hs _ hstep ↦
    hs.of_step (wellFormed_of_reaches (reaches_manager hj)) hstep

/-- Only the intents in front of it were enqueued before the one at the gate. -/
theorem enqueuedBefore_eq (hs : j.Recorded) {pending : PendingIntent} {behind : List PendingIntent}
    (hwaiting : j.manager.waiting = pending :: behind) :
    ∃ done, j.enqueued = done ++ pending :: behind ∧
      j.enqueuedBefore pending = done.map PendingIntent.requestId := by
  obtain ⟨done, hline⟩ := hs.line
  rw [hwaiting] at hline
  refine ⟨done, hline, ?_⟩
  have hnodup := hs.nodup
  rw [hline, List.map_append, List.map_cons] at hnodup
  have hne : ∀ requestId ∈ done.map PendingIntent.requestId, requestId ≠ pending.requestId := by
    rintro _ hid rfl
    exact (List.nodup_append.mp hnodup).2.2 _ hid _ List.mem_cons_self rfl
  rw [enqueuedBefore, hline, List.map_append, List.map_cons,
    List.takeWhile_append_of_pos (by simpa using hne)]
  simp

/-- **Nothing else is counted.** When the worker judges in turn, an order that the gate counts is
that of an intent enqueued before. -/
theorem mem_enqueuedBefore (hs : j.Recorded) (hwf : j.manager.WellFormed)
    (hturn : j.manager.JudgesInTurn input) (hworker : input.isWorker = true)
    {pending : PendingIntent} (hgate : j.manager.worker.atGlobalGate = some pending)
    (hcreates : pending.intent.Creates) {id : ClientOrderId} {order : InFlightOrder}
    (horder : j.manager.core.inFlightOrders.lookup id = some order)
    (hcounted : Counted pending.intent.clientOrderId id order) :
    order.requestId ∈ j.enqueuedBefore pending := by
  obtain ⟨hskip, hlive⟩ := hcounted
  obtain ⟨behind, hwaiting⟩ := waiting_of_atGlobalGate hgate
  obtain ⟨done, hline, hbefore⟩ := hs.enqueuedBefore_eq hwaiting
  have hne : id ≠ pending.intent.clientOrderId := by
    rintro rfl
    exact hskip ⟨hs.named _ order horder, rfl⟩
  -- an order further back would be live, and the worker would not judge in turn
  have hlater : ∀ p, p ∈ behind ∨ (∃ thread, j.manager.submits.lookup thread =
      some (.enqueuing p)) → p.requestId ≠ order.requestId := by
    intro p hp hid
    obtain rfl := (hwf.tracked p (unsettled_of_behind hwaiting hp) id order horder hid.symm).id_eq
    exact hturn hworker pending hgate hcreates p (mem_tail_unsettled hwaiting hp) hne
      ⟨order, horder, hid.symm, hlive⟩
  rw [hbefore]
  obtain hid | ⟨thread, p, hcall, hid⟩ := hs.order id order horder
  · rw [hline, List.map_append, List.map_cons] at hid
    obtain hid | hid := List.mem_append.mp hid
    · exact hid
    · obtain hid | hid := List.mem_cons.mp hid
      · have hunsettled : j.manager.Unsettled pending := .inl (by rw [hwaiting]; simp)
        exact absurd (hwf.tracked pending hunsettled id order horder hid).id_eq hne
      · obtain ⟨p, hp, hid⟩ := List.mem_map.mp hid
        exact absurd hid (hlater p (.inl hp))
  · exact absurd hid (hlater p (.inr ⟨thread, hcall⟩))

theorem snapshotBefore_eq (hs : j.Recorded) (hwf : j.manager.WellFormed)
    (hturn : j.manager.JudgesInTurn input) (hworker : input.isWorker = true)
    {pending : PendingIntent} (hgate : j.manager.worker.atGlobalGate = some pending)
    (hcreates : pending.intent.Creates) :
    j.snapshotBefore pending = j.manager.core.buildRiskSnapshot pending.intent.marketTicker
      pending.intent.clientOrderId := by
  rw [snapshotBefore, buildRiskSnapshot, buildRiskSnapshotWith, List.foldl_filter]
  refine List.foldl_ext _ _ _ fun snapshot entry hentry ↦ ?_
  by_cases hcounted : Counted pending.intent.clientOrderId entry.1 entry.2
  · have hbefore := hs.mem_enqueuedBefore hwf hturn hworker hgate hcreates
      (UnorderedMap.mem_entries_iff.mp hentry) hcounted
    rw [if_pos (decide_eq_true hbefore), addToSnapshot]
  · rw [← addToSnapshot, addToSnapshot_of_not_counted hcounted, ite_self]

end Recorded

/-- What the global gate refuses in turn, it would refuse with the earlier orders alone. -/
theorem refusedByEarlier_of_reaches
    (h : (machine config).ReachesVia ok (init config transport sink) j)
    (hturn : j.manager.JudgesInTurn input) (hworker : input.isWorker = true) :
    j.RefusedByEarlier config := by
  intro pending hgate decision core hrefused
  have hlimits := (riskGates_of_reaches (reaches_manager h)).1
  rw [evaluateGlobalRisk, evaluateGlobalRiskWith] at hrefused
  split at hrefused
  · exact absurd hrefused (by simp)
  · rename_i hnot
    obtain ⟨hdecision, _⟩ := Prod.mk.inj hrefused
    have hcreates := GlobalRiskGate.creates_of_refused (Bool.eq_false_of_not_eq_true hnot)
    rw [(Recorded.of_reaches h).snapshotBefore_eq (wellFormed_of_reaches (reaches_manager h)) hturn
      hworker hgate hcreates, ← hlimits]
    exact Option.some.inj hdecision

end Journal

end OrderManager

end TradingEngine
