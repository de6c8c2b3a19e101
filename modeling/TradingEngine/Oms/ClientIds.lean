import TradingEngine.Oms.RequestTracking

/-!
# Client order ids of the orders under way

A place or replace is accepted only under a client order id that is not tracked, and nothing leaves
the core within a session. So accepted intents that create orders never share a client order id, and
each has an order of its own. As long as the exchange neither rejects nor cancels, the order of an
intent that is not settled yet can still be filled: only the reject of a gate ends an order, and it
ends the order of the intent that the gate has refused.

The results are about sessions in which every intent creates an order.
-/

namespace TradingEngine

open OrderManagerCore

namespace OrderManager

variable {Text τ σ : Type*} {config : OrderManagerConfig Text τ σ} {s s' : OrderManager Text τ σ}
  {input : OrderManagerInput}

/-- The order under this client order id takes a complete fill. -/
def Fillable (s : OrderManager Text τ σ) (id : ClientOrderId) : Prop :=
  ∃ order, s.core.inFlightOrders.lookup id = some order ∧
    canTransition order.status .filled = true

/-- No unsettled intent has this client order id. -/
def Free (s : OrderManager Text τ σ) (id : ClientOrderId) : Prop :=
  ∀ pending, s.Unsettled pending → pending.intent.clientOrderId ≠ id

/-- What the transport delivers next is neither a reject nor a cancel. -/
def DeliversProgress (config : OrderManagerConfig Text τ σ) (s : OrderManager Text τ σ) : Prop :=
  ∀ payload update, (config.transport.recvText s.transport).1 = some payload →
    config.adapter.parseUpdate payload = .ok update →
    update.status = .accepted ∨ update.status = .filled

/-! ## One order -/

/-- An update moves the order it is matched with and keeps the others. -/
theorem Handled.lookup {now : ℕ} {update : OrderStateUpdate} {core : OrderManagerCore} {sink : σ}
    {log : List (LogEntry Text)} (h : Handled config s now update core sink log)
    {id : ClientOrderId} {order : InFlightOrder}
    (horder : s.core.inFlightOrders.lookup id = some order) :
    ∃ order', core.inFlightOrders.lookup id = some order' ∧
      (order' = order ∨ ∃ next, toInFlightStatus update.status = some next ∧
        s.core.matchOrder update = some (id, order) ∧ canTransition order.status next = true ∧
        order'.status = next) := by
  cases h with
  | dropped hcore _ => exact ⟨order, hcore.inFlightOrders ▸ horder, .inl rfl⟩
  | @applied next key matched hstatus hmatch hcan hcore =>
    rw [hcore.inFlightOrders, lookup_applyTransition]
    split
    · rename_i hid
      obtain rfl := Option.some.inj (horder.symm.trans (hid ▸ matchOrder_lookup hmatch))
      exact ⟨_, rfl, .inr ⟨next, hstatus, hid ▸ hmatch, hcan, transitionOrder_status ..⟩⟩
    · exact ⟨order, horder, .inl rfl⟩

/-- An order that can be filled stays so, unless a gate refuses the intent with its id. -/
theorem fillable_of_effect (hstart : input = .start → s.worker ≠ .notJoinable)
    (hprogress : s.DeliversProgress config) (h : Effect config s input s') {id : ClientOrderId}
    (hrefused : ∀ pending, s.waiting = pending :: s'.waiting → s'.submits = s.submits →
      pending.intent.clientOrderId ≠ id)
    (hs : s.Fillable id) : s'.Fillable id := by
  obtain ⟨order, horder, hcan⟩ := hs
  cases h with
  | restarted hstopped _ => exact absurd hstopped (hstart rfl)
  | refused _ hcore => exact ⟨order, hcore.inFlightOrders ▸ horder, hcan⟩
  | @accepted thread pending tracked _ hadmission =>
    refine ⟨order, ?_, hcan⟩
    cases tracked with
    | none => exact horder
    | some new =>
      -- the new order has an id of its own
      obtain ⟨_, hid, hfresh, _⟩ := admission_some_fields hadmission
      have hne : id ≠ new.clientOrderId := by
        rintro rfl
        rw [hid, hfresh] at horder
        exact absurd horder (by simp)
      exact (AList.lookup_insert_ne hne).trans horder
  | @rejected now pending rest _ _ _ _ _ _ _ hworker hhandled =>
    obtain ⟨order', horder', rfl | ⟨_, _, hmatch, _⟩⟩ := hhandled.lookup horder
    · exact ⟨order', horder', hcan⟩
    · have hpop : s.waiting = pending :: (rest ++ s.outboundQueue) := by
        obtain ⟨hworker, _⟩ | ⟨hworker, _⟩ := hworker
        · rw [waiting, hworker]
          rfl
        · rw [waiting, hworker]
          rfl
      exact absurd (matchOrder_key rfl hmatch).symm (hrefused pending hpop rfl)
  | received _ hrecv hparse hhandled =>
    obtain ⟨order', horder', rfl | ⟨next, hnext, _, _, hstatus⟩⟩ := hhandled.lookup horder
    · exact ⟨order', horder', hcan⟩
    · refine ⟨order', horder', ?_⟩
      rw [hstatus]
      obtain haccepted | hfilled := hprogress _ _ hrecv hparse
      · rw [haccepted] at hnext
        obtain rfl := Option.some.inj hnext
        rfl
      · rw [hfilled] at hnext
        obtain rfl := Option.some.inj hnext
        rfl
  | _ => exact ⟨order, horder, hcan⟩

/-! ## All orders under way -/

/-- The accepted intents have client order ids of their own, and orders that can be filled. -/
structure OwnOrders (s : OrderManager Text τ σ) : Prop where
  fillable : ∀ pending, s.Unsettled pending → s.Fillable pending.intent.clientOrderId
  line : (s.waiting.map fun pending ↦ pending.intent.clientOrderId).Nodup
  /-- A call that is about to join the line has an id that is not in the line, -/
  apart : ∀ thread pending, s.submits.lookup thread = some (.enqueuing pending) →
    ∀ other ∈ s.waiting, other.intent.clientOrderId ≠ pending.intent.clientOrderId
  /-- nor among the other calls. -/
  call_inj : ∀ thread thread' pending pending',
    s.submits.lookup thread = some (.enqueuing pending) →
    s.submits.lookup thread' = some (.enqueuing pending') →
    pending.intent.clientOrderId = pending'.intent.clientOrderId → thread = thread'

theorem ownOrders_init (transport : τ) (sink : σ) : (init config transport sink).OwnOrders where
  fillable pending h := by
    obtain h | ⟨thread, h⟩ := h <;> cases h
  line := List.nodup_nil
  apart thread pending h := by cases h
  call_inj thread thread' pending pending' h := by cases h

/-- Once an intent has left the line, nothing under way shares its id. -/
theorem OwnOrders.free_of_pop (hs : s.OwnOrders) {pending : PendingIntent}
    (hpop : s.waiting = pending :: s'.waiting) (hsubmits : s'.submits = s.submits) :
    s'.Free pending.intent.clientOrderId := by
  have hline := hs.line
  rw [hpop, List.map_cons, List.nodup_cons] at hline
  rintro other (hwaiting | ⟨thread, hcall⟩) hid
  · exact hline.1 (List.mem_map.mpr ⟨other, hwaiting, hid⟩)
  · rw [hsubmits] at hcall
    exact hs.apart thread other hcall pending (hpop ▸ List.mem_cons_self) hid.symm

/-- What is accepted has an id that no tracked order has. -/
theorem ne_of_admission {requestId : ℕ} {intent : OrderIntent} {tracked : Option InFlightOrder}
    (hadmission : s.core.admission requestId intent = .ok tracked) (hcreates : intent.Creates)
    {id : ClientOrderId} (htracked : s.Fillable id) : id ≠ intent.clientOrderId := by
  rintro rfl
  obtain ⟨order, rfl, _⟩ := admission_of_creates hadmission hcreates
  obtain ⟨_, _, hfresh, _⟩ := admission_some_fields hadmission
  obtain ⟨order', horder', _⟩ := htracked
  rw [horder'] at hfresh
  exact absurd hfresh (by simp)

/-- An id that is tracked and free stays free. -/
theorem free_of_effect (h : Effect config s input s') (hcreates : s'.Intends OrderIntent.Creates)
    {id : ClientOrderId} (htracked : s.Fillable id) (hfree : s.Free id) : s'.Free id := by
  intro pending hunsettled hid
  obtain hold | ⟨thread, tracked, _, _, hadmission, _⟩ := unsettled_of_effect h hunsettled
  · exact hfree pending hold hid
  · exact ne_of_admission hadmission (hcreates.unsettled pending hunsettled) htracked hid.symm

namespace OwnOrders

variable (hs : s.OwnOrders) (h : Effect config s input s')
  (hcreates : s'.Intends OrderIntent.Creates)

include hs h

theorem line_of_effect :
    (s'.waiting.map fun pending ↦ pending.intent.clientOrderId).Nodup := by
  obtain ⟨hkept, _⟩ | ⟨thread, pending, _, hcall, _, hpush, _⟩ | ⟨_, pending, _, hpop, _⟩ :=
    waiting_cases h
  · rw [hkept]
    exact hs.line
  · rw [hpush, List.map_append, List.nodup_append]
    refine ⟨hs.line, List.nodup_singleton _, ?_⟩
    rintro id hid _ hnew
    obtain ⟨other, hother, rfl⟩ := List.mem_map.mp hid
    obtain rfl := List.mem_singleton.mp hnew
    exact hs.apart thread pending hcall other hother
  · have hline := hs.line
    rw [hpop, List.map_cons, List.nodup_cons] at hline
    exact hline.2

include hcreates

/-- An accepted call was so before, or has an id that no unsettled intent had. -/
theorem call_of_effect {thread : ThreadId} {pending : PendingIntent}
    (hcall : s'.submits.lookup thread = some (.enqueuing pending)) :
    s.submits.lookup thread = some (.enqueuing pending) ∨
    input = .submitTrack thread ∧ s.Free pending.intent.clientOrderId := by
  obtain hold | ⟨_, _, _, _, hnew, _⟩ | ⟨_, tracked, hinput, _, hadmission, _, hnew⟩ |
    ⟨_, _, _, hnew⟩ := submits_of_effect h hcall
  · exact .inl hold
  · exact absurd hnew (by simp)
  · obtain rfl := SubmitCall.enqueuing.inj hnew
    refine .inr ⟨hinput, fun other hother ↦ ?_⟩
    have hcreated := hcreates.call thread _ hcall pending rfl
    exact ne_of_admission hadmission hcreated (hs.fillable other hother)
  · exact absurd hnew (by simp)

theorem apart_of_effect {thread : ThreadId} {pending : PendingIntent}
    (hcall : s'.submits.lookup thread = some (.enqueuing pending)) {other : PendingIntent}
    (hother : other ∈ s'.waiting) :
    other.intent.clientOrderId ≠ pending.intent.clientOrderId := by
  obtain hold | ⟨_, hfree⟩ := hs.call_of_effect h hcreates hcall
  · obtain hwaiting | ⟨thread', hcall', hdone⟩ := waiting_of_effect h hother
    · exact hs.apart thread pending hold other hwaiting
    · -- the other has just joined the line, and was a call of another thread before
      intro hid
      obtain rfl := hs.call_inj thread' thread other pending hcall' hold hid
      exact absurd (hdone.symm.trans hcall) (by simp)
  · obtain hwaiting | ⟨thread', hcall', _⟩ := waiting_of_effect h hother
    · exact hfree other (.inl hwaiting)
    · exact hfree other (.inr ⟨thread', hcall'⟩)

theorem call_inj_of_effect {thread thread' : ThreadId} {pending pending' : PendingIntent}
    (hcall : s'.submits.lookup thread = some (.enqueuing pending))
    (hcall' : s'.submits.lookup thread' = some (.enqueuing pending'))
    (hid : pending.intent.clientOrderId = pending'.intent.clientOrderId) : thread = thread' := by
  obtain hold | ⟨hinput, hfree⟩ := hs.call_of_effect h hcreates hcall
  · obtain hold' | ⟨_, hfree'⟩ := hs.call_of_effect h hcreates hcall'
    · exact hs.call_inj thread thread' pending pending' hold hold' hid
    · exact absurd hid (hfree' pending (.inr ⟨thread, hold⟩))
  · obtain hold' | ⟨hinput', _⟩ := hs.call_of_effect h hcreates hcall'
    · exact absurd hid.symm (hfree pending' (.inr ⟨thread', hold'⟩))
    · exact OrderManagerInput.submitTrack.inj (hinput.symm.trans hinput')

theorem fillable_of_unsettled (hok : s.RestartsSettled input)
    (hprogress : s.DeliversProgress config) {pending : PendingIntent}
    (hunsettled : s'.Unsettled pending) : s'.Fillable pending.intent.clientOrderId := by
  have hcreated := hcreates.unsettled pending hunsettled
  obtain hold | ⟨_, tracked, _, _, hadmission, hcore⟩ := unsettled_of_effect h hunsettled
  · refine fillable_of_effect (fun hinput hstopped ↦ ?_) hprogress h ?_ (hs.fillable pending hold)
    · exact hok hinput hstopped pending (mem_unsettled hold) hcreated
    · intro other hpop hsubmits
      exact (hs.free_of_pop hpop hsubmits pending hunsettled).symm
  · obtain ⟨order, rfl, hid⟩ := admission_of_creates hadmission hcreated
    refine ⟨order, ?_, ?_⟩
    · rw [hcore, ← hid]
      exact AList.lookup_insert _
    · rw [(admission_some_fields hadmission).2.2.2.2.1]
      rfl

/-- **Accepted intents have orders of their own**, from one state to the next. -/
theorem of_effect (hok : s.RestartsSettled input) (hprogress : s.DeliversProgress config) :
    s'.OwnOrders where
  fillable _ := hs.fillable_of_unsettled h hcreates hok hprogress
  line := hs.line_of_effect h
  apart _ _ hcall _ := hs.apart_of_effect h hcreates hcall
  call_inj _ _ _ _ := hs.call_inj_of_effect h hcreates

end OwnOrders

end OrderManager

end TradingEngine
