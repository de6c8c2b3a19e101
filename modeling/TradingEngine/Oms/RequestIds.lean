import TradingEngine.Oms.OrderLifecycle
import TradingEngine.Oms.OrderManagerSteps

/-!
# Request ids

A request id is drawn once and never given back, not even across a restart. So it names one
submission through its whole life: the call in progress, the queued intent, the tracked order and
the entries of the history.

Three lemmas read `Effect` backwards and say where the parts of a state come from:
`submits_of_effect` for the calls in progress, `unsettled_of_effect` for the accepted intents that
are not settled yet, and `orders_of_effect` for the tracked orders. The invariant `WellFormed`
follows from them, and so do most invariants of the order manager.
-/

namespace TradingEngine

open OrderManagerCore

/-- `order'` is `order`, or `order` after one transition. -/
def InFlightOrder.Moved (order order' : InFlightOrder) : Prop :=
  order' = order ∨ ∃ next now update, toInFlightStatus update.status = some next ∧
    canTransition order.status next = true ∧ order' = transitionOrder order next now update

namespace InFlightOrder.Moved

variable {order order' : InFlightOrder}

theorem evolves (h : order.Moved order') : order.Evolves order' := by
  obtain rfl | ⟨next, now, update, hstatus, hcan, rfl⟩ := h
  · exact .refl order'
  · exact .transition hstatus hcan

theorem outstandingQty_le (h : order.Moved order') :
    outstandingQty order' ≤ outstandingQty order := by
  obtain rfl | ⟨next, now, update, _, _, rfl⟩ := h
  · exact le_rfl
  · exact outstandingQty_transitionOrder_le ..

end InFlightOrder.Moved

/-- According to the history the transport has taken the request. -/
def SentIn {Text : Type*} (log : List (LogEntry Text)) (requestId : ℕ) : Prop :=
  ∃ entry ∈ log, entry.sentId = some requestId

instance {Text : Type*} (log : List (LogEntry Text)) (requestId : ℕ) :
    Decidable (SentIn log requestId) :=
  inferInstanceAs (Decidable (∃ entry ∈ log, _))

theorem sentIn_cons {Text : Type*} {log : List (LogEntry Text)} {entry : LogEntry Text}
    {requestId : ℕ} :
    SentIn (entry :: log) requestId ↔ entry.sentId = some requestId ∨ SentIn log requestId := by
  simp only [SentIn, List.mem_cons, exists_eq_or_imp]

namespace OrderManager

variable {Text τ σ : Type*} {config : OrderManagerConfig Text τ σ} {s s' : OrderManager Text τ σ}
  {input : OrderManagerInput}

/-! ## Vocabulary -/

/-- The intent is accepted and neither sent nor dropped yet. -/
def Unsettled (s : OrderManager Text τ σ) (pending : PendingIntent) : Prop :=
  pending ∈ s.waiting ∨ ∃ thread, s.submits.lookup thread = some (.enqueuing pending)

/-- The intent in hand is unsettled. -/
theorem unsettled_of_cleared {pending : PendingIntent} {rest : List PendingIntent}
    (hworker : s.worker = .cleared pending rest) : s.Unsettled pending := by
  refine .inl ?_
  rw [waiting, hworker]
  exact List.mem_cons_self

/-- The transport has taken the request. -/
def Sent (s : OrderManager Text τ σ) (requestId : ℕ) : Prop := SentIn s.log requestId

instance (s : OrderManager Text τ σ) (requestId : ℕ) : Decidable (s.Sent requestId) :=
  inferInstanceAs (Decidable (SentIn _ _))

/-- The request id occurs among the waiting intents, the orders or in the history. -/
def Mentions (s : OrderManager Text τ σ) (requestId : ℕ) : Prop :=
  (∃ pending ∈ s.waiting, pending.requestId = requestId) ∨
  (∃ id order, s.core.inFlightOrders.lookup id = some order ∧ order.requestId = requestId) ∨
  ∃ entry ∈ s.log, entry.requestId = requestId

theorem mentions_of_sent {requestId : ℕ} (h : s.Sent requestId) : s.Mentions requestId := by
  obtain ⟨entry, hentry, hid⟩ := h
  refine .inr (.inr ⟨entry, hentry, ?_⟩)
  cases entry with
  | sent _ _ => exact Option.some.inj hid
  | accepted _ _ | applied _ _ => cases hid

/-! ## Where things come from -/

/-- A call in progress was there before, has just drawn its id, has just been accepted, or has just
joined the queue. -/
theorem submits_of_effect (h : Effect config s input s') {thread : ThreadId} {call : SubmitCall}
    (hcall : s'.submits.lookup thread = some call) :
    s.submits.lookup thread = some call ∨
    (∃ intent now, input = .submitBegin thread intent now ∧ s.submits.lookup thread = none ∧
      call = .validating ⟨s.nextRequestId, stampIntent intent now⟩ ∧
      s'.nextRequestId = s.nextRequestId + 1) ∨
    (∃ pending tracked, input = .submitTrack thread ∧
      s.submits.lookup thread = some (.validating pending) ∧
      s.core.admission pending.requestId pending.intent = .ok tracked ∧
      s'.core = tracked.elim s.core s.core.track ∧ call = .enqueuing pending) ∨
    (∃ pending, input = .submitEnqueue thread ∧
      s.submits.lookup thread = some (.enqueuing pending) ∧
      call = .counting pending.requestId) := by
  cases h with
  | @began t intent now hsupports hfree =>
    by_cases hthread : thread = t
    · subst hthread
      rw [AList.lookup_insert] at hcall
      exact .inr (.inl ⟨intent, now, rfl, hfree, (Option.some.inj hcall).symm, rfl⟩)
    · rw [AList.lookup_insert_ne hthread] at hcall
      exact .inl hcall
  | @accepted t pending tracked hprev hadmission =>
    by_cases hthread : thread = t
    · subst hthread
      rw [AList.lookup_insert] at hcall
      exact .inr (.inr (.inl ⟨pending, tracked, rfl, hprev, hadmission, rfl,
        (Option.some.inj hcall).symm⟩))
    · rw [AList.lookup_insert_ne hthread] at hcall
      exact .inl hcall
  | @enqueued t pending hprev =>
    by_cases hthread : thread = t
    · subst hthread
      rw [AList.lookup_insert] at hcall
      exact .inr (.inr (.inr ⟨pending, rfl, hprev, (Option.some.inj hcall).symm⟩))
    · rw [AList.lookup_insert_ne hthread] at hcall
      exact .inl hcall
  | refused _ _ => exact .inl (UnorderedMap.lookup_of_lookup_erase hcall).2
  | counted _ => exact .inl (UnorderedMap.lookup_of_lookup_erase hcall).2
  | _ => exact .inl hcall

/-- How the worker is done with the intent in hand. -/
inductive Settles (config : OrderManagerConfig Text τ σ) (s s' : OrderManager Text τ σ)
    (pending : PendingIntent) : Prop
  /-- A gate has refused it. -/
  | rejected {now : ℕ} {rest : List PendingIntent} {reasonCode reasonMessage : String}
      (hrefused : s.worker = .draining (pending :: rest) ∧ s.globalAllows pending = false ∨
        s.worker = .gated pending rest ∧ s.portfolioAllows config pending = false)
      (hhandled : Handled config s now
        (makeRiskRejectUpdate pending.intent reasonCode reasonMessage now) s'.core s'.sink s'.log)
  /-- It is sent. -/
  | sent {rest : List PendingIntent} {payload : Text} (hworker : s.worker = .cleared pending rest)
      (hbuild : config.adapter.buildRequest pending.intent = .ok payload)
      (hcore : s'.core = s.core) (hlog : s'.log = .sent pending.requestId payload :: s.log)
  /-- It could not be. -/
  | unsent {rest : List PendingIntent} (hworker : s.worker = .cleared pending rest)
      (hfailed : s.sends config pending = false)
      (hcore : s'.core = s.core) (hlog : s'.log = s.log)

/-- **The line of waiting intents.** It stays as it is, an accepted call joins it at the end, or
the worker settles the first of the line. -/
theorem waiting_cases (h : Effect config s input s') :
    (s'.waiting = s.waiting ∧ ∀ thread pending,
      s.submits.lookup thread = some (.enqueuing pending) →
      s'.submits.lookup thread = some (.enqueuing pending)) ∨
    (∃ thread pending, input = .submitEnqueue thread ∧
      s.submits.lookup thread = some (.enqueuing pending) ∧
      s'.submits = s.submits.insert thread (.counting pending.requestId) ∧
      s'.waiting = s.waiting ++ [pending] ∧
      s'.core = s.core ∧ s'.log = s.log) ∨
    (∃ now pending, input = .worker now ∧ s.waiting = pending :: s'.waiting ∧
      s'.submits = s.submits ∧ Settles config s s' pending) := by
  have hkeep : ∀ {worker : Worker}, worker.batch = s.worker.batch →
      worker.batch ++ s.outboundQueue = s.waiting := by
    intro worker hbatch
    rw [hbatch, waiting]
  -- a step that writes the call of one thread does not write over an accepted one
  have hne : ∀ {thread thread' : ThreadId} {pending : PendingIntent} {call : Option SubmitCall},
      s.submits.lookup thread = call → (∀ p, call ≠ some (.enqueuing p)) →
      s.submits.lookup thread' = some (.enqueuing pending) → thread' ≠ thread := by
    rintro thread thread' pending call hcall hnot hcall' rfl
    exact hnot pending (hcall.symm.trans hcall')
  cases h with
  | quiet hworker _ =>
    refine .inl ⟨?_, fun _ _ hcall ↦ hcall⟩
    obtain rfl | ⟨hbatch, _⟩ := hworker
    · rfl
    · exact hkeep hbatch
  | unheard hworker _ => exact .inl ⟨hkeep (by rw [hworker]; rfl), fun _ _ hcall ↦ hcall⟩
  | restarted hstopped hworker =>
    refine .inl ⟨hkeep ?_, fun _ _ hcall ↦ hcall⟩
    rw [hstopped]
    obtain rfl | rfl := hworker
    · rfl
    · rfl
  | began _ hfree =>
    refine .inl ⟨rfl, fun thread pending hcall ↦ ?_⟩
    exact (AList.lookup_insert_ne (hne hfree (by simp) hcall)).trans hcall
  | refused hprev _ =>
    refine .inl ⟨rfl, fun thread pending hcall ↦ ?_⟩
    exact (AList.lookup_erase_ne (hne hprev (by simp) hcall)).trans hcall
  | accepted hprev _ =>
    refine .inl ⟨rfl, fun thread pending hcall ↦ ?_⟩
    exact (AList.lookup_insert_ne (hne hprev (by simp) hcall)).trans hcall
  | @enqueued thread pending hcall =>
    exact .inr (.inl ⟨thread, pending, rfl, hcall, rfl, (List.append_assoc ..).symm, rfl, rfl⟩)
  | counted hprev =>
    refine .inl ⟨rfl, fun thread pending hcall ↦ ?_⟩
    exact (AList.lookup_erase_ne (hne hprev (by simp) hcall)).trans hcall
  | polled hworker =>
    refine .inl ⟨?_, fun _ _ hcall ↦ hcall⟩
    rw [waiting, waiting, hworker]
    exact List.append_nil _
  | gated hworker _ => exact .inl ⟨hkeep (by rw [hworker]; rfl), fun _ _ hcall ↦ hcall⟩
  | cleared hworker _ => exact .inl ⟨hkeep (by rw [hworker]; rfl), fun _ _ hcall ↦ hcall⟩
  | @rejected now pending _ _ _ _ _ _ _ _ hrefused hhandled =>
    refine .inr (.inr ⟨now, pending, rfl, ?_, rfl, .rejected hrefused hhandled⟩)
    obtain ⟨hworker, _⟩ | ⟨hworker, _⟩ := hrefused
    · rw [waiting, hworker]
      rfl
    · rw [waiting, hworker]
      rfl
  | @sent now pending _ _ _ hworker hbuild _ =>
    refine .inr (.inr ⟨now, pending, rfl, ?_, rfl, .sent hworker hbuild rfl rfl⟩)
    rw [waiting, hworker]
    rfl
  | @unsent now pending _ _ _ _ hworker hfailed _ =>
    refine .inr (.inr ⟨now, pending, rfl, ?_, rfl, .unsent hworker hfailed rfl rfl⟩)
    rw [waiting, hworker]
    rfl
  | received hworker _ _ _ => exact .inl ⟨hkeep (by rw [hworker]; rfl), fun _ _ hcall ↦ hcall⟩

/-- What waits was waiting before or has just been enqueued. -/
theorem waiting_of_effect (h : Effect config s input s') {pending : PendingIntent}
    (hwaiting : pending ∈ s'.waiting) :
    pending ∈ s.waiting ∨
      ∃ thread, s.submits.lookup thread = some (.enqueuing pending) ∧
        s'.submits.lookup thread = some (.counting pending.requestId) := by
  obtain ⟨hkept, _⟩ | ⟨thread, p, _, hcall, hsubmits, hpush, _⟩ | ⟨_, p, _, hpop, _⟩ :=
    waiting_cases h
  · exact .inl (hkept ▸ hwaiting)
  · rw [hpush] at hwaiting
    obtain hold | hnew := List.mem_append.mp hwaiting
    · exact .inl hold
    · obtain rfl := List.mem_singleton.mp hnew
      exact .inr ⟨thread, hcall, by rw [hsubmits]; exact AList.lookup_insert _⟩
  · rw [hpop]
    exact .inl (List.mem_cons_of_mem _ hwaiting)

/-- An unsettled intent stays so until the worker settles it. -/
theorem unsettled_forward (h : Effect config s input s') {pending : PendingIntent}
    (hunsettled : s.Unsettled pending) :
    s'.Unsettled pending ∨ ∃ now, input = .worker now ∧ Settles config s s' pending := by
  obtain ⟨hkept, hcalls⟩ | ⟨thread, p, _, hcall, hsubmits, hpush, _⟩ |
    ⟨now, p, hinput, hpop, hsubmits, hsettles⟩ := waiting_cases h
  · refine .inl ?_
    obtain hwaiting | ⟨thread, hcall⟩ := hunsettled
    · exact .inl (hkept.symm ▸ hwaiting)
    · exact .inr ⟨thread, hcalls _ _ hcall⟩
  · refine .inl ?_
    obtain hwaiting | ⟨thread', hcall'⟩ := hunsettled
    · exact .inl (hpush ▸ List.mem_append_left _ hwaiting)
    · by_cases hthread : thread' = thread
      · rw [hthread, hcall] at hcall'
        obtain rfl := SubmitCall.enqueuing.inj (Option.some.inj hcall')
        exact .inl (hpush ▸ List.mem_append_right _ List.mem_cons_self)
      · exact .inr ⟨thread', by rw [hsubmits, AList.lookup_insert_ne hthread]; exact hcall'⟩
  · obtain hwaiting | ⟨thread, hcall⟩ := hunsettled
    · rw [hpop] at hwaiting
      obtain rfl | hwaiting := List.mem_cons.mp hwaiting
      · exact .inr ⟨now, hinput, hsettles⟩
      · exact .inl (.inl hwaiting)
    · exact .inl (.inr ⟨thread, hsubmits ▸ hcall⟩)

/-- What is unsettled was so before or has just been accepted. -/
theorem unsettled_of_effect (h : Effect config s input s') {pending : PendingIntent}
    (hunsettled : s'.Unsettled pending) :
    s.Unsettled pending ∨ ∃ thread tracked, input = .submitTrack thread ∧
      s.submits.lookup thread = some (.validating pending) ∧
      s.core.admission pending.requestId pending.intent = .ok tracked ∧
      s'.core = tracked.elim s.core s.core.track := by
  obtain hwaiting | ⟨thread, hcall⟩ := hunsettled
  · obtain hwaiting | ⟨thread, hcall, _⟩ := waiting_of_effect h hwaiting
    · exact .inl (.inl hwaiting)
    · exact .inl (.inr ⟨thread, hcall⟩)
  · obtain hcall | ⟨_, _, _, _, hcall, _⟩ | ⟨_, tracked, hinput, hprev, hadmission, hcore, hcall⟩ |
      ⟨_, _, _, hcall⟩ := submits_of_effect h hcall
    · exact .inl (.inr ⟨thread, hcall⟩)
    · exact absurd hcall (by simp)
    · obtain rfl := SubmitCall.enqueuing.inj hcall
      exact .inr ⟨thread, tracked, hinput, hprev, hadmission, hcore⟩
    · exact absurd hcall (by simp)

/-- Every intent that is under way, validated or not, satisfies `P`. -/
structure Intends (P : OrderIntent → Prop) (s : OrderManager Text τ σ) : Prop where
  call : ∀ thread call, s.submits.lookup thread = some call →
    ∀ pending ∈ call.pending, P pending.intent
  unsettled : ∀ pending, s.Unsettled pending → P pending.intent

theorem intends_init (P : OrderIntent → Prop) (transport : τ) (sink : σ) :
    (init config transport sink).Intends P where
  call thread call hcall := by cases hcall
  unsettled pending h := by
    obtain hwaiting | ⟨thread, hcall⟩ := h
    · cases hwaiting
    · cases hcall

/-- What holds of every intent that is submitted, whatever its time stamp, holds of every intent
under way. -/
theorem Intends.of_effect {P : OrderIntent → Prop}
    (hstamp : ∀ intent now, P intent → P { intent with intentTsNs := now }) (hs : s.Intends P)
    (hsubmitted : ∀ intent ∈ input.submitted, P intent) (h : Effect config s input s') :
    s'.Intends P where
  call thread call hcall pending hpending := by
    obtain hold | ⟨intent, now, rfl, _, rfl, _⟩ | ⟨_, _, _, hold, _, _, rfl⟩ | ⟨_, _, _, rfl⟩ :=
      submits_of_effect h hcall
    · exact hs.call thread call hold pending hpending
    · have hintent := hsubmitted intent rfl
      obtain rfl := Option.some.inj hpending
      dsimp only
      rw [stampIntent]
      split
      · exact hstamp intent now hintent
      · exact hintent
    · exact hs.call thread _ hold pending hpending
    · cases hpending
  unsettled pending hunsettled := by
    obtain hold | ⟨thread, _, _, hcall, _⟩ := unsettled_of_effect h hunsettled
    · exact hs.unsettled pending hold
    · exact hs.call thread _ hcall pending rfl

/-- A tracked order was tracked before, or has just been accepted. -/
theorem orders_of_effect (h : Effect config s input s') {id : ClientOrderId}
    {order' : InFlightOrder} (hlookup : s'.core.inFlightOrders.lookup id = some order') :
    (∃ order, s.core.inFlightOrders.lookup id = some order ∧ order.Moved order') ∨
    ∃ thread pending, input = .submitTrack thread ∧
      s.submits.lookup thread = some (.validating pending) ∧
      s'.submits.lookup thread = some (.enqueuing pending) ∧
      s.core.admission pending.requestId pending.intent = .ok (some order') ∧
      id = pending.intent.clientOrderId := by
  have hmoved : ∀ {now update core sink log}, Handled config s now update core sink log →
      core.inFlightOrders.lookup id = some order' →
      ∃ order, s.core.inFlightOrders.lookup id = some order ∧ order.Moved order' := by
    intro now update core sink log hhandled hlookup
    obtain ⟨order, horder, rfl | ⟨next, hstatus, _, hcan, rfl⟩⟩ := hhandled.origin hlookup
    · exact ⟨order', horder, .inl rfl⟩
    · exact ⟨order, horder, .inr ⟨next, now, update, hstatus, hcan, rfl⟩⟩
  cases h with
  | restarted _ _ => cases hlookup
  | refused _ hcore =>
    rw [hcore.inFlightOrders] at hlookup
    exact .inl ⟨order', hlookup, .inl rfl⟩
  | @accepted thread pending tracked hcall hadmission =>
    obtain hold | ⟨rfl, hnew⟩ := lookup_of_tracked hlookup
    · exact .inl ⟨order', hold, .inl rfl⟩
    · obtain ⟨_, hid, _⟩ := admission_some_fields hadmission
      exact .inr ⟨thread, pending, rfl, hcall, AList.lookup_insert _, hadmission, hnew.trans hid⟩
  | rejected _ hhandled => exact .inl (hmoved hhandled hlookup)
  | received _ _ _ hhandled => exact .inl (hmoved hhandled hlookup)
  | _ => exact .inl ⟨order', hlookup, .inl rfl⟩

/-- Orders stay tracked, except across a restart. -/
theorem core_evolves_of_effect (h : Effect config s input s') :
    s.core.Evolves s'.core ∨ (input = .start ∧ s.worker = .notJoinable) := by
  have hhandled : ∀ {now update core sink log}, Handled config s now update core sink log →
      s.core.Evolves core := by
    intro now update core sink log hhandled
    cases hhandled with
    | dropped hcore _ => exact .of_inFlightOrders_eq hcore.inFlightOrders
    | applied hstatus hmatch hcan hcore =>
      exact (evolves_applyTransition hstatus (matchOrder_lookup hmatch) hcan).trans
        (.of_inFlightOrders_eq hcore.inFlightOrders)
  cases h with
  | restarted hstopped _ => exact .inr ⟨rfl, hstopped⟩
  | refused _ hcore => exact .inl (.of_inFlightOrders_eq hcore.inFlightOrders)
  | @accepted thread pending tracked hcall hadmission =>
    refine .inl ?_
    cases tracked with
    | none => exact .of_inFlightOrders_eq rfl
    | some order =>
      obtain ⟨_, hid, hfresh, _⟩ := admission_some_fields hadmission
      exact evolves_track (hid ▸ hfresh)
  | rejected _ h => exact .inl (hhandled h)
  | received _ _ _ h => exact .inl (hhandled h)
  | _ => exact .inl (.of_inFlightOrders_eq rfl)

/-- The limits of the gates never change. -/
theorem riskGates_of_effect (h : Effect config s input s') :
    s'.core.globalRiskGate = s.core.globalRiskGate ∧
      s'.core.portfolioRiskGate = s.core.portfolioRiskGate := by
  have hhandled : ∀ {now update core sink log}, Handled config s now update core sink log →
      core.globalRiskGate = s.core.globalRiskGate ∧
        core.portfolioRiskGate = s.core.portfolioRiskGate := by
    intro now update core sink log hhandled
    cases hhandled with
    | dropped hcore _ => exact ⟨hcore.globalRiskGate, hcore.portfolioRiskGate⟩
    | applied _ _ _ hcore => exact ⟨hcore.globalRiskGate, hcore.portfolioRiskGate⟩
  cases h with
  | refused _ hcore => exact ⟨hcore.globalRiskGate, hcore.portfolioRiskGate⟩
  | @accepted _ _ tracked _ _ => cases tracked <;> exact ⟨rfl, rfl⟩
  | rejected _ h => exact hhandled h
  | received _ _ _ h => exact hhandled h
  | _ => exact ⟨rfl, rfl⟩

/-- **The history.** A step adds at most one entry: an accepted call, the first of the line being
sent, or an update of a tracked order. -/
theorem log_cases (h : Effect config s input s') :
    s'.log = s.log ∨
    (∃ thread pending, s.submits.lookup thread = some (.validating pending) ∧
      s'.submits.lookup thread = some (.enqueuing pending) ∧
      s'.log = .accepted pending.requestId (targetRequestId s.core pending.intent) :: s.log) ∨
    (∃ pending rest payload, s.worker = .cleared pending rest ∧
      config.adapter.buildRequest pending.intent = .ok payload ∧ s'.core = s.core ∧
      s.waiting = pending :: s'.waiting ∧ s'.log = .sent pending.requestId payload :: s.log) ∨
    (∃ id order update, s.core.inFlightOrders.lookup id = some order ∧
      s'.log = .applied order.requestId update :: s.log) := by
  have hhandled : ∀ {now update core sink log}, Handled config s now update core sink log →
      log = s.log ∨ ∃ id order update, s.core.inFlightOrders.lookup id = some order ∧
        log = .applied order.requestId update :: s.log := by
    intro now update core sink log hhandled
    cases hhandled with
    | dropped _ _ => exact .inl rfl
    | @applied next key order _ hmatch _ _ =>
      exact .inr ⟨key, order, _, matchOrder_lookup hmatch, rfl⟩
  cases h with
  | @accepted thread pending _ hcall _ =>
    exact .inr (.inl ⟨thread, pending, hcall, AList.lookup_insert _, rfl⟩)
  | rejected _ h => exact (hhandled h).imp_right fun h ↦ .inr (.inr h)
  | @sent _ pending rest payload _ hworker hbuild _ =>
    refine .inr (.inr (.inl ⟨pending, rest, payload, hworker, hbuild, rfl, ?_, rfl⟩))
    rw [waiting, hworker]
    rfl
  | received _ _ _ h => exact (hhandled h).imp_right fun h ↦ .inr (.inr h)
  | _ => exact .inl rfl

/-- The history only grows. -/
theorem log_forward (h : Effect config s input s') {entry : LogEntry Text}
    (hentry : entry ∈ s.log) : entry ∈ s'.log := by
  obtain hlog | ⟨_, _, _, _, hlog⟩ | ⟨_, _, _, _, _, _, _, hlog⟩ | ⟨_, _, _, _, hlog⟩ :=
    log_cases h
  · exact hlog ▸ hentry
  · exact hlog ▸ List.mem_cons_of_mem _ hentry
  · exact hlog ▸ List.mem_cons_of_mem _ hentry
  · exact hlog ▸ List.mem_cons_of_mem _ hentry

theorem sent_of_effect (h : Effect config s input s') {requestId : ℕ} (hsent : s.Sent requestId) :
    s'.Sent requestId := by
  obtain ⟨entry, hentry, hid⟩ := hsent
  exact ⟨entry, log_forward h hentry, hid⟩

/-- A request id that is mentioned was mentioned before, or belongs to a call that has now been
accepted. -/
theorem mentions_of_effect (h : Effect config s input s') {requestId : ℕ}
    (hmentions : s'.Mentions requestId) :
    s.Mentions requestId ∨ ∃ thread call, s.submits.lookup thread = some call ∧
      call.requestId = requestId ∧
      ∀ pending, s'.submits.lookup thread ≠ some (.validating pending) := by
  obtain ⟨pending, hwaiting, rfl⟩ | ⟨id, order', hlookup, rfl⟩ | ⟨entry, hentry, rfl⟩ := hmentions
  · obtain hwaiting | ⟨thread, hcall, hdone⟩ := waiting_of_effect h hwaiting
    · exact .inl (.inl ⟨pending, hwaiting, rfl⟩)
    · exact .inr ⟨thread, _, hcall, rfl, fun _ hnext ↦ by cases hdone.symm.trans hnext⟩
  · obtain ⟨order, horder, hmoved⟩ | ⟨thread, pending, _, hcall, hnext, hadmission, _⟩ :=
      orders_of_effect h hlookup
    · exact .inl (.inr (.inl ⟨id, order, horder, hmoved.evolves.requestId.symm⟩))
    · obtain ⟨_, _, _, hrequest, _⟩ := admission_some_fields hadmission
      exact .inr ⟨thread, _, hcall, hrequest.symm, fun _ h ↦ by cases hnext.symm.trans h⟩
  · obtain hlog | ⟨thread, pending, hcall, hnext, hlog⟩ | ⟨pending, _, _, _, _, _, hpop, hlog⟩ |
      ⟨id, order, _, horder, hlog⟩ := log_cases h
    · exact .inl (.inr (.inr ⟨entry, hlog ▸ hentry, rfl⟩))
    · rw [hlog] at hentry
      obtain rfl | hold := List.mem_cons.mp hentry
      · exact .inr ⟨thread, _, hcall, rfl, fun _ h ↦ by cases hnext.symm.trans h⟩
      · exact .inl (.inr (.inr ⟨entry, hold, rfl⟩))
    · rw [hlog] at hentry
      obtain rfl | hold := List.mem_cons.mp hentry
      · exact .inl (.inl ⟨pending, hpop ▸ List.mem_cons_self, rfl⟩)
      · exact .inl (.inr (.inr ⟨entry, hold, rfl⟩))
    · rw [hlog] at hentry
      obtain rfl | hold := List.mem_cons.mp hentry
      · exact .inl (.inr (.inl ⟨id, order, horder, rfl⟩))
      · exact .inl (.inr (.inr ⟨entry, hold, rfl⟩))

/-! ## The invariant -/

/-- How the order of an unsettled intent is tracked. -/
structure TrackedAs (pending : PendingIntent) (id : ClientOrderId) (order : InFlightOrder) :
    Prop where
  creates : pending.intent.Creates
  id_eq : id = pending.intent.clientOrderId
  /-- A quantity that the intent states is the quantity of the order. -/
  requestedQtyLots : 0 < pending.intent.qtyLots → order.requestedQtyLots = pending.intent.qtyLots

structure WellFormed (s : OrderManager Text τ σ) : Prop where
  mentions_lt : ∀ requestId, s.Mentions requestId → requestId < s.nextRequestId
  call_lt : ∀ thread call, s.submits.lookup thread = some call →
    call.requestId < s.nextRequestId
  /-- A call that is not validated yet is not mentioned anywhere. -/
  fresh : ∀ thread pending, s.submits.lookup thread = some (.validating pending) →
    ¬s.Mentions pending.requestId
  /-- Calls in progress have different request ids. -/
  call_inj : ∀ thread thread' call call', s.submits.lookup thread = some call →
    s.submits.lookup thread' = some call' →
    call.requestId = call'.requestId → thread = thread'
  /-- Tracked orders have different request ids. -/
  order_inj : ∀ id id' order order', s.core.inFlightOrders.lookup id = some order →
    s.core.inFlightOrders.lookup id' = some order' → order.requestId = order'.requestId → id = id'
  /-- An order with the request id of an unsettled intent is the order of that intent. -/
  tracked : ∀ pending, s.Unsettled pending → ∀ id order,
    s.core.inFlightOrders.lookup id = some order → order.requestId = pending.requestId →
    TrackedAs pending id order

theorem wellFormed_init (transport : τ) (sink : σ) : (init config transport sink).WellFormed where
  mentions_lt requestId h := by
    obtain ⟨_, h, _⟩ | ⟨_, _, h, _⟩ | ⟨_, h, _⟩ := h <;> cases h
  call_lt thread call h := by cases h
  fresh thread pending h := by cases h
  call_inj thread thread' call call' h := by cases h
  order_inj id id' order order' h := by cases h
  tracked pending h := by
    obtain h | ⟨thread, h⟩ := h <;> cases h

theorem nextRequestId_le_of_effect (h : Effect config s input s') :
    s.nextRequestId ≤ s'.nextRequestId := by
  cases h with
  | began => exact Nat.le_succ _
  | _ => exact le_rfl

/-- A call in progress had its request id before, or has just drawn it. -/
theorem call_of_effect (h : Effect config s input s') {thread : ThreadId} {call : SubmitCall}
    (hcall : s'.submits.lookup thread = some call) :
    (∃ call', s.submits.lookup thread = some call' ∧
      call'.requestId = call.requestId) ∨
    ((∃ intent now, input = .submitBegin thread intent now) ∧
      call.requestId = s.nextRequestId ∧ s'.nextRequestId = s.nextRequestId + 1) := by
  obtain hcall | ⟨intent, now, hinput, _, rfl, hnext⟩ | ⟨pending, _, _, hprev, _, _, rfl⟩ |
    ⟨pending, _, hprev, rfl⟩ := submits_of_effect h hcall
  · exact .inl ⟨call, hcall, rfl⟩
  · exact .inr ⟨⟨intent, now, hinput⟩, rfl, hnext⟩
  · exact .inl ⟨_, hprev, rfl⟩
  · exact .inl ⟨_, hprev, rfl⟩

/-- An intent on its way to the queue was on its way before, in the same call, or has just drawn its
request id. -/
theorem pending_of_effect (h : Effect config s input s') {thread : ThreadId} {call : SubmitCall}
    {pending : PendingIntent} (hcall : s'.submits.lookup thread = some call)
    (hpending : pending ∈ call.pending) :
    (∃ call', s.submits.lookup thread = some call' ∧ pending ∈ call'.pending) ∨
    ((∃ intent now, input = .submitBegin thread intent now) ∧
      pending.requestId = s.nextRequestId ∧ s'.nextRequestId = s.nextRequestId + 1) := by
  obtain hcall | ⟨intent, now, hinput, _, rfl, hnext⟩ | ⟨other, _, _, hprev, _, _, rfl⟩ |
    ⟨_, _, _, rfl⟩ := submits_of_effect h hcall
  · exact .inl ⟨call, hcall, hpending⟩
  · obtain rfl := Option.some.inj hpending
    exact .inr ⟨⟨intent, now, hinput⟩, rfl, hnext⟩
  · exact .inl ⟨_, hprev, hpending⟩
  · cases hpending

namespace WellFormed

variable (hs : s.WellFormed) (h : Effect config s input s')

include hs h

theorem mentions_lt_of_effect {requestId : ℕ} (hmentions : s'.Mentions requestId) :
    requestId < s.nextRequestId := by
  obtain hmentions | ⟨thread, call, hcall, rfl, _⟩ := mentions_of_effect h hmentions
  · exact hs.mentions_lt _ hmentions
  · exact hs.call_lt _ _ hcall

theorem call_lt_of_effect {thread : ThreadId} {call : SubmitCall}
    (hcall : s'.submits.lookup thread = some call) :
    call.requestId < s'.nextRequestId := by
  obtain ⟨call', hcall', hid⟩ | ⟨_, hid, hnext⟩ := call_of_effect h hcall
  · rw [← hid]
    exact (hs.call_lt _ _ hcall').trans_le (nextRequestId_le_of_effect h)
  · rw [hid, hnext]
    exact Nat.lt_succ_self _

theorem fresh_of_effect {thread : ThreadId} {pending : PendingIntent}
    (hcall : s'.submits.lookup thread = some (.validating pending)) :
    ¬s'.Mentions pending.requestId := by
  intro hmentions
  have hlt := hs.mentions_lt_of_effect h hmentions
  obtain hprev | ⟨_, _, _, _, hnew, _⟩ | ⟨_, _, _, _, _, _, hnew⟩ | ⟨_, _, _, hnew⟩ :=
    submits_of_effect h hcall
  · -- the call was there before: only its own acceptance could have mentioned it
    obtain hmentions | ⟨thread', call, hcall', hid, hdone⟩ := mentions_of_effect h hmentions
    · exact hs.fresh _ _ hprev hmentions
    · obtain rfl := hs.call_inj _ _ _ _ hcall' hprev hid
      exact hdone _ hcall
  · obtain rfl := SubmitCall.validating.inj hnew
    exact lt_irrefl _ hlt
  · exact absurd hnew (by simp)
  · exact absurd hnew (by simp)

theorem call_inj_of_effect {thread thread' : ThreadId} {call call' : SubmitCall}
    (hcall : s'.submits.lookup thread = some call)
    (hcall' : s'.submits.lookup thread' = some call')
    (hid : call.requestId = call'.requestId) : thread = thread' := by
  obtain ⟨c, hc, hcid⟩ | ⟨⟨_, _, hinput⟩, hcid, _⟩ := call_of_effect h hcall
  · obtain ⟨c', hc', hcid'⟩ | ⟨_, hcid', _⟩ := call_of_effect h hcall'
    · exact hs.call_inj _ _ _ _ hc hc' (hcid.trans (hid.trans hcid'.symm))
    · have hlt := hs.call_lt _ _ hc
      omega
  · obtain ⟨c', hc', hcid'⟩ | ⟨⟨_, _, hinput'⟩, _, _⟩ := call_of_effect h hcall'
    · have hlt := hs.call_lt _ _ hc'
      omega
    · exact (OrderManagerInput.submitBegin.inj (hinput.symm.trans hinput')).1

theorem order_inj_of_effect {id id' : ClientOrderId} {order order' : InFlightOrder}
    (hlookup : s'.core.inFlightOrders.lookup id = some order)
    (hlookup' : s'.core.inFlightOrders.lookup id' = some order')
    (hrequest : order.requestId = order'.requestId) : id = id' := by
  obtain ⟨o, ho, hmoved⟩ | ⟨thread, pending, hinput, hcall, _, hadmission, hid⟩ :=
    orders_of_effect h hlookup
  · obtain ⟨o', ho', hmoved'⟩ | ⟨_, pending', _, hcall', _, hadmission', _⟩ :=
      orders_of_effect h hlookup'
    · rw [hmoved.evolves.requestId, hmoved'.evolves.requestId] at hrequest
      exact hs.order_inj _ _ _ _ ho ho' hrequest
    · refine absurd (.inr (.inl ⟨id, o, ho, ?_⟩)) (hs.fresh _ _ hcall')
      rw [← hmoved.evolves.requestId, hrequest, (admission_some_fields hadmission').2.2.2.1]
  · obtain ⟨o', ho', hmoved'⟩ | ⟨thread', pending', hinput', hcall', _, _, hid'⟩ :=
      orders_of_effect h hlookup'
    · refine absurd (.inr (.inl ⟨id', o', ho', ?_⟩)) (hs.fresh _ _ hcall)
      rw [← hmoved'.evolves.requestId, ← hrequest, (admission_some_fields hadmission).2.2.2.1]
    · obtain rfl := OrderManagerInput.submitTrack.inj (hinput.symm.trans hinput')
      obtain rfl := SubmitCall.validating.inj (Option.some.inj (hcall.symm.trans hcall'))
      rw [hid, hid']

omit h in
/-- A call that is not validated yet does not share its request id with an unsettled intent. -/
theorem ne_of_unsettled {thread : ThreadId} {pending pending' : PendingIntent}
    (hcall : s.submits.lookup thread = some (.validating pending))
    (hunsettled : s.Unsettled pending') : pending'.requestId ≠ pending.requestId := by
  intro hid
  obtain hwaiting | ⟨thread', hcall'⟩ := hunsettled
  · exact hs.fresh _ _ hcall (.inl ⟨pending', hwaiting, hid⟩)
  · obtain rfl := hs.call_inj _ _ _ _ hcall' hcall hid
    cases hcall.symm.trans hcall'

/-- An order with the request id of an unsettled intent: the link was there before, or both are
new. -/
theorem link_of_effect {pending : PendingIntent} (hunsettled : s'.Unsettled pending)
    {id : ClientOrderId} {order' : InFlightOrder}
    (hlookup : s'.core.inFlightOrders.lookup id = some order')
    (hrequest : order'.requestId = pending.requestId) :
    (s.Unsettled pending ∧ ∃ order, s.core.inFlightOrders.lookup id = some order ∧
      order.requestId = pending.requestId ∧ order.Moved order') ∨
    (s.core.admission pending.requestId pending.intent = .ok (some order') ∧
      id = pending.intent.clientOrderId) := by
  obtain ⟨order, horder, hmoved⟩ | ⟨thread, accepted, hinput, hcall, _, hadmission, hid⟩ :=
    orders_of_effect h hlookup
  · rw [hmoved.evolves.requestId] at hrequest
    obtain hunsettled | ⟨thread, _, _, hcall, _⟩ := unsettled_of_effect h hunsettled
    · exact .inl ⟨hunsettled, order, horder, hrequest, hmoved⟩
    · exact absurd (.inr (.inl ⟨id, order, horder, hrequest⟩)) (hs.fresh _ _ hcall)
  · rw [(admission_some_fields hadmission).2.2.2.1] at hrequest
    obtain hunsettled | ⟨thread', _, hinput', hcall', _⟩ := unsettled_of_effect h hunsettled
    · exact absurd hrequest.symm (hs.ne_of_unsettled hcall hunsettled)
    · obtain rfl := OrderManagerInput.submitTrack.inj (hinput.symm.trans hinput')
      obtain rfl := SubmitCall.validating.inj (Option.some.inj (hcall.symm.trans hcall'))
      exact .inr ⟨hadmission, hid⟩

theorem tracked_of_effect {pending : PendingIntent} (hunsettled : s'.Unsettled pending)
    {id : ClientOrderId} {order' : InFlightOrder}
    (hlookup : s'.core.inFlightOrders.lookup id = some order')
    (hrequest : order'.requestId = pending.requestId) : TrackedAs pending id order' := by
  obtain ⟨hunsettled, order, horder, hid, hmoved⟩ | ⟨hadmission, hid⟩ :=
    hs.link_of_effect h hunsettled hlookup hrequest
  · obtain ⟨hcreates, hid, hqty⟩ := hs.tracked pending hunsettled id order horder hid
    exact ⟨hcreates, hid, fun hpos ↦ hmoved.evolves.requestedQtyLots.trans (hqty hpos)⟩
  · exact ⟨(admission_some_fields hadmission).1, hid, admission_some_requestedQtyLots hadmission⟩

theorem of_effect : s'.WellFormed where
  mentions_lt _ hmentions :=
    (hs.mentions_lt_of_effect h hmentions).trans_le (nextRequestId_le_of_effect h)
  call_lt _ _ := hs.call_lt_of_effect h
  fresh _ _ := hs.fresh_of_effect h
  call_inj _ _ _ _ := hs.call_inj_of_effect h
  order_inj _ _ _ _ := hs.order_inj_of_effect h
  tracked _ hunsettled _ _ := hs.tracked_of_effect h hunsettled

end WellFormed

section Runs

variable {ok : OrderManager Text τ σ → OrderManagerInput → Prop} {transport : τ} {sink : σ}

/-- **Request ids are handed out once**, in every run. -/
theorem wellFormed_of_reaches
    (h : (machine config).ReachesVia ok (init config transport sink) s) : s.WellFormed :=
  h.invariant (wellFormed_init transport sink)
    fun _ hs _ hstep ↦ hs.of_effect (effect_of_step hstep)

/-- The invariant rule for the order manager: what holds at first and is kept by every effect of a
well-formed state holds in every state reached. -/
theorem invariant_of_effect {P : OrderManager Text τ σ → Prop} (h0 : P (init config transport sink))
    (hstep : ∀ {s s' input}, s.WellFormed → P s → ok s input → Effect config s input s' → P s')
    (h : (machine config).ReachesVia ok (init config transport sink) s) : P s :=
  h.invariant h0 fun hs hP hok hnext ↦
    hstep (wellFormed_of_reaches hs) hP hok (effect_of_step hnext)

theorem riskGates_of_reaches
    (h : (machine config).ReachesVia ok (init config transport sink) s) :
    s.core.globalRiskGate = config.globalRisk ∧
      s.core.portfolioRiskGate = config.portfolioRisk := by
  refine invariant_of_effect (P := fun s ↦ s.core.globalRiskGate = config.globalRisk ∧
    s.core.portfolioRiskGate = config.portfolioRisk) ⟨rfl, rfl⟩ ?_ h
  intro s s' input _ hs _ heffect
  have hsame := riskGates_of_effect heffect
  exact ⟨hsame.1.trans hs.1, hsame.2.trans hs.2⟩

end Runs

end OrderManager

end TradingEngine
