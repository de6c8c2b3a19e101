import TradingEngine.Oms.OrderManager

/-!
# What one step of the order manager can do

`Effect` lists the steps of the machine by what they do to the state, counters and error texts left
aside, and `effect_of_step` says that the list is complete. Every invariant of the order manager is
proved from this list, one case per effect, and no later proof looks into the step functions.

The first invariant is `WellFormed`: request ids are handed out once. It links an intent that is
still to be handled to the order it is tracked as.
-/

namespace TradingEngine

open OrderManagerCore

/-- The intent that the global gate is about to judge. -/
def Worker.atGlobalGate : Worker → Option PendingIntent
  | .draining (pending :: _) => some pending
  | .draining [] | .notJoinable | .loop | .polling | .gated _ _ | .cleared _ _ | .pumping
  | .exited => none

/-- The intent that has passed a gate and is not sent yet. -/
def Worker.inHand : Worker → Option PendingIntent
  | .gated pending _ | .cleared pending _ => some pending
  | .notJoinable | .loop | .polling | .draining _ | .pumping | .exited => none

/-- The intent that is about to be encoded and sent. -/
def Worker.aboutToSend : Worker → Option PendingIntent
  | .cleared pending _ => some pending
  | .notJoinable | .loop | .polling | .draining _ | .gated _ _ | .pumping | .exited => none

theorem Worker.aboutToSend_of_inHand {worker : Worker} (h : worker.inHand = none) :
    worker.aboutToSend = none := by
  cases worker with
  | cleared pending rest => cases h
  | _ => rfl

def OrderManagerInput.isWorker : OrderManagerInput → Bool
  | .worker _ => true
  | _ => false

/-- The intent without the time that it was stamped with. -/
def OrderIntent.untimed (intent : OrderIntent) : OrderIntent := { intent with intentTsNs := 0 }

/-- The intent that a step submits. -/
def OrderManagerInput.submitted : OrderManagerInput → Option OrderIntent
  | .submitBegin _ intent _ => some intent
  | _ => none

namespace SubmitCall

def requestId : SubmitCall → ℕ
  | .validating pending | .enqueuing pending => pending.requestId
  | .counting requestId => requestId

/-- The intent, until it is in the queue. -/
def pending : SubmitCall → Option PendingIntent
  | .validating pending | .enqueuing pending => some pending
  | .counting _ => none

/-- The intent that an accepted call has still to push. -/
def pushes : SubmitCall → Option PendingIntent
  | .enqueuing pending => some pending
  | .validating _ | .counting _ => none

/-- Whether a call has pushed its intent and is about to be counted. -/
def uncounted : SubmitCall → ℕ
  | .counting _ => 1
  | .validating _ | .enqueuing _ => 0

theorem requestId_of_pending {call : SubmitCall} {pending : PendingIntent}
    (h : pending ∈ call.pending) : call.requestId = pending.requestId := by
  cases call with
  | validating p => rw [Option.some.inj h, requestId]
  | enqueuing p => rw [Option.some.inj h, requestId]
  | counting id => cases h

end SubmitCall

namespace OrderManager

theorem untimed_stampIntent (intent : OrderIntent) (now : ℕ) :
    (stampIntent intent now).untimed = intent.untimed := by
  rw [stampIntent]
  split <;> rfl

variable {Text τ σ : Type*} (config : OrderManagerConfig Text τ σ)

/-- The global gate lets the intent through. -/
def globalAllows (s : OrderManager Text τ σ) (pending : PendingIntent) : Bool :=
  (GlobalRiskGate.evaluate s.core.globalRiskGate pending.intent
    (s.core.buildRiskSnapshot pending.intent.marketTicker pending.intent.clientOrderId)).allow

/-- The portfolio gate lets it through; without a provider there is no such gate. -/
def portfolioAllows (s : OrderManager Text τ σ) (pending : PendingIntent) : Bool :=
  match config.portfolioSnapshotProvider with
  | none => true
  | some provider =>
    (PortfolioRiskGate.evaluate s.core.portfolioRiskGate pending.intent
      (provider.snapshotFor s.sink pending.intent.exchange pending.intent.marketTicker)).allow

/-- The request can be encoded, and the transport takes it. -/
def sends (s : OrderManager Text τ σ) (pending : PendingIntent) : Bool :=
  match config.adapter.buildRequest pending.intent with
  | .ok payload => (config.transport.sendText s.transport payload).1
  | .error _ => false

/-- What becomes of an update: core, sink and history afterwards. -/
inductive Handled (s : OrderManager Text τ σ) (now : ℕ) (update : OrderStateUpdate) :
    OrderManagerCore → σ → List (LogEntry Text) → Prop
  /-- The core refuses it. -/
  | dropped {core : OrderManagerCore} (hcore : s.core.SameOrders core)
      (hrefused : ∀ next key order, toInFlightStatus update.status = some next →
        s.core.matchOrder update = some (key, order) → canTransition order.status next = false) :
      Handled s now update core s.sink s.log
  /-- The core moves an order, the sink sees the update. -/
  | applied {core : OrderManagerCore} {next : InFlightStatus} {key : ClientOrderId}
      {order : InFlightOrder} (hstatus : toInFlightStatus update.status = some next)
      (hmatch : s.core.matchOrder update = some (key, order))
      (hcan : canTransition order.status next = true)
      (hcore : (s.core.applyTransition now update next key order).SameOrders core) :
      Handled s now update core
        (config.eventSink.onOrderUpdate s.sink (enrichUpdate order update)).2
        (.applied order.requestId (enrichUpdate order update) :: s.log)

/-- **What a step can do.** -/
inductive Effect (s : OrderManager Text τ σ) : OrderManagerInput → OrderManager Text τ σ → Prop
  /-- Nothing but the worker, the `stop` call or the connection moves. -/
  | quiet {input : OrderManagerInput} {worker : Worker} {control : Control}
      {running stopRequested : Bool}
      {counters : OrderManagerCounters} {lastError : String} {transport : τ}
      (hworker : worker = s.worker ∨ worker.batch = s.worker.batch ∧ worker.inHand = none)
      (htransport : transport = s.transport ∨ transport = config.transport.close s.transport) :
      Effect s input
        { s with worker, control, running, stopRequested, counters, lastError, transport }
  /-- The transport has nothing, or nothing that can be parsed. -/
  | unheard {now : ℕ} {counters : OrderManagerCounters} (hworker : s.worker = .pumping)
      (hnone : ∀ payload, (config.transport.recvText s.transport).1 = some payload →
        ∃ error, config.adapter.parseUpdate payload = .error error) :
      Effect s (.worker now) { s with
        worker := .loop, counters, transport := (config.transport.recvText s.transport).2 }
  /-- A `start` forgets the orders of the session before. -/
  | restarted {worker : Worker} {running stopRequested : Bool} {counters : OrderManagerCounters}
      {lastError : String} (hstopped : s.worker = .notJoinable)
      (hworker : worker = .notJoinable ∨ worker = .loop) :
      Effect s .start { s with
        core := s.core.reset, worker, running, stopRequested, counters, lastError
        transport := (config.transport.connect s.transport).2 }
  /-- A submission draws its request id. -/
  | began {thread : ThreadId} {intent : OrderIntent} {now : ℕ}
      (hsupports : config.adapter.supports intent = true) (hfree : s.submits.lookup thread = none) :
      Effect s (.submitBegin thread intent now) { s with
        nextRequestId := s.nextRequestId + 1
        submits := s.submits.insert thread
          (.validating ⟨s.nextRequestId, stampIntent intent now⟩) }
  /-- The core refuses a submission. -/
  | refused {thread : ThreadId} {pending : PendingIntent} {core : OrderManagerCore}
      {lastError : String} (hcall : s.submits.lookup thread = some (.validating pending))
      (hcore : s.core.SameOrders core) :
      Effect s (.submitTrack thread) { s with
        core, lastError, submits := s.submits.erase thread }
  /-- The core accepts a submission, and tracks the order it creates, if it creates one. -/
  | accepted {thread : ThreadId} {pending : PendingIntent} {tracked : Option InFlightOrder}
      (hcall : s.submits.lookup thread = some (.validating pending))
      (hadmission : s.core.admission pending.requestId pending.intent = .ok tracked) :
      Effect s (.submitTrack thread) { s with
        core := tracked.elim s.core s.core.track
        submits := s.submits.insert thread (.enqueuing pending)
        log := .accepted pending.requestId (targetRequestId s.core pending.intent) :: s.log }
  /-- An accepted submission enters the queue. -/
  | enqueued {thread : ThreadId} {pending : PendingIntent}
      (hcall : s.submits.lookup thread = some (.enqueuing pending)) :
      Effect s (.submitEnqueue thread) { s with
        outboundQueue := s.outboundQueue ++ [pending]
        submits := s.submits.insert thread (.counting pending.requestId) }
  /-- A submission is counted and over. -/
  | counted {thread : ThreadId} {requestId : ℕ} {counters : OrderManagerCounters}
      (hcall : s.submits.lookup thread = some (.counting requestId)) :
      Effect s (.submitCount thread) { s with submits := s.submits.erase thread, counters }
  /-- The worker takes the whole queue as its batch. -/
  | polled {now : ℕ} (hworker : s.worker = .polling) :
      Effect s (.worker now) { s with worker := .draining s.outboundQueue, outboundQueue := [] }
  /-- The global gate lets the first intent of the batch through. -/
  | gated {now : ℕ} {pending : PendingIntent} {rest : List PendingIntent}
      (hworker : s.worker = .draining (pending :: rest))
      (hallow : s.globalAllows pending = true) :
      Effect s (.worker now) { s with worker := .gated pending rest }
  /-- The portfolio gate, where there is one, lets it through as well. -/
  | cleared {now : ℕ} {pending : PendingIntent} {rest : List PendingIntent}
      (hworker : s.worker = .gated pending rest)
      (hallow : s.portfolioAllows config pending = true) :
      Effect s (.worker now) { s with worker := .cleared pending rest }
  /-- A gate refuses it. -/
  | rejected {now : ℕ} {pending : PendingIntent} {rest : List PendingIntent}
      {reasonCode reasonMessage lastError : String} {core : OrderManagerCore} {sink : σ}
      {log : List (LogEntry Text)} {counters : OrderManagerCounters}
      (hrefused : s.worker = .draining (pending :: rest) ∧ s.globalAllows pending = false ∨
        s.worker = .gated pending rest ∧ s.portfolioAllows config pending = false)
      (hhandled : Handled config s now
        (makeRiskRejectUpdate pending.intent reasonCode reasonMessage now) core sink log) :
      Effect s (.worker now)
        { s with worker := .draining rest, core, sink, log, lastError, counters }
  /-- It is encoded and the transport takes it. -/
  | sent {now : ℕ} {pending : PendingIntent} {rest : List PendingIntent} {payload : Text}
      {counters : OrderManagerCounters} (hworker : s.worker = .cleared pending rest)
      (hbuild : config.adapter.buildRequest pending.intent = .ok payload)
      (hsend : (config.transport.sendText s.transport payload).1 = true) :
      Effect s (.worker now) { s with
        worker := .draining rest
        transport := (config.transport.sendText s.transport payload).2
        counters
        log := .sent pending.requestId payload :: s.log }
  /-- It is not encoded, or the transport does not take it. -/
  | unsent {now : ℕ} {pending : PendingIntent} {rest : List PendingIntent} {transport : τ}
      {counters : OrderManagerCounters} {lastError : String}
      (hworker : s.worker = .cleared pending rest) (hfailed : s.sends config pending = false)
      (htransport : transport = s.transport ∨
        ∃ payload, config.adapter.buildRequest pending.intent = .ok payload ∧
          transport = (config.transport.sendText s.transport payload).2) :
      Effect s (.worker now) { s with worker := .draining rest, transport, counters, lastError }
  /-- An update arrives. -/
  | received {now : ℕ} {payload : Text} {update : OrderStateUpdate} {lastError : String}
      {core : OrderManagerCore} {sink : σ} {log : List (LogEntry Text)}
      {counters : OrderManagerCounters} (hworker : s.worker = .pumping)
      (hrecv : (config.transport.recvText s.transport).1 = some payload)
      (hparse : config.adapter.parseUpdate payload = .ok update)
      (hhandled : Handled config s now update core sink log) :
      Effect s (.worker now) { s with
        worker := .loop
        transport := (config.transport.recvText s.transport).2
        core, sink, log, lastError, counters }

/-! ## The list is complete -/

theorem handled_handleUpdate (s : OrderManager Text τ σ) (now : ℕ) (update : OrderStateUpdate) :
    ∃ core sink log counters lastError,
      Handled config s now update core sink log ∧
      (s.handleUpdate config now update).2 =
        { s with core, sink, log, counters, lastError } := by
  rw [handleUpdate]
  -- the core alone decides; the sink is asked only after it has accepted
  obtain ⟨message, core, h, hsame, hrefused⟩ | ⟨next, key, order, hstatus, hmatch, hcan, h⟩ :=
    s.core.applyUpdateTransition_cases now update
  · rw [h]
    exact ⟨core, s.sink, s.log, _, message, .dropped hsame hrefused, rfl⟩
  · rw [h, hmatch]
    exact ⟨_, _, _, _, s.lastError, .applied hstatus hmatch hcan (.refl _), rfl⟩

variable {config}

/-- A gate moves a counter before its reject is applied, which the update does not notice. -/
theorem Handled.of_sameOrders {s : OrderManager Text τ σ} {core₀ : OrderManagerCore} {now : ℕ}
    {update : OrderStateUpdate} {core : OrderManagerCore} {sink : σ} {log : List (LogEntry Text)}
    (hcore₀ : s.core.SameOrders core₀)
    (h : Handled config { s with core := core₀ } now update core sink log) :
    Handled config s now update core sink log := by
  cases h with
  | dropped hcore hrefused =>
    refine .dropped (hcore₀.trans hcore) fun next key order hstatus hmatch ↦ ?_
    exact hrefused next key order hstatus ((hcore₀.matchOrder update).trans hmatch)
  | applied hstatus hmatch hcan hcore =>
    exact .applied hstatus ((hcore₀.matchOrder update).symm.trans hmatch) hcan
      ((hcore₀.applyTransition now update _ _ _).trans hcore)

theorem effect_riskReject {s : OrderManager Text τ σ} {core₀ : OrderManagerCore} {now : ℕ}
    {pending : PendingIntent} {rest : List PendingIntent} {reasonCode reasonMessage : String}
    (hcore₀ : s.core.SameOrders core₀)
    (hrefused : s.worker = .draining (pending :: rest) ∧ s.globalAllows pending = false ∨
      s.worker = .gated pending rest ∧ s.portfolioAllows config pending = false) :
    Effect config s (.worker now) ({ s with core := core₀ }.riskReject config now rest
      (makeRiskRejectUpdate pending.intent reasonCode reasonMessage now) reasonMessage) := by
  obtain ⟨core, sink, log, counters, lastError, hhandled, h⟩ :=
    handled_handleUpdate config { s with core := core₀ } now
      (makeRiskRejectUpdate pending.intent reasonCode reasonMessage now)
  rw [riskReject]
  dsimp only
  rw [h]
  split
  · exact .rejected hrefused (hhandled.of_sameOrders hcore₀)
  · exact .rejected hrefused (hhandled.of_sameOrders hcore₀)

theorem effect_checkGlobalRisk {s : OrderManager Text τ σ} (now : ℕ) {pending : PendingIntent}
    {rest : List PendingIntent} (hworker : s.worker = .draining (pending :: rest)) :
    Effect config s (.worker now) (s.checkGlobalRisk config now pending rest) := by
  rw [checkGlobalRisk, evaluateGlobalRisk, evaluateGlobalRiskWith]
  split
  · rename_i h
    split at h
    · rename_i hallow
      exact .gated hworker hallow
    · exact absurd h (by simp)
  · rename_i decision core h
    split at h
    · exact absurd h (by simp)
    · rename_i hrefused
      obtain ⟨hdecision, rfl⟩ := Prod.mk.inj h
      obtain rfl := Option.some.inj hdecision
      exact effect_riskReject ⟨rfl, rfl, rfl, rfl⟩
        (.inl ⟨hworker, Bool.eq_false_of_not_eq_true hrefused⟩)

theorem effect_checkPortfolioRisk {s : OrderManager Text τ σ} (now : ℕ) {pending : PendingIntent}
    {rest : List PendingIntent} (hworker : s.worker = .gated pending rest) :
    Effect config s (.worker now) (s.checkPortfolioRisk config now pending rest) := by
  rw [checkPortfolioRisk]
  split
  · rename_i hnone
    exact .cleared hworker (by simp only [portfolioAllows, hnone])
  · rename_i provider hprovider
    dsimp only [evaluatePortfolioRisk, evaluatePortfolioRiskWith]
    split
    · rename_i h
      split at h
      · rename_i hallow
        refine .cleared hworker ?_
        rw [portfolioAllows, hprovider]
        exact hallow
      · exact absurd h (by simp)
    · rename_i decision core h
      split at h
      · exact absurd h (by simp)
      · rename_i hrefused
        obtain ⟨hdecision, rfl⟩ := Prod.mk.inj h
        obtain rfl := Option.some.inj hdecision
        refine effect_riskReject ⟨rfl, rfl, rfl, rfl⟩ (.inr ⟨hworker, ?_⟩)
        rw [portfolioAllows, hprovider]
        exact Bool.eq_false_of_not_eq_true hrefused

theorem effect_sendRequest {s : OrderManager Text τ σ} (now : ℕ) {pending : PendingIntent}
    {rest : List PendingIntent} (hworker : s.worker = .cleared pending rest) :
    Effect config s (.worker now) (s.sendRequest config pending rest) := by
  rw [sendRequest]
  cases hbuild : config.adapter.buildRequest pending.intent with
  | error message => exact .unsent hworker (by simp only [sends, hbuild]) (.inl rfl)
  | ok payload =>
    dsimp only
    split
    · rename_i hsend
      exact .sent hworker hbuild hsend
    · rename_i hsend
      refine .unsent hworker ?_ (.inr ⟨payload, hbuild, rfl⟩)
      simpa only [sends, hbuild] using Bool.eq_false_of_not_eq_true hsend

theorem effect_pumpIncomingUpdate {s : OrderManager Text τ σ} (now : ℕ)
    (hworker : s.worker = .pumping) :
    Effect config s (.worker now) (s.pumpIncomingUpdate config now) := by
  rw [pumpIncomingUpdate]
  cases hrecv : config.transport.recvText s.transport with
  | mk received transport =>
    obtain rfl : (config.transport.recvText s.transport).2 = transport := by rw [hrecv]
    have hfst : (config.transport.recvText s.transport).1 = received := by rw [hrecv]
    cases received with
    | none =>
      refine .unheard hworker fun payload h ↦ ?_
      cases hfst.symm.trans h
    | some payload =>
      dsimp only
      cases hparse : config.adapter.parseUpdate payload with
      | error error =>
        refine .unheard hworker fun payload' h ↦ ⟨error, ?_⟩
        obtain rfl := Option.some.inj (hfst.symm.trans h)
        exact hparse
      | ok update =>
        -- nothing of what the pump does before matters to the core
        obtain ⟨core, sink, log, counters, lastError, hhandled, h⟩ :=
          handled_handleUpdate config { s with
            worker := .loop
            transport := (config.transport.recvText s.transport).2
            counters := { s.counters with receiveCount := s.counters.receiveCount + 1 } } now update
        dsimp only
        rw [h]
        refine .received hworker hfst hparse ?_
        cases hhandled with
        | dropped hcore hrefused => exact .dropped hcore hrefused
        | applied hstatus hmatch hcan hcore => exact .applied hstatus hmatch hcan hcore

theorem effect_runWorker {s s' : OrderManager Text τ σ} {now : ℕ}
    (h : s.runWorker config now = some s') : Effect config s (.worker now) s' := by
  rw [runWorker] at h
  cases hworker : s.worker with
  | notJoinable => rw [hworker] at h; cases h
  | exited => rw [hworker] at h; cases h
  | loop =>
    rw [hworker] at h
    dsimp only at h
    split at h
    · obtain rfl := Option.some.inj h
      exact .quiet (.inr ⟨by rw [hworker]; rfl, rfl⟩) (.inr rfl)
    · obtain rfl := Option.some.inj h
      exact .quiet (.inr ⟨by rw [hworker]; rfl, rfl⟩) (.inl rfl)
  | polling =>
    rw [hworker] at h
    dsimp only at h
    split at h
    · obtain rfl := Option.some.inj h
      exact .quiet (.inr ⟨by rw [hworker]; rfl, rfl⟩) (.inl rfl)
    · obtain rfl := Option.some.inj h
      exact .polled hworker
  | draining batch =>
    rw [hworker] at h
    cases batch with
    | nil =>
      obtain rfl := Option.some.inj h
      exact .quiet (.inr ⟨by rw [hworker]; rfl, rfl⟩) (.inl rfl)
    | cons pending rest =>
      obtain rfl := Option.some.inj h
      exact effect_checkGlobalRisk now hworker
  | gated pending rest =>
    rw [hworker] at h
    obtain rfl := Option.some.inj h
    exact effect_checkPortfolioRisk now hworker
  | cleared pending rest =>
    rw [hworker] at h
    obtain rfl := Option.some.inj h
    exact effect_sendRequest now hworker
  | pumping =>
    rw [hworker] at h
    dsimp only at h
    split at h
    · exact absurd h (by simp)
    · obtain rfl := Option.some.inj h
      exact effect_pumpIncomingUpdate now hworker

theorem effect_start {s s' : OrderManager Text τ σ} (h : s.start config = some s') :
    Effect config s .start s' := by
  rw [start] at h
  split at h
  · exact absurd h (by simp)
  split at h
  · obtain rfl := Option.some.inj h
    exact .quiet (.inl rfl) (.inl rfl)
  rename_i hstopped
  have hstopped : s.worker = .notJoinable := not_not.mp hstopped
  dsimp only at h
  split at h
  · obtain rfl := Option.some.inj h
    exact .restarted hstopped (.inr rfl)
  · obtain rfl := Option.some.inj h
    exact .restarted hstopped (.inl hstopped)

theorem effect_submitBegin {s s' : OrderManager Text τ σ} {thread : ThreadId} {intent : OrderIntent}
    {now : ℕ} (h : s.submitBegin config thread intent now = some s') :
    Effect config s (.submitBegin thread intent now) s' := by
  rw [submitBegin] at h
  split at h
  · exact absurd h (by simp)
  rename_i hfree
  split at h
  · obtain rfl := Option.some.inj h
    exact .quiet (.inl rfl) (.inl rfl)
  split at h
  · obtain rfl := Option.some.inj h
    exact .quiet (.inl rfl) (.inl rfl)
  rename_i hsupports
  obtain rfl := Option.some.inj h
  exact .began (Bool.eq_true_of_not_eq_false hsupports) (Option.not_isSome_iff_eq_none.mp hfree)

theorem effect_submitTrack {s s' : OrderManager Text τ σ} {thread : ThreadId}
    (h : s.submitTrack thread = some s') : Effect config s (.submitTrack thread) s' := by
  rw [submitTrack] at h
  split at h
  · rename_i pending hcall
    obtain ⟨message, hvalidate⟩ | ⟨hadmission, hvalidate⟩ | ⟨order, hadmission, hvalidate⟩ :=
      s.core.validateAndTrackSubmission_cases pending.requestId pending.intent
    · rw [hvalidate] at h
      obtain rfl := Option.some.inj h
      exact .refused hcall ⟨rfl, rfl, rfl, rfl⟩
    · rw [hvalidate] at h
      obtain rfl := Option.some.inj h
      exact .accepted hcall hadmission
    · rw [hvalidate] at h
      obtain rfl := Option.some.inj h
      exact .accepted hcall hadmission
  · exact absurd h (by simp)

theorem effect_submitEnqueue {s s' : OrderManager Text τ σ} {thread : ThreadId}
    (h : s.submitEnqueue thread = some s') : Effect config s (.submitEnqueue thread) s' := by
  rw [submitEnqueue] at h
  split at h
  · rename_i pending hcall
    obtain rfl := Option.some.inj h
    exact .enqueued hcall
  · exact absurd h (by simp)

theorem effect_submitCount {s s' : OrderManager Text τ σ} {thread : ThreadId}
    (h : s.submitCount thread = some s') : Effect config s (.submitCount thread) s' := by
  rw [submitCount] at h
  split at h
  · rename_i requestId hcall
    obtain rfl := Option.some.inj h
    exact .counted hcall
  · exact absurd h (by simp)

/-- **Every step has one of the listed effects.** -/
theorem effect_of_step {s s' : OrderManager Text τ σ} {input : OrderManagerInput}
    (h : (machine config).step s input = some s') : Effect config s input s' := by
  cases input with
  | submitBegin thread intent now => exact effect_submitBegin h
  | submitTrack thread => exact effect_submitTrack h
  | submitEnqueue thread => exact effect_submitEnqueue h
  | submitCount thread => exact effect_submitCount h
  | start => exact effect_start h
  | worker now => exact effect_runWorker h
  | stopBegin =>
    simp only [machine, stopBegin] at h
    split_ifs at h
    · obtain rfl := Option.some.inj h
      exact .quiet (.inl rfl) (.inl rfl)
    · obtain rfl := Option.some.inj h
      exact .quiet (.inl rfl) (.inl rfl)
  | stopClose =>
    simp only [machine, stopClose] at h
    split_ifs at h
    obtain rfl := Option.some.inj h
    exact .quiet (.inl rfl) (.inr rfl)
  | stopJoin =>
    simp only [machine, stopJoin] at h
    split_ifs at h with hexited
    obtain rfl := Option.some.inj h
    have hworker : s.worker = .exited := not_not.mp fun hne ↦ hexited (.inr hne)
    exact .quiet (.inr ⟨by rw [hworker]; rfl, rfl⟩) (.inl rfl)

/-! ## Where the orders come from -/

/-- An update creates no order: what is tracked afterwards was tracked before, as it is now or
before its transition. -/
theorem Handled.origin {s : OrderManager Text τ σ} {now : ℕ} {update : OrderStateUpdate}
    {core : OrderManagerCore} {sink : σ} {log : List (LogEntry Text)}
    (h : Handled config s now update core sink log) {id : ClientOrderId} {order' : InFlightOrder}
    (hlookup : core.inFlightOrders.lookup id = some order') :
    ∃ order, s.core.inFlightOrders.lookup id = some order ∧
      (order' = order ∨ ∃ next, toInFlightStatus update.status = some next ∧
        s.core.matchOrder update = some (id, order) ∧ canTransition order.status next = true ∧
        order' = transitionOrder order next now update) := by
  cases h with
  | dropped hcore _ =>
    rw [hcore.inFlightOrders] at hlookup
    exact ⟨order', hlookup, .inl rfl⟩
  | @applied next key order hstatus hmatch hcan hcore =>
    rw [hcore.inFlightOrders, lookup_applyTransition] at hlookup
    -- one order has moved, the others are where they were
    split at hlookup
    · rename_i hid
      rw [hid]
      exact ⟨order, matchOrder_lookup hmatch, .inr ⟨next, hstatus, hmatch, hcan,
        (Option.some.inj hlookup).symm⟩⟩
    · exact ⟨order', hlookup, .inl rfl⟩

end OrderManager

end TradingEngine
