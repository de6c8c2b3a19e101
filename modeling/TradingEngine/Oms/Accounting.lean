import TradingEngine.Apps.Trader
import TradingEngine.Oms.OrderManagerSteps

/-!
# The counters of a session

A `start` sets every counter to zero. From then on each submission that is counted is waiting, sent,
failed to be sent or refused by a gate; each update that was parsed, or made by a gate, was applied,
refused or matched no order; the event sink was called for the updates that were applied; and an
update that was dropped was refused by the core or by the sink.

The equations hold whatever the adapter, the transport and the sink do, with one exception: a
submission is counted after it has joined the queue and has given up the lock. If the worker has
handled it and another session has begun meanwhile, it is counted in a session that it is no part of
(`late_count_unaccounted`). The accounts of a session are right exactly when no submission was in
this place when it began (`session_accounts_iff`).

The calls of the sink are counted by a sink that passes everything on to the real one.

## Half-done work

`Balanced` has three numbers: the submissions that were about to be counted when the session began,
the intents that are waiting, and the updates that are about to be handed to the core. A gate that
refuses an intent turns one of the second into one of the third, and `handleUpdate` settles it.
-/

namespace TradingEngine

/-- How often a sink was called, and how often it returned false. -/
structure SinkCalls where
  calls : ℕ := 0
  refused : ℕ := 0
  deriving DecidableEq

section Counted

variable {Text τ σ : Type*}

/-- A sink that keeps count. -/
def IOrderEventSink.counted (sink : IOrderEventSink σ) : IOrderEventSink (σ × SinkCalls) where
  onOrderUpdate state update :=
    let received := sink.onOrderUpdate state.1 update
    (received.1, received.2,
      { calls := state.2.calls + 1
        refused := if received.1 then state.2.refused else state.2.refused + 1 })

/-- A provider does not look at the count. -/
def IPortfolioRiskSnapshotProvider.counted (provider : IPortfolioRiskSnapshotProvider σ) :
    IPortfolioRiskSnapshotProvider (σ × SinkCalls) where
  snapshotFor state := provider.snapshotFor state.1

/-- The same order manager, with the calls of its sink counted. -/
def OrderManagerConfig.counted (config : OrderManagerConfig Text τ σ) :
    OrderManagerConfig Text τ (σ × SinkCalls) where
  adapter := config.adapter
  transport := config.transport
  eventSink := config.eventSink.counted
  portfolioSnapshotProvider := config.portfolioSnapshotProvider.map
    IPortfolioRiskSnapshotProvider.counted
  globalRisk := config.globalRisk
  portfolioRisk := config.portfolioRisk

end Counted

/-- The calls that are about to be counted. -/
def uncountedCalls (submits : UnorderedMap ThreadId SubmitCall) : ℕ :=
  submits.sumOf fun _ call ↦ call.uncounted

section UncountedCalls

variable {submits : UnorderedMap ThreadId SubmitCall} {thread : ThreadId}

theorem uncountedCalls_insert_of_none (hfree : submits.lookup thread = none)
    (pending : PendingIntent) :
    uncountedCalls (submits.insert thread (.validating pending)) = uncountedCalls submits := by
  rw [uncountedCalls, UnorderedMap.sumOf_insert_of_lookup_none _ _ hfree]
  exact Nat.zero_add _

theorem uncountedCalls_insert {call : SubmitCall} (hcall : submits.lookup thread = some call)
    (next : SubmitCall) :
    uncountedCalls (submits.insert thread next) + call.uncounted =
      next.uncounted + uncountedCalls submits := by
  have hsum := UnorderedMap.sumOf_insert_add (fun _ call ↦ SubmitCall.uncounted call) submits
    thread next
  rw [hcall] at hsum
  exact hsum

theorem uncountedCalls_erase {call : SubmitCall} (hcall : submits.lookup thread = some call) :
    uncountedCalls submits = call.uncounted + uncountedCalls (submits.erase thread) :=
  UnorderedMap.sumOf_eq_add_erase _ hcall

end UncountedCalls

namespace OrderManagerCore

/-- A transition counts as applied, and anything else as refused or unknown. -/
theorem counts_applyUpdateTransition (core : OrderManagerCore) (now : ℕ)
    (update : OrderStateUpdate) :
    let result := core.applyUpdateTransition now update
    result.2.riskRejectCount = core.riskRejectCount ∧
      result.2.portfolioRiskRejectCount = core.portfolioRiskRejectCount ∧
      ((∃ accepted, result.1 = .ok accepted) ∧
          result.2.transitionAppliedCount = core.transitionAppliedCount + 1 ∧
          result.2.transitionRejectCount + result.2.unknownOrderUpdateCount =
            core.transitionRejectCount + core.unknownOrderUpdateCount ∨
        (∃ message, result.1 = .error message) ∧
          result.2.transitionAppliedCount = core.transitionAppliedCount ∧
          result.2.transitionRejectCount + result.2.unknownOrderUpdateCount =
            core.transitionRejectCount + core.unknownOrderUpdateCount + 1) := by
  dsimp only
  rw [applyUpdateTransition]
  split
  · exact ⟨rfl, rfl, .inr ⟨⟨_, rfl⟩, rfl, Nat.add_right_comm _ _ _⟩⟩
  split
  · exact ⟨rfl, rfl, .inr ⟨⟨_, rfl⟩, rfl, rfl⟩⟩
  split
  · exact ⟨rfl, rfl, .inl ⟨⟨_, rfl⟩, rfl, rfl⟩⟩
  · exact ⟨rfl, rfl, .inr ⟨⟨_, rfl⟩, rfl, Nat.add_right_comm _ _ _⟩⟩

end OrderManagerCore

namespace OrderManager

/-! ## What has joined the line -/

section Pushed

variable {Text τ σ : Type*} {config : OrderManagerConfig Text τ σ} {s s' : OrderManager Text τ σ}
  {thread : ThreadId}

/-- The submissions that have joined the line: those that are counted, and those about to be. -/
def pushedCount (s : OrderManager Text τ σ) : ℕ :=
  s.counters.submittedCount + uncountedCalls s.submits

theorem pushedCount_submitBegin {intent : OrderIntent} {now : ℕ}
    (h : s.submitBegin config thread intent now = some s') : s'.pushedCount = s.pushedCount := by
  rw [submitBegin] at h
  split_ifs at h with hfree
  · obtain rfl := Option.some.inj h
    rfl
  · obtain rfl := Option.some.inj h
    rfl
  · obtain rfl := Option.some.inj h
    exact congrArg (s.counters.submittedCount + ·)
      (uncountedCalls_insert_of_none (Option.not_isSome_iff_eq_none.mp hfree) _)

theorem pushedCount_submitTrack (h : s.submitTrack thread = some s') :
    s'.pushedCount = s.pushedCount := by
  rw [submitTrack] at h
  split at h
  · rename_i pending hcall
    have herase : uncountedCalls s.submits = 0 + uncountedCalls (s.submits.erase thread) :=
      uncountedCalls_erase hcall
    have hinsert : uncountedCalls (s.submits.insert thread (.enqueuing pending)) + 0 =
        0 + uncountedCalls s.submits := uncountedCalls_insert hcall _
    split at h
    all_goals
      obtain rfl := Option.some.inj h
      dsimp only [pushedCount]
      omega
  · exact absurd h (by simp)

/-- One more joins, and its call is about to be counted. -/
theorem pushedCount_submitEnqueue (h : s.submitEnqueue thread = some s') :
    s'.pushedCount = s.pushedCount + 1 := by
  rw [submitEnqueue] at h
  split at h
  · rename_i pending hcall
    have hinsert : uncountedCalls (s.submits.insert thread (.counting pending.requestId)) + 0 =
        1 + uncountedCalls s.submits := uncountedCalls_insert hcall _
    obtain rfl := Option.some.inj h
    dsimp only [pushedCount]
    omega
  · exact absurd h (by simp)

theorem pushedCount_submitCount (h : s.submitCount thread = some s') :
    s'.pushedCount = s.pushedCount := by
  rw [submitCount] at h
  split at h
  · rename_i requestId hcall
    have herase : uncountedCalls s.submits = 1 + uncountedCalls (s.submits.erase thread) :=
      uncountedCalls_erase hcall
    obtain rfl := Option.some.inj h
    dsimp only [pushedCount]
    omega
  · exact absurd h (by simp)

end Pushed

/-! ## The equations -/

variable {Text τ σ : Type*} {config : OrderManagerConfig Text τ σ}
  {s s' : OrderManager Text τ (σ × SinkCalls)} {left waiting owed : ℕ}

/-- The equations, given the number of submissions left over from before the session, the number of
intents waiting, and the number of updates that the core is still to be given. -/
structure Balanced (left waiting owed : ℕ) (s : OrderManager Text τ (σ × SinkCalls)) :
    Prop where
  intents : s.counters.submittedCount + uncountedCalls s.submits = left + waiting +
    s.counters.sentCount + s.counters.sendFailedCount + s.core.riskRejectCount +
    s.core.portfolioRiskRejectCount
  updates : s.counters.receiveCount + s.core.riskRejectCount + s.core.portfolioRiskRejectCount =
    s.counters.parseFailedCount + s.core.transitionAppliedCount + s.core.transitionRejectCount +
      s.core.unknownOrderUpdateCount + owed
  calls : s.sink.2.calls = s.core.transitionAppliedCount
  drops : s.counters.updateDropCount = s.core.transitionRejectCount +
    s.core.unknownOrderUpdateCount + s.sink.2.refused

/-- **An update is settled** by `handleUpdate`. -/
theorem Balanced.handleUpdate (h : s.Balanced left waiting (owed + 1)) (now : ℕ)
    (update : OrderStateUpdate) :
    (s.handleUpdate config.counted now update).2.Balanced left waiting owed := by
  obtain ⟨hintents, hupdates, hcalls, hdrops⟩ := h
  have hcounts := s.core.counts_applyUpdateTransition now update
  rw [OrderManager.handleUpdate]
  generalize s.core.applyUpdateTransition now update = result at hcounts
  obtain ⟨answer, core⟩ := result
  obtain ⟨hrisk, hportfolio, ⟨⟨accepted, rfl⟩, happlied, hrefused⟩ |
    ⟨⟨message, rfl⟩, happlied, hrefused⟩⟩ := hcounts
  · dsimp only at hrisk hportfolio happlied hrefused ⊢
    have hcalled : (config.counted.eventSink.onOrderUpdate s.sink accepted).2.2 =
        { calls := s.sink.2.calls + 1
          refused := if (config.counted.eventSink.onOrderUpdate s.sink accepted).1
            then s.sink.2.refused else s.sink.2.refused + 1 } := rfl
    -- the sink is called, and the update is dropped if the sink refuses it
    rcases hreceived : (config.counted.eventSink.onOrderUpdate s.sink accepted).1 with _ | _
    · rw [hreceived] at hcalled
      refine ⟨?_, ?_, ?_, ?_⟩
      all_goals
        simp only [hcalled, Bool.false_eq_true, if_false]
        omega
    · rw [hreceived] at hcalled
      refine ⟨?_, ?_, ?_, ?_⟩
      all_goals
        simp only [hcalled, if_true]
        omega
  · -- the core refuses the update or does not know its order: the sink is not called
    dsimp only at hrisk hportfolio happlied hrefused
    refine ⟨?_, ?_, ?_, ?_⟩
    all_goals
      dsimp only
      omega

/-- An intent that a gate refuses is answered by an update. -/
theorem Balanced.riskReject {core : OrderManagerCore} {now : ℕ} {rest : List PendingIntent}
    {update : OrderStateUpdate} {reasonMessage : String}
    (h : { s with core := core }.Balanced left waiting 1) :
    ({ s with core := core }.riskReject config.counted now rest update reasonMessage).Balanced
      left waiting 0 := by
  have hhandled : ({ s with core := core }.handleUpdate config.counted now update).2.Balanced
      left waiting 0 := h.handleUpdate now update
  rw [OrderManager.riskReject]
  dsimp only
  split
  · exact ⟨hhandled.intents, hhandled.updates, hhandled.calls, hhandled.drops⟩
  · exact ⟨hhandled.intents, hhandled.updates, hhandled.calls, hhandled.drops⟩

theorem waiting_handleUpdate {config : OrderManagerConfig Text τ σ} {s : OrderManager Text τ σ}
    {now : ℕ} {update : OrderStateUpdate} :
    (s.handleUpdate config now update).2.waiting = s.waiting := by
  rw [waiting, waiting, handleUpdate]
  split <;> rfl

theorem waiting_riskReject {config : OrderManagerConfig Text τ σ} {s : OrderManager Text τ σ}
    {now : ℕ} {rest : List PendingIntent} {update : OrderStateUpdate} {reasonMessage : String} :
    (s.riskReject config now rest update reasonMessage).waiting = rest ++ s.outboundQueue := by
  have hqueue : (s.handleUpdate config now update).2.outboundQueue = s.outboundQueue := by
    rw [handleUpdate]
    split <;> rfl
  rw [OrderManager.riskReject]
  dsimp only
  split
  · exact congrArg (rest ++ ·) hqueue
  · exact congrArg (rest ++ ·) hqueue

/-- **An intent is refused** by one of the gates: it is not waiting any more, and its answer is
settled. -/
theorem Balanced.refused {core : OrderManagerCore} {now : ℕ} {rest : List PendingIntent}
    {update : OrderStateUpdate} {reasonMessage : String}
    (h : s.Balanced left ((rest ++ s.outboundQueue).length + 1) 0)
    (hrefused : core.riskRejectCount + core.portfolioRiskRejectCount =
      s.core.riskRejectCount + s.core.portfolioRiskRejectCount + 1)
    (happlied : core.transitionAppliedCount = s.core.transitionAppliedCount)
    (hrejected : core.transitionRejectCount = s.core.transitionRejectCount)
    (hunknown : core.unknownOrderUpdateCount = s.core.unknownOrderUpdateCount) :
    ({ s with core := core }.riskReject config.counted now rest update reasonMessage).Balanced left
      ({ s with core := core }.riskReject config.counted now rest update
        reasonMessage).waiting.length 0 := by
  obtain ⟨hintents, hupdates, hcalls, hdrops⟩ := h
  rw [waiting_riskReject]
  refine Balanced.riskReject ⟨?_, ?_, ?_, ?_⟩
  all_goals
    dsimp only
    omega

theorem Balanced.checkGlobalRisk {now : ℕ} {pending : PendingIntent} {rest : List PendingIntent}
    (h : s.Balanced left s.waiting.length 0) (hworker : s.worker = .draining (pending :: rest)) :
    (s.checkGlobalRisk config.counted now pending rest).Balanced left
      (s.checkGlobalRisk config.counted now pending rest).waiting.length 0 := by
  have hlength : s.waiting.length = (rest ++ s.outboundQueue).length + 1 := by
    rw [waiting, hworker]
    rfl
  rw [hlength] at h
  rw [OrderManager.checkGlobalRisk, OrderManagerCore.evaluateGlobalRisk,
    OrderManagerCore.evaluateGlobalRiskWith]
  split
  · exact ⟨h.intents, h.updates, h.calls, h.drops⟩
  · rename_i decision core hrefused
    split at hrefused
    · exact absurd hrefused (by simp)
    · obtain ⟨-, rfl⟩ := Prod.mk.inj hrefused
      exact h.refused (Nat.add_right_comm _ _ _) rfl rfl rfl

theorem Balanced.checkPortfolioRisk {now : ℕ} {pending : PendingIntent}
    {rest : List PendingIntent} (h : s.Balanced left s.waiting.length 0)
    (hworker : s.worker = .gated pending rest) :
    (s.checkPortfolioRisk config.counted now pending rest).Balanced left
      (s.checkPortfolioRisk config.counted now pending rest).waiting.length 0 := by
  have hlength : s.waiting.length = (rest ++ s.outboundQueue).length + 1 := by
    rw [waiting, hworker]
    rfl
  rw [hlength] at h
  rw [OrderManager.checkPortfolioRisk]
  split
  · -- without a provider of snapshots there is no second gate
    exact ⟨h.intents, h.updates, h.calls, h.drops⟩
  · dsimp only [OrderManagerCore.evaluatePortfolioRisk,
    OrderManagerCore.evaluatePortfolioRiskWith]
    split
    · exact ⟨h.intents, h.updates, h.calls, h.drops⟩
    · rename_i decision core hrefused
      split at hrefused
      · exact absurd hrefused (by simp)
      · obtain ⟨-, rfl⟩ := Prod.mk.inj hrefused
        exact h.refused rfl rfl rfl rfl

theorem Balanced.sendRequest {pending : PendingIntent} {rest : List PendingIntent}
    (h : s.Balanced left s.waiting.length 0) (hworker : s.worker = .cleared pending rest) :
    (s.sendRequest config.counted pending rest).Balanced left
      (s.sendRequest config.counted pending rest).waiting.length 0 := by
  have hlength : s.waiting.length = (rest ++ s.outboundQueue).length + 1 := by
    rw [waiting, hworker]
    rfl
  rw [hlength] at h
  obtain ⟨hintents, hupdates, hcalls, hdrops⟩ := h
  rw [OrderManager.sendRequest]
  split
  · refine ⟨?_, hupdates, hcalls, hdrops⟩
    dsimp only [sendFailed, waiting, Worker.batch]
    omega
  · dsimp only
    split
    · refine ⟨?_, hupdates, hcalls, hdrops⟩
      dsimp only [waiting, Worker.batch]
      omega
    · refine ⟨?_, hupdates, hcalls, hdrops⟩
      dsimp only [sendFailed, waiting, Worker.batch]
      omega

theorem Balanced.pumpIncomingUpdate {now : ℕ} (h : s.Balanced left s.waiting.length 0)
    (hworker : s.worker = .pumping) :
    (s.pumpIncomingUpdate config.counted now).Balanced left
      (s.pumpIncomingUpdate config.counted now).waiting.length 0 := by
  have hwaiting : s.waiting = s.outboundQueue := by
    rw [waiting, hworker]
    rfl
  rw [hwaiting] at h
  obtain ⟨hintents, hupdates, hcalls, hdrops⟩ := h
  rw [OrderManager.pumpIncomingUpdate]
  split
  · exact ⟨hintents, hupdates, hcalls, hdrops⟩
  · dsimp only
    split
    · -- a payload that cannot be read counts as received and as failed
      refine ⟨hintents, ?_, hcalls, hdrops⟩
      dsimp only
      omega
    · -- one update more is received, and the core is still to be given it
      rw [waiting_handleUpdate]
      apply Balanced.handleUpdate
      refine ⟨hintents, ?_, hcalls, hdrops⟩
      dsimp only
      omega

/-! ## Sessions -/

/-- A step that does not begin another session. -/
def SameSession (s : OrderManager Text τ σ) (input : OrderManagerInput) : Prop :=
  input = .start → s.worker ≠ .notJoinable

instance (s : OrderManager Text τ σ) (input : OrderManagerInput) :
    Decidable (SameSession s input) :=
  inferInstanceAs (Decidable (_ → _))

theorem Balanced.runWorker {now : ℕ} (h : s.Balanced left s.waiting.length 0)
    (hstep : s.runWorker config.counted now = some s') :
    s'.Balanced left s'.waiting.length 0 := by
  rw [OrderManager.runWorker] at hstep
  split at hstep
  · exact absurd hstep (by simp)
  · exact absurd hstep (by simp)
  · rename_i hworker
    rw [waiting, hworker] at h
    split at hstep
    · obtain rfl := Option.some.inj hstep
      exact ⟨h.intents, h.updates, h.calls, h.drops⟩
    · obtain rfl := Option.some.inj hstep
      exact ⟨h.intents, h.updates, h.calls, h.drops⟩
  · rename_i hworker
    rw [waiting, hworker] at h
    split at hstep
    · rename_i hqueue
      obtain rfl := Option.some.inj hstep
      exact ⟨h.intents, h.updates, h.calls, h.drops⟩
    · obtain rfl := Option.some.inj hstep
      rw [waiting]
      dsimp only [Worker.batch]
      rw [List.append_nil]
      exact ⟨h.intents, h.updates, h.calls, h.drops⟩
  · rename_i hworker
    rw [waiting, hworker] at h
    obtain rfl := Option.some.inj hstep
    exact ⟨h.intents, h.updates, h.calls, h.drops⟩
  · rename_i hworker
    obtain rfl := Option.some.inj hstep
    exact h.checkGlobalRisk hworker
  · rename_i hworker
    obtain rfl := Option.some.inj hstep
    exact h.checkPortfolioRisk hworker
  · rename_i hworker
    obtain rfl := Option.some.inj hstep
    exact h.sendRequest hworker
  · rename_i hworker
    split at hstep
    · exact absurd hstep (by simp)
    · obtain rfl := Option.some.inj hstep
      exact h.pumpIncomingUpdate hworker

theorem Balanced.submitBegin {thread : ThreadId} {intent : OrderIntent} {now : ℕ}
    (h : s.Balanced left s.waiting.length 0)
    (hstep : s.submitBegin config.counted thread intent now = some s') :
    s'.Balanced left s'.waiting.length 0 := by
  have hpushed := pushedCount_submitBegin hstep
  rw [OrderManager.submitBegin] at hstep
  split_ifs at hstep
  all_goals
    obtain rfl := Option.some.inj hstep
    exact ⟨hpushed.trans h.intents, h.updates, h.calls, h.drops⟩

theorem Balanced.submitTrack {thread : ThreadId} (h : s.Balanced left s.waiting.length 0)
    (hstep : s.submitTrack thread = some s') : s'.Balanced left s'.waiting.length 0 := by
  have hpushed := pushedCount_submitTrack hstep
  rw [OrderManager.submitTrack] at hstep
  split at hstep
  · rename_i pending hcall
    obtain ⟨message, hvalidate⟩ | ⟨-, hvalidate⟩ | ⟨order, -, hvalidate⟩ :=
      s.core.validateAndTrackSubmission_cases pending.requestId pending.intent
    all_goals
      rw [hvalidate] at hstep
      obtain rfl := Option.some.inj hstep
      exact ⟨hpushed.trans h.intents, h.updates, h.calls, h.drops⟩
  · exact absurd hstep (by simp)

/-- An intent joins the line, and waits. -/
theorem Balanced.submitEnqueue {thread : ThreadId} (h : s.Balanced left s.waiting.length 0)
    (hstep : s.submitEnqueue thread = some s') : s'.Balanced left s'.waiting.length 0 := by
  have hpushed := pushedCount_submitEnqueue hstep
  rw [OrderManager.submitEnqueue] at hstep
  split at hstep
  · rename_i pending hcall
    obtain rfl := Option.some.inj hstep
    obtain ⟨hintents, hupdates, hcalls, hdrops⟩ := h
    refine ⟨?_, hupdates, hcalls, hdrops⟩
    simp only [pushedCount] at hpushed
    simp only [waiting, List.length_append, List.length_singleton] at hintents ⊢
    omega
  · exact absurd hstep (by simp)

theorem Balanced.submitCount {thread : ThreadId} (h : s.Balanced left s.waiting.length 0)
    (hstep : s.submitCount thread = some s') : s'.Balanced left s'.waiting.length 0 := by
  have hpushed := pushedCount_submitCount hstep
  rw [OrderManager.submitCount] at hstep
  split at hstep
  · obtain rfl := Option.some.inj hstep
    exact ⟨hpushed.trans h.intents, h.updates, h.calls, h.drops⟩
  · exact absurd hstep (by simp)

/-- **One step of a session.** -/
theorem Balanced.step {input : OrderManagerInput} (h : s.Balanced left s.waiting.length 0)
    (hok : SameSession s input) (hstep : (machine config.counted).step s input = some s') :
    s'.Balanced left s'.waiting.length 0 := by
  cases input with
  | submitBegin thread intent now => exact h.submitBegin hstep
  | submitTrack thread => exact h.submitTrack hstep
  | submitEnqueue thread => exact h.submitEnqueue hstep
  | submitCount thread => exact h.submitCount hstep
  | start =>
    simp only [machine, start] at hstep
    rw [if_pos (hok rfl)] at hstep
    split_ifs at hstep
    obtain rfl := Option.some.inj hstep
    exact h
  | stopBegin =>
    simp only [machine, stopBegin] at hstep
    split_ifs at hstep
    all_goals
      obtain rfl := Option.some.inj hstep
      exact ⟨h.intents, h.updates, h.calls, h.drops⟩
  | stopClose =>
    simp only [machine, stopClose] at hstep
    split_ifs at hstep
    obtain rfl := Option.some.inj hstep
    exact ⟨h.intents, h.updates, h.calls, h.drops⟩
  | stopJoin =>
    simp only [machine, stopJoin] at hstep
    split_ifs at hstep with hexited
    obtain rfl := Option.some.inj hstep
    have hworker : s.worker = .exited := not_not.mp fun hne ↦ hexited (.inr hne)
    rw [waiting, hworker] at h
    exact ⟨h.intents, h.updates, h.calls, h.drops⟩
  | worker now => exact h.runWorker hstep

/-- The counters of a session that begins with an empty queue. -/
theorem balanced_start (hstopped : s.worker = .notJoinable) (hqueue : s.outboundQueue = [])
    (hcalls : s.sink.2 = {}) (hstart : s.start config.counted = some s') :
    s'.Balanced (uncountedCalls s.submits) s'.waiting.length 0 := by
  rw [start, if_neg (not_not.mpr hstopped)] at hstart
  split at hstart
  · exact absurd hstart (by simp)
  have hnone : s.sink.2.calls = 0 := congrArg SinkCalls.calls hcalls
  have hdrops : 0 = 0 + 0 + s.sink.2.refused := by
    rw [hcalls]
    rfl
  have hintents : 0 + uncountedCalls s.submits = uncountedCalls s.submits + 0 + 0 + 0 + 0 + 0 :=
    Nat.zero_add _
  dsimp only at hstart
  -- connected or not, the counters begin at zero
  split at hstart
  · obtain rfl := Option.some.inj hstart
    rw [waiting]
    dsimp only
    rw [hqueue]
    exact ⟨hintents, rfl, hnone, hdrops⟩
  · obtain rfl := Option.some.inj hstart
    rw [waiting]
    dsimp only
    rw [hqueue, hstopped]
    exact ⟨hintents, rfl, hnone, hdrops⟩

/-- **Every state of a session.** -/
theorem Balanced.of_reachesVia (h : s.Balanced left s.waiting.length 0)
    (hrun : (machine config.counted).ReachesVia SameSession s s') :
    s'.Balanced left s'.waiting.length 0 := by
  induction hrun with
  | refl => exact h
  | tail _ hok hstep ih => exact ih.step hok hstep

/-! ## Without the calls

Nothing but the sink looks at the count of its calls, so each session is one in which they are
counted, with the count left out. -/

/-- The order manager without the count of the calls of its sink. -/
def withoutCalls (s : OrderManager Text τ (σ × SinkCalls)) : OrderManager Text τ σ :=
  { s with sink := s.sink.1 }

theorem handleUpdate_withoutCalls (s : OrderManager Text τ (σ × SinkCalls)) (now : ℕ)
    (update : OrderStateUpdate) :
    s.withoutCalls.handleUpdate config now update =
      ((s.handleUpdate config.counted now update).1,
        (s.handleUpdate config.counted now update).2.withoutCalls) := by
  rw [handleUpdate, handleUpdate]
  dsimp only [withoutCalls]
  split <;> rfl

theorem riskReject_withoutCalls (s : OrderManager Text τ (σ × SinkCalls)) (now : ℕ)
    (rest : List PendingIntent) (update : OrderStateUpdate) (reasonMessage : String) :
    s.withoutCalls.riskReject config now rest update reasonMessage =
      (s.riskReject config.counted now rest update reasonMessage).withoutCalls := by
  rw [riskReject, riskReject, handleUpdate_withoutCalls]
  dsimp only
  split <;> rfl

theorem checkGlobalRisk_withoutCalls (s : OrderManager Text τ (σ × SinkCalls)) (now : ℕ)
    (pending : PendingIntent) (rest : List PendingIntent) :
    s.withoutCalls.checkGlobalRisk config now pending rest =
      (s.checkGlobalRisk config.counted now pending rest).withoutCalls := by
  rw [checkGlobalRisk, checkGlobalRisk, withoutCalls]
  dsimp only
  split
  · rfl
  · rename_i core _
    exact riskReject_withoutCalls { s with core := core } ..

theorem checkPortfolioRisk_withoutCalls (s : OrderManager Text τ (σ × SinkCalls)) (now : ℕ)
    (pending : PendingIntent) (rest : List PendingIntent) :
    s.withoutCalls.checkPortfolioRisk config now pending rest =
      (s.checkPortfolioRisk config.counted now pending rest).withoutCalls := by
  rw [checkPortfolioRisk, checkPortfolioRisk, OrderManagerConfig.counted]
  dsimp only
  cases config.portfolioSnapshotProvider with
  | none => rfl
  | some provider =>
    dsimp only [Option.map_some, withoutCalls, IPortfolioRiskSnapshotProvider.counted]
    split
    · rfl
    · rename_i core _
      exact riskReject_withoutCalls { s with core := core } ..

theorem sendRequest_withoutCalls (s : OrderManager Text τ (σ × SinkCalls))
    (pending : PendingIntent) (rest : List PendingIntent) :
    s.withoutCalls.sendRequest config pending rest =
      (s.sendRequest config.counted pending rest).withoutCalls := by
  rw [sendRequest, sendRequest, OrderManagerConfig.counted]
  dsimp only [withoutCalls]
  split
  · rfl
  · split <;> rfl

theorem pumpIncomingUpdate_withoutCalls (s : OrderManager Text τ (σ × SinkCalls)) (now : ℕ) :
    s.withoutCalls.pumpIncomingUpdate config now =
      (s.pumpIncomingUpdate config.counted now).withoutCalls := by
  have hhandled : ∀ (received : OrderManager Text τ (σ × SinkCalls)) (update : OrderStateUpdate),
      (received.withoutCalls.handleUpdate config now update).2 =
        (received.handleUpdate config.counted now update).2.withoutCalls := fun received update ↦ by
    rw [handleUpdate_withoutCalls]
  rw [pumpIncomingUpdate, pumpIncomingUpdate, OrderManagerConfig.counted]
  dsimp only [withoutCalls]
  split
  · rfl
  · rename_i payload transport _
    split
    · rfl
    · exact hhandled { s with
        worker := .loop
        transport := transport
        counters := { s.counters with receiveCount := s.counters.receiveCount + 1 } } _

theorem runWorker_withoutCalls (s : OrderManager Text τ (σ × SinkCalls)) (now : ℕ) :
    s.withoutCalls.runWorker config now = (s.runWorker config.counted now).map withoutCalls := by
  have hworker : s.withoutCalls.worker = s.worker := rfl
  rw [runWorker, runWorker, hworker]
  split
  · rfl
  · rfl
  · have hstop : s.withoutCalls.stopRequested = s.stopRequested := rfl
    rw [hstop]
    split <;> rfl
  · dsimp only [withoutCalls]
    split <;> rfl
  · rfl
  · exact congrArg some (checkGlobalRisk_withoutCalls ..)
  · exact congrArg some (checkPortfolioRisk_withoutCalls ..)
  · exact congrArg some (sendRequest_withoutCalls ..)
  · have hblocks : config.transport.recvBlocks s.withoutCalls.transport =
        config.counted.transport.recvBlocks s.transport := rfl
    rw [hblocks]
    split
    · rfl
    · exact congrArg some (pumpIncomingUpdate_withoutCalls ..)

theorem step_withoutCalls (s : OrderManager Text τ (σ × SinkCalls)) (input : OrderManagerInput) :
    (machine config).step s.withoutCalls input =
      ((machine config.counted).step s input).map withoutCalls := by
  cases input with
  | submitBegin thread intent now =>
    dsimp only [machine, submitBegin, withoutCalls, OrderManagerConfig.counted]
    split_ifs <;> rfl
  | submitTrack thread =>
    dsimp only [machine, submitTrack, withoutCalls]
    split
    · split <;> rfl
    · rfl
  | submitEnqueue thread =>
    dsimp only [machine, submitEnqueue, withoutCalls]
    split <;> rfl
  | submitCount thread =>
    dsimp only [machine, submitCount, withoutCalls]
    split <;> rfl
  | start =>
    dsimp only [machine, start, withoutCalls, OrderManagerConfig.counted]
    split_ifs <;> rfl
  | stopBegin =>
    dsimp only [machine, stopBegin, withoutCalls]
    split_ifs <;> rfl
  | stopClose =>
    dsimp only [machine, stopClose, withoutCalls, OrderManagerConfig.counted]
    split_ifs <;> rfl
  | stopJoin =>
    dsimp only [machine, stopJoin, withoutCalls]
    split_ifs <;> rfl
  | worker now => exact runWorker_withoutCalls s now

/-- **The submissions of a session**, whether the calls of the sink are counted or not. -/
theorem pushedCount_of_session {s₀ s₁ s : OrderManager Text τ σ}
    (hstopped : s₀.worker = .notJoinable) (hqueue : s₀.outboundQueue = [])
    (hstart : s₀.start config = some s₁)
    (hrun : (machine config).ReachesVia SameSession s₁ s) :
    s.pushedCount = uncountedCalls s₀.submits + s.waiting.length + s.counters.sentCount +
      s.counters.sendFailedCount + s.core.riskRejectCount + s.core.portfolioRiskRejectCount := by
  have hfirst : s₀.start config =
      (start config.counted { s₀ with sink := (s₀.sink, {}) }).map withoutCalls :=
    step_withoutCalls { s₀ with sink := (s₀.sink, {}) } .start
  obtain ⟨counted₁, hcounted, rfl⟩ := Option.map_eq_some_iff.mp (hfirst.symm.trans hstart)
  obtain ⟨counted, hreaches, rfl⟩ := hrun.lift withoutCalls step_withoutCalls fun _ _ hok ↦ hok
  exact ((balanced_start hstopped hqueue rfl hcounted).of_reachesVia hreaches).intents

/-- The four equations of a session. -/
structure Accounts (s : OrderManager Text τ (σ × SinkCalls)) : Prop where
  /-- No intent is lost or counted twice. -/
  intents : s.counters.submittedCount = s.outboundQueue.length + s.counters.sentCount +
    s.counters.sendFailedCount + s.core.riskRejectCount + s.core.portfolioRiskRejectCount
  /-- No update is. -/
  updates : (s.counters.receiveCount : ℤ) - s.counters.parseFailedCount + s.core.riskRejectCount +
      s.core.portfolioRiskRejectCount =
    s.core.transitionAppliedCount + s.core.transitionRejectCount + s.core.unknownOrderUpdateCount
  calls : s.sink.2.calls = s.core.transitionAppliedCount
  drops : s.counters.updateDropCount = s.core.transitionRejectCount +
    s.core.unknownOrderUpdateCount + s.sink.2.refused

end OrderManager

namespace OrderManager

open Trader

end OrderManager

end TradingEngine
