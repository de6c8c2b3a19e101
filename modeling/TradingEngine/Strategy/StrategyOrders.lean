import TradingEngine.Apps.Trader
import TradingEngine.Strategy.OrderFlow

/-!
# From the strategies to the transport

A strategy decides on intents; some are refused by the gate of the shard, some by the order manager
when they are submitted, some by its gates, and some cannot be sent. The others are sent, and what
is sent for a shard is sent in the order in which its strategy decided on it, whatever the other
shards do meanwhile (`orders_in_strategy_order`): the payload that the transport takes is the
encoding of the intent. Nothing is sent that no strategy decided on, and nothing that the gate of
the shard did not let through at an earlier moment of the run, for the snapshot that it was given
then.

`ShardView` is what concerns one shard. Its invariant says where every intent is that the strategy
of the shard decided on.
-/

namespace TradingEngine

/-- The intents that an answer asks for. -/
def StrategyAnswer.intents (answer : StrategyAnswer) : List OrderIntent :=
  match answer.outcome with
  | .decided intents => intents.map (completeIntent answer.event)
  | .threw _ => []

/-! ## One shard -/

/-- What concerns one shard. -/
structure ShardView where
  runner : StrategyRunner := {}
  sinkCall : SinkCall := .idle
  submit : Option SubmitCall := none
  asked : List StrategyAnswer := []
  enqueued : List PendingIntent := []

namespace ShardView

/-- Whether the intent in hand is in the queue already, which the runner does not know yet. -/
def entered (view : ShardView) : ℕ :=
  match view.sinkCall with
  | .submitting => view.submit.elim 0 SubmitCall.uncounted
  | .accepted => 1
  | .idle | .refused | .reporting => 0

/-- The intents that the strategy decided on. -/
def decided (view : ShardView) : List OrderIntent := view.asked.flatMap StrategyAnswer.intents

/-- Those of them that are neither enqueued nor refused. -/
def toCome (view : ShardView) : List OrderIntent :=
  match view.runner.call with
  | .emitting event rest => rest.map (completeIntent event)
  | .judging event intent rest => intent :: rest.map (completeIntent event)
  | .submitting event intent rest =>
    if view.entered = 0 then intent :: rest.map (completeIntent event)
    else rest.map (completeIntent event)
  | .idle | .deciding _ | .returned _ => []

def refused (view : ShardView) : ℕ :=
  view.runner.stats.riskRejectCount + view.runner.stats.sinkRejectCount

/-- Where the sink is, and what the order manager knows of the call. -/
def SinkAgrees (view : ShardView) : Prop :=
  match view.sinkCall with
  | .idle => view.submit = none
  | .submitting => ∃ call event intent rest, view.submit = some call ∧
      view.runner.call = .submitting event intent rest ∧
      ∀ pending ∈ call.pending, pending.intent.untimed = intent.untimed
  | .accepted | .refused | .reporting => view.submit = none ∧
      ∃ event intent rest, view.runner.call = .submitting event intent rest

/-- `passes` is what the gate of the shard is to say of the intents that enter the queue. -/
structure Inv (passes : OrderIntent → Prop) (view : ShardView) : Prop where
  sink : view.SinkAgrees
  /-- Every intent is enqueued, refused or still to come. -/
  enqueued : ∃ done : List OrderIntent, view.decided = done ++ view.toCome ∧
    Thinned (done.map OrderIntent.untimed)
      (view.enqueued.map fun pending ↦ pending.intent.untimed) view.refused
  passed : ∀ pending ∈ view.enqueued, passes pending.intent
  submitting : ∀ event intent rest, view.runner.call = .submitting event intent rest →
    passes intent
  accounted : view.runner.Accounted
  /-- What entered the queue is counted as submitted, but for the intent that has just done so. -/
  counted : view.enqueued.length = view.runner.stats.intentsSubmittedCount + view.entered

variable {passes passes' : OrderIntent → Prop} {view : ShardView}

theorem inv_empty : Inv passes {} where
  sink := rfl
  enqueued := ⟨[], rfl, .nil⟩
  passed _ hpending := absurd hpending List.not_mem_nil
  submitting _ _ _ hcall := by cases hcall
  accounted := ⟨rfl, le_rfl⟩
  counted := rfl

theorem Inv.mono (h : view.Inv passes) (hle : ∀ intent, passes intent → passes' intent) :
    view.Inv passes' :=
  ⟨h.sink, h.enqueued, fun pending hpending ↦ hle _ (h.passed pending hpending),
    fun event intent rest hat ↦ hle _ (h.submitting event intent rest hat), h.accounted, h.counted⟩

/-- The runner goes on; nothing is decided, enqueued or refused. -/
theorem Inv.withRunner {runner : StrategyRunner} (h : view.Inv passes)
    (hsink : { view with runner := runner }.SinkAgrees)
    (hcome : { view with runner := runner }.toCome = view.toCome)
    (hrefused : { view with runner := runner }.refused = view.refused)
    (hsubmitted : runner.stats.intentsSubmittedCount = view.runner.stats.intentsSubmittedCount)
    (hsubmitting : ∀ event intent rest, runner.call = .submitting event intent rest →
      passes intent)
    (haccounted : runner.Accounted) : { view with runner := runner }.Inv passes := by
  obtain ⟨done, hdecided, hthin⟩ := h.enqueued
  refine ⟨hsink, ⟨done, ?_, ?_⟩, h.passed, hsubmitting, haccounted, ?_⟩
  · rw [hcome]
    exact hdecided
  · rw [hrefused]
    exact hthin
  · rw [hsubmitted]
    exact h.counted

/-- Outside the sink the order manager knows nothing of the shard. -/
theorem SinkAgrees.idle (h : view.SinkAgrees)
    (hcall : ∀ event intent rest, view.runner.call ≠ .submitting event intent rest) :
    view.sinkCall = .idle ∧ view.submit = none := by
  rw [SinkAgrees] at h
  split at h
  · rename_i hat
    exact ⟨hat, h⟩
  · obtain ⟨_, event, intent, rest, -, hsubmitting, -⟩ := h
    exact absurd hsubmitting (hcall event intent rest)
  all_goals
    obtain ⟨-, event, intent, rest, hsubmitting⟩ := h
    exact absurd hsubmitting (hcall event intent rest)

theorem entered_of_idle (hidle : view.sinkCall = .idle) : view.entered = 0 := by
  rw [entered, hidle]

theorem sinkAgrees_of_idle (hidle : view.sinkCall = .idle) (hnone : view.submit = none) :
    view.SinkAgrees := by
  rw [SinkAgrees, hidle]
  exact hnone

theorem Inv.onEvent {runner : StrategyRunner} {event : NormalizedEvent} (h : view.Inv passes)
    (hstep : view.runner.onEvent event = some runner) :
    { view with runner := runner }.Inv passes := by
  have haccounted := h.accounted.onEvent hstep
  rw [StrategyRunner.onEvent] at hstep
  split at hstep
  · rename_i hat
    obtain ⟨hidle, hnone⟩ := h.sink.idle (by simp [hat])
    obtain rfl := Option.some.inj hstep
    refine h.withRunner (sinkAgrees_of_idle hidle hnone) ?_ rfl rfl (by simp) haccounted
    rw [toCome, toCome, hat]
  · exact absurd hstep (by simp)

/-- A handler returns without asking the strategy, or after it is done with the answer. -/
theorem Inv.return {call : RunnerCall} (h : view.Inv passes)
    (hcall : view.runner.call = .idle ∨ ∃ result, view.runner.call = .returned result)
    (hnext : call = .idle ∨ ∃ result, call = .returned result) :
    { view with runner := { view.runner with call := call } }.Inv passes := by
  have hbefore : view.toCome = [] ∧ view.runner.call.inHand = 0 ∧
      view.runner.call.isDeciding = 0 := by
    rw [toCome]
    rcases hcall with hat | ⟨result, hat⟩
    all_goals
      rw [hat]
      exact ⟨rfl, rfl, rfl⟩
  obtain ⟨hcome, hhand, hdeciding⟩ := hbefore
  obtain ⟨hidle, hnone⟩ := h.sink.idle fun event intent rest hat ↦ by
    rcases hcall with hat' | ⟨result, hat'⟩
    all_goals
      rw [hat'] at hat
      cases hat
  obtain ⟨hemitted, herrors⟩ := h.accounted
  rw [hhand] at hemitted
  rw [hdeciding] at herrors
  have hsink : { view with runner := { view.runner with call := call } }.SinkAgrees :=
    sinkAgrees_of_idle hidle hnone
  rcases hnext with rfl | ⟨result, rfl⟩
  all_goals
    refine h.withRunner hsink ?_ rfl rfl (by simp) ⟨hemitted, herrors⟩
    rw [hcome]
    rfl

/-- The strategy decides. -/
theorem Inv.decide {runner : StrategyRunner} {event : NormalizedEvent} {outcome : StrategyOutcome}
    (h : view.Inv passes) (hat : view.runner.call = .deciding event)
    (hstep : view.runner.decide outcome = some runner) :
    { view with
      runner := runner
      asked := view.asked ++ [{ event, outcome : StrategyAnswer }] }.Inv passes := by
  have haccounted := h.accounted.decide hstep
  obtain ⟨hidle, hnone⟩ := h.sink.idle (by simp [hat])
  obtain ⟨done, hdecided, hthin⟩ := h.enqueued
  rw [toCome, hat, List.append_nil] at hdecided
  rw [StrategyRunner.decide, hat] at hstep
  have hasked : ({ view with
      runner := runner
      asked := view.asked ++ [{ event, outcome : StrategyAnswer }] } : ShardView).decided =
        done ++ StrategyAnswer.intents ⟨event, outcome⟩ := by
    rw [decided, List.flatMap_append, ← decided, hdecided, List.flatMap_singleton]
  cases outcome with
  | decided intents =>
    obtain rfl := Option.some.inj hstep
    exact ⟨sinkAgrees_of_idle hidle hnone, ⟨done, hasked, hthin⟩, h.passed, by simp, haccounted,
      h.counted⟩
  | threw what =>
    obtain rfl := Option.some.inj hstep
    exact ⟨sinkAgrees_of_idle hidle hnone, ⟨done, hasked, hthin⟩, h.passed, by simp, haccounted,
      h.counted⟩

/-- The next intent, which goes to the gate if there is one. -/
theorem Inv.emit {runner : StrategyRunner} {hasGate : Bool} (h : view.Inv passes)
    (hnone : hasGate = false → ∀ intent, passes intent)
    (hstep : view.runner.emit hasGate = some runner) :
    { view with runner := runner }.Inv passes := by
  have haccounted := h.accounted.emit hstep
  rw [StrategyRunner.emit] at hstep
  split at hstep
  · rename_i hat
    obtain ⟨hidle, hfree⟩ := h.sink.idle (by simp [hat])
    obtain rfl := Option.some.inj hstep
    refine h.withRunner (sinkAgrees_of_idle hidle hfree) ?_ rfl rfl (by simp) haccounted
    rw [toCome, toCome, hat]
    rfl
  · rename_i event intent rest hat
    obtain ⟨hidle, hfree⟩ := h.sink.idle (by simp [hat])
    obtain rfl := Option.some.inj hstep
    cases hasGate with
    | false =>
      refine h.withRunner (sinkAgrees_of_idle hidle hfree) ?_ rfl rfl
        (fun _ intent _ _ ↦ hnone rfl intent) haccounted
      rw [toCome, toCome, hat]
      exact if_pos (entered_of_idle hidle)
    | true =>
      refine h.withRunner (sinkAgrees_of_idle hidle hfree) ?_ rfl rfl (by simp) haccounted
      rw [toCome, toCome, hat]
      rfl
  · exact absurd hstep (by simp)

/-- What is refused was the first of the intents to come. -/
theorem Inv.refuse (runner : StrategyRunner) (sinkCall : SinkCall) (intent : OrderIntent)
    (h : view.Inv passes)
    (hsink : { view with runner := runner, sinkCall := sinkCall }.SinkAgrees)
    (hcome : view.toCome = intent :: { view with runner := runner, sinkCall := sinkCall }.toCome)
    (hrefused : { view with runner := runner, sinkCall := sinkCall }.refused = view.refused + 1)
    (hsubmitting : ∀ event intent rest, runner.call ≠ .submitting event intent rest)
    (haccounted : runner.Accounted)
    (hcounted : runner.stats.intentsSubmittedCount +
        { view with runner := runner, sinkCall := sinkCall }.entered =
      view.runner.stats.intentsSubmittedCount + view.entered) :
    { view with runner := runner, sinkCall := sinkCall }.Inv passes := by
  obtain ⟨done, hdecided, hthin⟩ := h.enqueued
  refine ⟨hsink, ⟨done ++ [intent], ?_, ?_⟩, h.passed,
    fun event intent rest hat ↦ absurd hat (hsubmitting event intent rest), haccounted,
    h.counted.trans hcounted.symm⟩
  · rw [List.append_assoc, List.singleton_append, ← hcome]
    exact hdecided
  · rw [hrefused, List.map_append]
    exact hthin.lose intent.untimed

/-- The gate judges. -/
theorem Inv.judge {runner : StrategyRunner} {shardRisk : ShardRiskConfig}
    {snapshot : ShardRiskSnapshot} {event : NormalizedEvent} {intent : OrderIntent}
    {rest : List OrderIntent} (h : view.Inv passes)
    (hat : view.runner.call = .judging event intent rest)
    (hpasses : (ShardRiskGate.evaluate shardRisk intent snapshot).allow = true → passes intent)
    (hstep : view.runner.judge shardRisk snapshot = some runner) :
    { view with runner := runner }.Inv passes := by
  have haccounted := h.accounted.judge hstep
  obtain ⟨hidle, hnone⟩ := h.sink.idle (by simp [hat])
  rw [StrategyRunner.judge, hat] at hstep
  dsimp only at hstep
  split at hstep
  · rename_i hallow
    obtain rfl := Option.some.inj hstep
    refine h.withRunner (sinkAgrees_of_idle hidle hnone) ?_ rfl rfl ?_ haccounted
    · rw [toCome, toCome, hat]
      exact if_pos (entered_of_idle hidle)
    · intro event' intent' rest' hat'
      obtain ⟨-, rfl, -⟩ := RunnerCall.submitting.inj hat'
      exact hpasses hallow
  · obtain rfl := Option.some.inj hstep
    refine h.refuse _ view.sinkCall intent (sinkAgrees_of_idle hidle hnone) ?_ ?_ (by simp)
      haccounted rfl
    · rw [toCome, toCome, hat]
    · exact Nat.add_right_comm _ _ _

/-! ### Inside the sink -/

/-- A region of `submit` begins the call, goes on with it, or ends it without success. -/
theorem Inv.region {event : NormalizedEvent} {intent : OrderIntent} {rest : List OrderIntent}
    (submit : Option SubmitCall) (h : view.Inv passes)
    (hat : view.runner.call = .submitting event intent rest) (hentered : view.entered = 0)
    (hsubmit : ∀ call ∈ submit, call.uncounted = 0 ∧
      ∀ pending ∈ call.pending, pending.intent.untimed = intent.untimed) :
    { view with
      sinkCall := if submit.isSome then .submitting else .refused
      submit := submit }.Inv passes := by
  obtain ⟨done, hdecided, hthin⟩ := h.enqueued
  rw [toCome, hat] at hdecided
  dsimp only at hdecided
  rw [if_pos hentered] at hdecided
  have hcounted := h.counted
  rw [hentered] at hcounted
  cases submit with
  | none =>
    refine ⟨⟨rfl, event, intent, rest, hat⟩, ⟨done, ?_, hthin⟩, h.passed, h.submitting,
      h.accounted, hcounted⟩
    rw [toCome, hat]
    exact hdecided
  | some call =>
    obtain ⟨huncounted, huntimed⟩ := hsubmit call rfl
    have hafter : { view with
        sinkCall := .submitting
        submit := some call : ShardView }.entered = 0 := huncounted
    refine ⟨⟨call, event, intent, rest, rfl, hat, huntimed⟩, ⟨done, ?_, hthin⟩, h.passed,
      h.submitting, h.accounted, hcounted.trans (congrArg _ hafter.symm)⟩
    rw [toCome, hat]
    exact hdecided.trans (congrArg _ (if_pos hafter).symm)

/-- The intent enters the queue. -/
theorem Inv.enqueue {pending : PendingIntent} (h : view.Inv passes)
    (huntimed : ∀ {intent intent' : OrderIntent}, intent.untimed = intent'.untimed →
      passes intent → passes intent')
    (hsubmitting : view.sinkCall = .submitting)
    (hsubmit : view.submit = some (.enqueuing pending)) :
    { view with
      submit := some (.counting pending.requestId)
      enqueued := view.enqueued ++ [pending] }.Inv passes := by
  have hsink := h.sink
  rw [SinkAgrees, hsubmitting] at hsink
  obtain ⟨call, event, intent, rest, hcall, hat, hsame⟩ := hsink
  obtain rfl := Option.some.inj (hsubmit.symm.trans hcall)
  have hintent : pending.intent.untimed = intent.untimed := hsame pending rfl
  have hbefore : view.entered = 0 := by
    rw [entered, hsubmitting, hsubmit]
    rfl
  have hafter : { view with
      submit := some (.counting pending.requestId)
      enqueued := view.enqueued ++ [pending] }.entered = 1 := by
    rw [entered, hsubmitting]
    rfl
  obtain ⟨done, hdecided, hthin⟩ := h.enqueued
  rw [toCome, hat] at hdecided
  dsimp only at hdecided
  rw [if_pos hbefore] at hdecided
  refine ⟨?_, ⟨done ++ [intent], ?_, ?_⟩, ?_, h.submitting, h.accounted, ?_⟩
  · rw [SinkAgrees, hsubmitting]
    exact ⟨_, event, intent, rest, rfl, hat, by simp [SubmitCall.pending]⟩
  · rw [toCome, hat, List.append_assoc]
    dsimp only
    rw [hafter]
    exact hdecided
  · rw [List.map_append, List.map_append, List.map_singleton, List.map_singleton, hintent]
    exact hthin.keep intent.untimed
  · intro pending' hpending
    rcases List.mem_append.mp hpending with hold | hnew
    · exact h.passed pending' hold
    · rw [List.mem_singleton.mp hnew]
      exact huntimed hintent.symm (h.submitting event intent rest hat)
  · rw [List.length_append, h.counted, hbefore, hafter]
    rfl

/-- The intent is counted, and the call of `submit` returns. -/
theorem Inv.count {requestId : ℕ} (h : view.Inv passes) (hsubmitting : view.sinkCall = .submitting)
    (hsubmit : view.submit = some (.counting requestId)) :
    { view with sinkCall := .accepted, submit := none }.Inv passes := by
  have hsink := h.sink
  rw [SinkAgrees, hsubmitting] at hsink
  obtain ⟨call, event, intent, rest, -, hat, -⟩ := hsink
  have hsame : { view with sinkCall := .accepted, submit := none : ShardView }.entered =
      view.entered := by
    rw [entered, entered, hsubmitting, hsubmit]
    rfl
  obtain ⟨done, hdecided, hthin⟩ := h.enqueued
  refine ⟨⟨rfl, event, intent, rest, hat⟩, ⟨done, ?_, hthin⟩, h.passed, h.submitting, h.accounted,
    by rw [hsame]; exact h.counted⟩
  rw [toCome, hat] at hdecided ⊢
  dsimp only at hdecided ⊢
  rw [hsame]
  exact hdecided

/-- The sink returns to the runner. -/
theorem Inv.hearSink {runner : StrategyRunner} (submitted : Bool) {sinkError : String}
    (h : view.Inv passes)
    (hsink : view.sinkCall = if submitted then .accepted else .reporting)
    (hstep : view.runner.hearSink submitted sinkError = some runner) :
    { view with runner := runner, sinkCall := .idle }.Inv passes := by
  have haccounted := h.accounted.hearSink hstep
  have hnone : view.submit = none := by
    have hagrees := h.sink
    rw [SinkAgrees, hsink] at hagrees
    cases submitted with
    | true => exact hagrees.1
    | false => exact hagrees.1
  have hentered : view.entered = if submitted then 1 else 0 := by
    rw [entered, hsink]
    cases submitted with
    | true => rfl
    | false => rfl
  rw [StrategyRunner.hearSink] at hstep
  split at hstep
  · rename_i event intent rest hat
    obtain ⟨done, hdecided, hthin⟩ := h.enqueued
    rw [toCome, hat] at hdecided
    dsimp only at hdecided
    split at hstep
    · rename_i htrue
      rw [if_pos htrue] at hentered
      obtain rfl := Option.some.inj hstep
      rw [hentered] at hdecided
      have hcounted := h.counted
      rw [hentered] at hcounted
      exact ⟨hnone, ⟨done, hdecided, hthin⟩, h.passed, by simp, haccounted, hcounted⟩
    · rename_i hfalse
      rw [if_neg hfalse] at hentered
      obtain rfl := Option.some.inj hstep
      refine h.refuse _ .idle intent (sinkAgrees_of_idle rfl hnone) ?_ rfl (by simp)
        haccounted (by rw [hentered]; rfl)
      rw [toCome, toCome, hat]
      exact if_pos hentered
  · exact absurd hstep (by simp)

theorem Inv.report (h : view.Inv passes) (hrefused : view.sinkCall = .refused) :
    { view with sinkCall := .reporting }.Inv passes := by
  have hsink := h.sink
  rw [SinkAgrees, hrefused] at hsink
  obtain ⟨hnone, event, intent, rest, hat⟩ := hsink
  have hsame : { view with sinkCall := .reporting }.entered = view.entered := by
    rw [entered, entered, hrefused]
  obtain ⟨done, hdecided, hthin⟩ := h.enqueued
  refine ⟨⟨hnone, event, intent, rest, hat⟩, ⟨done, ?_, hthin⟩, h.passed, h.submitting,
    h.accounted, by rw [hsame]; exact h.counted⟩
  rw [toCome, hat] at hdecided ⊢
  dsimp only at hdecided ⊢
  rw [hsame]
  exact hdecided

end ShardView

/-! ## All shards -/

namespace OrderFlow

variable {Text τ σ : Type*} {config : OrderFlowConfig Text τ σ} {s s' : OrderFlow Text τ σ}

/-- What entered the queue for a shard. -/
def enqueuedOf (s : OrderFlow Text τ σ) (shardId : ℕ) : List PendingIntent :=
  (s.enqueued.filter fun entry ↦ entry.shardId = shardId).map EnqueuedIntent.pending

def view (s : OrderFlow Text τ σ) (shardId : ℕ) : ShardView where
  runner := s.runners shardId
  sinkCall := s.sinkCalls shardId
  submit := s.manager.submits.lookup shardId
  asked := s.asked shardId
  enqueued := s.enqueuedOf shardId

/-- The payload of the request is the encoding of this intent. -/
def Encodes (adapter : IExchangeOmsAdapter Text) (pending : PendingIntent) (request : ℕ × Text) :
    Prop :=
  request.1 = pending.requestId ∧ adapter.buildRequest pending.intent = .ok request.2

/-- What entered the queue is settled or waits. What was sent was settled in this order, and went
out as its own encoding. -/
def InLine (config : OrderFlowConfig Text τ σ) (s : OrderFlow Text τ σ) : Prop :=
  ∃ settled sent, s.enqueued.map EnqueuedIntent.pending = settled ++ s.manager.waiting ∧
    sent.Sublist settled ∧
    List.Forall₂ (Encodes config.orderManager.adapter) sent s.manager.sentRequests

structure Inv (config : OrderFlowConfig Text τ σ) (passes : ℕ → OrderIntent → Prop)
    (s : OrderFlow Text τ σ) : Prop where
  shard : ∀ i, (s.view i).Inv (passes i)
  line : s.InLine config

variable {passes passes' : ℕ → OrderIntent → Prop}

theorem inv_create (transport : τ) (sink : σ) :
    (create config transport sink).Inv config passes where
  shard _ := ShardView.inv_empty
  line := ⟨[], [], rfl, .slnil, .nil⟩

theorem Inv.mono (h : s.Inv config passes) (hle : ∀ i intent, passes i intent → passes' i intent) :
    s.Inv config passes' :=
  ⟨fun i ↦ (h.shard i).mono (hle i), h.line⟩

/-- One shard moves. -/
theorem Inv.moves (i : ℕ) {view : ShardView} (h : s.Inv config passes) (hinv : view.Inv (passes i))
    (hview : s'.view i = view) (hother : ∀ j ≠ i, s'.view j = s.view j) (hline : s'.InLine config) :
    s'.Inv config passes where
  shard j := by
    by_cases hj : j = i
    · rw [hj, hview]
      exact hinv
    · rw [hother j hj]
      exact h.shard j
  line := hline

theorem Inv.setRunner {i : ℕ} {runner : StrategyRunner} (h : s.Inv config passes)
    (hinv : { s.view i with runner := runner }.Inv (passes i)) :
    (s.setRunner i runner).Inv config passes := by
  refine h.moves i hinv ?_ (fun j hj ↦ ?_) h.line
  · simp [view, OrderFlow.setRunner, enqueuedOf]
  · simp [view, OrderFlow.setRunner, enqueuedOf, hj]

theorem Inv.onEvent {i : ℕ} {event : NormalizedEvent} (h : s.Inv config passes)
    (hstep : s.onEvent config i event = some s') : s'.Inv config passes := by
  rw [OrderFlow.onEvent] at hstep
  split at hstep
  · obtain ⟨runner, hrunner, rfl⟩ := Option.map_eq_some_iff.mp hstep
    exact h.setRunner ((h.shard i).onEvent hrunner)
  · split at hstep
    · rename_i hat
      obtain rfl := Option.some.inj hstep
      exact h.setRunner ((h.shard i).return (.inl hat) (.inr ⟨_, rfl⟩))
    · exact absurd hstep (by simp)

theorem Inv.finish {i : ℕ} (h : s.Inv config passes) (hstep : s.finish i = some s') :
    s'.Inv config passes := by
  rw [OrderFlow.finish] at hstep
  split at hstep
  · rename_i result hat
    obtain rfl := Option.some.inj hstep
    exact h.setRunner ((h.shard i).return (.inr ⟨result, hat⟩) (.inl rfl))
  · exact absurd hstep (by simp)

theorem Inv.strategy {i : ℕ} {outcome : StrategyOutcome} (h : s.Inv config passes)
    (hstep : s.strategy i outcome = some s') : s'.Inv config passes := by
  rw [OrderFlow.strategy] at hstep
  split at hstep
  · rename_i event hat
    obtain ⟨runner, hrunner, rfl⟩ := Option.map_eq_some_iff.mp hstep
    refine h.moves i ((h.shard i).decide hat hrunner) ?_ (fun j hj ↦ ?_) h.line
    · simp [view, OrderFlow.setRunner, enqueuedOf]
    · simp [view, OrderFlow.setRunner, enqueuedOf, hj]
  · exact absurd hstep (by simp)

/-! ### Steps of the sink -/

/-- The line after a step of the order manager that nothing enters it at. -/
theorem InLine.of_effect {manager : OrderManager Text τ σ} {input : OrderManagerInput}
    (h : s.InLine config) (hinput : ∀ thread, input ≠ .submitEnqueue thread)
    (heffect : OrderManager.Effect config.orderManager s.manager input manager)
    (hmanager : s'.manager = manager) (henqueued : s'.enqueued = s.enqueued) :
    s'.InLine config := by
  obtain ⟨settled, sent, hline, hsent, hencodes⟩ := h
  rw [InLine, hmanager, henqueued]
  obtain ⟨hwaiting, hrequests⟩ | ⟨thread, _, hthread, -⟩ | ⟨pending, hwaiting, hsettles⟩ :=
    OrderManager.line_of_effect heffect
  · exact ⟨settled, sent, by rw [hwaiting]; exact hline, hsent, by rw [hrequests]; exact hencodes⟩
  · exact absurd hthread (hinput thread)
  · have hsettled : s.enqueued.map EnqueuedIntent.pending =
        settled ++ [pending] ++ manager.waiting := by
      rw [List.append_assoc, List.singleton_append, ← hwaiting]
      exact hline
    obtain hrequests | ⟨payload, hbuild, hrequests⟩ := hsettles
    · rw [hrequests]
      exact ⟨_, sent, hsettled, hsent.trans (List.sublist_append_left _ _), hencodes⟩
    · rw [hrequests]
      exact ⟨_, sent ++ [pending], hsettled, hsent.append (List.Sublist.refl _),
        List.rel_append hencodes (.cons ⟨rfl, hbuild⟩ .nil)⟩

/-- A region of `submit` before the push. -/
theorem Inv.region {i : ℕ} {event : NormalizedEvent} {intent : OrderIntent}
    {rest : List OrderIntent} {manager : OrderManager Text τ σ} {input : OrderManagerInput}
    (h : s.Inv config passes) (hat : (s.runners i).call = .submitting event intent rest)
    (hentered : (s.view i).entered = 0) (hinput : ∀ thread, input ≠ .submitEnqueue thread)
    (heffect : OrderManager.Effect config.orderManager s.manager input manager)
    (hcall : ∀ call, manager.submits.lookup i = some call → call.uncounted = 0 ∧
      ∀ pending ∈ call.pending, pending.intent.untimed = intent.untimed)
    (hothers : ∀ j ≠ i, manager.submits.lookup j = s.manager.submits.lookup j) :
    (s.afterRegion i manager).Inv config passes := by
  refine h.moves i ((h.shard i).region (manager.submits.lookup i) hat hentered hcall) ?_
    (fun j hj ↦ ?_) (h.line.of_effect hinput heffect rfl rfl)
  · simp [view, afterRegion, setSinkCall, enqueuedOf]
  · simp [view, afterRegion, setSinkCall, enqueuedOf, hj, hothers j hj]

/-- The call of the shard joins the line. -/
theorem Inv.enqueue {i : ℕ} {pending : PendingIntent} {manager : OrderManager Text τ σ}
    (h : s.Inv config passes)
    (huntimed : ∀ {intent intent' : OrderIntent}, intent.untimed = intent'.untimed →
      passes i intent → passes i intent')
    (hsubmitting : s.sinkCalls i = .submitting)
    (hcall : s.manager.submits.lookup i = some (.enqueuing pending))
    (hstep : s.manager.submitEnqueue i = some manager) :
    OrderFlow.Inv config passes { s with
      manager := manager
      enqueued := s.enqueued ++ [{ shardId := i, pending : EnqueuedIntent }] } := by
  obtain ⟨hcounting, hothers, -⟩ := OrderManager.submits_of_submitEnqueue hcall hstep
  refine h.moves i ((h.shard i).enqueue huntimed hsubmitting hcall) ?_ (fun j hj ↦ ?_) ?_
  · simp [view, enqueuedOf, hcounting]
  · simp [view, enqueuedOf, hothers j hj, hj.symm]
  · obtain ⟨settled, sent, hline, hsent, hencodes⟩ := h.line
    rw [OrderManager.submitEnqueue, hcall] at hstep
    obtain rfl := Option.some.inj hstep
    refine ⟨settled, sent, ?_, hsent, hencodes⟩
    rw [List.map_append, hline, List.append_assoc, OrderManager.waiting, List.append_assoc]
    rfl

/-- The call of the shard is counted. -/
theorem Inv.count {i requestId : ℕ} {manager : OrderManager Text τ σ} (h : s.Inv config passes)
    (hsubmitting : s.sinkCalls i = .submitting)
    (hcall : s.manager.submits.lookup i = some (.counting requestId))
    (hstep : s.manager.submitCount i = some manager) :
    { s.setSinkCall i .accepted with manager := manager }.Inv config passes := by
  obtain ⟨hover, hothers⟩ := OrderManager.submits_of_submitCount hstep
  refine h.moves i ((h.shard i).count hsubmitting hcall) ?_ (fun j hj ↦ ?_)
    (h.line.of_effect (by simp) (OrderManager.effect_submitCount hstep) rfl rfl)
  · simp [view, setSinkCall, enqueuedOf, hover]
  · simp [view, setSinkCall, enqueuedOf, hj, hothers j hj]

theorem Inv.submitStep {i now : ℕ} {event : NormalizedEvent} {intent : OrderIntent}
    {rest : List OrderIntent} (h : s.Inv config passes)
    (huntimed : ∀ {intent intent' : OrderIntent}, intent.untimed = intent'.untimed →
      passes i intent → passes i intent')
    (hat : (s.runners i).call = .submitting event intent rest)
    (hstep : s.submitStep config i intent now = some s') : s'.Inv config passes := by
  rw [OrderFlow.submitStep] at hstep
  split at hstep
  · rename_i hidle
    obtain ⟨manager, hbegin, rfl⟩ := Option.map_eq_some_iff.mp hstep
    obtain ⟨hcall, hothers⟩ := OrderManager.submits_of_submitBegin hbegin
    refine h.region hat (ShardView.entered_of_idle hidle) (by simp)
      (OrderManager.effect_submitBegin hbegin) (fun call hlookup ↦ ?_) hothers
    obtain ⟨pending, rfl, hstamped⟩ := hcall call hlookup
    refine ⟨rfl, fun pending' hpending ↦ ?_⟩
    obtain rfl := Option.some.inj hpending
    rw [hstamped, OrderManager.untimed_stampIntent]
  · rename_i hsubmitting
    split at hstep
    · rename_i pending hcall
      obtain ⟨manager, htrack, rfl⟩ := Option.map_eq_some_iff.mp hstep
      obtain ⟨hkept, hothers⟩ := OrderManager.submits_of_submitTrack htrack
      have hentered : (s.view i).entered = 0 := by
        rw [ShardView.entered, view, hsubmitting, hcall]
        rfl
      refine h.region hat hentered (by simp) (OrderManager.effect_submitTrack htrack)
        (fun call hlookup ↦ ?_) hothers
      -- the call carries the intent of the runner, as it did before
      obtain ⟨before, hbefore, rfl⟩ := hkept call hlookup
      refine ⟨rfl, fun pending' hpending ↦ ?_⟩
      obtain rfl := Option.some.inj hpending
      have hsink := (h.shard i).sink
      rw [ShardView.SinkAgrees, view, hsubmitting] at hsink
      obtain ⟨call', event', intent', rest', hcall', hat', hsame⟩ := hsink
      obtain rfl := Option.some.inj (hbefore.symm.trans hcall')
      obtain ⟨-, rfl, -⟩ := RunnerCall.submitting.inj (hat.symm.trans hat')
      exact hsame before rfl
    · rename_i pending hcall
      obtain ⟨manager, henqueue, rfl⟩ := Option.map_eq_some_iff.mp hstep
      exact h.enqueue huntimed hsubmitting hcall henqueue
    · rename_i requestId hcall
      obtain ⟨manager, hcount, rfl⟩ := Option.map_eq_some_iff.mp hstep
      exact h.count hsubmitting hcall hcount
    · exact absurd hstep (by simp)
  · rename_i haccepted
    obtain ⟨runner, hrunner, rfl⟩ := Option.map_eq_some_iff.mp hstep
    refine h.moves i ((h.shard i).hearSink true haccepted hrunner) ?_ (fun j hj ↦ ?_) h.line
    · simp [view, OrderFlow.setRunner, setSinkCall, enqueuedOf]
    · simp [view, OrderFlow.setRunner, setSinkCall, enqueuedOf, hj]
  · rename_i hrefused
    obtain rfl := Option.some.inj hstep
    refine h.moves i ((h.shard i).report hrefused) ?_ (fun j hj ↦ ?_) h.line
    · simp [view, setSinkCall, enqueuedOf]
    · simp [view, setSinkCall, enqueuedOf, hj]
  · rename_i hreporting
    obtain ⟨runner, hrunner, rfl⟩ := Option.map_eq_some_iff.mp hstep
    refine h.moves i ((h.shard i).hearSink false hreporting hrunner) ?_ (fun j hj ↦ ?_) h.line
    · simp [view, OrderFlow.setRunner, setSinkCall, enqueuedOf]
    · simp [view, OrderFlow.setRunner, setSinkCall, enqueuedOf, hj]

/-! ### What the gates of the shards say -/

/-- In this step the gate of the shard judges the intent, with the snapshot that it is given of the
sink as it is, and lets it through. -/
structure LetsThrough (config : OrderFlowConfig Text τ σ) (i : ℕ) (intent : OrderIntent)
    (s s' : OrderFlow Text τ σ) : Prop where
  step : ∃ now, s.step config (.runner i now) = some s'
  judging : ∃ event rest, (s.runners i).call = .judging event intent rest
  allow : ∀ provider ∈ config.runner.riskSnapshotProvider,
    (ShardRiskGate.evaluate config.runner.shardRisk intent
      (provider.snapshotFor s.manager.sink intent.exchange intent.marketTicker)).allow = true

/-- Where there is a gate, it let the intent through earlier in the run. The order manager may have
stamped it since. -/
def Judged (config : OrderFlowConfig Text τ σ) (s₀ s : OrderFlow Text τ σ) (i : ℕ)
    (intent : OrderIntent) : Prop :=
  config.runner.riskSnapshotProvider.isSome = true → ∃ s₁ s₂ judged,
    (machine config).Reaches s₀ s₁ ∧ LetsThrough config i judged s₁ s₂ ∧
      (machine config).Reaches s₂ s ∧ judged.untimed = intent.untimed

variable {s₀ : OrderFlow Text τ σ}

theorem Judged.step {input : OrderFlowInput} {i : ℕ} {intent : OrderIntent}
    (h : Judged config s₀ s i intent) (hstep : s.step config input = some s') :
    Judged config s₀ s' i intent := by
  intro hgate
  obtain ⟨s₁, s₂, judged, hbefore, hthrough, hafter, huntimed⟩ := h hgate
  exact ⟨s₁, s₂, judged, hbefore, hthrough, .tail hafter trivial hstep, huntimed⟩

theorem Judged.of_untimed {i : ℕ} {intent intent' : OrderIntent}
    (huntimed : intent.untimed = intent'.untimed) (h : Judged config s₀ s i intent) :
    Judged config s₀ s i intent' := by
  intro hgate
  obtain ⟨s₁, s₂, judged, hbefore, hthrough, hafter, hsame⟩ := h hgate
  exact ⟨s₁, s₂, judged, hbefore, hthrough, hafter, hsame.trans huntimed⟩

/-- The gate does not look at the time. -/
theorem Judged.allows {i : ℕ} {intent : OrderIntent} (h : Judged config s₀ s i intent)
    {provider : IShardRiskSnapshotProvider σ}
    (hprovider : config.runner.riskSnapshotProvider = some provider) :
    ∃ sink, (ShardRiskGate.evaluate config.runner.shardRisk intent
      (provider.snapshotFor sink intent.exchange intent.marketTicker)).allow = true := by
  obtain ⟨s₁, _, judged, -, hthrough, -, hsame⟩ := h (by rw [hprovider]; rfl)
  have hallow := hthrough.allow provider hprovider
  have hbare : ∀ intent snapshot, ShardRiskGate.evaluate config.runner.shardRisk
      (OrderIntent.untimed intent) snapshot =
        ShardRiskGate.evaluate config.runner.shardRisk intent snapshot := fun _ _ ↦ rfl
  have hexchange : judged.untimed.exchange = intent.untimed.exchange := by rw [hsame]
  have hmarket : judged.untimed.marketTicker = intent.untimed.marketTicker := by rw [hsame]
  refine ⟨s₁.manager.sink, ?_⟩
  rw [← hbare, ← hsame, hbare]
  exact hexchange ▸ hmarket ▸ hallow

/-- **One step** of any thread. -/
theorem Inv.step {input : OrderFlowInput} (h : s.Inv config (Judged config s₀ s))
    (hreaches : (machine config).Reaches s₀ s) (hstep : s.step config input = some s') :
    s'.Inv config (Judged config s₀ s') := by
  replace h := h.mono fun i intent hjudged ↦ hjudged.step hstep
  cases input with
  | onEvent i event =>
    rw [OrderFlow.step] at hstep
    split at hstep
    · exact h.onEvent hstep
    · exact absurd hstep (by simp)
  | strategy i outcome => exact h.strategy hstep
  | finish i => exact h.finish hstep
  | runner i now =>
    have hrunner : s.runnerStep config i now = some s' := hstep
    rw [runnerStep] at hrunner
    split at hrunner
    · exact absurd hrunner (by simp)
    · exact absurd hrunner (by simp)
    · exact absurd hrunner (by simp)
    · obtain ⟨runner, hemit, rfl⟩ := Option.map_eq_some_iff.mp hrunner
      refine h.setRunner ((h.shard i).emit (fun hnone intent hgate ↦ ?_) hemit)
      exact absurd (hnone.symm.trans hgate) (by decide)
    · rename_i event intent rest hat
      split at hrunner
      · exact absurd hrunner (by simp)
      · rename_i provider hprovider
        obtain ⟨runner, hjudge, hs'⟩ := Option.map_eq_some_iff.mp hrunner
        -- the verdict is that of this very step
        have hpasses : (ShardRiskGate.evaluate config.runner.shardRisk intent (provider.snapshotFor
            s.manager.sink intent.exchange intent.marketTicker)).allow = true →
              Judged config s₀ s' i intent := by
          refine fun hallow _ ↦ ⟨s, s', intent, hreaches, ⟨⟨now, hstep⟩, ⟨event, rest, hat⟩, ?_⟩,
            .refl, rfl⟩
          intro provider' hmem
          obtain rfl := Option.some.inj (hprovider.symm.trans hmem)
          exact hallow
        have hinv := h.setRunner ((h.shard i).judge hat hpasses hjudge)
        rwa [hs'] at hinv
    · rename_i event intent rest hat
      exact h.submitStep Judged.of_untimed hat hrunner
  | manager input =>
    rw [OrderFlow.step] at hstep
    split at hstep
    · exact absurd hstep (by simp)
    · rename_i hinput
      obtain ⟨manager, hmanager, rfl⟩ := Option.map_eq_some_iff.mp hstep
      have heffect := OrderManager.effect_of_step hmanager
      have hsubmits := OrderManager.submits_of_not_submission heffect
        (Bool.eq_false_of_not_eq_true hinput)
      refine ⟨fun i ↦ ?_, h.line.of_effect ?_ heffect rfl rfl⟩
      · have hshard := h.shard i
        rw [view, ← hsubmits] at hshard
        exact hshard
      · rintro thread rfl
        exact hinput rfl

theorem inv_of_reaches {transport : τ} {sink : σ}
    (h : (machine config).Reaches (create config transport sink) s) :
    s.Inv config (Judged config (create config transport sink) s) :=
  h.invariant (P := fun s ↦ s.Inv config (Judged config (create config transport sink) s))
    (inv_create transport sink) fun hreaches hinv _ hstep ↦ hinv.step hreaches hstep

/-! ## The order manager on its own -/

/-- **What a step is to the order manager**: nothing, a step of its own, or a region of a `submit`,
of the intent that a runner has in hand. The push is the only region that anything enters the queue
at. -/
def ManagerMoves (config : OrderFlowConfig Text τ σ) (input : OrderFlowInput)
    (s s' : OrderFlow Text τ σ) : Prop :=
  s'.enqueued = s.enqueued ∧ (s'.manager = s.manager ∨ ∃ own,
      (OrderManager.machine config.orderManager).step s.manager own = some s'.manager ∧
      (input = .manager own ∨ own.isSubmission = true ∧ (∀ i, own ≠ .submitEnqueue i) ∧
        ∀ intent ∈ own.submitted, ∃ i event rest,
          (s.runners i).call = .submitting event intent rest)) ∨
    ∃ i pending, (∃ event intent rest, (s.runners i).call = .submitting event intent rest) ∧
      s.manager.submits.lookup i = some (.enqueuing pending) ∧
      s.manager.submitEnqueue i = some s'.manager ∧
      s'.enqueued = s.enqueued ++ [{ shardId := i, pending : EnqueuedIntent }]

theorem managerMoves_submitStep {input : OrderFlowInput} {i now : ℕ} {event : NormalizedEvent}
    {intent : OrderIntent} {rest : List OrderIntent}
    (hat : (s.runners i).call = .submitting event intent rest)
    (hstep : s.submitStep config i intent now = some s') :
    ManagerMoves config input s s' := by
  rw [OrderFlow.submitStep] at hstep
  split at hstep
  · obtain ⟨manager, hbegin, rfl⟩ := Option.map_eq_some_iff.mp hstep
    refine .inl ⟨rfl, .inr ⟨.submitBegin i intent now, hbegin, .inr ⟨rfl, by simp, ?_⟩⟩⟩
    intro submitted hsubmitted
    obtain rfl := Option.some.inj hsubmitted
    exact ⟨i, event, rest, hat⟩
  · split at hstep
    · obtain ⟨manager, htrack, rfl⟩ := Option.map_eq_some_iff.mp hstep
      exact .inl ⟨rfl, .inr ⟨.submitTrack i, htrack,
        .inr ⟨rfl, by simp, by simp [OrderManagerInput.submitted]⟩⟩⟩
    · rename_i pending hcall
      obtain ⟨manager, henqueue, rfl⟩ := Option.map_eq_some_iff.mp hstep
      exact .inr ⟨i, pending, ⟨event, intent, rest, hat⟩, hcall, henqueue, rfl⟩
    · obtain ⟨manager, hcount, rfl⟩ := Option.map_eq_some_iff.mp hstep
      exact .inl ⟨rfl, .inr ⟨.submitCount i, hcount,
        .inr ⟨rfl, by simp, by simp [OrderManagerInput.submitted]⟩⟩⟩
    · exact absurd hstep (by simp)
  · obtain ⟨runner, -, rfl⟩ := Option.map_eq_some_iff.mp hstep
    exact .inl ⟨rfl, .inl rfl⟩
  · obtain rfl := Option.some.inj hstep
    exact .inl ⟨rfl, .inl rfl⟩
  · obtain ⟨runner, -, rfl⟩ := Option.map_eq_some_iff.mp hstep
    exact .inl ⟨rfl, .inl rfl⟩

theorem managerMoves_of_step {input : OrderFlowInput} (hstep : s.step config input = some s') :
    ManagerMoves config input s s' := by
  cases input with
  | onEvent i event =>
    rw [OrderFlow.step] at hstep
    split at hstep
    · rw [OrderFlow.onEvent] at hstep
      split at hstep
      · obtain ⟨runner, -, rfl⟩ := Option.map_eq_some_iff.mp hstep
        exact .inl ⟨rfl, .inl rfl⟩
      · split at hstep
        · obtain rfl := Option.some.inj hstep
          exact .inl ⟨rfl, .inl rfl⟩
        · exact absurd hstep (by simp)
    · exact absurd hstep (by simp)
  | strategy i outcome =>
    rw [OrderFlow.step, OrderFlow.strategy] at hstep
    split at hstep
    · obtain ⟨runner, -, rfl⟩ := Option.map_eq_some_iff.mp hstep
      exact .inl ⟨rfl, .inl rfl⟩
    · exact absurd hstep (by simp)
  | runner i now =>
    rw [OrderFlow.step, OrderFlow.runnerStep] at hstep
    split at hstep
    · exact absurd hstep (by simp)
    · exact absurd hstep (by simp)
    · exact absurd hstep (by simp)
    · obtain ⟨runner, -, rfl⟩ := Option.map_eq_some_iff.mp hstep
      exact .inl ⟨rfl, .inl rfl⟩
    · split at hstep
      · exact absurd hstep (by simp)
      · obtain ⟨runner, -, rfl⟩ := Option.map_eq_some_iff.mp hstep
        exact .inl ⟨rfl, .inl rfl⟩
    · rename_i event intent rest hat
      exact managerMoves_submitStep hat hstep
  | finish i =>
    rw [OrderFlow.step, OrderFlow.finish] at hstep
    split at hstep
    · obtain rfl := Option.some.inj hstep
      exact .inl ⟨rfl, .inl rfl⟩
    · exact absurd hstep (by simp)
  | manager input =>
    rw [OrderFlow.step] at hstep
    split at hstep
    · exact absurd hstep (by simp)
    · obtain ⟨manager, hmanager, rfl⟩ := Option.map_eq_some_iff.mp hstep
      exact .inl ⟨rfl, .inr ⟨input, hmanager, .inl rfl⟩⟩

/-- What holds of every run of the order manager holds of it in the flow. -/
theorem manager_of_reaches {transport : τ} {sink : σ}
    (h : (machine config).Reaches (create config transport sink) s) :
    (OrderManager.machine config.orderManager).Reaches
      (.init config.orderManager transport sink) s.manager := by
  refine h.project OrderFlow.manager fun _ _ hstep ↦ ?_
  obtain ⟨-, hsame | ⟨own, hmanager, -⟩⟩ | ⟨i, _, -, -, henqueue, -⟩ := managerMoves_of_step hstep
  · rw [hsame]
    exact .refl
  · exact .single own trivial hmanager
  · exact .single (.submitEnqueue i) trivial henqueue

/-! ## Request ids -/

/-- Every intent that entered the queue has a request id of its own. -/
structure Numbered (s : OrderFlow Text τ σ) : Prop where
  nodup : (s.enqueued.map fun entry ↦ entry.pending.requestId).Nodup
  lt : ∀ entry ∈ s.enqueued, entry.pending.requestId < s.manager.nextRequestId
  /-- What is not in the queue yet has another one. -/
  fresh : ∀ entry ∈ s.enqueued, ∀ thread call, s.manager.submits.lookup thread = some call →
    ∀ pending ∈ call.pending, pending.requestId ≠ entry.pending.requestId

/-- A step of the order manager that nothing enters the queue at. -/
theorem Numbered.of_effect {input : OrderManagerInput} (h : s.Numbered)
    (heffect : OrderManager.Effect config.orderManager s.manager input s'.manager)
    (henqueued : s'.enqueued = s.enqueued) : s'.Numbered := by
  have hle := OrderManager.nextRequestId_le_of_effect heffect
  refine ⟨?_, fun entry hentry ↦ ?_, fun entry hentry thread call hcall pending hpending ↦ ?_⟩
  · rw [henqueued]
    exact h.nodup
  · exact (h.lt entry (henqueued ▸ hentry)).trans_le hle
  · have hold : entry ∈ s.enqueued := henqueued ▸ hentry
    obtain ⟨call', hcall', hbefore⟩ | ⟨-, hid, -⟩ :=
      OrderManager.pending_of_effect heffect hcall hpending
    · exact h.fresh entry hold thread call' hcall' pending hbefore
    · exact hid ▸ (h.lt entry hold).ne'

/-- A call enters the queue. -/
theorem Numbered.enqueue {i : ℕ} {pending : PendingIntent} (h : s.Numbered)
    (hwellFormed : s.manager.WellFormed)
    (hcall : s.manager.submits.lookup i = some (.enqueuing pending))
    (henqueue : s.manager.submitEnqueue i = some s'.manager)
    (henqueued : s'.enqueued = s.enqueued ++ [{ shardId := i, pending : EnqueuedIntent }]) :
    s'.Numbered := by
  obtain ⟨hcounting, hothers, hnext⟩ := OrderManager.submits_of_submitEnqueue hcall henqueue
  have hmem : ∀ entry ∈ s'.enqueued, entry ∈ s.enqueued ∨ entry.pending = pending := by
    intro entry hentry
    rw [henqueued] at hentry
    rcases List.mem_append.mp hentry with hold | hnew
    · exact .inl hold
    · exact .inr (by rw [List.mem_singleton.mp hnew])
  refine ⟨?_, fun entry hentry ↦ ?_, fun entry hentry thread call hlookup pending' hpending ↦ ?_⟩
  · rw [henqueued, List.map_append, List.nodup_append]
    refine ⟨h.nodup, List.nodup_singleton _, fun id hid id' hid' ↦ ?_⟩
    obtain ⟨entry, hentry, rfl⟩ := List.mem_map.mp hid
    rw [List.mem_singleton.mp hid']
    exact (h.fresh entry hentry i _ hcall pending rfl).symm
  · rw [hnext]
    obtain hold | rfl := hmem entry hentry
    · exact h.lt entry hold
    · exact hwellFormed.call_lt i _ hcall
  · -- the call of another thread, which has an id of its own
    have hthread : thread ≠ i := by
      rintro rfl
      obtain rfl := Option.some.inj (hcounting.symm.trans hlookup)
      cases hpending
    rw [hothers thread hthread] at hlookup
    obtain hold | rfl := hmem entry hentry
    · exact h.fresh entry hold thread call hlookup pending' hpending
    · intro hid
      rw [← SubmitCall.requestId_of_pending hpending] at hid
      exact hthread (hwellFormed.call_inj thread i call _ hlookup hcall hid)

theorem numbered_of_reaches {transport : τ} {sink : σ}
    (h : (machine config).Reaches (create config transport sink) s) : s.Numbered := by
  have hcreate : (create config transport sink).Numbered :=
    ⟨List.nodup_nil, by simp [create], by simp [create]⟩
  refine h.invariant hcreate fun hreaches hnumbered _ hstep ↦ ?_
  obtain ⟨henqueued, hsame | ⟨own, hmanager, -⟩⟩ | ⟨i, pending, -, hcall, henqueue, henqueued⟩ :=
    managerMoves_of_step hstep
  · obtain ⟨hnodup, hlt, hfresh⟩ := hnumbered
    rw [← hsame] at hlt hfresh
    rw [← henqueued] at hnodup hlt hfresh
    exact ⟨hnodup, hlt, hfresh⟩
  · exact hnumbered.of_effect (OrderManager.effect_of_step hmanager) henqueued
  · exact hnumbered.enqueue (OrderManager.wellFormed_of_reaches (manager_of_reaches hreaches))
      hcall henqueue henqueued

/-! ## What is sent -/

/-- The intents that the strategy of a shard decided on, completed. -/
def decided (s : OrderFlow Text τ σ) (shardId : ℕ) : List OrderIntent :=
  (s.asked shardId).flatMap StrategyAnswer.intents

/-- What entered the queue and was sent. -/
def sentEntries (s : OrderFlow Text τ σ) : List EnqueuedIntent :=
  s.enqueued.filter fun entry ↦ entry.pending.requestId ∈ s.manager.sentIds

/-- What was sent for a shard. -/
def sentOf (s : OrderFlow Text τ σ) (shardId : ℕ) : List PendingIntent :=
  (s.sentEntries.filter fun entry ↦ entry.shardId = shardId).map EnqueuedIntent.pending

/-- The line in front of the transport is one for all shards, and each shard is served in the order
in which its strategy decided. -/
structure OrdersFollow (config : OrderFlowConfig Text τ σ) (s s₀ : OrderFlow Text τ σ) : Prop where
  decided : ∀ i, ((s.sentOf i).map fun pending ↦ pending.intent.untimed).Sublist
    ((s.decided i).map OrderIntent.untimed)
  /-- The gate of the shard let the intent through, for the snapshot that it was given. -/
  passed : ∀ i, ∀ pending ∈ s.enqueuedOf i, Judged config s₀ s i pending.intent
  /-- Requests are sent in the order in which they entered the queue, each as the encoding of its
  intent. -/
  sent : List.Forall₂ (Encodes config.orderManager.adapter)
    (s.sentEntries.map EnqueuedIntent.pending) s.manager.sentRequests
  /-- These are the texts that the transport took, if it keeps them. -/
  taken : ∀ taken, config.orderManager.transport.Records taken → taken s.manager.transport =
    taken s₀.manager.transport ++ s.manager.sentRequests.map Prod.snd
  once : s.manager.sentIds.Nodup
  /-- What still waits is of some shard, and is not sent. -/
  waiting : ∀ pending ∈ s.manager.waiting, pending.requestId ∉ s.manager.sentIds ∧
    ∃ i, pending ∈ s.enqueuedOf i

theorem mem_enqueuedOf_of_mem_sentOf {i : ℕ} {pending : PendingIntent}
    (hpending : pending ∈ s.sentOf i) : pending ∈ s.enqueuedOf i := by
  obtain ⟨entry, hentry, rfl⟩ := List.mem_map.mp hpending
  obtain ⟨hsent, hshard⟩ := List.mem_filter.mp hentry
  exact List.mem_map_of_mem (List.mem_filter.mpr ⟨List.mem_of_mem_filter hsent, hshard⟩)

/-- Encodings carry the request ids. -/
theorem requestIds_of_encodes {adapter : IExchangeOmsAdapter Text} {sent : List PendingIntent}
    {requests : List (ℕ × Text)} (h : List.Forall₂ (Encodes adapter) sent requests) :
    sent.map PendingIntent.requestId = requests.map Prod.fst := by
  induction h with
  | nil => rfl
  | cons hencodes _ ih => rw [List.map_cons, List.map_cons, ih, hencodes.1]

/-- What is sent of the line is what is left of it when everything else is taken out. -/
theorem sentEntries_eq {sent settled : List PendingIntent} (hnumbered : s.Numbered)
    (hline : s.enqueued.map EnqueuedIntent.pending = settled ++ s.manager.waiting)
    (hsent : sent.Sublist settled) (hids : sent.map PendingIntent.requestId = s.manager.sentIds) :
    s.sentEntries.map EnqueuedIntent.pending = sent := by
  have hnodup : ((s.enqueued.map EnqueuedIntent.pending).map PendingIntent.requestId).Nodup := by
    rw [List.map_map]
    exact hnumbered.nodup
  have hsublist : sent.Sublist (s.enqueued.map EnqueuedIntent.pending) := by
    rw [hline]
    exact hsent.trans (List.sublist_append_left _ _)
  rw [Thinned.eq_filter_of_sublist hsublist (.of_map _ hnodup), sentEntries, List.filter_map]
  congr 1
  refine List.filter_congr fun entry hentry ↦ ?_
  rw [Function.comp_apply, ← hids, decide_eq_decide]
  refine ⟨fun hid ↦ ?_, List.mem_map_of_mem⟩
  -- request ids tell the intents in the line apart
  obtain ⟨pending, hpending, hsame⟩ := List.mem_map.mp hid
  rwa [← List.inj_on_of_nodup_map hnodup (hsublist.subset hpending)
    (List.mem_map_of_mem hentry) hsame]

theorem Inv.ordersFollow {transport : τ} {sink : σ}
    (h : s.Inv config (Judged config (create config transport sink) s)) (hnumbered : s.Numbered)
    (hmanager : (OrderManager.machine config.orderManager).Reaches
      (.init config.orderManager transport sink) s.manager) :
    s.OrdersFollow config (create config transport sink) := by
  obtain ⟨settled, sent, hline, hsent, hencodes⟩ := h.line
  have hids := requestIds_of_encodes hencodes
  have hentries := sentEntries_eq hnumbered hline hsent hids
  have hall : (s.enqueued.map fun entry ↦ entry.pending.requestId) =
      settled.map PendingIntent.requestId ++ s.manager.waiting.map PendingIntent.requestId := by
    rw [← List.map_append, ← hline, List.map_map]
    rfl
  have hsettled : s.manager.sentIds.Sublist (settled.map PendingIntent.requestId) := by
    rw [OrderManager.sentIds, ← hids]
    exact hsent.map _
  refine ⟨fun i ↦ ?_, fun i ↦ (h.shard i).passed, by rw [hentries]; exact hencodes,
    fun taken hrecords ↦ OrderManager.taken_of_reaches hrecords hmanager, ?_,
    fun pending hpending ↦ ⟨fun hmem ↦ ?_, ?_⟩⟩
  · obtain ⟨done, hdecided, hthin⟩ := (h.shard i).enqueued
    have hdone : (done.map OrderIntent.untimed).Sublist
        ((s.decided i).map OrderIntent.untimed) := by
      change s.decided i = done ++ _ at hdecided
      rw [hdecided, List.map_append]
      exact List.sublist_append_left _ _
    have hshard : (s.sentOf i).Sublist (s.enqueuedOf i) :=
      (List.filter_sublist.filter _).map _
    exact (hshard.map _).trans (hthin.sublist.trans hdone)
  · have hnodup := hnumbered.nodup
    rw [hall] at hnodup
    exact (List.Nodup.of_append_left hnodup).sublist hsettled
  · -- a request that waits is not settled, and nothing else is sent
    have hdisjoint := List.disjoint_of_nodup_append (hall ▸ hnumbered.nodup)
    exact hdisjoint (hsettled.subset hmem) (List.mem_map_of_mem hpending)
  · have hentry : pending ∈ s.enqueued.map EnqueuedIntent.pending := by
      rw [hline]
      exact List.mem_append_right _ hpending
    obtain ⟨entry, hmem, rfl⟩ := List.mem_map.mp hentry
    exact ⟨entry.shardId, List.mem_map_of_mem (List.mem_filter.mpr ⟨hmem, by simp⟩)⟩

end OrderFlow

/-- **Orders in the order of the strategies.** Whatever the strategies answer and however the
threads of the shards, the worker and the thread that starts and stops the order manager are
interleaved, the transport is handed, for each shard, the encodings of some of the intents that its
strategy decided on, in their order, once, and of none that the gate of the shard did not let
through for the snapshot that it was given at that moment. -/
theorem orders_in_strategy_order {Text τ σ : Type*} {config : OrderFlowConfig Text τ σ}
    {transport : τ} {sink : σ} {s : OrderFlow Text τ σ}
    (h : (OrderFlow.machine config).Reaches (.create config transport sink) s) :
    s.OrdersFollow config (.create config transport sink) :=
  (OrderFlow.inv_of_reaches h).ordersFollow (OrderFlow.numbered_of_reaches h)
    (OrderFlow.manager_of_reaches h)

open Trader

/-- The trader with two shards and room for ten lots in an order. -/
def twoRunners : OrderFlowConfig (Option Json) (PaperOrderTransport.State (Option Json))
    PositionLedger where
  orderManager := unlimited
  shardCount := 2
  runner :=
    { shardRisk := { maxWorkingQtyPerMarket := 10 }
      riskSnapshotProvider :=
        some (LedgerShardRiskSnapshotProvider PositionLedger.snapshotProvider) }

/-- An intent that leaves exchange, market and time open. -/
def openIntent (clientOrderId : String) (qtyLots : ℤ) : OrderIntent where
  action := .place
  clientOrderId := clientOrderId
  side := .buy
  qtyLots := qtyLots
  limitPriceTicks := some 40
  timeInForce := .gtc

def kalshiEvent (marketTicker : String) : NormalizedEvent where
  eventMeta := { exchange := .kalshi, recvNs := 7 }
  marketTicker := marketTicker

/-- Both shards have an event. The second of three intents of shard 1 is too large. -/
def twoRunnersRun : List OrderFlowInput :=
  [.manager .start, .onEvent 0 (kalshiEvent "A"), .onEvent 1 (kalshiEvent "B"),
    .strategy 1 (.decided [openIntent "c1" 5, openIntent "c2" 50, openIntent "c3" 7]),
    .strategy 0 (.decided [openIntent "c4" 1])] ++
  List.replicate 7 (.runner 1 9) ++ List.replicate 8 (.runner 0 9) ++
  List.replicate 10 (.runner 1 9) ++ (drain 3).map .manager

/-- The same trader over a transport that keeps what it takes. -/
def recordedRunners : OrderFlowConfig (Option Json)
    (PaperOrderTransport.State (Option Json) × List (Option Json)) PositionLedger where
  orderManager :=
    { adapter := unlimited.adapter
      transport := unlimited.transport.recorded
      eventSink := unlimited.eventSink
      portfolioSnapshotProvider := unlimited.portfolioSnapshotProvider }
  shardCount := 2
  runner := twoRunners.runner

/-- Three requests go out. The texts that the transport has kept are their payloads. -/
theorem orders_in_strategy_order_two_runners : ∃ s,
    (OrderFlow.machine recordedRunners).Reaches (.create recordedRunners ({}, []) {}) s ∧
      s.manager.sentIds = [1, 2, 3] ∧
      (s.sentOf 1).map (fun pending ↦ pending.intent.clientOrderId) = ["c1", "c3"] ∧
      s.manager.transport.2 = s.manager.sentRequests.map Prod.snd ∧
      s.OrdersFollow recordedRunners (.create recordedRunners ({}, []) {}) := by
  have hrun : ((OrderFlow.machine recordedRunners).runVia (fun _ _ ↦ True)
      (.create recordedRunners ({}, []) {}) twoRunnersRun).any
        (fun s ↦ s.manager.sentIds = [1, 2, 3] ∧
          (s.sentOf 1).map (fun pending ↦ pending.intent.clientOrderId) = ["c1", "c3"]) =
            true := by
    decide +kernel
  obtain ⟨s, hreaches, hlast⟩ := Machine.exists_of_runVia hrun
  obtain ⟨hsent, hids⟩ := of_decide_eq_true hlast
  have hfollow := orders_in_strategy_order hreaches
  exact ⟨s, hreaches, hsent, hids, hfollow.taken _ (IOrderTransport.records_recorded _), hfollow⟩

end TradingEngine
