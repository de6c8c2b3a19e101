import TradingEngine.Oms.Accounting
import TradingEngine.Strategy.StrategyOrders

/-!
# The accounts of the order flow

Every intent that a strategy emits is counted once, by its runner or by the order manager: it was
refused by the gate of the shard or when it was submitted, is in the hand of its runner, waits in
the queue, was refused by a gate of the order manager, could not be sent, or was sent
(`flow_accounts`). The runners count on the threads of their shards, the order manager on its worker
and, for what is submitted, on the thread of the shard after the intent has joined the queue. So the
accounts of either side have a term for the intents in the queue that it has not counted yet.

The counters of the order manager start again with every session, those of the runners do not. The
accounts are those of the one session that the trader has.
-/

namespace TradingEngine

namespace OrderManager

variable {Text τ σ : Type*} {config : OrderManagerConfig Text τ σ} {s s' : OrderManager Text τ σ}

/-- The worker touches neither the place of a `stop` nor the count of submissions. -/
structure WorkerKeeps (s s' : OrderManager Text τ σ) : Prop where
  control : s'.control = s.control
  submittedCount : s'.counters.submittedCount = s.counters.submittedCount

theorem workerKeeps_handleUpdate (config : OrderManagerConfig Text τ σ) (s : OrderManager Text τ σ)
    (now : ℕ) (update : OrderStateUpdate) :
    s.WorkerKeeps (s.handleUpdate config now update).2 := by
  rw [handleUpdate]
  split
  · exact ⟨rfl, rfl⟩
  · refine ⟨rfl, ?_⟩
    dsimp only
    split <;> rfl

theorem workerKeeps_riskReject (s : OrderManager Text τ σ) (now : ℕ) (rest : List PendingIntent)
    (update : OrderStateUpdate) (reasonMessage : String) :
    s.WorkerKeeps (s.riskReject config now rest update reasonMessage) := by
  obtain ⟨hcontrol, hcount⟩ := workerKeeps_handleUpdate config s now update
  rw [riskReject]
  dsimp only
  split
  · exact ⟨hcontrol, hcount⟩
  · exact ⟨hcontrol, hcount⟩

theorem workerKeeps_runWorker {now : ℕ} (h : s.runWorker config now = some s') :
    s.WorkerKeeps s' := by
  rw [runWorker] at h
  split at h
  · exact absurd h (by simp)
  · exact absurd h (by simp)
  · split at h
    all_goals
      obtain rfl := Option.some.inj h
      exact ⟨rfl, rfl⟩
  · split at h
    all_goals
      obtain rfl := Option.some.inj h
      exact ⟨rfl, rfl⟩
  · obtain rfl := Option.some.inj h
    exact ⟨rfl, rfl⟩
  · obtain rfl := Option.some.inj h
    rw [checkGlobalRisk]
    split
    · exact ⟨rfl, rfl⟩
    · obtain ⟨hcontrol, hcount⟩ := workerKeeps_riskReject ..
      exact ⟨hcontrol, hcount⟩
  · obtain rfl := Option.some.inj h
    rw [checkPortfolioRisk]
    split
    · exact ⟨rfl, rfl⟩
    · dsimp only
      split
      · exact ⟨rfl, rfl⟩
      · obtain ⟨hcontrol, hcount⟩ := workerKeeps_riskReject ..
        exact ⟨hcontrol, hcount⟩
  · obtain rfl := Option.some.inj h
    rw [sendRequest]
    split
    · exact ⟨rfl, rfl⟩
    · dsimp only
      split <;> exact ⟨rfl, rfl⟩
  · split at h
    · exact absurd h (by simp)
    obtain rfl := Option.some.inj h
    rw [pumpIncomingUpdate]
    split
    · exact ⟨rfl, rfl⟩
    · dsimp only
      split
      · exact ⟨rfl, rfl⟩
      · obtain ⟨hcontrol, hcount⟩ := workerKeeps_handleUpdate ..
        exact ⟨hcontrol, hcount⟩

/-- Within a session only the push brings an intent into the queue. -/
theorem pushedCount_of_step {input : OrderManagerInput} (hsession : SameSession s input)
    (hinput : ∀ thread, input ≠ .submitEnqueue thread)
    (h : (machine config).step s input = some s') : s'.pushedCount = s.pushedCount := by
  cases input with
  | submitBegin thread intent now => exact pushedCount_submitBegin h
  | submitTrack thread => exact pushedCount_submitTrack h
  | submitEnqueue thread => exact absurd rfl (hinput thread)
  | submitCount thread => exact pushedCount_submitCount h
  | start =>
    simp only [machine, start] at h
    split_ifs at h with hidle hstopped hconnected
    · obtain rfl := Option.some.inj h
      rfl
    · exact absurd (hsession rfl) hstopped
    · exact absurd (hsession rfl) hstopped
  | worker now =>
    have hsubmits := submits_of_not_submission (effect_of_step h) rfl
    rw [pushedCount, pushedCount, (workerKeeps_runWorker h).submittedCount, hsubmits]
  | stopBegin =>
    simp only [machine, stopBegin] at h
    split_ifs at h
    all_goals
      obtain rfl := Option.some.inj h
      rfl
  | stopClose =>
    simp only [machine, stopClose] at h
    split_ifs at h
    obtain rfl := Option.some.inj h
    rfl
  | stopJoin =>
    simp only [machine, stopJoin] at h
    split_ifs at h
    obtain rfl := Option.some.inj h
    rfl

end OrderManager

namespace OrderFlow

variable {Text τ σ : Type*} {config : OrderFlowConfig Text τ σ} {s s' : OrderFlow Text τ σ}

/-- A step that does not begin another session of the order manager. -/
def SameSession (s : OrderFlow Text τ σ) : OrderFlowInput → Prop
  | .manager input => OrderManager.SameSession s.manager input
  | _ => True

instance : (s : OrderFlow Text τ σ) → (input : OrderFlowInput) → Decidable (SameSession s input)
  | s, .manager input => inferInstanceAs (Decidable (OrderManager.SameSession s.manager input))
  | _, .onEvent _ _ | _, .strategy _ _ | _, .runner _ _ | _, .finish _ =>
    inferInstanceAs (Decidable True)

/-! ## Shards that do not exist -/

/-- A runner that has nothing to do is only moved by an event for its shard. -/
theorem runners_of_step {input : OrderFlowInput} {j : ℕ} (hj : config.shardCount ≤ j)
    (hidle : (s.runners j).call = .idle) (hstep : s.step config input = some s') :
    s'.runners j = s.runners j := by
  cases input with
  | onEvent i event =>
    rw [step] at hstep
    split at hstep
    · rename_i hi
      have hne : j ≠ i := by omega
      rw [onEvent] at hstep
      split at hstep
      · obtain ⟨runner, -, rfl⟩ := Option.map_eq_some_iff.mp hstep
        exact Function.update_of_ne hne ..
      · split at hstep
        · obtain rfl := Option.some.inj hstep
          exact Function.update_of_ne hne ..
        · exact absurd hstep (by simp)
    · exact absurd hstep (by simp)
  | strategy i outcome =>
    rw [step, strategy] at hstep
    split at hstep
    · rename_i event hat
      have hne : j ≠ i := by
        rintro rfl
        exact absurd (hidle.symm.trans hat) (by simp)
      obtain ⟨runner, -, rfl⟩ := Option.map_eq_some_iff.mp hstep
      exact Function.update_of_ne hne ..
    · exact absurd hstep (by simp)
  | runner i now =>
    rw [step, runnerStep] at hstep
    by_cases hne : j = i
    · subst hne
      rw [hidle] at hstep
      exact absurd hstep (by simp)
    · split at hstep
      · exact absurd hstep (by simp)
      · exact absurd hstep (by simp)
      · exact absurd hstep (by simp)
      · obtain ⟨runner, -, rfl⟩ := Option.map_eq_some_iff.mp hstep
        exact Function.update_of_ne hne ..
      · split at hstep
        · exact absurd hstep (by simp)
        · obtain ⟨runner, -, rfl⟩ := Option.map_eq_some_iff.mp hstep
          exact Function.update_of_ne hne ..
      · exact runners_submitStep hstep j hne
  | finish i =>
    rw [step, finish] at hstep
    split at hstep
    · rename_i result hat
      have hne : j ≠ i := by
        rintro rfl
        exact absurd (hidle.symm.trans hat) (by simp)
      obtain rfl := Option.some.inj hstep
      exact Function.update_of_ne hne ..
    · exact absurd hstep (by simp)
  | manager input =>
    rw [step] at hstep
    split at hstep
    · exact absurd hstep (by simp)
    · obtain ⟨manager, -, rfl⟩ := Option.map_eq_some_iff.mp hstep
      rfl

/-! ## The accounts -/

/-- Everything that entered the queue did so for a shard that exists, and is counted or about to
be. -/
structure Counted (config : OrderFlowConfig Text τ σ) (s : OrderFlow Text τ σ) : Prop where
  idle : ∀ i ≥ config.shardCount, (s.runners i).call = .idle
  shardId_lt : ∀ entry ∈ s.enqueued, entry.shardId < config.shardCount
  submitted : s.enqueued.length = s.manager.pushedCount

theorem Counted.step {input : OrderFlowInput} (h : s.Counted config) (hok : SameSession s input)
    (hstep : s.step config input = some s') : s'.Counted config := by
  have hidle : ∀ i ≥ config.shardCount, (s'.runners i).call = .idle := by
    intro i hi
    rw [runners_of_step hi (h.idle i hi) hstep]
    exact h.idle i hi
  obtain ⟨henqueued, hmoves⟩ | ⟨i, pending, ⟨event, intent, rest, hat⟩, -, henqueue, henqueued⟩ :=
    managerMoves_of_step hstep
  · refine ⟨hidle, henqueued ▸ h.shardId_lt, ?_⟩
    rw [henqueued, h.submitted]
    obtain hsame | ⟨own, hmanager, hown⟩ := hmoves
    · rw [hsame]
    · have hsession : OrderManager.SameSession s.manager own ∧
          ∀ thread, own ≠ .submitEnqueue thread := by
        obtain rfl | ⟨hsubmission, hnot, -⟩ := hown
        · refine ⟨hok, ?_⟩
          rintro thread rfl
          exact absurd hstep (by simp [OrderFlow.step, OrderManagerInput.isSubmission])
        · refine ⟨?_, hnot⟩
          rintro rfl
          exact absurd hsubmission (by simp [OrderManagerInput.isSubmission])
      exact (OrderManager.pushedCount_of_step hsession.1 hsession.2 hmanager).symm
  · refine ⟨hidle, fun entry hentry ↦ ?_, ?_⟩
    · rw [henqueued] at hentry
      rcases List.mem_append.mp hentry with hold | hnew
      · exact h.shardId_lt entry hold
      · rw [List.mem_singleton.mp hnew]
        by_contra hi
        exact absurd ((h.idle i (not_lt.mp hi)).symm.trans hat) (by simp)
    · rw [henqueued, List.length_append, h.submitted,
        OrderManager.pushedCount_submitEnqueue henqueue]
      rfl

/-- The accounts, read between two steps of any threads. -/
structure Accounts (config : OrderFlowConfig Text τ σ) (s : OrderFlow Text τ σ) : Prop where
  /-- A runner submits what it emits, or counts why not. -/
  runners : ∀ i, (s.runners i).Accounted
  /-- The runners count as submitted what the order manager does. Either side is still to count some
  of the intents that have just entered the queue. -/
  submitted : ∑ i ∈ Finset.range config.shardCount,
      ((s.runners i).stats.intentsSubmittedCount + (s.view i).entered) =
    s.manager.counters.submittedCount + uncountedCalls s.manager.submits
  /-- The order manager sends what is submitted, or counts why not. -/
  manager : s.manager.counters.submittedCount + uncountedCalls s.manager.submits =
    s.manager.waiting.length + s.manager.counters.sentCount + s.manager.counters.sendFailedCount +
      s.manager.core.riskRejectCount + s.manager.core.portfolioRiskRejectCount

variable {passes : ℕ → OrderIntent → Prop}

/-- A runner that is in no call has heard of all that it submitted, and has no call under way. -/
theorem entered_of_idle {i : ℕ} (h : s.Inv config passes) (hidle : (s.runners i).call = .idle) :
    (s.view i).entered = 0 ∧ s.manager.submits.lookup i = none := by
  obtain ⟨hsink, hnone⟩ := (h.shard i).sink.idle fun event intent rest hat ↦
    absurd (hidle.symm.trans hat) (by simp)
  exact ⟨ShardView.entered_of_idle hsink, hnone⟩

theorem uncountedCalls_of_idle (h : s.Inv config passes)
    (hidle : ∀ i, (s.runners i).call = .idle) : uncountedCalls s.manager.submits = 0 := by
  refine UnorderedMap.sumOf_eq_sum_map (g := fun _ ↦ 0) List.nodup_nil (by simp) ?_
  exact fun i call hcall _ ↦ absurd ((entered_of_idle h (hidle i)).2.symm.trans hcall) (by simp)

theorem length_enqueued (h : s.Inv config passes) (hcounted : s.Counted config) :
    s.enqueued.length = ∑ i ∈ Finset.range config.shardCount,
      ((s.runners i).stats.intentsSubmittedCount + (s.view i).entered) := by
  rw [Thinned.length_eq_sum_countP EnqueuedIntent.shardId hcounted.shardId_lt]
  refine Finset.sum_congr rfl fun i _ ↦ ?_
  have hshard : (s.enqueuedOf i).length =
      (s.runners i).stats.intentsSubmittedCount + (s.view i).entered := (h.shard i).counted
  rw [← hshard, enqueuedOf, List.length_map, List.countP_eq_length_filter]

/-! ## The session -/

section Session

variable {transport : τ} {sink : σ} {s₁ : OrderFlow Text τ σ}

/-- Nothing is submitted when the session begins. -/
theorem counted_start
    (hstart : (machine config).step (create config transport sink) (.manager .start) = some s₁) :
    s₁.Counted config := by
  obtain ⟨manager, hmanager, rfl⟩ := Option.map_eq_some_iff.mp hstart
  refine ⟨fun _ _ ↦ rfl, fun entry hentry ↦ absurd hentry List.not_mem_nil, ?_⟩
  simp only [OrderManager.machine, OrderManager.start, create, OrderManager.init] at hmanager
  split_ifs at hmanager
  all_goals
    obtain rfl := Option.some.inj hmanager
    rfl

/-- The order manager goes through a session of its own. -/
theorem manager_of_session (hrun : (machine config).ReachesVia SameSession s₁ s) :
    (OrderManager.machine config.orderManager).ReachesVia OrderManager.SameSession
      s₁.manager s.manager := by
  refine hrun.project OrderFlow.manager fun _ hok hstep ↦ ?_
  obtain ⟨-, hsame | ⟨own, hmanager, hown⟩⟩ | ⟨i, _, -, -, henqueue, -⟩ :=
    managerMoves_of_step hstep
  · rw [hsame]
    exact .refl
  · refine .single own ?_ hmanager
    obtain rfl | ⟨hsubmission, -⟩ := hown
    · exact hok
    · rintro rfl
      exact absurd hsubmission (by simp [OrderManagerInput.isSubmission])
  · exact .single (.submitEnqueue i) (fun h ↦ absurd h (by simp)) henqueue

theorem counted_of_session
    (hstart : (machine config).step (create config transport sink) (.manager .start) = some s₁)
    (hrun : (machine config).ReachesVia SameSession s₁ s) : s.Counted config :=
  hrun.invariant (counted_start hstart) fun _ hcounted hok hstep ↦ hcounted.step hok hstep

/-- The counters of the order manager, in its session. -/
theorem pushedCount_of_session
    (hstart : (machine config).step (create config transport sink) (.manager .start) = some s₁)
    (hrun : (machine config).ReachesVia SameSession s₁ s) :
    s.manager.pushedCount = s.manager.waiting.length + s.manager.counters.sentCount +
      s.manager.counters.sendFailedCount + s.manager.core.riskRejectCount +
      s.manager.core.portfolioRiskRejectCount := by
  obtain ⟨manager, hmanager, rfl⟩ := Option.map_eq_some_iff.mp hstart
  have hfirst : (OrderManager.init config.orderManager transport sink).start config.orderManager =
    some manager := hmanager
  have hpushed := OrderManager.pushedCount_of_session rfl rfl hfirst (manager_of_session hrun)
  -- nobody can have submitted anything before
  have hnone : uncountedCalls (OrderManager.init config.orderManager transport sink).submits = 0 :=
    rfl
  rwa [hnone, Nat.zero_add] at hpushed

end Session

end OrderFlow

open OrderFlow in
/-- **The accounts of the order flow.** In the session of the trader, whatever the parties do and
however the threads are interleaved, every intent that a strategy emitted has one fate, and the
runners and the order manager agree on how many there are of each kind, up to the intents in the
queue that one of the sides is about to count. -/
theorem flow_accounts {Text τ σ : Type*} {config : OrderFlowConfig Text τ σ} {transport : τ}
    {sink : σ} {s₁ s : OrderFlow Text τ σ}
    (hstart : (OrderFlow.machine config).step (.create config transport sink) (.manager .start) =
      some s₁)
    (hrun : (OrderFlow.machine config).ReachesVia SameSession s₁ s) : s.Accounts config := by
  have hreaches : (OrderFlow.machine config).Reaches (.create config transport sink) s :=
    Machine.ReachesVia.trans (.single _ trivial hstart) hrun.forget
  have hinv := inv_of_reaches hreaches
  have hcounted := counted_of_session hstart hrun
  refine ⟨fun i ↦ (hinv.shard i).accounted, ?_, pushedCount_of_session hstart hrun⟩
  rw [← length_enqueued hinv hcounted]
  exact hcounted.submitted

open OrderFlow in
/-- The strategies of two shards emit four intents: one is too large, three are sent. -/
theorem flow_accounts_two_runners : ∃ s₁ s,
    (OrderFlow.machine twoRunners).step (.create twoRunners {} {})
      (.manager .start) = some s₁ ∧
    (OrderFlow.machine twoRunners).ReachesVia SameSession s₁ s ∧
      (s.runners 1).stats.intentsEmittedCount = 3 ∧ (s.runners 1).stats.riskRejectCount = 1 ∧
      (s.runners 0).stats.intentsSubmittedCount = 1 ∧ s.manager.counters.sentCount = 3 ∧
      s.Accounts twoRunners := by
  obtain ⟨s₁, hstart⟩ : ∃ s₁, (OrderFlow.machine twoRunners).step
      (.create twoRunners {} {}) (.manager .start) = some s₁ := ⟨_, rfl⟩
  have hrun : ((OrderFlow.machine twoRunners).runVia SameSession s₁
      twoRunnersRun.tail).any (fun s ↦ (s.runners 1).stats.intentsEmittedCount = 3 ∧
        (s.runners 1).stats.riskRejectCount = 1 ∧
        (s.runners 0).stats.intentsSubmittedCount = 1 ∧
        s.manager.counters.sentCount = 3) = true := by
    obtain rfl := Option.some.inj hstart
    decide +kernel
  obtain ⟨s, hreaches, hlast⟩ := Machine.exists_of_runVia hrun
  obtain ⟨hemitted, hrefused, hsubmitted, hsent⟩ := of_decide_eq_true hlast
  exact ⟨s₁, s, hstart, hreaches, hemitted, hrefused, hsubmitted, hsent,
    flow_accounts hstart hreaches⟩

end TradingEngine
