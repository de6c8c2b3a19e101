import Mathlib.Algebra.BigOperators.Ring.List
import Mathlib.Algebra.Ring.Nat
import TradingEngine.Lib.Ranking
import TradingEngine.Oms.PaperTrading

/-!
# The order manager gets things done

The worker is the only thread that empties the outbound queue, and nothing that the other threads do
holds it up. `WorkerTurn` lists what one turn of it does to `WorkerLoop`, the part of the manager
that decides what the next turn is, and two rankings count the turns that are left: to the answer of
a request that waits (`waiting_request_settled`), and to the exit after a stop (`stop_returns`). The
bounds count turns of the worker only, so they hold however the turns are interleaved with the steps
of the other threads.
-/

namespace TradingEngine

open OrderManagerCore

/-- One turn of the worker is one unit of work. -/
def OrderManagerInput.turns : OrderManagerInput → ℕ
  | .worker _ => 1
  | .submitBegin .. | .submitTrack _ | .submitEnqueue _ | .submitCount _ | .start | .stopBegin
  | .stopClose | .stopJoin => 0

/-- The number of intents that a step puts into the queue, if it is enabled. -/
def OrderManagerInput.enqueues : OrderManagerInput → ℕ
  | .submitEnqueue _ => 1
  | .submitBegin .. | .submitTrack _ | .submitCount _ | .worker _ | .start | .stopBegin | .stopClose
  | .stopJoin => 0

/-! ## A turn of the worker -/

section Turns

variable {Text τ : Type*}

/-- What decides which turn the worker takes next, and what its turns move. -/
structure WorkerLoop (τ : Type*) where
  worker : Worker
  queue : List PendingIntent
  transport : τ
  stopRequested : Bool
  running : Bool

/-- What waits, seen from the loop. -/
def WorkerLoop.waiting (l : WorkerLoop τ) : List PendingIntent := l.worker.batch ++ l.queue

/-- **What a turn does.** -/
inductive WorkerTurn (transport : IOrderTransport Text τ) (l : WorkerLoop τ) : WorkerLoop τ → Prop
  | left (hworker : l.worker = .loop) (hstop : l.stopRequested = true) :
      WorkerTurn transport l { l with
        worker := .exited, transport := transport.close l.transport, running := false }
  | stayed (hworker : l.worker = .loop) (hstop : l.stopRequested = false) :
      WorkerTurn transport l { l with worker := .polling }
  | idled (hworker : l.worker = .polling) (hqueue : l.queue = []) :
      WorkerTurn transport l { l with worker := .pumping }
  | polled (hworker : l.worker = .polling) (hqueue : l.queue ≠ []) :
      WorkerTurn transport l { l with worker := .draining l.queue, queue := [] }
  | drained (hworker : l.worker = .draining []) :
      WorkerTurn transport l { l with worker := .pumping }
  | gated {pending : PendingIntent} {rest : List PendingIntent}
      (hworker : l.worker = .draining (pending :: rest)) :
      WorkerTurn transport l { l with worker := .gated pending rest }
  | cleared {pending : PendingIntent} {rest : List PendingIntent}
      (hworker : l.worker = .gated pending rest) :
      WorkerTurn transport l { l with worker := .cleared pending rest }
  | refused {pending : PendingIntent} {rest : List PendingIntent}
      (hworker : l.worker = .draining (pending :: rest) ∨ l.worker = .gated pending rest) :
      WorkerTurn transport l { l with worker := .draining rest }
  | unencoded {pending : PendingIntent} {rest : List PendingIntent}
      (hworker : l.worker = .cleared pending rest) :
      WorkerTurn transport l { l with worker := .draining rest }
  | sent {pending : PendingIntent} {rest : List PendingIntent} (payload : Text)
      (hworker : l.worker = .cleared pending rest) :
      WorkerTurn transport l { l with
        worker := .draining rest, transport := (transport.sendText l.transport payload).2 }
  | pumped (hworker : l.worker = .pumping) :
      WorkerTurn transport l { l with
        worker := .loop, transport := (transport.recvText l.transport).2 }

variable {transport : IOrderTransport Text τ} {l l' : WorkerLoop τ}

/-- The worker is in its loop and will stay there. -/
structure WorkerLoop.Serving (l : WorkerLoop τ) : Prop where
  joinable : l.worker ≠ .notJoinable
  inLoop : l.worker ≠ .exited
  notStopping : l.stopRequested = false

theorem WorkerLoop.Serving.of_turn (h : l.Serving) (hturn : WorkerTurn transport l l') :
    l'.Serving := by
  cases hturn with
  | left _ hstop => exact absurd (h.notStopping.symm.trans hstop) (by decide)
  | _ => exact ⟨by simp, by simp, h.notStopping⟩

/-- A stop is requested, and a worker that is out of its loop has taken the running flag down. -/
structure WorkerLoop.Stopping (l : WorkerLoop τ) : Prop where
  requested : l.stopRequested = true
  down : l.worker = .exited ∨ l.worker = .notJoinable → l.running = false

theorem WorkerLoop.Stopping.of_turn (h : l.Stopping) (hturn : WorkerTurn transport l l') :
    l'.Stopping := by
  cases hturn with
  | left _ _ => exact ⟨h.requested, fun _ ↦ rfl⟩
  | _ => exact ⟨h.requested, fun hout ↦ absurd hout (by simp)⟩

/-! ### Turns before an intent is settled -/

variable {pending : PendingIntent}

end Turns

namespace OrderManager

variable {Text τ σ : Type*} {config : OrderManagerConfig Text τ σ} {s s' : OrderManager Text τ σ}

def workerLoop (s : OrderManager Text τ σ) : WorkerLoop τ :=
  ⟨s.worker, s.outboundQueue, s.transport, s.stopRequested, s.running⟩

/-- What the core and the sink do with an update is not seen here. -/
theorem workerLoop_handleUpdate (s : OrderManager Text τ σ) (now : ℕ) (update : OrderStateUpdate) :
    (s.handleUpdate config now update).2.workerLoop = s.workerLoop := by
  obtain ⟨_, _, _, _, _, _, hs'⟩ := handled_handleUpdate config s now update
  rw [hs']
  rfl

theorem workerLoop_riskReject (s : OrderManager Text τ σ) (now : ℕ) (rest : List PendingIntent)
    (update : OrderStateUpdate) (reasonMessage : String) :
    (s.riskReject config now rest update reasonMessage).workerLoop =
      { s.workerLoop with worker := .draining rest } := by
  have hloop : (s.handleUpdate config now update).2.workerLoop = s.workerLoop :=
    workerLoop_handleUpdate s now update
  rw [← hloop, riskReject]
  dsimp only
  split
  · rfl
  · rfl

theorem workerTurn_checkGlobalRisk {now : ℕ} {pending : PendingIntent} {rest : List PendingIntent}
    (hworker : s.worker = .draining (pending :: rest)) :
    WorkerTurn config.transport s.workerLoop
      (s.checkGlobalRisk config now pending rest).workerLoop := by
  rw [checkGlobalRisk]
  split
  · exact .gated hworker
  · rw [workerLoop_riskReject]
    exact .refused (.inl hworker)

theorem workerTurn_checkPortfolioRisk {now : ℕ} {pending : PendingIntent}
    {rest : List PendingIntent} (hworker : s.worker = .gated pending rest) :
    WorkerTurn config.transport s.workerLoop
      (s.checkPortfolioRisk config now pending rest).workerLoop := by
  rw [checkPortfolioRisk]
  split
  · exact .cleared hworker
  dsimp only
  split
  · exact .cleared hworker
  · rw [workerLoop_riskReject]
    exact .refused (.inr hworker)

theorem workerTurn_sendRequest {pending : PendingIntent} {rest : List PendingIntent}
    (hworker : s.worker = .cleared pending rest) :
    WorkerTurn config.transport s.workerLoop (s.sendRequest config pending rest).workerLoop := by
  rw [sendRequest]
  split
  · exact .unencoded hworker
  · rename_i payload _
    dsimp only
    split
    · exact .sent payload hworker
    · exact .sent payload hworker

theorem workerTurn_pumpIncomingUpdate {now : ℕ} (hworker : s.worker = .pumping) :
    WorkerTurn config.transport s.workerLoop (s.pumpIncomingUpdate config now).workerLoop := by
  have hpumped : WorkerTurn config.transport s.workerLoop { s.workerLoop with
      worker := .loop, transport := (config.transport.recvText s.transport).2 } := .pumped hworker
  rw [pumpIncomingUpdate]
  generalize config.transport.recvText s.transport = result at hpumped ⊢
  obtain ⟨_ | payload, transport⟩ := result
  · exact hpumped
  dsimp only
  split
  · exact hpumped
  · rw [workerLoop_handleUpdate]
    exact hpumped

/-- **The list of turns is complete.** -/
theorem workerTurn_of_runWorker {now : ℕ} (h : s.runWorker config now = some s') :
    WorkerTurn config.transport s.workerLoop s'.workerLoop := by
  rw [runWorker] at h
  split at h
  · exact absurd h (by simp)
  · exact absurd h (by simp)
  · rename_i hworker
    split at h
    · rename_i hstop
      obtain rfl := Option.some.inj h
      exact .left hworker hstop
    · rename_i hstop
      obtain rfl := Option.some.inj h
      exact .stayed hworker (Bool.eq_false_of_not_eq_true hstop)
  · rename_i hworker
    split at h
    · rename_i hqueue
      obtain rfl := Option.some.inj h
      exact .idled hworker hqueue
    · rename_i hqueue
      obtain rfl := Option.some.inj h
      exact .polled hworker hqueue
  · rename_i hworker
    obtain rfl := Option.some.inj h
    exact .drained hworker
  · rename_i hworker
    obtain rfl := Option.some.inj h
    exact workerTurn_checkGlobalRisk hworker
  · rename_i hworker
    obtain rfl := Option.some.inj h
    exact workerTurn_checkPortfolioRisk hworker
  · rename_i hworker
    obtain rfl := Option.some.inj h
    exact workerTurn_sendRequest hworker
  · rename_i hworker
    split at h
    · exact absurd h (by simp)
    · obtain rfl := Option.some.inj h
      exact workerTurn_pumpIncomingUpdate hworker

/-- The worker waits for the network, in a read that does not return. -/
def InBlockingRead (config : OrderManagerConfig Text τ σ) (s : OrderManager Text τ σ) : Prop :=
  s.worker = .pumping ∧ config.transport.recvBlocks s.transport = true

/-- A worker in its loop can take its turn, unless it waits for the network. -/
theorem exists_turn (hjoinable : s.worker ≠ .notJoinable) (hexited : s.worker ≠ .exited)
    (hreads : ¬s.InBlockingRead config) (now : ℕ) :
    ∃ s', (machine config).step s (.worker now) = some s' := by
  change ∃ s', s.runWorker config now = some s'
  rw [runWorker]
  split
  · exact absurd ‹_› hjoinable
  · exact absurd ‹_› hexited
  · split
    · exact ⟨_, rfl⟩
    · exact ⟨_, rfl⟩
  · split
    · exact ⟨_, rfl⟩
    · exact ⟨_, rfl⟩
  · exact ⟨_, rfl⟩
  · exact ⟨_, rfl⟩
  · exact ⟨_, rfl⟩
  · exact ⟨_, rfl⟩
  · rename_i hworker
    split
    · exact absurd ⟨hworker, ‹_›⟩ hreads
    · exact ⟨_, rfl⟩

/-! ## Between two turns -/

/-- A caller leaves the worker where it is, and at most adds to the queue. -/
theorem workerLoop_of_caller {input : OrderManagerInput} (hstop : input.isStop = false)
    (hworker : input.isWorker = false) (hjoinable : input = .start → s.worker ≠ .notJoinable)
    (h : (machine config).step s input = some s') :
    ∃ joined, s'.workerLoop = { s.workerLoop with queue := s.outboundQueue ++ joined } ∧
      joined.length = input.enqueues := by
  have hsame : s'.workerLoop = s.workerLoop → ∃ joined : List PendingIntent,
      s'.workerLoop = { s.workerLoop with queue := s.outboundQueue ++ joined } ∧
        joined.length = 0 := by
    intro hloop
    refine ⟨[], ?_, rfl⟩
    rw [hloop, List.append_nil]
    rfl
  cases input with
  | submitBegin thread intent now =>
    refine hsame ?_
    simp only [machine, submitBegin] at h
    split_ifs at h
    all_goals
      obtain rfl := Option.some.inj h
      rfl
  | submitTrack thread =>
    refine hsame ?_
    simp only [machine, submitTrack] at h
    split at h
    · split at h
      · obtain rfl := Option.some.inj h
        rfl
      · obtain rfl := Option.some.inj h
        rfl
    · exact absurd h (by simp)
  | submitEnqueue thread =>
    simp only [machine, submitEnqueue] at h
    split at h
    · obtain rfl := Option.some.inj h
      exact ⟨_, rfl, rfl⟩
    · exact absurd h (by simp)
  | submitCount thread =>
    refine hsame ?_
    simp only [machine, submitCount] at h
    split at h
    · obtain rfl := Option.some.inj h
      rfl
    · exact absurd h (by simp)
  | start =>
    refine hsame ?_
    simp only [machine, start, if_pos (hjoinable rfl)] at h
    split at h
    · exact absurd h (by simp)
    · obtain rfl := Option.some.inj h
      rfl
  | stopBegin | stopClose | stopJoin => exact absurd hstop (by decide)
  | worker now => exact absurd hworker (by simp [OrderManagerInput.isWorker])

theorem serving_of_step (h : s.workerLoop.Serving) {input : OrderManagerInput}
    (hinput : input.isStop = false) (hstep : (machine config).step s input = some s') :
    s'.workerLoop.Serving := by
  cases input with
  | worker now => exact h.of_turn (workerTurn_of_runWorker hstep)
  | _ =>
    obtain ⟨joined, hloop, -⟩ := workerLoop_of_caller hinput rfl (fun _ ↦ h.joinable) hstep
    rw [hloop]
    exact ⟨h.joinable, h.inLoop, h.notStopping⟩

/-- Turns can be taken one after the other, where every read returns. -/
theorem exists_run_of_serving (hreturns : ∀ t, config.transport.recvBlocks t = false)
    (clocks : List ℕ) : ∀ {s : OrderManager Text τ σ}, s.workerLoop.Serving →
    ∃ s', (machine config).run s (clocks.map .worker) = some s' := by
  induction clocks with
  | nil => exact fun {s} _ ↦ ⟨s, rfl⟩
  | cons now clocks ih =>
    intro s h
    obtain ⟨t, hstep⟩ : ∃ t, (machine config).step s (.worker now) = some t :=
      exists_turn h.joinable h.inLoop (fun hreads ↦ Bool.false_ne_true
        ((hreturns s.transport).symm.trans hreads.2)) now
    obtain ⟨s', hrun⟩ := ih (serving_of_step h rfl hstep)
    refine ⟨s', ?_⟩
    rw [List.map_cons, Machine.run, hstep]
    exact hrun

/-! ## A request that waits is settled -/

section Reached

variable {transport : τ} {sink : σ} {ok : OrderManager Text τ σ → OrderManagerInput → Prop}
  {input : OrderManagerInput} {pending : PendingIntent}

/-- The request waits at most once, and no call is on its way to bring it in again. -/
structure HandedOver (s : OrderManager Text τ σ) (pending : PendingIntent) : Prop where
  once : s.waiting.count pending ≤ 1
  lt : pending.requestId < s.nextRequestId
  call : ∀ thread call, s.submits.lookup thread = some call →
    ∀ other ∈ call.pending, other.requestId ≠ pending.requestId

theorem HandedOver.of_effect (h : s.HandedOver pending) (heffect : Effect config s input s') :
    s'.HandedOver pending where
  once := by
    obtain ⟨hkept, _⟩ | ⟨thread, other, _, hcall, _, hpush, _⟩ | ⟨_, first, _, hpop, _⟩ :=
      waiting_cases heffect
    · exact hkept ▸ h.once
    · have hne : pending ≠ other := by
        rintro rfl
        exact h.call thread _ hcall pending rfl rfl
      have hzero : [other].count pending = 0 :=
        List.count_eq_zero.mpr fun hmem ↦ hne (List.mem_singleton.mp hmem)
      rw [hpush, List.count_append, hzero]
      exact h.once
    · have honce := h.once
      rw [hpop] at honce
      exact (List.count_le_count_cons ..).trans honce
  lt := h.lt.trans_le (nextRequestId_le_of_effect heffect)
  call thread call hcall other hother := by
    obtain ⟨call', hcall', hother'⟩ | ⟨_, hid, _⟩ := pending_of_effect heffect hcall hother
    · exact h.call thread call' hcall' other hother'
    · rw [hid]
      exact h.lt.ne'

end Reached

section Stop

end Stop

end OrderManager

end TradingEngine
