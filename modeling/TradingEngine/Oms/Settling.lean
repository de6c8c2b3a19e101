import TradingEngine.Oms.Progress

/-!
# The order manager over the paper transport settles

The paper transport answers a request at once, with two messages at most. So a manager over it that
is handed nothing new comes to rest: its queue, the batch of its worker and the transport are empty
after a number of turns that is known in advance (`paper_settles`), whatever its limits and its sink
are. Without limits every order is filled by then (`paper_trading_settles`), which is the end that
`paper_trading` takes for granted.
-/

namespace TradingEngine

namespace PaperOrderTransport

variable {Text : Type*} {json : JsonLibrary Text} {autoFillOnPlace : Bool}

/-- A request has two answers at most. -/
theorem length_sendText_le (autoFillOnPlace : Bool) (s : State Text) (payload : Text) :
    (sendText json autoFillOnPlace s payload).2.inboundUpdates.length ≤
      s.inboundUpdates.length + 2 := by
  have hsame : s.inboundUpdates.length ≤ s.inboundUpdates.length + 2 := Nat.le_add_right _ _
  rw [sendText]
  split
  · exact hsame
  split
  · exact hsame
  rw [sendRequest]
  split
  · exact hsame
  split
  · split
    · exact hsame
    split
    · rw [sendPlace]
      split
      · split
        · exact hsame
        · rw [answerPlace]
          dsimp only
          split
          · rw [List.append_assoc, List.length_append]
            exact Nat.le_refl _
          · rw [List.length_append]
            exact Nat.le_succ _
      · exact hsame
    split
    · rw [sendUnsupported, List.length_append]
      exact Nat.le_succ _
    · exact hsame
  · exact hsame

theorem connected_sendText (autoFillOnPlace : Bool) (s : State Text) (payload : Text) :
    (sendText json autoFillOnPlace s payload).2.connected = s.connected := by
  rw [sendText]
  split
  · rfl
  split
  · rfl
  rw [sendRequest]
  split
  · rfl
  split
  · split
    · rfl
    split
    · rw [sendPlace]
      split
      · split
        · rfl
        · rw [answerPlace]
          dsimp only
          split
          · rfl
          · rfl
      · rfl
    split
    · rfl
    · rfl
  · rfl

theorem connected_recvText (s : State Text) : (recvText s).2.connected = s.connected := by
  rw [recvText]
  split
  · rfl
  split
  · rfl
  · rfl

/-- A connected transport hands over the front of its queue. -/
theorem inboundUpdates_recvText {s : State Text} (h : s.connected = true) :
    (recvText s).2.inboundUpdates = s.inboundUpdates.tail := by
  rw [recvText, if_neg (by rw [h]; decide)]
  split
  · rename_i hinbound
    rw [hinbound]
    rfl
  · rename_i hinbound
    rw [hinbound]
    rfl

end PaperOrderTransport

section Turns

variable {Text : Type*} {json : JsonLibrary Text} {autoFillOnPlace : Bool}
  {l l' : WorkerLoop (PaperOrderTransport.State Text)}

/-- The worker has nothing to do: nothing waits, and the transport has nothing left. -/
structure WorkerLoop.AtRest (l : WorkerLoop (PaperOrderTransport.State Text)) : Prop where
  waiting : l.waiting = []
  inbound : l.transport.inboundUpdates = []

/-- The turns until the worker has nothing to do. A message takes three, one pass through the loop.
A request that is still in the queue takes thirteen: its own three, six for its two answers, and
four for the pass that takes it from the queue. -/
def WorkerLoop.turnsToRest (l : WorkerLoop (PaperOrderTransport.State Text)) : ℕ :=
  3 * l.transport.inboundUpdates.length + 13 * l.queue.length +
    match l.worker with
    | .notJoinable | .exited => 0
    | .polling => 1
    | .loop => 2
    | .pumping => if l.transport.inboundUpdates = [] then 3 else 0
    | .draining batch => 9 * batch.length + 4
    | .cleared _ rest => 9 * rest.length + 11
    | .gated _ rest => 9 * rest.length + 12

theorem WorkerLoop.turnsToRest_le (l : WorkerLoop (PaperOrderTransport.State Text)) :
    l.turnsToRest ≤ 3 * l.transport.inboundUpdates.length + 13 * l.waiting.length + 4 := by
  have hlength : l.waiting.length = l.worker.batch.length + l.queue.length := List.length_append
  rw [turnsToRest, hlength]
  cases l.worker with
  | pumping =>
    dsimp only [Worker.batch]
    split
    · omega
    · omega
  | _ =>
    simp only [Worker.batch, List.length_cons, List.length_nil]
    omega

/-- Rest is kept. -/
theorem WorkerTurn.atRest
    (h : WorkerTurn (PaperOrderTransport.transport json autoFillOnPlace) l l')
    (hconnected : l.transport.connected = true) (hrest : l.AtRest) : l'.AtRest := by
  obtain ⟨hbatch, hqueue⟩ := List.append_eq_nil_iff.mp hrest.waiting
  have hnone : ∀ {pending : PendingIntent} {rest : List PendingIntent}, pending :: rest ≠ [] :=
    fun {pending rest} ↦ List.cons_ne_nil pending rest
  cases h with
  | left _ _ | stayed _ _ | idled _ _ | drained _ => exact ⟨hqueue, hrest.inbound⟩
  | polled _ hsome => exact absurd hqueue hsome
  | gated hworker | cleared hworker | unencoded hworker | sent _ hworker =>
    exact absurd (hworker ▸ hbatch) hnone
  | refused hworker =>
    rcases hworker with hworker | hworker
    · exact absurd (hworker ▸ hbatch) hnone
    · exact absurd (hworker ▸ hbatch) hnone
  | pumped _ =>
    refine ⟨hqueue, (PaperOrderTransport.inboundUpdates_recvText hconnected).trans ?_⟩
    rw [hrest.inbound]
    rfl

/-- **Every turn counts** until the worker has nothing to do. -/
theorem WorkerTurn.turnsToRest_lt
    (h : WorkerTurn (PaperOrderTransport.transport json autoFillOnPlace) l l')
    (hconnected : l.transport.connected = true) (hstop : l.stopRequested = false)
    (hrest : ¬l'.AtRest) : l'.turnsToRest + 1 ≤ l.turnsToRest := by
  cases h with
  | left _ hstopped => exact absurd (hstop.symm.trans hstopped) (by decide)
  | stayed hworker _ =>
    simp only [WorkerLoop.turnsToRest, hworker]
    exact Nat.le_refl _
  | idled hworker hqueue =>
    -- the queue is empty, so there is a message
    have hinbound : l.transport.inboundUpdates ≠ [] := fun hnil ↦ hrest ⟨hqueue, hnil⟩
    simp only [WorkerLoop.turnsToRest, hworker, if_neg hinbound]
    exact Nat.le_refl _
  | polled hworker hqueue =>
    have hpos : 0 < l.queue.length := List.length_pos_iff.mpr hqueue
    simp only [WorkerLoop.turnsToRest, hworker, List.length_nil]
    omega
  | drained hworker =>
    simp only [WorkerLoop.turnsToRest, hworker, List.length_nil]
    split
    · omega
    · omega
  | gated hworker =>
    simp only [WorkerLoop.turnsToRest, hworker, List.length_cons]
    omega
  | cleared hworker =>
    simp only [WorkerLoop.turnsToRest, hworker]
    omega
  | refused hworker =>
    rcases hworker with hworker | hworker
    · simp only [WorkerLoop.turnsToRest, hworker, List.length_cons]
      omega
    · simp only [WorkerLoop.turnsToRest, hworker]
      omega
  | unencoded hworker =>
    simp only [WorkerLoop.turnsToRest, hworker]
    omega
  | sent payload hworker =>
    have hanswers : (PaperOrderTransport.sendText json autoFillOnPlace l.transport
        payload).2.inboundUpdates.length ≤ l.transport.inboundUpdates.length + 2 :=
      PaperOrderTransport.length_sendText_le autoFillOnPlace l.transport payload
    simp only [WorkerLoop.turnsToRest, hworker, PaperOrderTransport.transport]
    omega
  | pumped hworker =>
    have hinbound := PaperOrderTransport.inboundUpdates_recvText hconnected
    simp only [WorkerLoop.turnsToRest, hworker, PaperOrderTransport.transport, hinbound]
    cases l.transport.inboundUpdates with
    | nil => exact Nat.le_refl _
    | cons payload rest =>
      rw [if_neg (List.cons_ne_nil _ _), List.tail_cons, List.length_cons]
      omega

theorem WorkerTurn.connected
    (h : WorkerTurn (PaperOrderTransport.transport json autoFillOnPlace) l l')
    (hstop : l.stopRequested = false) : l'.transport.connected = l.transport.connected := by
  cases h with
  | left _ hstopped => exact absurd (hstop.symm.trans hstopped) (by decide)
  | sent payload _ => exact PaperOrderTransport.connected_sendText autoFillOnPlace _ payload
  | pumped _ => exact PaperOrderTransport.connected_recvText _
  | _ => rfl

end Turns

theorem Trips.length_messages_le (trips : Trips) :
    trips.messages.length ≤ 2 * trips.all.length := by
  have hsent : (trips.sent.flatMap fun trip ↦ [Message.ack trip, .fill trip]).length =
      2 * trips.sent.length := by
    simp only [List.length_flatMap, List.length_cons, List.length_nil, List.map_const',
      List.sum_replicate_nat]
    exact Nat.mul_comm _ _
  rw [Trips.messages, Trips.all, List.length_append, hsent, List.length_append, List.length_append,
    Option.length_toList, Option.length_toList, Option.isSome_map]
  rcases trips.acked.isSome with _ | _
  · simp only [Bool.false_eq_true, if_false]
    omega
  · simp only [if_true]
    omega

namespace OrderManager

variable {Text σ : Type*} {json : JsonLibrary Text} {autoFillOnPlace : Bool}

/-! ## Any limits and any sink -/

section AnyLimits

variable {config : OrderManagerConfig Text (PaperOrderTransport.State Text) σ}
  (hpaper : config.transport = PaperOrderTransport.transport json autoFillOnPlace)
  {s s' : OrderManager Text (PaperOrderTransport.State Text) σ}

/-- The worker is in its loop, over a transport that is connected. -/
structure Online (s : OrderManager Text (PaperOrderTransport.State Text) σ) : Prop where
  serving : s.workerLoop.Serving
  connected : s.transport.connected = true

include hpaper

theorem online_of_step (h : s.Online) {input : OrderManagerInput} (hinput : input.isStop = false)
    (hstep : (machine config).step s input = some s') : s'.Online := by
  refine ⟨serving_of_step h.serving hinput hstep, ?_⟩
  cases input with
  | worker now =>
    have hturn := workerTurn_of_runWorker hstep
    rw [hpaper] at hturn
    exact (hturn.connected h.serving.notStopping).trans h.connected
  | _ =>
    obtain ⟨joined, hloop, -⟩ :=
      workerLoop_of_caller hinput rfl (fun _ ↦ h.serving.joinable) hstep
    have htransport : s'.transport = s.transport := congrArg WorkerLoop.transport hloop
    rw [htransport]
    exact h.connected

/-- A manager that was started is online. -/
theorem online_of_start {transport : PaperOrderTransport.State Text} {sink : σ}
    (hstep : (machine config).step (init config transport sink) .start = some s) : s.Online := by
  have hconnect : config.transport.connect transport =
      (true, { transport with connected := true, lastErrorCode := .none }) := by
    rw [hpaper]
    rfl
  change start config (init config transport sink) = some s at hstep
  rw [start, if_neg (by simp [init]), if_neg (by simp [init])] at hstep
  dsimp only [init] at hstep
  rw [hconnect, if_pos rfl] at hstep
  obtain rfl := Option.some.inj hstep
  exact ⟨⟨by simp [workerLoop], by simp [workerLoop], rfl⟩, rfl⟩

theorem online_of_run {transport : PaperOrderTransport.State Text} {sink : σ}
    {inputs : List OrderManagerInput} (hinputs : ∀ input ∈ inputs, input.isStop = false)
    (hrun : (machine config).run (init config transport sink) (.start :: inputs) = some s) :
    s.Online := by
  obtain ⟨first, hstart, hrest⟩ := Machine.run_cons hrun
  have hfirst := online_of_start hpaper hstart
  clear hrun hstart
  induction inputs generalizing first with
  | nil =>
    obtain rfl := Option.some.inj hrest
    exact hfirst
  | cons input inputs ih =>
    obtain ⟨hinput, hinputs⟩ := List.forall_mem_cons.mp hinputs
    obtain ⟨next, hstep, hrest⟩ := Machine.run_cons hrest
    exact ih hinputs next hrest (online_of_step hpaper hfirst hinput hstep)

omit hpaper in
/-- A step that enqueues nothing and is no turn leaves the loop alone. -/
theorem workerLoop_of_idle {input : OrderManagerInput} (hstop : input.isStop = false)
    (hworker : input.isWorker = false) (hjoinable : s.worker ≠ .notJoinable)
    (hnone : input.enqueues = 0) (hstep : (machine config).step s input = some s') :
    s'.workerLoop = s.workerLoop := by
  obtain ⟨joined, hloop, hlength⟩ :=
    workerLoop_of_caller hstop hworker (fun _ ↦ hjoinable) hstep
  obtain rfl := List.length_eq_zero_iff.mp (hlength.trans hnone)
  rw [hloop, List.append_nil]
  rfl

/-- The ranking of a manager that is handed nothing new. -/
def untilRest :
    (machine config).Ranking Online (fun s ↦ s.workerLoop.AtRest)
      (fun input ↦ input.isStop = false ∧ input.enqueues = 0) OrderManagerInput.turns
      (fun _ ↦ 0) where
  rank s := s.workerLoop.turnsToRest
  keeps hs hinput hstep := online_of_step hpaper hs hinput.1 hstep
  stays {s input s'} hs hinput hstep hrest := by
    cases input with
    | worker now =>
      have hturn := workerTurn_of_runWorker hstep
      rw [hpaper] at hturn
      exact hturn.atRest hs.connected hrest
    | _ =>
      rw [workerLoop_of_idle hinput.1 rfl hs.serving.joinable hinput.2 hstep]
      exact hrest
  falls {s input s'} hs hinput hstep hrest := by
    cases input with
    | worker now =>
      have hturn := workerTurn_of_runWorker hstep
      rw [hpaper] at hturn
      exact hturn.turnsToRest_lt hs.connected hs.serving.notStopping hrest
    | _ =>
      rw [workerLoop_of_idle hinput.1 rfl hs.serving.joinable hinput.2 hstep]
      exact Nat.le_refl _

/-- **Over the paper transport the manager settles.** After a start and any run without a stop,
whatever the limits, the sink and the setting of the automatic fills: thirteen turns of the worker
for each request that waits, three for each message of the transport and five more, with nothing
enqueued in between, empty the queue, the batch and the transport. -/
theorem paper_settles {transport : PaperOrderTransport.State Text} {sink : σ}
    {inputs more : List OrderManagerInput} (hinputs : ∀ input ∈ inputs, input.isStop = false)
    (hrun : (machine config).run (init config transport sink) (.start :: inputs) = some s)
    (hmore : ∀ input ∈ more, input.isStop = false ∧ input.enqueues = 0)
    (hturns : 3 * s.transport.inboundUpdates.length + 13 * s.waiting.length + 5 ≤
      (more.map OrderManagerInput.turns).sum)
    (hrest : (machine config).run s more = some s') :
    s'.waiting = [] ∧ s'.transport.inboundUpdates = [] := by
  have hzero : (more.map fun _ ↦ 0).sum = 0 := by simp
  have hle : s.workerLoop.turnsToRest ≤
      3 * s.transport.inboundUpdates.length + 13 * s.waiting.length + 4 :=
    s.workerLoop.turnsToRest_le
  have hgoal : s'.workerLoop.AtRest := by
    refine (untilRest hpaper).goal_of_run hmore (online_of_run hpaper hinputs hrun) ?_ hrest
    rw [hzero]
    exact (Nat.lt_succ_of_le hle).trans_le hturns
  exact ⟨hgoal.waiting, hgoal.inbound⟩

end AnyLimits

/-! ## Without limits every order is filled -/

section Trading

variable {s s' : OrderManager Text (PaperOrderTransport.State Text) PositionLedger}
  {intents : List OrderIntent} {trips : Trips}

theorem submits_of_turns {τ : Type*} {config : OrderManagerConfig Text τ σ} (clocks : List ℕ) :
    ∀ {s s' : OrderManager Text τ σ}, (machine config).run s (clocks.map .worker) = some s' →
      s'.submits = s.submits := by
  induction clocks with
  | nil =>
    intro s s' hrun
    obtain rfl := Option.some.inj hrun
    rfl
  | cons now clocks ih =>
    intro s s' hrun
    obtain ⟨t, hstep, hrest⟩ := Machine.run_cons hrun
    rw [ih hrest]
    cases effect_of_step hstep with
    | _ => rfl

/-- Each intent of a session takes at most thirteen turns. -/
theorem turns_of_session (h : Session json intents trips s) :
    3 * s.transport.inboundUpdates.length + 13 * s.waiting.length ≤ 13 * intents.length := by
  have haccount := h.account.length_eq
  rw [List.length_map, List.length_map, List.length_append, List.length_map, underWay,
    List.length_append, List.length_map] at haccount
  have hanswers := h.wire.answers.length_eq
  have hmessages := trips.length_messages_le
  omega

/-- **Paper trading comes to its end.** The manager is started, and complete places with different
client order ids are submitted, in any interleaving of the calls with each other and with the
worker. Once every call has returned, the worker can take thirteen turns for each of them and five
more, whatever the clock shows, and then every order is filled in full and the ledger has bought and
sold what the intents add up to, in exact integers: the 64-bit ledger of the source has the same
totals as long as none of them leaves 64 bits. -/
theorem paper_trading_settles (json : JsonLibrary Text) {inputs : List OrderManagerInput}
    (hinputs : ∀ input ∈ inputs, input.isStop = false)
    (hintents : PaperIntents (inputs.filterMap OrderManagerInput.submitted))
    (hrun : (machine (Trader.paperConfig json {} {})).run (Trader.paperInit json {} {})
      (.start :: inputs) = some s)
    (hsubmits : s.submits = ∅) {clocks : List ℕ}
    (hclocks : 13 * (inputs.filterMap OrderManagerInput.submitted).length + 5 ≤ clocks.length) :
    ∃ s', (machine (Trader.paperConfig json {} {})).run s (clocks.map .worker) = some s' ∧
      s'.Traded (inputs.filterMap OrderManagerInput.submitted) := by
  have hpaper : (Trader.paperConfig json {} {}).transport =
      PaperOrderTransport.transport json true := rfl
  obtain ⟨started, hstart, hsession⟩ := session_start json
  obtain ⟨first, hfirst, hrest⟩ := Machine.run_cons hrun
  obtain rfl := Option.some.inj (hstart.symm.trans hfirst)
  obtain ⟨trips, hbefore⟩ := session_of_run inputs hinputs hsession hintents hrest
  rw [List.nil_append] at hbefore
  -- the turns go through, and they submit nothing
  obtain ⟨s', hturns⟩ : ∃ s', (machine (Trader.paperConfig json {} {})).run s
      (clocks.map .worker) = some s' :=
    exists_run_of_serving (fun _ ↦ rfl) clocks (online_of_run hpaper hinputs hrun).serving
  have hworker : ∀ input ∈ clocks.map OrderManagerInput.worker,
      input.isStop = false ∧ input.enqueues = 0 ∧ input.submitted = none ∧ input.turns = 1 := by
    intro input hinput
    obtain ⟨now, -, rfl⟩ := List.mem_map.mp hinput
    exact ⟨rfl, rfl, rfl, rfl⟩
  have hnothing : (clocks.map OrderManagerInput.worker).filterMap OrderManagerInput.submitted =
      [] :=
    List.filterMap_eq_nil_iff.mpr fun input hinput ↦ (hworker input hinput).2.2.1
  have hcount : ((clocks.map OrderManagerInput.worker).map OrderManagerInput.turns).sum =
      clocks.length := by
    have hone : OrderManagerInput.turns ∘ OrderManagerInput.worker = fun _ ↦ 1 := rfl
    rw [List.map_map, hone, List.map_const', List.sum_replicate_nat, Nat.mul_one]
  have hafter := session_of_run _ (fun input hinput ↦ (hworker input hinput).1) hbefore
    (by rwa [hnothing, List.append_nil]) hturns
  rw [hnothing, List.append_nil] at hafter
  obtain ⟨trips', hafter⟩ := hafter
  have hturnsOf := turns_of_session hbefore
  obtain ⟨hwaiting, hinbound⟩ := paper_settles hpaper hinputs hrun
    (fun input hinput ↦ ⟨(hworker input hinput).1, (hworker input hinput).2.1⟩)
    (by rw [hcount]; omega) hturns
  exact ⟨s', hturns, traded_of_session hafter ((submits_of_turns clocks hturns).trans hsubmits)
    hwaiting hinbound⟩

/-- Two calls that overlap with each other and with the worker: a purchase of ten lots is in the
batch of the worker when a sale of four in the same market is enqueued. -/
def crossingRun : List OrderManagerInput :=
  [.submitBegin 0 (Trader.placeIntent "c1" "KXBTC-YES" .buy 10 40) 1, .worker 2,
    .submitBegin 1 (Trader.placeIntent "c2" "KXBTC-YES" .ask 4 45) 3, .submitTrack 0,
    .submitEnqueue 0, .worker 4, .worker 4, .submitCount 0, .submitTrack 1, .submitEnqueue 1,
    .submitCount 1]

/-- Thirty-one turns are enough for both. -/
theorem paper_trading_settles_crossing :
    ∃ s s', (machine (Trader.paperConfig JsonLibrary.trees {} {})).run
        (Trader.paperInit JsonLibrary.trees {} {}) (.start :: crossingRun) = some s ∧
      (machine (Trader.paperConfig JsonLibrary.trees {} {})).run s
        ((List.replicate 31 5).map .worker) = some s' ∧
      s'.Traded (crossingRun.filterMap OrderManagerInput.submitted) ∧
      (s'.sink.core.positionAt ⟨.kalshi, "KXBTC-YES"⟩).netQtyLots = 6 := by
  have hrun : ∃ s, (machine (Trader.paperConfig JsonLibrary.trees {} {})).run
      (Trader.paperInit JsonLibrary.trees {} {}) (.start :: crossingRun) = some s ∧
      s.submits = ∅ := ⟨_, rfl, rfl⟩
  have hlist : crossingRun.filterMap OrderManagerInput.submitted =
      [Trader.placeIntent "c1" "KXBTC-YES" .buy 10 40,
        Trader.placeIntent "c2" "KXBTC-YES" .ask 4 45] := rfl
  have hintents : PaperIntents (crossingRun.filterMap OrderManagerInput.submitted) := by
    refine ⟨?_, by decide, by decide⟩
    rw [hlist]
    intro intent hintent
    rcases List.mem_pair.mp hintent with rfl | rfl
    · exact ⟨rfl, by decide, 40, rfl, by decide, by decide, by decide, by decide, rfl⟩
    · exact ⟨rfl, by decide, 45, rfl, by decide, by decide, by decide, by decide, rfl⟩
  obtain ⟨s, hrun, hsubmits⟩ := hrun
  obtain ⟨s', hturns, htraded⟩ := paper_trading_settles JsonLibrary.trees (by decide) hintents hrun
    hsubmits (by decide : _ ≤ (List.replicate 31 5).length)
  refine ⟨s, s', hrun, hturns, htraded, ?_⟩
  rw [htraded.net]
  rfl

end Trading

end OrderManager

end TradingEngine
