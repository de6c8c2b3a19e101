import TradingEngine.Oms.PaperTrips

/-!
# Paper trading, end to end

Complete places are submitted by any threads while the worker runs, over the paper transport and
into the ledger, with every limit switched off. Once nothing is under way any more, every order is
filled in full, can be found by its exchange order id, and the ledger holds what the intents say.
The order in which threads and worker take their steps does not matter (`paper_trading`).

## The invariant

`Session` is the state of such a run. Every intent that was submitted is in one place: in a call, in
the outbound queue or the batch of the worker, or among the `Trips`. This is `account`, and it keeps
client order ids apart as long as the submitted ones are different. The other fields say what the
transport, the core and the ledger hold for the trips.
-/

namespace TradingEngine

open OrderManagerCore PositionLedgerCore

def OrderManagerInput.isStop : OrderManagerInput → Bool
  | .stopBegin | .stopClose | .stopJoin => true
  | .submitBegin .. | .submitTrack _ | .submitEnqueue _ | .submitCount _ | .start
  | .worker _ => false

/-- Complete places with different client order ids, so few that their messages can be counted with
32 bits. -/
structure PaperIntents (intents : List OrderIntent) : Prop where
  complete : ∀ intent ∈ intents, intent.IsComplete
  ids : (intents.map (·.clientOrderId)).Nodup
  few : 2 * intents.length < 2 ^ 32

theorem PaperIntents.of_append {intents more : List OrderIntent}
    (h : PaperIntents (intents ++ more)) : PaperIntents intents where
  complete intent hintent := h.complete intent (List.mem_append_left _ hintent)
  ids := by
    have hids := h.ids
    rw [List.map_append] at hids
    exact hids.of_append_left
  few := by
    have hfew := h.few
    rw [List.length_append] at hfew
    omega

theorem OrderIntent.fields_of_untimed {intent intent' : OrderIntent}
    (h : intent.untimed = intent'.untimed) :
    intent.clientOrderId = intent'.clientOrderId ∧ intent.qtyLots = intent'.qtyLots :=
  have hid : intent.untimed.clientOrderId = intent'.untimed.clientOrderId := by rw [h]
  have hqty : intent.untimed.qtyLots = intent'.untimed.qtyLots := by rw [h]
  ⟨hid, hqty⟩

theorem OrderIntent.IsComplete.of_untimed {intent intent' : OrderIntent}
    (h : intent.IsComplete) (hsame : intent.untimed = intent'.untimed) :
    intent'.IsComplete := by
  have hbare : intent.untimed.IsComplete := ⟨h.action, h.isInt64, by
    obtain ⟨price, hvalid⟩ := h.valid
    exact ⟨price, hvalid.exchange, hvalid.clientOrderId, hvalid.marketTicker, hvalid.qtyLots,
      hvalid.side, hvalid.limitPriceTicks⟩⟩
  rw [hsame] at hbare
  obtain ⟨price, hvalid⟩ := hbare.valid
  exact ⟨hbare.action, hbare.isInt64, price, hvalid.exchange, hvalid.clientOrderId,
    hvalid.marketTicker, hvalid.qtyLots, hvalid.side, hvalid.limitPriceTicks⟩

namespace OrderManager

/-! ## Intents under way -/

/-- The intents of the calls that have not reached the queue. -/
def callIntents (submits : UnorderedMap ThreadId SubmitCall) : List OrderIntent :=
  submits.collect fun call ↦ call.pending.map (·.intent)

variable {Text : Type*} {json : JsonLibrary Text}
  {s s' : OrderManager Text (PaperOrderTransport.State Text) PositionLedger}
  {intents : List OrderIntent} {trips : Trips}

/-- The intents that are submitted and not sent. -/
def underWay (s : OrderManager Text (PaperOrderTransport.State Text) PositionLedger) :
    List OrderIntent :=
  callIntents s.submits ++ s.waiting.map (·.intent)

theorem mem_underWay {pending : PendingIntent} (h : s.Unsettled pending) :
    pending.intent ∈ s.underWay := by
  rcases h with hwaiting | ⟨thread, hcall⟩
  · exact List.mem_append_right _ (List.mem_map_of_mem hwaiting)
  · exact List.mem_append_left _ (UnorderedMap.mem_collect hcall rfl)

/-- No update was lost or refused on the way. -/
structure Clean (counters : OrderManagerCounters) (core : OrderManagerCore)
    (ledger : PositionLedgerCore) : Prop where
  parseFailedCount : counters.parseFailedCount = 0
  updateDropCount : counters.updateDropCount = 0
  transitionRejectCount : core.transitionRejectCount = 0
  unknownOrderUpdateCount : core.unknownOrderUpdateCount = 0
  rejectedFillCount : ledger.rejectedFillCount = 0

/-- **The state of a session** in which these intents were submitted. -/
structure Session (json : JsonLibrary Text) (intents : List OrderIntent) (trips : Trips)
    (s : OrderManager Text (PaperOrderTransport.State Text) PositionLedger) : Prop where
  running : s.running = true
  notStopping : s.stopRequested = false
  joinable : s.worker ≠ .notJoinable
  globalGate : s.core.globalRiskGate = {}
  portfolioGate : s.core.portfolioRiskGate = {}
  /-- Each intent is in one place. -/
  account : (intents.map OrderIntent.untimed).Perm
    ((s.underWay ++ trips.all.map Trip.intent).map OrderIntent.untimed)
  wire : Wire json trips s.transport
  orders : Orders s.core s.Unsettled trips
  books : Books s.sink.core trips.filled
  clean : Clean s.counters s.core s.sink.core

namespace Session

variable (h : Session json intents trips s) (hintents : PaperIntents intents)

include h hintents

theorem complete {intent : OrderIntent} (hmem : intent ∈ s.underWay ++ trips.all.map Trip.intent) :
    intent.IsComplete := by
  obtain ⟨original, horiginal, hsame⟩ :=
    List.mem_map.mp (h.account.mem_iff.mpr (List.mem_map_of_mem hmem))
  exact (hintents.complete original horiginal).of_untimed hsame

/-- No two of them share a client order id. -/
theorem ids : ((s.underWay ++ trips.all.map Trip.intent).map (·.clientOrderId)).Nodup := by
  have hbare : ∀ list : List OrderIntent, (list.map OrderIntent.untimed).map (·.clientOrderId) =
      list.map (·.clientOrderId) := by
    intro list
    rw [List.map_map]
    rfl
  have hperm := h.account.map (·.clientOrderId)
  rw [hbare, hbare] at hperm
  exact hperm.nodup_iff.mp hintents.ids

theorem trips_ids : (trips.all.map fun trip ↦ trip.intent.clientOrderId).Nodup := by
  have hids := h.ids hintents
  rw [List.map_append, List.map_map] at hids
  exact hids.of_append_right

theorem apart {pending : PendingIntent} (hunsettled : s.Unsettled pending) {trip : Trip}
    (htrip : trip ∈ trips.all) : pending.intent.clientOrderId ≠ trip.intent.clientOrderId := by
  have hids := h.ids hintents
  rw [List.map_append, List.nodup_append] at hids
  exact hids.2.2 _ (List.mem_map_of_mem (mem_underWay hunsettled)) _
    (List.mem_map_of_mem (List.mem_map_of_mem htrip))

theorem trips_few : trips.all.length < 2 ^ 64 := by
  have hlength := h.account.length_eq
  rw [List.length_map, List.length_map, List.length_append, List.length_map] at hlength
  have hfew := hintents.few
  omega

/-- A call that is about to be validated has an id that is not tracked. -/
theorem free {thread : ThreadId} {pending : PendingIntent}
    (hcall : s.submits.lookup thread = some (.validating pending)) :
    s.core.inFlightOrders.lookup pending.intent.clientOrderId = none := by
  -- put the call in front of everything else that is under way
  have hids : ((pending.intent :: (callIntents (s.submits.erase thread) ++
      s.waiting.map (·.intent) ++ trips.all.map Trip.intent)).map (·.clientOrderId)).Nodup := by
    have hperm : (s.underWay ++ trips.all.map Trip.intent).Perm (pending.intent ::
        (callIntents (s.submits.erase thread) ++ s.waiting.map (·.intent) ++
          trips.all.map Trip.intent)) :=
      ((UnorderedMap.collect_perm hcall).append_right _).append_right _
    exact (hperm.map _).nodup_iff.mp (h.ids hintents)
  rw [List.map_cons, List.nodup_cons] at hids
  refine Option.eq_none_iff_forall_ne_some.mpr fun order horder ↦ hids.1 ?_
  rcases h.orders.tracked _ order horder with ⟨other, hother, hid⟩ | ⟨trip, htrip, hid⟩
  · rw [hid]
    refine List.mem_map_of_mem (List.mem_append_left _ ?_)
    rcases hother with hwaiting | ⟨thread', hcall'⟩
    · exact List.mem_append_right _ (List.mem_map_of_mem hwaiting)
    · have hne : thread' ≠ thread := by
        rintro rfl
        exact absurd (hcall.symm.trans hcall') (by simp)
      exact List.mem_append_left _
        (UnorderedMap.mem_collect ((AList.lookup_erase_ne hne).trans hcall') rfl)
  · rw [hid]
    exact List.mem_map_of_mem (List.mem_append_right _ (List.mem_map_of_mem htrip))

end Session

/-- An update that the core and the sink take, in full. -/
theorem pumpIncomingUpdate_of_match {τ σ : Type*} (config : OrderManagerConfig Text τ σ)
    {s : OrderManager Text τ σ} (now : ℕ) {payload : Text} {transport : τ}
    {update : OrderStateUpdate} {next : InFlightStatus} {key : ClientOrderId}
    {order : InFlightOrder}
    (hrecv : config.transport.recvText s.transport = (some payload, transport))
    (hparse : config.adapter.parseUpdate payload = .ok update)
    (hnext : toInFlightStatus update.status = some next)
    (hmatch : s.core.matchOrder update = some (key, order))
    (hcan : canTransition order.status next = true) (henriched : enrichUpdate order update = update)
    (htaken : (config.eventSink.onOrderUpdate s.sink update).1 = true) :
    s.pumpIncomingUpdate config now = { s with
      worker := .loop
      transport := transport
      counters := { s.counters with receiveCount := s.counters.receiveCount + 1 }
      core := s.core.applyTransition now update next key order
      sink := (config.eventSink.onOrderUpdate s.sink update).2
      log := .applied order.requestId update :: s.log } := by
  have happlied := applyUpdateTransition_of_match now hnext hmatch hcan
  rw [henriched] at happlied
  rw [pumpIncomingUpdate, hrecv]
  dsimp only
  rw [hparse]
  dsimp only [handleUpdate]
  rw [happlied, hmatch]
  dsimp only
  rw [if_pos htaken]

/-! ## The steps of a caller -/

section Steps

variable (h : Session json intents trips s)

include h

theorem session_submitBegin {thread : ThreadId} {intent : OrderIntent} {now : ℕ}
    (hcomplete : intent.IsComplete)
    (hstep : s.submitBegin (Trader.paperConfig json {} {}) thread intent now = some s') :
    Session json (intents ++ [intent]) trips s' := by
  obtain ⟨price, hvalid⟩ := hcomplete.valid
  have hsupports : (Trader.paperConfig json {} {}).adapter.supports intent = true := by
    change Kalshi.supports intent = true
    simp [Kalshi.supports, hvalid.exchange, hcomplete.action]
  rw [submitBegin] at hstep
  split at hstep
  · exact absurd hstep (by simp)
  rename_i hbusy
  have hfree : s.submits.lookup thread = none := Option.not_isSome_iff_eq_none.mp hbusy
  rw [if_neg (by rw [h.running]; decide), if_neg (by rw [hsupports]; decide)] at hstep
  obtain rfl := Option.some.inj hstep
  -- the manager runs and the adapter supports places, so the call goes on to the validation
  refine ⟨h.running, h.notStopping, h.joinable, h.globalGate, h.portfolioGate, ?_, h.wire, ?_,
    h.books, h.clean⟩
  · have hnew : callIntents (s.submits.insert thread (.validating
        { requestId := s.nextRequestId, intent := stampIntent intent now })) =
        stampIntent intent now :: callIntents s.submits := by
      rw [callIntents, UnorderedMap.collect_insert, UnorderedMap.collect_erase_of_lookup_none hfree]
      rfl
    rw [underWay, hnew, List.map_append, List.map_singleton, ← untimed_stampIntent intent now]
    exact (List.perm_append_singleton _ _).trans (h.account.cons _)
  · refine h.orders.congr fun pending ↦ or_congr Iff.rfl (exists_congr fun thread' ↦ ?_)
    by_cases hthread : thread' = thread
    · rw [hthread, AList.lookup_insert, hfree]
      simp
    · rw [AList.lookup_insert_ne hthread]

theorem session_submitTrack (hintents : PaperIntents intents) {thread : ThreadId}
    (hstep : s.submitTrack thread = some s') : Session json intents trips s' := by
  rw [submitTrack] at hstep
  split at hstep
  · rename_i pending hcall
    have hcomplete : pending.intent.IsComplete :=
      h.complete hintents
        (List.mem_append_left _ (List.mem_append_left _ (UnorderedMap.mem_collect hcall rfl)))
    obtain ⟨price, hvalid⟩ := hcomplete.valid
    have hfree := h.free hintents hcall
    have hadmission : s.core.validateAndTrackSubmission pending.requestId pending.intent =
        (.ok (), s.core.track (placeOrder pending.requestId pending.intent)) := by
      have hmem : pending.intent.clientOrderId ∉ s.core.inFlightOrders :=
        AList.lookup_eq_none.mp hfree
      rw [validateAndTrackSubmission, admission, if_neg hvalid.clientOrderId, hcomplete.action]
      dsimp only
      rw [if_neg hmem]
    rw [hadmission] at hstep
    obtain rfl := Option.some.inj hstep
    refine ⟨h.running, h.notStopping, h.joinable, h.globalGate, h.portfolioGate, ?_, h.wire, ?_,
      h.books, ⟨h.clean.parseFailedCount, h.clean.updateDropCount, h.clean.transitionRejectCount,
        h.clean.unknownOrderUpdateCount, h.clean.rejectedFillCount⟩⟩
    · refine h.account.trans (List.Perm.map _ (List.Perm.append_right _ ?_))
      rw [underWay, underWay, callIntents, callIntents, UnorderedMap.collect_insert]
      exact (UnorderedMap.collect_perm hcall).append_right _
    · refine h.orders.track hfree rfl rfl rfl fun other ↦ ?_
      rw [Unsettled, Unsettled, or_assoc]
      refine or_congr Iff.rfl ?_
      -- the call that was validating is unsettled from here on, and it is the only new one
      constructor
      · rintro ⟨thread', hcall'⟩
        by_cases hthread : thread' = thread
        · rw [hthread, AList.lookup_insert] at hcall'
          exact .inr (SubmitCall.enqueuing.inj (Option.some.inj hcall')).symm
        · rw [AList.lookup_insert_ne hthread] at hcall'
          exact .inl ⟨thread', hcall'⟩
      · rintro (⟨thread', hcall'⟩ | rfl)
        · have hthread : thread' ≠ thread := by
            rintro rfl
            exact absurd (hcall.symm.trans hcall') (by simp)
          exact ⟨thread', (AList.lookup_insert_ne hthread).trans hcall'⟩
        · exact ⟨thread, AList.lookup_insert _⟩
  · exact absurd hstep (by simp)

theorem session_submitEnqueue {thread : ThreadId} (hstep : s.submitEnqueue thread = some s') :
    Session json intents trips s' := by
  rw [submitEnqueue] at hstep
  split at hstep
  · rename_i pending hcall
    obtain rfl := Option.some.inj hstep
    refine ⟨h.running, h.notStopping, h.joinable, h.globalGate, h.portfolioGate, ?_, h.wire, ?_,
      h.books, h.clean⟩
    · -- the intent moves from its call to the end of the line
      refine h.account.trans (List.Perm.map _ (List.Perm.append_right _ ?_))
      change s.underWay.Perm (callIntents (s.submits.insert thread (.counting pending.requestId)) ++
        (s.worker.batch ++ (s.outboundQueue ++ [pending])).map (·.intent))
      have hlast : (s.worker.batch ++ (s.outboundQueue ++ [pending])).map (·.intent) =
          s.waiting.map (·.intent) ++ [pending.intent] := by
        rw [← List.append_assoc, ← waiting, List.map_append, List.map_singleton]
      rw [callIntents, UnorderedMap.collect_insert, hlast, underWay, ← List.append_assoc]
      exact ((UnorderedMap.collect_perm hcall).append_right _).trans
        (List.perm_append_singleton _ _).symm
    · refine h.orders.congr fun other ↦ ?_
      change (other ∈ s.worker.batch ++ (s.outboundQueue ++ [pending]) ∨ ∃ thread',
        (s.submits.insert thread (.counting pending.requestId)).lookup thread' =
          some (.enqueuing other)) ↔ s.Unsettled other
      rw [Unsettled, waiting, ← List.append_assoc, List.mem_append, List.mem_singleton, or_assoc]
      refine or_congr Iff.rfl ?_
      constructor
      · rintro (rfl | ⟨thread', hcall'⟩)
        · exact ⟨thread, hcall⟩
        · have hthread : thread' ≠ thread := by
            rintro rfl
            rw [AList.lookup_insert] at hcall'
            exact absurd hcall' (by simp)
          exact ⟨thread', (AList.lookup_insert_ne hthread).symm.trans hcall'⟩
      · rintro ⟨thread', hcall'⟩
        by_cases hthread : thread' = thread
        · rw [hthread] at hcall'
          exact .inl (SubmitCall.enqueuing.inj (Option.some.inj (hcall.symm.trans hcall'))).symm
        · exact .inr ⟨thread', (AList.lookup_insert_ne hthread).trans hcall'⟩
  · exact absurd hstep (by simp)

theorem session_submitCount {thread : ThreadId} (hstep : s.submitCount thread = some s') :
    Session json intents trips s' := by
  rw [submitCount] at hstep
  split at hstep
  · rename_i requestId hcall
    obtain rfl := Option.some.inj hstep
    refine ⟨h.running, h.notStopping, h.joinable, h.globalGate, h.portfolioGate, ?_, h.wire, ?_,
      h.books, ⟨h.clean.parseFailedCount, h.clean.updateDropCount, h.clean.transitionRejectCount,
        h.clean.unknownOrderUpdateCount, h.clean.rejectedFillCount⟩⟩
    · refine h.account.trans (List.Perm.map _ (List.Perm.append_right _ ?_))
      exact (UnorderedMap.collect_perm hcall).append_right _
    · refine h.orders.congr fun other ↦ or_congr Iff.rfl (exists_congr fun thread' ↦ ?_)
      by_cases hthread : thread' = thread
      · rw [hthread, AList.lookup_erase, hcall]
        simp
      · rw [AList.lookup_erase_ne hthread]
  · exact absurd hstep (by simp)

/-! ## The steps of the worker -/

/-- The worker moves on, with the same intents before it. -/
theorem session_worker {worker : Worker} {queue : List PendingIntent}
    (hworker : worker ≠ .notJoinable) (hwaiting : worker.batch ++ queue = s.waiting) :
    Session json intents trips { s with worker := worker, outboundQueue := queue } := by
  have hline : waiting { s with worker := worker, outboundQueue := queue } = s.waiting := hwaiting
  refine ⟨h.running, h.notStopping, hworker, h.globalGate, h.portfolioGate, ?_, h.wire, ?_, h.books,
    h.clean⟩
  · rw [underWay, hline]
    exact h.account
  · refine h.orders.congr fun pending ↦ ?_
    rw [Unsettled, hline]
    rfl

theorem session_checkGlobalRisk {now : ℕ} {pending : PendingIntent} {rest : List PendingIntent}
    (hworker : s.worker = .draining (pending :: rest)) :
    Session json intents trips
      (s.checkGlobalRisk (Trader.paperConfig json {} {}) now pending rest) := by
  have hallow : s.core.evaluateGlobalRisk pending.intent = (none, s.core) := by
    rw [evaluateGlobalRisk, evaluateGlobalRiskWith, h.globalGate]
    exact if_pos (GlobalRiskGate.evaluate_unlimited _ _)
  rw [checkGlobalRisk, hallow]
  exact session_worker h (by simp) (by rw [waiting, hworker]; rfl)

theorem session_checkPortfolioRisk (hintents : PaperIntents intents) {now : ℕ}
    {pending : PendingIntent} {rest : List PendingIntent}
    (hworker : s.worker = .gated pending rest) :
    Session json intents trips
      (s.checkPortfolioRisk (Trader.paperConfig json {} {}) now pending rest) := by
  have hunsettled : s.Unsettled pending := .inl (by rw [waiting, hworker]; exact List.mem_cons_self)
  obtain ⟨price, hvalid⟩ :=
    (h.complete hintents (List.mem_append_left _ (mem_underWay hunsettled))).valid
  have hallow : ∀ snapshot, s.core.evaluatePortfolioRisk pending.intent snapshot =
      (none, s.core) := by
    intro snapshot
    rw [evaluatePortfolioRisk, evaluatePortfolioRiskWith, h.portfolioGate]
    refine if_pos (PortfolioRiskGate.evaluate_unlimited _ ?_)
    rw [signedIntentQty_of_valid hvalid]
    exact sideToSignedQty_ne_zero hvalid.side hvalid.qtyLots
  rw [checkPortfolioRisk]
  dsimp only [Trader.paperConfig]
  rw [hallow]
  exact session_worker h (by simp) (by rw [waiting, hworker]; rfl)

/-- **A place is sent.** -/
theorem session_sendRequest (hintents : PaperIntents intents) {pending : PendingIntent}
    {rest : List PendingIntent} (hworker : s.worker = .cleared pending rest) :
    Session json intents (trips.send ⟨pending.intent, s.transport.nextExchangeOrderId⟩)
      (s.sendRequest (Trader.paperConfig json {} {}) pending rest) := by
  have hunsettled := unsettled_of_cleared hworker
  have hcomplete := h.complete hintents (List.mem_append_left _ (mem_underWay hunsettled))
  obtain ⟨payload, hbuild, hsend, hwire⟩ := h.wire.sent hcomplete
  have hpop : s.waiting = pending :: (rest ++ s.outboundQueue) := by
    rw [waiting, hworker]
    rfl
  have hsent : s.sendRequest (Trader.paperConfig json {} {}) pending rest = { s with
      worker := .draining rest
      transport := (PaperOrderTransport.sendText json true s.transport payload).2
      counters := { s.counters with sentCount := s.counters.sentCount + 1 }
      log := .sent pending.requestId payload :: s.log } := by
    have hadapter : (Trader.paperConfig json {} {}).adapter.buildRequest pending.intent =
      .ok payload := hbuild
    rw [sendRequest, hadapter]
    exact if_pos hsend
  rw [hsent]
  refine ⟨h.running, h.notStopping, by simp, h.globalGate, h.portfolioGate, ?_, hwire, ?_, h.books,
    ⟨h.clean.parseFailedCount, h.clean.updateDropCount, h.clean.transitionRejectCount,
      h.clean.unknownOrderUpdateCount, h.clean.rejectedFillCount⟩⟩
  · -- the intent moves from the front of the line to the end of the trips
    refine h.account.trans (List.Perm.map _ ?_)
    change (s.underWay ++ trips.all.map Trip.intent).Perm (callIntents s.submits ++
      (rest ++ s.outboundQueue).map (·.intent) ++ (trips.send _).all.map Trip.intent)
    have hlast : (trips.send ⟨pending.intent, s.transport.nextExchangeOrderId⟩).all.map
        Trip.intent = trips.all.map Trip.intent ++ [pending.intent] := by
      rw [Trips.all_send, List.map_append]
      rfl
    rw [hlast, ← List.append_assoc, underWay, hpop, List.map_cons]
    refine (List.perm_middle.append_right _).trans ?_
    exact (List.perm_append_singleton _ _).symm
  · refine h.orders.settle hunsettled ?_ ?_
    · rintro other (hother | hcall)
      · exact .inl (hpop ▸ List.mem_cons_of_mem _ hother)
      · exact .inr hcall
    · rintro other (hother | hcall)
      · rw [hpop] at hother
        rcases List.mem_cons.mp hother with rfl | hother
        · exact .inr rfl
        · exact .inl (.inl hother)
      · exact .inl (.inr hcall)

/-- **A message is received.** -/
theorem session_pump (hintents : PaperIntents intents) {now : ℕ} (hworker : s.worker = .pumping) :
    ∃ trips', Session json intents trips'
      (s.pumpIncomingUpdate (Trader.paperConfig json {} {}) now) := by
  have hbatch : s.waiting = s.outboundQueue := by
    rw [waiting, hworker]
    rfl
  rcases trips.messages_cases with ⟨hnone, -⟩ | ⟨message, trips', hdelivers⟩
  · -- no message is left: the worker goes round without doing anything
    have hinbound : s.transport.inboundUpdates = [] := by
      have hanswers := h.wire.answers
      rw [hnone] at hanswers
      exact List.forall₂_nil_left_iff.mp hanswers
    have hrecv : PaperOrderTransport.recvText s.transport = (none, s.transport) := by
      rw [PaperOrderTransport.recvText, hinbound]
      exact ite_self _
    have hidle : s.pumpIncomingUpdate (Trader.paperConfig json {} {}) now =
        { s with worker := .loop } := by
      have hconfig : (Trader.paperConfig json {} {}).transport.recvText s.transport =
        (none, s.transport) := hrecv
      rw [pumpIncomingUpdate, hconfig]
    refine ⟨trips, ?_⟩
    rw [hidle]
    exact session_worker h (by simp) hbatch.symm
  · obtain ⟨payload, transport', hrecv, ⟨update, hparse, htells⟩, hwire⟩ :=
      h.wire.received hdelivers
    obtain ⟨next, order, hnext, hstands, hcan⟩ := h.orders.awaits hdelivers htells
    obtain ⟨htaken, hrejected, hbooks⟩ := h.books.delivered hdelivers htells
    have horders := h.orders.delivered hdelivers (h.trips_ids hintents)
      (fun _ htrip _ htrip' ↦ h.wire.exchangeOrderId_inj (h.trips_few hintents) htrip htrip')
      (fun _ hpending _ ↦ h.apart hintents hpending) htells hnext hstands now
    have hmatch : s.core.matchOrder update = some (message.trip.intent.clientOrderId, order) := by
      rw [← htells.clientOrderId]
      refine matchOrder_of_lookup ?_
      rw [htells.clientOrderId]
      exact hstands.lookup
    have hpumped := pumpIncomingUpdate_of_match (Trader.paperConfig json {} {}) now hrecv hparse
      hnext hmatch hcan (htells.enriched order) htaken
    refine ⟨trips', ?_⟩
    rw [hpumped]
    refine ⟨h.running, h.notStopping, by simp, h.globalGate, h.portfolioGate, ?_, hwire, ?_, hbooks,
      ⟨h.clean.parseFailedCount, h.clean.updateDropCount, h.clean.transitionRejectCount,
        h.clean.unknownOrderUpdateCount, hrejected.trans h.clean.rejectedFillCount⟩⟩
    · have haccount := h.account
      rw [underWay, hbatch, ← hdelivers.all_eq] at haccount
      exact haccount
    · refine horders.congr fun pending ↦ ?_
      rw [Unsettled, Unsettled, hbatch]
      rfl

theorem session_runWorker (hintents : PaperIntents intents) {now : ℕ}
    (hstep : s.runWorker (Trader.paperConfig json {} {}) now = some s') :
    ∃ trips', Session json intents trips' s' := by
  rw [runWorker] at hstep
  split at hstep
  · exact absurd hstep (by simp)
  · exact absurd hstep (by simp)
  · rename_i hworker
    rw [if_neg (by rw [h.notStopping]; decide)] at hstep
    obtain rfl := Option.some.inj hstep
    exact ⟨trips, session_worker h (by simp) (by rw [waiting, hworker]; rfl)⟩
  · rename_i hworker
    split at hstep
    · obtain rfl := Option.some.inj hstep
      exact ⟨trips, session_worker h (by simp) (by rw [waiting, hworker]; rfl)⟩
    · -- the whole queue becomes the batch
      obtain rfl := Option.some.inj hstep
      refine ⟨trips, session_worker h (by simp) ?_⟩
      rw [waiting, hworker]
      exact List.append_nil _
  · rename_i hworker
    obtain rfl := Option.some.inj hstep
    exact ⟨trips, session_worker h (by simp) (by rw [waiting, hworker]; rfl)⟩
  · rename_i hworker
    obtain rfl := Option.some.inj hstep
    exact ⟨trips, session_checkGlobalRisk h hworker⟩
  · rename_i hworker
    obtain rfl := Option.some.inj hstep
    exact ⟨trips, session_checkPortfolioRisk h hintents hworker⟩
  · rename_i hworker
    obtain rfl := Option.some.inj hstep
    exact ⟨_, session_sendRequest h hintents hworker⟩
  · rename_i hworker
    split at hstep
    · exact absurd hstep (by simp)
    · obtain rfl := Option.some.inj hstep
      exact session_pump h hintents hworker

/-- **One step** of a session, whoever takes it. -/
theorem session_of_step {input : OrderManagerInput} (hinput : input.isStop = false)
    (hintents : PaperIntents (intents ++ input.submitted.toList))
    (hstep : (machine (Trader.paperConfig json {} {})).step s input = some s') :
    ∃ trips', Session json (intents ++ input.submitted.toList) trips' s' := by
  have hsame : ∀ {trips'}, Session json intents trips' s' →
      ∃ trips', Session json (intents ++ []) trips' s' := by
    intro trips' h'
    exact ⟨trips', (List.append_nil intents).symm ▸ h'⟩
  have hbefore := hintents.of_append
  rcases input with ⟨thread, intent, now⟩ | thread | thread | thread | _ | _ | _ | _ | now
  · have hcomplete := hintents.complete intent (List.mem_append_right _ List.mem_cons_self)
    exact ⟨trips, session_submitBegin h hcomplete hstep⟩
  · exact hsame (session_submitTrack h hbefore hstep)
  · exact hsame (session_submitEnqueue h hstep)
  · exact hsame (session_submitCount h hstep)
  · -- the manager is already running
    have hstart : s.start (Trader.paperConfig json {} {}) = some s' := hstep
    rw [start, if_pos h.joinable] at hstart
    split at hstart
    · exact absurd hstart (by simp)
    · obtain rfl := Option.some.inj hstart
      exact hsame h
  · exact absurd hinput (by decide)
  · exact absurd hinput (by decide)
  · exact absurd hinput (by decide)
  · obtain ⟨trips', h'⟩ := session_runWorker h hbefore hstep
    exact hsame h'

end Steps

/-! ## Whole runs -/

/-- The manager after its start. -/
theorem session_start (json : JsonLibrary Text) :
    ∃ s, (machine (Trader.paperConfig json {} {})).step (Trader.paperInit json {} {}) .start =
      some s ∧ Session json [] {} s := by
  refine ⟨_, rfl, ⟨rfl, rfl, by simp, rfl, rfl, .nil, wire_connect rfl rfl, ?_, .empty,
    ⟨rfl, rfl, rfl, rfl, rfl⟩⟩⟩
  refine .empty rfl ?_
  rintro pending (hwaiting | ⟨thread, hcall⟩)
  · exact absurd hwaiting (by simp [waiting, Worker.batch, Trader.paperInit, init])
  · exact absurd hcall (by simp [Trader.paperInit, init])

theorem session_of_run (inputs : List OrderManagerInput)
    (hinputs : ∀ input ∈ inputs, input.isStop = false) :
    ∀ {intents trips s}, Session json intents trips s →
      PaperIntents (intents ++ inputs.filterMap OrderManagerInput.submitted) →
      (machine (Trader.paperConfig json {} {})).run s inputs = some s' →
      ∃ trips', Session json (intents ++ inputs.filterMap OrderManagerInput.submitted) trips'
        s' := by
  induction inputs with
  | nil =>
    intro intents trips s h _ hrun
    obtain rfl := Option.some.inj hrun
    exact ⟨trips, (List.append_nil intents).symm ▸ h⟩
  | cons input inputs ih =>
    intro intents trips s h hintents hrun
    obtain ⟨hinput, hrest⟩ := List.forall_mem_cons.mp hinputs
    obtain ⟨t, hstep, hrun⟩ := Option.bind_eq_some_iff.mp hrun
    have hsplit : intents ++ (input :: inputs).filterMap OrderManagerInput.submitted =
        (intents ++ input.submitted.toList) ++ inputs.filterMap OrderManagerInput.submitted := by
      rw [List.append_assoc, List.filterMap_cons]
      rcases input.submitted with _ | intent <;> rfl
    rw [hsplit] at hintents ⊢
    obtain ⟨trips', ht⟩ := session_of_step h hinput hintents.of_append hstep
    exact ih hrest ht hintents hrun

/-- What the trading of some intents comes to. -/
structure Traded (intents : List OrderIntent)
    (s : OrderManager Text (PaperOrderTransport.State Text) PositionLedger) : Prop where
  /-- Every intent has its order, -/
  tracked : ∀ intent ∈ intents, ∃ order,
    s.core.inFlightOrders.lookup intent.clientOrderId = some order ∧
      order.requestedQtyLots = intent.qtyLots
  /-- and there are no other orders. -/
  origin : ∀ id order, s.core.inFlightOrders.lookup id = some order →
    ∃ intent ∈ intents, intent.clientOrderId = id
  filled : ∀ id order, s.core.inFlightOrders.lookup id = some order →
    order.status = .filled ∧ order.filledQtyLots = order.requestedQtyLots
  found : ∀ id order, s.core.inFlightOrders.lookup id = some order →
    ∃ exchangeOrderId, order.exchangeOrderId = some exchangeOrderId ∧
      s.core.exchangeToClient.lookup exchangeOrderId = some id
  apart : ∀ id id' order order', s.core.inFlightOrders.lookup id = some order →
    s.core.inFlightOrders.lookup id' = some order' →
    order.exchangeOrderId = order'.exchangeOrderId → id = id'
  clean : Clean s.counters s.core s.sink.core
  bought : ∀ marketTicker, (s.sink.core.positionAt ⟨.kalshi, marketTicker⟩).boughtQtyLots =
    (intents.map (boughtLots marketTicker)).sum
  sold : ∀ marketTicker, (s.sink.core.positionAt ⟨.kalshi, marketTicker⟩).soldQtyLots =
    (intents.map (soldLots marketTicker)).sum
  net : ∀ marketTicker, (s.sink.core.positionAt ⟨.kalshi, marketTicker⟩).netQtyLots =
    (intents.map (boughtLots marketTicker)).sum - (intents.map (soldLots marketTicker)).sum

section Quiet

variable (h : Session json intents trips s) (hsubmits : s.submits = ∅) (hwaiting : s.waiting = [])
  (hinbound : s.transport.inboundUpdates = [])

include h hinbound

/-- With nothing left to deliver, every place that was sent is filled. -/
theorem all_eq_filled : trips.all = trips.filled := by
  rcases trips.messages_cases with ⟨-, hall⟩ | ⟨message, trips', hdelivers⟩
  · exact hall
  · have hanswers := h.wire.answers
    rw [hinbound, hdelivers.messages_eq] at hanswers
    exact absurd hanswers (by simp)

include hsubmits hwaiting

theorem account_filled : (intents.map OrderIntent.untimed).Perm
    ((trips.filled.map Trip.intent).map OrderIntent.untimed) := by
  have haccount := h.account
  rw [underWay, hsubmits, hwaiting, all_eq_filled h hinbound] at haccount
  exact haccount

/-- What does not depend on times adds up to the same. -/
theorem sum_filled {lots : OrderIntent → ℤ}
    (hlots : ∀ intent, lots intent.untimed = lots intent) :
    (trips.filled.map fun trip ↦ lots trip.intent).sum = (intents.map lots).sum := by
  have hbare : lots ∘ OrderIntent.untimed = lots := funext hlots
  have hsum := ((account_filled h hsubmits hwaiting hinbound).map lots).sum_eq
  rw [List.map_map, List.map_map, hbare, List.map_map] at hsum
  exact hsum.symm

/-- Every order is the order of a place that is filled. -/
theorem order_filled {id : ClientOrderId} {order : InFlightOrder}
    (hlookup : s.core.inFlightOrders.lookup id = some order) :
    ∃ trip ∈ trips.filled, trip.intent.clientOrderId = id ∧ FoundAs s.core trip order ∧
      order.status = .filled ∧ order.filledQtyLots = order.requestedQtyLots := by
  rcases h.orders.tracked id order hlookup with ⟨pending, hunsettled, -⟩ | ⟨trip, htrip, rfl⟩
  · rcases hunsettled with hline | ⟨thread, hcall⟩
    · rw [hwaiting] at hline
      exact absurd hline (by simp)
    · rw [hsubmits] at hcall
      exact absurd hcall (by simp)
  · rw [all_eq_filled h hinbound] at htrip
    obtain ⟨order', hfound, hstatus⟩ := h.orders.filled trip htrip
    obtain rfl := Option.some.inj (hlookup.symm.trans hfound.stands.lookup)
    exact ⟨trip, htrip, rfl, hfound, hstatus⟩

theorem found_filled {id : ClientOrderId} {order : InFlightOrder}
    (hlookup : s.core.inFlightOrders.lookup id = some order) :
    ∃ exchangeOrderId, order.exchangeOrderId = some exchangeOrderId ∧
      s.core.exchangeToClient.lookup exchangeOrderId = some id := by
  obtain ⟨trip, _, rfl, hfound, _⟩ := order_filled h hsubmits hwaiting hinbound hlookup
  exact ⟨_, hfound.exchangeOrderId, hfound.found⟩

/-- A session in which nothing is under way any more. -/
theorem traded_of_session : s.Traded intents := by
  have haccount := account_filled h hsubmits hwaiting hinbound
  refine ⟨?_, ?_, ?_, fun _ _ ↦ found_filled h hsubmits hwaiting hinbound, ?_, h.clean, ?_, ?_, ?_⟩
  · intro intent hintent
    obtain ⟨_, htraded, hsame⟩ :=
      List.mem_map.mp (haccount.mem_iff.mp (List.mem_map_of_mem hintent))
    obtain ⟨trip, htrip, rfl⟩ := List.mem_map.mp htraded
    obtain ⟨order, hfound, _⟩ := h.orders.filled trip htrip
    obtain ⟨hid, hqty⟩ := OrderIntent.fields_of_untimed hsame
    exact ⟨order, hid ▸ hfound.stands.lookup, hfound.stands.requestedQtyLots.trans hqty⟩
  · intro id order hlookup
    obtain ⟨trip, htrip, rfl, _⟩ := order_filled h hsubmits hwaiting hinbound hlookup
    obtain ⟨intent, hintent, hsame⟩ := List.mem_map.mp
      (haccount.mem_iff.mpr (List.mem_map_of_mem (List.mem_map_of_mem htrip)))
    exact ⟨intent, hintent, (OrderIntent.fields_of_untimed hsame).1⟩
  · intro id order hlookup
    obtain ⟨_, _, _, _, hfilled⟩ := order_filled h hsubmits hwaiting hinbound hlookup
    exact hfilled
  · -- an exchange order id leads to one client order id
    intro id id' order order' hlookup hlookup' hsame
    obtain ⟨exchangeOrderId, hid, hclient⟩ := found_filled h hsubmits hwaiting hinbound hlookup
    obtain ⟨exchangeOrderId', hid', hclient'⟩ := found_filled h hsubmits hwaiting hinbound hlookup'
    obtain rfl := Option.some.inj (hid.symm.trans (hsame.trans hid'))
    exact Option.some.inj (hclient.symm.trans hclient')
  · intro marketTicker
    rw [h.books.bought, sum_filled h hsubmits hwaiting hinbound fun _ ↦ rfl]
  · intro marketTicker
    rw [h.books.sold, sum_filled h hsubmits hwaiting hinbound fun _ ↦ rfl]
  · intro marketTicker
    rw [h.books.net, h.books.bought, h.books.sold,
      sum_filled h hsubmits hwaiting hinbound fun _ ↦ rfl,
      sum_filled h hsubmits hwaiting hinbound fun _ ↦ rfl]

end Quiet

/-- **Paper trading, end to end.** The manager is started, and complete places with different
client order ids are submitted, in any interleaving of the calls with each other and with the
worker. Once every call has returned, the outbound queue and the batch of the worker are empty and
the transport has nothing left to deliver: every order is filled in full and found under an exchange
order id of its own, no update was refused or dropped, and the ledger has bought and sold what the
intents add up to. -/
theorem paper_trading (json : JsonLibrary Text) {inputs : List OrderManagerInput}
    (hinputs : ∀ input ∈ inputs, input.isStop = false)
    (hintents : PaperIntents (inputs.filterMap OrderManagerInput.submitted))
    (hrun : (machine (Trader.paperConfig json {} {})).run (Trader.paperInit json {} {})
      (.start :: inputs) = some s)
    (hsubmits : s.submits = ∅) (hwaiting : s.waiting = [])
    (hinbound : s.transport.inboundUpdates = []) :
    s.Traded (inputs.filterMap OrderManagerInput.submitted) := by
  obtain ⟨started, hstart, hsession⟩ := session_start json
  obtain ⟨first, hfirst, hrest⟩ := Option.bind_eq_some_iff.mp hrun
  obtain rfl := Option.some.inj (hstart.symm.trans hfirst)
  obtain ⟨trips, hlast⟩ := session_of_run inputs hinputs hsession hintents hrest
  exact traded_of_session hlast hsubmits hwaiting hinbound

/-- Two calls that overlap with each other and with the worker: the first place is bought and sent
while the second, a sale in the same market, is still to be validated. -/
def overlappingRun : List OrderManagerInput :=
  [.submitBegin 0 (Trader.placeIntent "c1" "KXBTC-YES" .buy 10 40) 1, .worker 2,
    .submitBegin 1 (Trader.placeIntent "c2" "KXBTC-YES" .ask 4 45) 3, .submitTrack 0,
    .submitEnqueue 0] ++ List.replicate 6 (.worker 4) ++
    [.submitCount 0, .submitTrack 1, .submitEnqueue 1, .submitCount 1] ++
    List.replicate 17 (.worker 5)

/-- Ten lots bought and four sold. -/
theorem paper_trading_overlapping :
    ∃ s, (machine (Trader.paperConfig JsonLibrary.trees {} {})).run
        (Trader.paperInit JsonLibrary.trees {} {}) (.start :: overlappingRun) = some s ∧
      s.Traded (overlappingRun.filterMap OrderManagerInput.submitted) ∧
      (s.sink.core.positionAt ⟨.kalshi, "KXBTC-YES"⟩).netQtyLots = 6 := by
  have hrun : ∃ s, (machine (Trader.paperConfig JsonLibrary.trees {} {})).run
      (Trader.paperInit JsonLibrary.trees {} {}) (.start :: overlappingRun) = some s ∧
      s.submits = ∅ ∧ s.waiting = [] ∧ s.transport.inboundUpdates = [] :=
    ⟨_, rfl, rfl, rfl, rfl⟩
  have hintents : PaperIntents (overlappingRun.filterMap OrderManagerInput.submitted) := by
    refine ⟨?_, by decide, by decide⟩
    have hlist : overlappingRun.filterMap OrderManagerInput.submitted =
        [Trader.placeIntent "c1" "KXBTC-YES" .buy 10 40,
          Trader.placeIntent "c2" "KXBTC-YES" .ask 4 45] := rfl
    rw [hlist]
    intro intent hintent
    rcases List.mem_pair.mp hintent with rfl | rfl
    · exact ⟨rfl, by decide, 40, rfl, by decide, by decide, by decide, by decide, rfl⟩
    · exact ⟨rfl, by decide, 45, rfl, by decide, by decide, by decide, by decide, rfl⟩
  obtain ⟨s, hrun, hsubmits, hwaiting, hinbound⟩ := hrun
  have htraded := paper_trading JsonLibrary.trees (by decide) hintents hrun hsubmits hwaiting
    hinbound
  refine ⟨s, hrun, htraded, ?_⟩
  rw [htraded.net]
  rfl

end OrderManager

end TradingEngine
