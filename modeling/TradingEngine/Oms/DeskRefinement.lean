import TradingEngine.Oms.DeskInvariant

/-!
# A manager that judges in turn is the desk

A journal of an undisturbed session whose worker judges in turn can be read off the list of enqueued
intents: what was handed to the transport is what the desk sends. The order in which submissions and
drains are interleaved is not seen any more.

An order in hand has passed the global gate and is the last of the late orders. Others may be
accepted while it is in hand, which is why `late` may hold more than one.
-/

namespace TradingEngine

open OrderManagerCore

namespace OrderManager

variable {Text τ σ : Type*} {config : OrderManagerConfig Text τ σ} {s s' : OrderManager Text τ σ}
  {input : OrderManagerInput} {sink : σ}

/-! ## The intent in hand -/

/-- What has passed a gate has passed it at the desk, and is the oldest of the late orders. -/
structure HandChecked (config : OrderManagerConfig Text τ σ) (sink : σ) (worker : Worker)
    (late settled : List PendingIntent) : Prop where
  inHand : ∀ p ∈ worker.inHand, p.intent.Creates → (∃ others, late = others ++ [p]) ∧
    deskGlobalAllows config (settled.map PendingIntent.intent)
      (deskLive config sink (settled.map PendingIntent.intent)) p.intent = true
  aboutToSend : ∀ p ∈ worker.aboutToSend, p.intent.Creates →
    deskPortfolioAllows config sink p.intent = true

theorem handChecked_of_none {worker : Worker} {late settled : List PendingIntent}
    (h : worker.inHand = none) : HandChecked config sink worker late settled where
  inHand p hp := by
    rw [h] at hp
    cases hp
  aboutToSend p hp := by
    rw [Worker.aboutToSend_of_inHand h] at hp
    cases hp

/-- An order that is accepted meanwhile does not come before the one in hand. -/
theorem HandChecked.accept {worker : Worker} {late settled : List PendingIntent}
    (h : HandChecked config sink worker late settled) (p : PendingIntent) :
    HandChecked config sink worker (p :: late) settled where
  inHand q hq hcreates := by
    obtain ⟨⟨others, rfl⟩, hallow⟩ := h.inHand q hq hcreates
    exact ⟨⟨p :: others, rfl⟩, hallow⟩
  aboutToSend := h.aboutToSend

/-! ## Runs -/

namespace Journal

variable {j j' : Journal Text τ σ} {transport : τ} {late settled : List PendingIntent}

/-- The manager follows the desk, and so does what is recorded of it. -/
structure InTurn (config : OrderManagerConfig Text τ σ) (sink : σ) (j : Journal Text τ σ)
    (late settled : List PendingIntent) : Prop where
  follows : Follows config sink j.manager late settled
  hand : HandChecked config sink j.manager.worker late settled
  line : ordersOf j.enqueued =
    (settled.map PendingIntent.intent).reverse ++ ordersOf j.manager.waiting
  handed : ordersOf j.handedOver =
    (deskSends config sink (settled.map PendingIntent.intent)).reverse

namespace InTurn

/-- A step that settles nothing and accepts nothing. -/
theorem frame (hs : j.InTurn config sink late settled)
    (hunsettled : j'.manager.unsettled.Perm j.manager.unsettled)
    (horders : j'.manager.core.inFlightOrders = j.manager.core.inFlightOrders)
    (hids : j'.manager.core.exchangeToClient = j.manager.core.exchangeToClient ∨
      j'.manager.core.exchangeToClient = ∅)
    (hsink : j'.manager.sink = j.manager.sink)
    (hline : ∃ joined, j'.enqueued = j.enqueued ++ joined ∧
      j'.manager.waiting = j.manager.waiting ++ joined)
    (hhanded : j'.handedOver = j.handedOver)
    (hhand : HandChecked config sink j'.manager.worker late settled) :
    j'.InTurn config sink late settled where
  follows := hs.follows.frame (hs.follows.unsettled.trans (hunsettled.filter _).symm) horders hids
    hsink
  hand := hhand
  line := by
    obtain ⟨joined, henqueued, hwaiting⟩ := hline
    rw [henqueued, hwaiting, ordersOf_append, ordersOf_append, hs.line, List.append_assoc]
  handed := by rw [hhanded, hs.handed]

/-- An order leaves the line and joins the settled ones. -/
theorem line_of_settled (hs : j.InTurn config sink late settled)
    (henqueued : j'.enqueued = j.enqueued) {p : PendingIntent}
    (hwaiting : j.manager.waiting = p :: j'.manager.waiting) (hcreates : p.intent.Creates) :
    ordersOf j'.enqueued =
      ((p :: settled).map PendingIntent.intent).reverse ++ ordersOf j'.manager.waiting := by
  rw [henqueued, hs.line, hwaiting, ordersOf_cons_of_creates _ hcreates, List.map_cons,
    List.reverse_cons, List.append_assoc]
  rfl

/-- A request goes to the transport. -/
theorem of_handOver (hs : j.InTurn config sink late settled) {now : ℕ}
    (h : (machine config).step j (.worker now) = some j') {p : PendingIntent}
    (hsend : j.manager.worker.aboutToSend = some p) :
    ∃ late' settled', j'.InTurn config sink late' settled' := by
  obtain ⟨hstep, henqueued, hhanded⟩ := step_eq_some h
  obtain ⟨hwaiting, hsubmits, hcore, hsink, hhand⟩ := step_of_aboutToSend hstep hsend
  have hunsettled := unsettled_of_settled hwaiting hsubmits
  replace henqueued : j'.enqueued = j.enqueued := henqueued.trans (List.append_nil _)
  have hhands : j.manager.handsOver config (.worker now) =
      if (config.adapter.buildRequest p.intent).isOk then some p else none := by
    rw [handsOver, hsend]
    rfl
  rw [hhands] at hhanded
  by_cases hcreates : p.intent.Creates
  · have hinHand := Worker.inHand_of_aboutToSend hsend
    obtain ⟨⟨others, rfl⟩, hglobal⟩ := hs.hand.inHand p hinHand hcreates
    have hpasses : DeskPasses config sink (settled.map PendingIntent.intent) p.intent := by
      rw [DeskPasses, deskAllows, hglobal, hs.hand.aboutToSend p hsend hcreates]
      rfl
    refine ⟨others, p :: settled, ?_, handChecked_of_none hhand, ?_, ?_⟩
    · exact hs.follows.handOver hcreates hpasses hcore hsink hunsettled
    · exact hs.line_of_settled henqueued hwaiting hcreates
    · rw [hhanded, ordersOf_append, hs.handed, List.map_cons, deskSends_cons_of_passes hpasses,
        List.reverse_append]
      split
      · rw [Option.toList_some, ordersOf_cons_of_creates _ hcreates]
        rfl
      · rfl
  · -- a cancel: no order is settled
    refine ⟨late, settled, ?_, handChecked_of_none hhand, ?_, ?_⟩
    · refine hs.follows.frame ?_ (by rw [hcore]) (.inl (by rw [hcore])) hsink
      have hlate := hs.follows.unsettled
      rwa [hunsettled, List.filter_cons_of_neg (by simpa using hcreates)] at hlate
    · rw [henqueued, hs.line, hwaiting, ordersOf_cons_of_not_creates _ hcreates]
    · rw [hhanded, ordersOf_append, hs.handed]
      split
      · rw [Option.toList_some, ordersOf_cons_of_not_creates _ hcreates]
        exact List.append_nil _
      · exact List.append_nil _

/-- An accepted call pushes its intent. -/
theorem of_joins (hs : j.InTurn config sink late settled)
    (h : (machine config).step j input = some j') {p : PendingIntent}
    (hjoins : j.manager.joins input = some p) : j'.InTurn config sink late settled := by
  obtain ⟨hstep, henqueued, hhanded⟩ := step_eq_some h
  obtain ⟨hnone, _⟩ | ⟨thread, pending, hsome, hcall, hsubmits, hwaiting, hcore, hsink, hworker, _,
    hinput⟩ := joins_cases hstep
  · cases hnone.symm.trans hjoins
  · have hhands : j.manager.handsOver config input = none := by
      cases input with
      | worker now => cases hinput
      | _ => rfl
    rw [hhands, Option.toList_none, List.append_nil] at hhanded
    rw [hsome, Option.toList_some] at henqueued
    refine hs.frame ?_ (by rw [hcore]) (.inl (by rw [hcore])) hsink ⟨_, henqueued, hwaiting⟩ hhanded
      (hworker ▸ hs.hand)
    rw [OrderManager.unsettled, OrderManager.unsettled, hwaiting, hsubmits, List.append_assoc,
      UnorderedMap.collect_insert]
    exact ((UnorderedMap.collect_perm (f := SubmitCall.pushes) hcall).append_left _).symm

section Effect

variable (hs : j.InTurn config sink late settled)
  (henqueued : j'.enqueued = j.enqueued) (hhanded : j'.handedOver = j.handedOver)

include hs henqueued hhanded

/-- A submission is accepted. -/
theorem of_accepted {p : PendingIntent} {tracked : Option InFlightOrder}
    (hadmission : j.manager.core.admission p.requestId p.intent = .ok tracked)
    (hcore : j'.manager.core = tracked.elim j.manager.core j.manager.core.track)
    (hsink : j'.manager.sink = j.manager.sink) (hworker : j'.manager.worker = j.manager.worker)
    (hwaiting : j'.manager.waiting = j.manager.waiting)
    (hunsettled : j'.manager.unsettled.Perm (p :: j.manager.unsettled)) :
    ∃ late' settled', j'.InTurn config sink late' settled' := by
  have hline : ordersOf j'.enqueued =
      (settled.map PendingIntent.intent).reverse ++ ordersOf j'.manager.waiting := by
    rw [henqueued, hwaiting, hs.line]
  have hhanded' : ordersOf j'.handedOver =
      (deskSends config sink (settled.map PendingIntent.intent)).reverse := by
    rw [hhanded, hs.handed]
  cases tracked with
  | none =>
    -- a cancel is not counted among the orders
    have hnot : ¬p.intent.Creates := by
      rintro (hplace | hreplace)
      · cases (admission_none hadmission).1.symm.trans hplace
      · cases (admission_none hadmission).1.symm.trans hreplace
    refine ⟨late, settled, ?_, hworker ▸ hs.hand, hline, hhanded'⟩
    refine hs.follows.frame ?_ (by rw [hcore]; rfl) (.inl (by rw [hcore]; rfl)) hsink
    have hfilter := hunsettled.filter fun q ↦ decide q.intent.Creates
    rw [List.filter_cons_of_neg (by simpa using hnot)] at hfilter
    exact hs.follows.unsettled.trans hfilter.symm
  | some order =>
    exact ⟨p :: late, settled, hs.follows.accept hadmission hcore hsink hunsettled,
      hworker ▸ hs.hand.accept p, hline, hhanded'⟩

/-- A gate refuses an order. -/
theorem of_refused (hsteady : config.RejectsKeepSnapshots)
    (hlimits : j.manager.core.globalRiskGate = config.globalRisk ∧
      j.manager.core.portfolioRiskGate = config.portfolioRisk)
    (hnamed : ∀ id order, j.manager.core.inFlightOrders.lookup id = some order → id ≠ "")
    (hturn : j.manager.JudgesInTurn input) (hinput : input.isWorker = true) {now : ℕ}
    {p : PendingIntent} {rest : List PendingIntent} {reasonCode reasonMessage : String}
    (hrefused : j.manager.worker = .draining (p :: rest) ∧ j.manager.globalAllows p = false ∨
      j.manager.worker = .gated p rest ∧ j.manager.portfolioAllows config p = false)
    (hhandled : Handled config j.manager now (makeRiskRejectUpdate p.intent reasonCode
      reasonMessage now) j'.manager.core j'.manager.sink j'.manager.log)
    (hhand : j'.manager.worker.inHand = none)
    (hwaiting : j.manager.waiting = p :: j'.manager.waiting)
    (hsubmits : j'.manager.submits = j.manager.submits) :
    ∃ late' settled', j'.InTurn config sink late' settled' := by
  have hcreates : p.intent.Creates := by
    obtain ⟨_, hno⟩ | ⟨_, hno⟩ := hrefused
    · exact GlobalRiskGate.creates_of_refused hno
    · rw [portfolioAllows] at hno
      split at hno
      · cases hno
      · exact PortfolioRiskGate.creates_of_refused hno
  -- the desk refuses it as well
  have hdesk : (∃ others, late = others ++ [p]) ∧
      ¬DeskPasses config sink (settled.map PendingIntent.intent) p.intent := by
    rw [DeskPasses, deskAllows]
    obtain ⟨hworker, hno⟩ | ⟨hworker, hno⟩ := hrefused
    · obtain rfl := hs.follows.late_eq hturn hinput (by rw [hworker]; rfl) hcreates
      obtain ⟨order, horder, _⟩ := hs.follows.tracked p (by simp)
      rw [hs.follows.globalAllows_eq hlimits.1 (hnamed _ order horder)] at hno
      exact ⟨⟨[], rfl⟩, by rw [hno]; simp⟩
    · obtain ⟨hlate, _⟩ := hs.hand.inHand p (by rw [hworker]; rfl) hcreates
      rw [hs.follows.portfolioAllows_eq hlimits.2] at hno
      exact ⟨hlate, by rw [hno]; simp⟩
  obtain ⟨⟨others, rfl⟩, hfails⟩ := hdesk
  refine ⟨others, p :: settled, ?_, handChecked_of_none hhand, ?_, ?_⟩
  · exact hs.follows.refuse hsteady hcreates hfails hhandled
      (unsettled_of_settled hwaiting hsubmits)
  · exact hs.line_of_settled henqueued hwaiting hcreates
  · rw [hhanded, hs.handed, List.map_cons, deskSends_cons_of_not_passes hfails]

/-- Any step that neither pushes an intent nor hands a request over. -/
theorem of_effect (hsteady : config.RejectsKeepSnapshots)
    (hlimits : j.manager.core.globalRiskGate = config.globalRisk ∧
      j.manager.core.portfolioRiskGate = config.portfolioRisk)
    (hnamed : ∀ id order, j.manager.core.inFlightOrders.lookup id = some order → id ≠ "")
    (hturn : j.manager.JudgesInTurn input) (hquiet : Undisturbed config j.manager input)
    (hjoins : j.manager.joins input = none)
    (hsend : input.isWorker = true → j.manager.worker.aboutToSend = none)
    (heffect : Effect config j.manager input j'.manager) :
    ∃ late' settled', j'.InTurn config sink late' settled' := by
  obtain ⟨s', enqueued', handedOver'⟩ := j'
  obtain rfl : enqueued' = j.enqueued := henqueued
  obtain rfl : handedOver' = j.handedOver := hhanded
  -- most steps leave the orders and the unsettled intents as they are
  have hframe : ∀ {s' : OrderManager Text τ σ}, s'.waiting = j.manager.waiting →
      (s'.submits.collect SubmitCall.pushes).Perm
        (j.manager.submits.collect SubmitCall.pushes) →
      s'.core.inFlightOrders = j.manager.core.inFlightOrders →
      (s'.core.exchangeToClient = j.manager.core.exchangeToClient ∨
        s'.core.exchangeToClient = ∅) → s'.sink = j.manager.sink →
      HandChecked config sink s'.worker late settled →
      ∃ late' settled',
        InTurn config sink ⟨s', j.enqueued, j.handedOver⟩ late' settled' := by
    intro s' hwaiting hcalls horders hids hsink hhand
    refine ⟨late, settled, hs.frame ?_ horders hids hsink ⟨[], (List.append_nil _).symm, ?_⟩ rfl
      hhand⟩
    · rw [OrderManager.unsettled, OrderManager.unsettled, hwaiting]
      exact hcalls.append_left _
    · exact hwaiting.trans (List.append_nil _).symm
  have hbatch : ∀ {worker : Worker}, worker.batch = j.manager.worker.batch →
      worker.batch ++ j.manager.outboundQueue = j.manager.waiting := by
    intro worker hbatch
    rw [hbatch, waiting]
  cases heffect with
  | quiet hworker _ =>
    obtain rfl | ⟨hkept, hnone⟩ := hworker
    · exact hframe rfl (.refl _) rfl (.inl rfl) rfl hs.hand
    · exact hframe (hbatch hkept) (.refl _) rfl (.inl rfl) rfl (handChecked_of_none hnone)
  | unheard hworker _ =>
    exact hframe (hbatch (by rw [hworker]; rfl)) (.refl _) rfl (.inl rfl) rfl
      (handChecked_of_none rfl)
  | restarted hstopped hworker =>
    have hempty : j.manager.core.inFlightOrders = ∅ :=
      AList.ext (hquiet.forgets rfl hstopped)
    refine hframe (hbatch ?_) (.refl _) hempty.symm (.inr rfl) rfl (handChecked_of_none ?_)
    · rw [hstopped]
      obtain rfl | rfl := hworker
      · rfl
      · rfl
    · obtain rfl | rfl := hworker
      · rfl
      · rfl
  | began _ hfree =>
    refine hframe rfl ?_ rfl (.inl rfl) rfl hs.hand
    rw [UnorderedMap.collect_insert, UnorderedMap.collect_erase_of_lookup_none hfree]
    exact .refl _
  | refused hcall hcore =>
    have hpushes := (UnorderedMap.collect_perm (f := SubmitCall.pushes) hcall).symm
    exact hframe rfl hpushes hcore.inFlightOrders (.inl hcore.exchangeToClient) rfl hs.hand
  | accepted hcall hadmission =>
    refine hs.of_accepted rfl rfl hadmission rfl rfl rfl rfl ?_
    rw [OrderManager.unsettled, OrderManager.unsettled, UnorderedMap.collect_insert]
    have hpushes := (UnorderedMap.collect_perm (f := SubmitCall.pushes) hcall).symm
    exact ((hpushes.cons _).append_left _).trans List.perm_middle
  | enqueued hcall =>
    rw [joins, hcall] at hjoins
    cases hjoins
  | counted hcall =>
    have hpushes := (UnorderedMap.collect_perm (f := SubmitCall.pushes) hcall).symm
    exact hframe rfl hpushes rfl (.inl rfl) rfl hs.hand
  | polled hworker =>
    refine hframe ?_ (.refl _) rfl (.inl rfl) rfl (handChecked_of_none rfl)
    rw [waiting, waiting, hworker]
    exact List.append_nil _
  | @gated now p rest hworker hallow =>
    refine hframe (hbatch (by rw [hworker]; rfl)) (.refl _) rfl (.inl rfl) rfl ⟨?_, ?_⟩
    · intro q hq hcreates
      obtain rfl : p = q := Option.some.inj hq
      obtain rfl := hs.follows.late_eq hturn rfl (by rw [hworker]; rfl) hcreates
      obtain ⟨order, horder, _⟩ := hs.follows.tracked p (by simp)
      rw [hs.follows.globalAllows_eq hlimits.1 (hnamed _ order horder)] at hallow
      exact ⟨⟨[], rfl⟩, hallow⟩
    · intro q hq
      cases hq
  | @cleared now p rest hworker hallow =>
    refine hframe (hbatch (by rw [hworker]; rfl)) (.refl _) rfl (.inl rfl) rfl ⟨?_, ?_⟩
    · intro q hq hcreates
      obtain rfl : p = q := Option.some.inj hq
      exact hs.hand.inHand p (by rw [hworker]; rfl) hcreates
    · intro q hq _
      obtain rfl : p = q := Option.some.inj hq
      exact (hs.follows.portfolioAllows_eq hlimits.2).symm.trans hallow
  | @rejected now p rest _ _ _ _ _ _ _ hrefused hhandled =>
    refine hs.of_refused rfl rfl hsteady hlimits hnamed hturn rfl hrefused hhandled rfl ?_ rfl
    obtain ⟨hworker, _⟩ | ⟨hworker, _⟩ := hrefused
    · rw [waiting, hworker]
      rfl
    · rw [waiting, hworker]
      rfl
  | sent hworker _ _ =>
    have hnone := hsend rfl
    rw [hworker] at hnone
    cases hnone
  | unsent hworker _ _ =>
    have hnone := hsend rfl
    rw [hworker] at hnone
    cases hnone
  | received hworker hrecv hparse _ =>
    have hnone := hquiet.hears rfl hworker _ hrecv
    rw [hparse] at hnone
    cases hnone

end Effect

theorem of_step (hs : j.InTurn config sink late settled) (hsteady : config.RejectsKeepSnapshots)
    (hlimits : j.manager.core.globalRiskGate = config.globalRisk ∧
      j.manager.core.portfolioRiskGate = config.portfolioRisk) (hrecorded : j.Recorded)
    (hturn : j.manager.JudgesInTurn input) (hquiet : Undisturbed config j.manager input)
    (h : (machine config).step j input = some j') :
    ∃ late' settled', j'.InTurn config sink late' settled' := by
  obtain ⟨hstep, henqueued, hhanded⟩ := step_eq_some h
  cases hjoins : j.manager.joins input with
  | some p => exact ⟨late, settled, hs.of_joins h hjoins⟩
  | none =>
    rw [hjoins, Option.toList_none, List.append_nil] at henqueued
    by_cases hsend : ∃ p now, input = .worker now ∧ j.manager.worker.aboutToSend = some p
    · obtain ⟨p, now, rfl, hsend⟩ := hsend
      exact hs.of_handOver h hsend
    · have hnone : input.isWorker = true → j.manager.worker.aboutToSend = none := by
        intro hinput
        cases input with
        | worker now =>
          exact Option.eq_none_iff_forall_ne_some.mpr fun p hp ↦ hsend ⟨p, now, rfl, hp⟩
        | _ => cases hinput
      have hhands : j.manager.handsOver config input = none := by
        cases input with
        | worker now =>
          rw [handsOver, hnone rfl]
          rfl
        | _ => rfl
      rw [hhands, Option.toList_none, List.append_nil] at hhanded
      exact hs.of_effect henqueued hhanded hsteady hlimits hrecorded.named hturn hquiet hjoins hnone
        (effect_of_step hstep)

end InTurn

/-- The worker is done with the orders that were enqueued. -/
def Drained (j : Journal Text τ σ) : Prop := ordersOf j.manager.waiting = []

instance (j : Journal Text τ σ) : Decidable j.Drained := inferInstanceAs (Decidable (_ = _))

/-- A step of an undisturbed session whose worker judges in turn. -/
def KeepsTurn (config : OrderManagerConfig Text τ σ) (j : Journal Text τ σ)
    (input : OrderManagerInput) : Prop :=
  j.manager.JudgesInTurn input ∧ Undisturbed config j.manager input

instance (config : OrderManagerConfig Text τ σ) (j : Journal Text τ σ) (input : OrderManagerInput) :
    Decidable (j.KeepsTurn config input) := inferInstanceAs (Decidable (_ ∧ _))

theorem inTurn_of_reaches (hsteady : config.RejectsKeepSnapshots)
    (h : (machine config).ReachesVia (KeepsTurn config) (init config transport sink) j) :
    ∃ late settled, j.InTurn config sink late settled := by
  refine h.invariant (P := fun j ↦ ∃ late settled, j.InTurn config sink late settled) ?_ ?_
  · exact ⟨[], [], follows_init config transport sink, handChecked_of_none rfl, rfl, rfl⟩
  · rintro j input j' hj ⟨late, settled, hs⟩ ⟨hturn, hquiet⟩ hstep
    exact hs.of_step hsteady (riskGates_of_reaches (reaches_manager hj)) (.of_reaches hj) hturn
      hquiet hstep

/-- **The manager is the desk.** Once all orders are settled, those that were handed over are those
that the desk sends, given the enqueued intents one at a time. -/
theorem handedOver_eq_deskSends (hsteady : config.RejectsKeepSnapshots)
    (h : (machine config).ReachesVia (KeepsTurn config) (init config transport sink) j)
    (hdrained : j.Drained) :
    ordersOf j.handedOver = (deskSends config sink (ordersOf j.enqueued).reverse).reverse := by
  obtain ⟨late, settled, hs⟩ := inTurn_of_reaches hsteady h
  rw [hs.handed, hs.line, hdrained, List.append_nil, List.reverse_reverse]

/-- **Later orders do not matter.** In every run in which the worker judges in turn, what the global
gate refuses exceeds the limit with the earlier orders alone; and two such sessions without inbound
updates that enqueue the same orders send the same orders, however submissions and drains were
interleaved. -/
theorem later_orders_do_not_matter (hsteady : config.RejectsKeepSnapshots) (sink : σ) :
    (∀ transport j now, (machine config).ReachesVia (fun j input ↦ j.manager.JudgesInTurn input)
        (init config transport sink) j → j.manager.JudgesInTurn (.worker now) →
      j.RefusedByEarlier config) ∧
    ∀ transport transport' j j',
      (machine config).ReachesVia (KeepsTurn config) (init config transport sink) j →
      (machine config).ReachesVia (KeepsTurn config) (init config transport' sink) j' →
      j.Drained → j'.Drained → ordersOf j.enqueued = ordersOf j'.enqueued →
      ordersOf j.handedOver = ordersOf j'.handedOver := by
  refine ⟨fun transport j now h hturn ↦ refusedByEarlier_of_reaches h hturn rfl, ?_⟩
  intro transport transport' j j' h h' hdrained hdrained' henqueued
  rw [handedOver_eq_deskSends hsteady h hdrained, henqueued,
    ← handedOver_eq_deskSends hsteady h' hdrained']

/-! ## Room for one order -/

/-- A transport that takes every request and delivers nothing. -/
def silentTransport (Text : Type*) : IOrderTransport Text Unit where
  connect _ := (true, ())
  sendText _ _ := (true, ())
  recvText _ := (none, ())
  close _ := ()
  lastError _ := ""

/-- The order manager of the trader over a silent transport, with room for one order. -/
def roomForOne : OrderManagerConfig (Option Json) Unit PositionLedger where
  adapter := Kalshi.omsAdapter JsonLibrary.trees
  transport := silentTransport _
  eventSink := PositionLedger.eventSink
  portfolioSnapshotProvider := some PositionLedger.snapshotProvider
  globalRisk := { maxActiveOrdersGlobal := 1 }

open Trader in
/-- A submission of two lots. -/
def submitTwoLots (clientOrderId : ClientOrderId) : List OrderManagerInput :=
  submit 0 (placeIntent clientOrderId "KXBTC-YES" .buy 2 50)

/-- The worker finds both orders in one batch. -/
def batchedRun (steps : ℕ) : List OrderManagerInput :=
  [.start] ++ submitTwoLots "cl-1" ++ submitTwoLots "cl-2" ++ List.replicate steps (.worker 2)

/-- The second order is submitted after `ahead` steps of the worker. -/
def staggeredRun (ahead behind : ℕ) : List OrderManagerInput :=
  [.start] ++ submitTwoLots "cl-1" ++ List.replicate ahead (.worker 2) ++ submitTwoLots "cl-2" ++
    List.replicate behind (.worker 2)

/-- Two submissions in one batch: the first is refused although no order was enqueued before it, and
the second is sent. Had the worker drained in between, it would be the other way round. -/
theorem later_order_pushes_out_earlier :
    (∃ j, (machine roomForOne).Reaches (init roomForOne () {}) j ∧
      ¬j.RefusedByEarlier roomForOne) ∧
    ∃ j j',
      (machine roomForOne).ReachesVia (fun j ↦ Undisturbed roomForOne j.manager)
        (init roomForOne () {}) j ∧
      (machine roomForOne).ReachesVia (fun j ↦ Undisturbed roomForOne j.manager)
        (init roomForOne () {}) j' ∧
      j.Drained ∧ j'.Drained ∧ ordersOf j.enqueued = ordersOf j'.enqueued ∧
      (ordersOf j.handedOver).map OrderIntent.clientOrderId = ["cl-2"] ∧
      (ordersOf j'.handedOver).map OrderIntent.clientOrderId = ["cl-1"] := by
  have hgate : ∃ j, (machine roomForOne).runVia (fun _ _ ↦ True) (init roomForOne () {})
      (batchedRun 2) = some j ∧ ∃ pending decision core,
        j.manager.worker.atGlobalGate = some pending ∧
        j.manager.core.evaluateGlobalRisk pending.intent = (some decision, core) ∧
        decision.allow = false ∧
        (GlobalRiskGate.evaluate roomForOne.globalRisk pending.intent
          (j.snapshotBefore pending)).allow = true :=
    ⟨_, rfl, _, _, _, rfl, rfl, rfl, rfl⟩
  have hruns : ∃ j j',
      (machine roomForOne).runVia (fun j ↦ Undisturbed roomForOne j.manager)
        (init roomForOne () {}) (batchedRun 6) = some j ∧
      (machine roomForOne).runVia (fun j ↦ Undisturbed roomForOne j.manager)
        (init roomForOne () {}) (staggeredRun 5 5) = some j' ∧
      j.Drained ∧ j'.Drained ∧ ordersOf j.enqueued = ordersOf j'.enqueued ∧
      (ordersOf j.handedOver).map OrderIntent.clientOrderId = ["cl-2"] ∧
      (ordersOf j'.handedOver).map OrderIntent.clientOrderId = ["cl-1"] :=
    ⟨_, _, rfl, rfl, rfl, rfl, rfl, rfl, rfl⟩
  obtain ⟨j, hrun, pending, decision, core, hpending, hrefused, hno, hyes⟩ := hgate
  obtain ⟨j₁, j₂, hrun₁, hrun₂, hends⟩ := hruns
  refine ⟨⟨j, Machine.reachesVia_of_runVia hrun, fun h ↦ ?_⟩, j₁, j₂,
    Machine.reachesVia_of_runVia hrun₁, Machine.reachesVia_of_runVia hrun₂, hends⟩
  rw [h pending hpending decision core hrefused, hno] at hyes
  cases hyes

/-- The worker judges in turn when the second order is submitted after the first was sent, and also
when it is submitted while the first is in hand. -/
theorem later_orders_do_not_matter_staggered :
    (∃ j, (machine roomForOne).ReachesVia (fun j input ↦ j.manager.JudgesInTurn input)
        (init roomForOne () {}) j ∧
      (∃ pending ∈ j.manager.worker.atGlobalGate, j.manager.globalAllows pending = false) ∧
      j.RefusedByEarlier roomForOne) ∧
    ∃ j j',
      (machine roomForOne).ReachesVia (KeepsTurn roomForOne) (init roomForOne () {}) j ∧
      (machine roomForOne).ReachesVia (KeepsTurn roomForOne) (init roomForOne () {}) j' ∧
      (ordersOf j.enqueued).map OrderIntent.clientOrderId = ["cl-1", "cl-2"] ∧
      ordersOf j.handedOver = ordersOf j'.handedOver := by
  have hgate : ∃ j, (machine roomForOne).runVia (fun j input ↦ j.manager.JudgesInTurn input)
      (init roomForOne () {}) (staggeredRun 5 4) = some j ∧
      (∃ pending ∈ j.manager.worker.atGlobalGate, j.manager.globalAllows pending = false) ∧
      j.manager.JudgesInTurn (.worker 2) :=
    ⟨_, rfl, ⟨_, rfl, rfl⟩, by decide⟩
  have hruns : ∃ j j',
      (machine roomForOne).runVia (KeepsTurn roomForOne) (init roomForOne () {})
        (staggeredRun 5 5) = some j ∧
      (machine roomForOne).runVia (KeepsTurn roomForOne) (init roomForOne () {})
        (staggeredRun 3 7) = some j' ∧
      (ordersOf j.enqueued).map OrderIntent.clientOrderId = ["cl-1", "cl-2"] ∧
      j.Drained ∧ j'.Drained ∧ ordersOf j.enqueued = ordersOf j'.enqueued :=
    ⟨_, _, rfl, rfl, rfl, rfl, rfl, rfl⟩
  obtain ⟨j₀, hrun₀, hrefused, hturn⟩ := hgate
  obtain ⟨j, j', hrun, hrun', hids, hdrained, hdrained', hsame⟩ := hruns
  have hreaches₀ := Machine.reachesVia_of_runVia hrun₀
  have hreaches := Machine.reachesVia_of_runVia hrun
  have hreaches' := Machine.reachesVia_of_runVia hrun'
  have hsteady : roomForOne.RejectsKeepSnapshots := rejectsKeepSnapshots_of_ledger rfl rfl
  obtain ⟨hearlier, hdesk⟩ := later_orders_do_not_matter hsteady {}
  exact ⟨⟨j₀, hreaches₀, hrefused, hearlier () j₀ 2 hreaches₀ hturn⟩, j, j', hreaches, hreaches',
    hids, hdesk () () j j' hreaches hreaches' hdrained hdrained' hsame⟩

end Journal

end OrderManager

end TradingEngine
