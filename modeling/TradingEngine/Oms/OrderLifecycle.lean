import TradingEngine.Lib.Machine
import TradingEngine.Oms.OrderManagerCore

/-!
# The life of a tracked order

Which parts of an order are fixed when it is created and which may still move is a relation
between two versions of it, `InFlightOrder.Evolves`. It is reflexive and transitive, every
operation of the core keeps it for every tracked order, and so it relates the versions of an order
at any two points of a history.

A history is a run of `coreMachine`: submissions, risk evaluations and updates in any order, with
any arguments, and no `reset`.
-/

namespace TradingEngine

open OrderManagerCore

/-- `order'` is a later version of `order`. -/
structure InFlightOrder.Evolves (order order' : InFlightOrder) : Prop where
  requestId : order'.requestId = order.requestId
  lastAction : order'.lastAction = order.lastAction
  clientOrderId : order'.clientOrderId = order.clientOrderId
  replaceTarget : order'.replaceTargetClientOrderId = order.replaceTargetClientOrderId
  requestedQtyLots : order'.requestedQtyLots = order.requestedQtyLots
  createdTsNs : order'.createdTsNs = order.createdTsNs
  /-- A side that is known stays. -/
  side : order.side ≠ .unknown → order'.side = order.side
  /-- No way back to `pending`. -/
  pending : order'.status = .pending → order.status = .pending
  /-- A terminal status is final. -/
  terminal : isTerminalState order.status = true → order'.status = order.status

namespace InFlightOrder.Evolves

variable {o₁ o₂ o₃ : InFlightOrder}

theorem refl (order : InFlightOrder) : order.Evolves order where
  requestId := rfl
  lastAction := rfl
  clientOrderId := rfl
  replaceTarget := rfl
  requestedQtyLots := rfl
  createdTsNs := rfl
  side _ := rfl
  pending h := h
  terminal _ := rfl

theorem trans (h₁ : o₁.Evolves o₂) (h₂ : o₂.Evolves o₃) : o₁.Evolves o₃ where
  requestId := h₂.requestId.trans h₁.requestId
  lastAction := h₂.lastAction.trans h₁.lastAction
  clientOrderId := h₂.clientOrderId.trans h₁.clientOrderId
  replaceTarget := h₂.replaceTarget.trans h₁.replaceTarget
  requestedQtyLots := h₂.requestedQtyLots.trans h₁.requestedQtyLots
  createdTsNs := h₂.createdTsNs.trans h₁.createdTsNs
  side h := by
    have hside := h₁.side h
    exact (h₂.side (hside ▸ h)).trans hside
  pending h := h₁.pending (h₂.pending h)
  terminal h := by
    have hstatus := h₁.terminal h
    exact (h₂.terminal (hstatus ▸ h)).trans hstatus

/-- An order that is live was live before. -/
theorem live (h : o₁.Evolves o₂) (hlive : isTerminalState o₂.status = false) :
    isTerminalState o₁.status = false := by
  by_contra hterminal
  have hterminal := Bool.eq_true_of_not_eq_false hterminal
  rw [h.terminal hterminal, hterminal] at hlive
  exact absurd hlive (by simp)

/-- One transition, whatever the update carries. -/
theorem transition {order : InFlightOrder} {next : InFlightStatus} {now : ℕ}
    {update : OrderStateUpdate} (hstatus : toInFlightStatus update.status = some next)
    (hcan : canTransition order.status next = true) :
    order.Evolves (transitionOrder order next now update) where
  requestId := transitionOrder_requestId ..
  lastAction := by rw [transitionOrder]; split <;> rfl
  clientOrderId := transitionOrder_clientOrderId ..
  replaceTarget := by rw [transitionOrder]; split <;> rfl
  requestedQtyLots := transitionOrder_requestedQtyLots ..
  createdTsNs := by rw [transitionOrder]; split <;> rfl
  side h := by
    rw [transitionOrder]
    split
    · exact if_neg fun hunknown ↦ h hunknown.1
    · rfl
  pending h := by
    rw [transitionOrder_status] at h
    exact absurd h (toInFlightStatus_ne_pending hstatus)
  terminal h := by
    rw [transitionOrder_status]
    exact canTransition_of_terminal h hcan

end InFlightOrder.Evolves

/-- Every order of `core` is still tracked in `core'`, in a later version. -/
def OrderManagerCore.Evolves (core core' : OrderManagerCore) : Prop :=
  ∀ id order, core.inFlightOrders.lookup id = some order →
    ∃ order', core'.inFlightOrders.lookup id = some order' ∧ order.Evolves order'

namespace OrderManagerCore

variable {core core' core'' : OrderManagerCore}

theorem Evolves.of_inFlightOrders_eq (h : core'.inFlightOrders = core.inFlightOrders) :
    core.Evolves core' := fun id order hlookup ↦
  ⟨order, by rw [h]; exact hlookup, .refl order⟩

theorem Evolves.trans (h₁ : core.Evolves core') (h₂ : core'.Evolves core'') :
    core.Evolves core'' := by
  intro id order hlookup
  obtain ⟨order', hlookup', hev'⟩ := h₁ id order hlookup
  obtain ⟨order'', hlookup'', hev''⟩ := h₂ id order' hlookup'
  exact ⟨order'', hlookup'', hev'.trans hev''⟩

/-! ## One operation -/

/-- Tracking an order under a fresh id leaves every other order as it is. -/
theorem evolves_track {order : InFlightOrder}
    (hfresh : core.inFlightOrders.lookup order.clientOrderId = none) :
    core.Evolves (core.track order) := by
  intro id other hlookup
  have hne : id ≠ order.clientOrderId := by
    rintro rfl
    rw [hfresh] at hlookup
    exact absurd hlookup (by simp)
  exact ⟨other, (AList.lookup_insert_ne hne).trans hlookup, .refl other⟩

theorem evolves_applyTransition {now : ℕ} {update : OrderStateUpdate} {next : InFlightStatus}
    {key : ClientOrderId} {order : InFlightOrder}
    (hstatus : toInFlightStatus update.status = some next)
    (hlookup : core.inFlightOrders.lookup key = some order)
    (hcan : canTransition order.status next = true) :
    core.Evolves (core.applyTransition now update next key order) := by
  intro id other hother
  by_cases hkey : id = key
  · obtain rfl : order = other := by
      rw [hkey, hlookup] at hother
      exact Option.some.inj hother
    exact ⟨transitionOrder order next now update, by rw [hkey]; exact AList.lookup_insert _,
      .transition hstatus hcan⟩
  · exact ⟨other, (AList.lookup_insert_ne hkey).trans hother, .refl other⟩

theorem evolves_validateAndTrackSubmission (core : OrderManagerCore) (requestId : ℕ)
    (intent : OrderIntent) :
    core.Evolves (core.validateAndTrackSubmission requestId intent).2 := by
  obtain ⟨_, h⟩ | ⟨_, h⟩ | ⟨order, hadmission, h⟩ :=
    core.validateAndTrackSubmission_cases requestId intent
  · rw [h]; exact .of_inFlightOrders_eq rfl
  · rw [h]; exact .of_inFlightOrders_eq rfl
  · rw [h]
    obtain ⟨_, hid, hfresh, _⟩ := admission_some_fields hadmission
    exact evolves_track (hid ▸ hfresh)

theorem evolves_applyUpdateTransition (core : OrderManagerCore) (now : ℕ)
    (update : OrderStateUpdate) : core.Evolves (core.applyUpdateTransition now update).2 := by
  obtain ⟨_, core', h, hsame, _⟩ | ⟨next, key, order, hstatus, hmatch, hcan, h⟩ :=
    core.applyUpdateTransition_cases now update
  · rw [h]; exact .of_inFlightOrders_eq hsame.inFlightOrders
  · rw [h]; exact evolves_applyTransition hstatus (matchOrder_lookup hmatch) hcan

theorem evolves_evaluateGlobalRisk (core : OrderManagerCore) (intent : OrderIntent) :
    core.Evolves (core.evaluateGlobalRisk intent).2 := by
  refine .of_inFlightOrders_eq ?_
  rw [evaluateGlobalRisk, evaluateGlobalRiskWith]
  split <;> rfl

theorem evolves_evaluatePortfolioRisk (core : OrderManagerCore) (intent : OrderIntent)
    (snapshot : PortfolioRiskSnapshot) :
    core.Evolves (core.evaluatePortfolioRisk intent snapshot).2 := by
  refine .of_inFlightOrders_eq ?_
  rw [evaluatePortfolioRisk, evaluatePortfolioRiskWith]
  split <;> rfl

/-- An accepted place or replace never reuses the id of a tracked order. -/
theorem clientOrderId_ne_of_accepted {requestId : ℕ} {intent : OrderIntent} {id : ClientOrderId}
    {order : InFlightOrder} (hlookup : core.inFlightOrders.lookup id = some order)
    (hcreates : intent.Creates)
    (hok : (core.validateAndTrackSubmission requestId intent).1 = .ok ()) :
    intent.clientOrderId ≠ id := by
  rintro rfl
  obtain ⟨_, h⟩ | ⟨hadmission, _⟩ | ⟨_, hadmission, _⟩ :=
    core.validateAndTrackSubmission_cases requestId intent
  · rw [h] at hok
    exact absurd hok (by simp)
  · rcases hcreates with hplace | hreplace
    · exact absurd ((admission_none hadmission).1.symm.trans hplace) (by decide)
    · exact absurd ((admission_none hadmission).1.symm.trans hreplace) (by decide)
  · rw [(admission_some_fields hadmission).2.2.1] at hlookup
    exact absurd hlookup (by simp)

end OrderManagerCore

/-! ## Histories -/

/-- The operations of the core that a running order manager calls. -/
inductive CoreOp
  | validateAndTrackSubmission (requestId : ℕ) (intent : OrderIntent)
  | evaluateGlobalRisk (intent : OrderIntent)
  | evaluatePortfolioRisk (intent : OrderIntent) (snapshot : PortfolioRiskSnapshot)
  | applyUpdateTransition (now : ℕ) (update : OrderStateUpdate)

/-- The core as a machine: every operation is always enabled, whether or not it succeeds. -/
def coreMachine : Machine OrderManagerCore CoreOp where
  step core
    | .validateAndTrackSubmission requestId intent =>
      some (core.validateAndTrackSubmission requestId intent).2
    | .evaluateGlobalRisk intent => some (core.evaluateGlobalRisk intent).2
    | .evaluatePortfolioRisk intent snapshot => some (core.evaluatePortfolioRisk intent snapshot).2
    | .applyUpdateTransition now update => some (core.applyUpdateTransition now update).2

theorem evolves_of_coreMachine_step {core core' : OrderManagerCore} {op : CoreOp}
    (h : coreMachine.step core op = some core') : core.Evolves core' := by
  cases op with
  | validateAndTrackSubmission requestId intent =>
    obtain rfl := Option.some.inj h
    exact evolves_validateAndTrackSubmission core requestId intent
  | evaluateGlobalRisk intent =>
    obtain rfl := Option.some.inj h
    exact evolves_evaluateGlobalRisk core intent
  | evaluatePortfolioRisk intent snapshot =>
    obtain rfl := Option.some.inj h
    exact evolves_evaluatePortfolioRisk core intent snapshot
  | applyUpdateTransition now update =>
    obtain rfl := Option.some.inj h
    exact evolves_applyUpdateTransition core now update

theorem evolves_of_reaches {core core' : OrderManagerCore} (h : coreMachine.Reaches core core') :
    core.Evolves core' :=
  h.invariant (.of_inFlightOrders_eq rfl)
    fun _ hev _ hstep ↦ hev.trans (evolves_of_coreMachine_step hstep)

/-- **The lifecycle of an order.** Along any history from any state, a tracked order stays tracked
under its id, no later place or replace that is accepted carries that id, and the later version of
the order is one it may evolve into. -/
theorem order_lifecycle {core core' : OrderManagerCore} (h : coreMachine.Reaches core core')
    {id : ClientOrderId} {order : InFlightOrder}
    (htracked : core.inFlightOrders.lookup id = some order) :
    ∃ order', core'.inFlightOrders.lookup id = some order' ∧
      (∀ requestId (intent : OrderIntent), intent.Creates →
        (core'.validateAndTrackSubmission requestId intent).1 = .ok () →
          intent.clientOrderId ≠ id) ∧
      (order'.requestId = order.requestId ∧ order'.lastAction = order.lastAction ∧
        order'.clientOrderId = order.clientOrderId ∧
        order'.replaceTargetClientOrderId = order.replaceTargetClientOrderId ∧
        order'.requestedQtyLots = order.requestedQtyLots ∧
        order'.createdTsNs = order.createdTsNs) ∧
      (order.side ≠ .unknown → order'.side = order.side) ∧
      (order.status ≠ .pending → order'.status ≠ .pending) ∧
      (order.status = .filled ∨ order.status = .canceled ∨ order.status = .rejected →
        order'.status = order.status) := by
  obtain ⟨order', htracked', hev⟩ := evolves_of_reaches h id order htracked
  refine ⟨order', htracked', fun requestId intent hcreates hok ↦
      clientOrderId_ne_of_accepted htracked' hcreates hok,
    ⟨hev.requestId, hev.lastAction, hev.clientOrderId, hev.replaceTarget, hev.requestedQtyLots,
      hev.createdTsNs⟩, hev.side, fun hne hpending ↦ hne (hev.pending hpending), ?_⟩
  rintro (hstatus | hstatus | hstatus) <;> exact hev.terminal (by rw [hstatus]; rfl)

/-- A placed order that is accepted, filled and then reported accepted again stays filled. -/
theorem order_lifecycle_filled :
    ∃ core core' : OrderManagerCore, ∃ order, coreMachine.Reaches core core' ∧
      core.inFlightOrders.lookup "cl-1" = some order ∧ order.status = .filled ∧
      ∃ order', core'.inFlightOrders.lookup "cl-1" = some order' ∧ order'.status = .filled := by
  let place : OrderIntent := { exchange := .kalshi, action := .place, clientOrderId := "cl-1",
                               marketTicker := "KXBTC-YES", side := .buy, qtyLots := 10 }
  let fill : OrderStateUpdate := { exchange := .kalshi, status := .filled, clientOrderId := "cl-1",
                                   data := .fill { fillQtyLots := 10, fillPriceTicks := 44 } }
  let late : OrderStateUpdate := { exchange := .kalshi, status := .accepted,
                                   clientOrderId := "cl-1", data := .ack {} }
  let filled : OrderManagerCore :=
    ((({} : OrderManagerCore).validateAndTrackSubmission 1 place).2.applyUpdateTransition 5 fill).2
  have hrun : coreMachine.Reaches filled (filled.applyUpdateTransition 6 late).2 :=
    .tail (i := .applyUpdateTransition 6 late) .refl trivial rfl
  obtain ⟨order, hlookup, hstatus⟩ :
      ∃ order, filled.inFlightOrders.lookup "cl-1" = some order ∧ order.status = .filled :=
    ⟨_, rfl, rfl⟩
  obtain ⟨order', hlookup', _, _, _, _, hfinal⟩ := order_lifecycle hrun hlookup
  exact ⟨filled, _, order, hrun, hlookup, hstatus, order', hlookup',
    (hfinal (.inl hstatus)).trans hstatus⟩

end TradingEngine
