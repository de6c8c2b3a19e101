import TradingEngine.Oms.IdMaps

/-!
# Naming a target by exchange order id or by client order id

A cancel or replace says which order it is aimed at by a client order id, by an exchange order id,
or by both, which then have to agree. An exchange order id that the core knows should be as good as
the client order id it leads to.

For a replace it is. A cancel that names no client order id is taken to name its own, also where it
names an exchange order id: the two then disagree, and the cancel is refused, unless it was
submitted under the very id of the order it is aimed at. `target_names_agree_iff` says that this is
the only difference.
-/

namespace TradingEngine

open OrderManagerCore

namespace OrderIntent

/-- The intent with its target named by an exchange order id only. -/
def byExchangeId (intent : OrderIntent) (exchangeId : ExchangeOrderId) : OrderIntent :=
  { intent with targetClientOrderId := none, targetExchangeOrderId := some exchangeId }

/-- The intent with its target named by a client order id only. -/
def byClientId (intent : OrderIntent) (id : ClientOrderId) : OrderIntent :=
  { intent with targetClientOrderId := some id, targetExchangeOrderId := none }

end OrderIntent

namespace OrderManagerCore

variable {core : OrderManagerCore} {intent : OrderIntent} {id : ClientOrderId}
  {exchangeId : ExchangeOrderId}

/-- Two submissions succeed together, and leave the same orders. -/
def SameOutcome (core : OrderManagerCore) (requestId : ℕ) (intent intent' : OrderIntent) : Prop :=
  ((core.validateAndTrackSubmission requestId intent).1 = .ok () ↔
    (core.validateAndTrackSubmission requestId intent').1 = .ok ()) ∧
  (core.validateAndTrackSubmission requestId intent).2.inFlightOrders =
    (core.validateAndTrackSubmission requestId intent').2.inFlightOrders

theorem resolveTarget_byClientId : core.resolveTarget (intent.byClientId id) = .ok id := rfl

/-- A replace takes the order that the exchange order id leads to. -/
theorem resolveTarget_byExchangeId_replace (haction : intent.action = .replace)
    (hknown : core.exchangeToClient.lookup exchangeId = some id) :
    core.resolveTarget (intent.byExchangeId exchangeId) = .ok id := by
  have hself : (intent.byExchangeId exchangeId).action = .replace := haction
  rw [resolveTarget, hself]
  dsimp only [OrderIntent.byExchangeId]
  rw [hknown]
  rfl

/-- A cancel takes it only if it is its own. -/
theorem resolveTarget_byExchangeId_cancel (haction : intent.action = .cancel)
    (hknown : core.exchangeToClient.lookup exchangeId = some id) :
    core.resolveTarget (intent.byExchangeId exchangeId) =
      if intent.clientOrderId ≠ id then .error "OMS target ids resolve to different orders"
      else .ok intent.clientOrderId := by
  have hself : (intent.byExchangeId exchangeId).action = .cancel := haction
  rw [resolveTarget, hself]
  dsimp only [OrderIntent.byExchangeId]
  rw [hknown]
  rfl

/-! ## From the target to the outcome -/

theorem findTarget_congr {intent' : OrderIntent}
    (h : core.resolveTarget intent = core.resolveTarget intent') :
    core.findTarget intent = core.findTarget intent' := by
  rw [findTarget, findTarget, h]

/-- A target is found under a client order id exactly when that order is live. -/
theorem findTarget_byClientId_ok :
    (∃ found, core.findTarget (intent.byClientId id) = .ok found) ↔
      ∃ order, core.inFlightOrders.lookup id = some order ∧
        isTerminalState order.status = false := by
  rw [findTarget, resolveTarget_byClientId]
  dsimp only [bind, Except.bind]
  cases hlookup : core.inFlightOrders.lookup id with
  | none => simp
  | some order =>
    cases hterminal : isTerminalState order.status with
    | true => simp [hterminal]
    | false => simp [hterminal]

/-- Only the target that is found matters to a submission. -/
theorem admission_byExchangeId_eq (requestId : ℕ)
    (h : core.findTarget (intent.byExchangeId exchangeId) =
      core.findTarget (intent.byClientId id)) :
    core.admission requestId (intent.byExchangeId exchangeId) =
      core.admission requestId (intent.byClientId id) := by
  rw [admission, admission, h]
  rfl

theorem SameOutcome.of_admission {intent' : OrderIntent} {requestId : ℕ}
    (h : core.admission requestId intent = core.admission requestId intent') :
    core.SameOutcome requestId intent intent' := by
  have hsame : core.validateAndTrackSubmission requestId intent =
      core.validateAndTrackSubmission requestId intent' := by
    rw [validateAndTrackSubmission, validateAndTrackSubmission, h]
  rw [SameOutcome, hsame]
  exact ⟨Iff.rfl, rfl⟩

/-- A cancel succeeds exactly when its target is found. -/
theorem validateAndTrackSubmission_cancel_ok (requestId : ℕ) (intent : OrderIntent)
    (haction : intent.action = .cancel) (hid : intent.clientOrderId ≠ "") :
    (core.validateAndTrackSubmission requestId intent).1 = .ok () ↔
      ∃ found, core.findTarget intent = .ok found := by
  rw [validateAndTrackSubmission, admission, if_neg hid, haction]
  dsimp only [bind, Except.bind]
  cases core.findTarget intent with
  | error message => simp
  | ok found => simp

/-- A cancel tracks nothing, whether or not it is refused. -/
theorem inFlightOrders_of_cancel (requestId : ℕ) (intent : OrderIntent)
    (haction : intent.action = .cancel) :
    (core.validateAndTrackSubmission requestId intent).2.inFlightOrders =
      core.inFlightOrders := by
  obtain ⟨_, hcase⟩ | ⟨_, hcase⟩ | ⟨order, hadmission, _⟩ :=
    core.validateAndTrackSubmission_cases requestId intent
  · rw [hcase]
  · rw [hcase]
  · rcases (admission_some_fields hadmission).1 with hplace | hreplace
    · cases haction.symm.trans hplace
    · cases haction.symm.trans hreplace

end OrderManagerCore

/-- **The two names of a target are equivalent** unless a cancel, submitted under an id of its own,
is aimed at a live order. -/
theorem target_names_agree_iff {core : OrderManagerCore} {requestId : ℕ} {intent : OrderIntent}
    {exchangeId : ExchangeOrderId} {id : ClientOrderId}
    (haction : intent.action = .cancel ∨ intent.action = .replace)
    (hid : intent.clientOrderId ≠ "")
    (hknown : core.exchangeToClient.lookup exchangeId = some id) :
    core.SameOutcome requestId (intent.byExchangeId exchangeId) (intent.byClientId id) ↔
      ¬(intent.action = .cancel ∧ intent.clientOrderId ≠ id ∧
        ∃ order, core.inFlightOrders.lookup id = some order ∧
          isTerminalState order.status = false) := by
  rcases haction with hcancel | hreplace
  · by_cases hown : intent.clientOrderId = id
    · -- the two names are the same id
      refine iff_of_true (SameOutcome.of_admission ?_) fun hdiffer ↦ hdiffer.2.1 hown
      refine admission_byExchangeId_eq requestId (findTarget_congr ?_)
      rw [resolveTarget_byExchangeId_cancel hcancel hknown, if_neg (not_not_intro hown), hown]
      rfl
    · have hrefused : ¬(core.validateAndTrackSubmission requestId
          (intent.byExchangeId exchangeId)).1 = .ok () := by
        rw [validateAndTrackSubmission_cancel_ok requestId (intent.byExchangeId exchangeId)
          hcancel hid, findTarget, resolveTarget_byExchangeId_cancel hcancel hknown, if_pos hown]
        rintro ⟨found, hfound⟩
        cases hfound
      have hlive : (core.validateAndTrackSubmission requestId (intent.byClientId id)).1 = .ok () ↔
          ∃ order, core.inFlightOrders.lookup id = some order ∧
            isTerminalState order.status = false :=
        (validateAndTrackSubmission_cancel_ok requestId (intent.byClientId id) hcancel hid).trans
          findTarget_byClientId_ok
      constructor
      · rintro ⟨hsame, _⟩ ⟨_, _, horder⟩
        exact hrefused (hsame.mpr (hlive.mpr horder))
      · intro hgone
        refine ⟨iff_of_false hrefused fun hok ↦ hgone ⟨hcancel, hown, hlive.mp hok⟩, ?_⟩
        rw [inFlightOrders_of_cancel requestId (intent.byExchangeId exchangeId) hcancel,
          inFlightOrders_of_cancel requestId (intent.byClientId id) hcancel]
  · refine iff_of_true (SameOutcome.of_admission ?_) fun hdiffer ↦ ?_
    · refine admission_byExchangeId_eq requestId (findTarget_congr ?_)
      rw [resolveTarget_byExchangeId_replace hreplace hknown]
      rfl
    · exact absurd (hdiffer.1.symm.trans hreplace) (by decide)

namespace TargetIdsExample

/-- A cancel or replace with an id of its own. -/
def request (action : OmsAction) : OrderIntent where
  exchange := .kalshi
  action := action
  clientOrderId := "cl-2"

end TargetIdsExample

open SampleOrders TargetIdsExample in
/-- The cancel of `cl-1` under its client order id is accepted, and under its exchange order id it
is refused. -/
theorem cancel_by_exchange_id_refused :
    ∃ core : OrderManagerCore, callMachine.Reaches (.create {} {}) core ∧
      core.exchangeToClient.lookup "ex-1" = some "cl-1" ∧
      (core.validateAndTrackSubmission 2 ((request .cancel).byClientId "cl-1")).1 = .ok () ∧
      (core.validateAndTrackSubmission 2 ((request .cancel).byExchangeId "ex-1")).1 =
        .error "OMS target ids resolve to different orders" ∧
      ¬core.SameOutcome 2 ((request .cancel).byExchangeId "ex-1")
        ((request .cancel).byClientId "cl-1") := by
  have hrun : ∃ core : OrderManagerCore,
      callMachine.runVia (fun _ _ ↦ True) (.create {} {}) acknowledged = some core ∧
      core.exchangeToClient.lookup "ex-1" = some "cl-1" ∧
      (core.validateAndTrackSubmission 2 ((request .cancel).byClientId "cl-1")).1 = .ok () ∧
      (core.validateAndTrackSubmission 2 ((request .cancel).byExchangeId "ex-1")).1 =
        .error "OMS target ids resolve to different orders" := ⟨_, rfl, rfl, rfl, rfl⟩
  obtain ⟨core, hrun, hknown, haccepted, hrefused⟩ := hrun
  refine ⟨core, Machine.reachesVia_of_runVia hrun, hknown, haccepted, hrefused, fun hsame ↦ ?_⟩
  cases hrefused.symm.trans (hsame.1.mpr haccepted)

open SampleOrders TargetIdsExample in
theorem target_names_agree_for_replace :
    ∃ core : OrderManagerCore, callMachine.Reaches (.create {} {}) core ∧
      core.SameOutcome 2 ((request .replace).byExchangeId "ex-1")
        ((request .replace).byClientId "cl-1") := by
  have hrun : ∃ core : OrderManagerCore,
      callMachine.runVia (fun _ _ ↦ True) (.create {} {}) acknowledged = some core ∧
      core.exchangeToClient.lookup "ex-1" = some "cl-1" := ⟨_, rfl, rfl⟩
  obtain ⟨core, hrun, hknown⟩ := hrun
  refine ⟨core, Machine.reachesVia_of_runVia hrun, ?_⟩
  refine (target_names_agree_iff (.inr rfl) (by decide) hknown).mpr fun hcancel ↦ ?_
  exact absurd hcancel.1 (by decide)

end TradingEngine
