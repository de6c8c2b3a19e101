import TradingEngine.Oms.OrderManagerCore

/-!
# The core's operations, edit by edit

The source writes through references: the counters, the map entries and the update of its caller
are edited in place, between early returns. `OrderManagerCore` has each of these operations as one
function of the state. Here they are written once more in the order of the source's statements, as
programs over what they can write, and shown to agree (`validateAndTrackSubmission_run`,
`applyUpdateTransition_run`). So no exit comes after an edit that it would have to undo.

What an operation changes is then read off the one-step form: a failed one moves a counter, an
accepted submission adds an entry, an accepted update writes the order it resolves to.
-/

namespace TradingEngine

open OrderManagerCore

namespace InPlace

/-! ## Running a program -/

section Run

variable {σ α β : Type}

theorem run_bind (program : StateM σ α) (rest : α → StateM σ β) (s : σ) :
    (program >>= rest).run s = (rest (program.run s).1).run (program.run s).2 := rfl

theorem run_get (s : σ) : (get : StateM σ σ).run s = (s, s) := rfl

theorem run_pure (a : α) (s : σ) : (pure a : StateM σ α).run s = (a, s) := rfl

end Run

/-! ## Submissions -/

/-- What `validate_and_track_submission` can write: the core, and the error text of its caller. -/
structure SubmissionFrame where
  core : OrderManagerCore
  errorMessage : String := ""

def policyReject (message : String) : StateM SubmissionFrame Bool := do
  modify fun frame ↦ { frame with
    core := { frame.core with policyRejectCount := frame.core.policyRejectCount + 1 } }
  modify fun frame ↦ { frame with errorMessage := message }
  return false

def trackOrder (order : InFlightOrder) : StateM SubmissionFrame Unit :=
  modify fun frame ↦ { frame with core := frame.core.track order }

/-- The part of the source that follows the resolution of the target. -/
def submitAgainst (requestId : ℕ) (intent : OrderIntent) (resolvedTargetId : ClientOrderId) :
    StateM SubmissionFrame Bool := do
  match (← get).core.inFlightOrders.lookup resolvedTargetId with
  | none => policyReject "OMS target order is not tracked"
  | some target =>
    if isTerminalState target.status then
      return ← policyReject "OMS target order is terminal"
    if intent.action = .replace then
      if resolvedTargetId = intent.clientOrderId then
        return ← policyReject "OMS replace requires a new client_order_id"
      if intent.clientOrderId ∈ (← get).core.inFlightOrders then
        return ← policyReject "OMS replace client_order_id already exists"
      if intent.marketTicker ≠ "" ∧ target.marketTicker ≠ "" ∧
          intent.marketTicker ≠ target.marketTicker then
        return ← policyReject "OMS replace target market mismatch"
      trackOrder {
        requestId := requestId
        lastAction := intent.action
        status := .pending
        clientOrderId := intent.clientOrderId
        replaceTargetClientOrderId := some resolvedTargetId
        marketTicker :=
          if intent.marketTicker ≠ "" then intent.marketTicker else target.marketTicker
        side := if intent.side ≠ .unknown then intent.side else target.side
        requestedQtyLots :=
          if intent.qtyLots > 0 then intent.qtyLots else target.requestedQtyLots
        createdTsNs := intent.intentTsNs }
    return true

/-- The target that the intent names by client order id. -/
def targetByClientId (intent : OrderIntent) : Option ClientOrderId :=
  match intent.targetClientOrderId with
  | some id => some id
  | none => if intent.action = .cancel then some intent.clientOrderId else none

def validateAndTrackSubmission (requestId : ℕ) (intent : OrderIntent) :
    StateM SubmissionFrame Bool := do
  if intent.clientOrderId = "" then
    return ← policyReject "Order intent must include client_order_id"
  if intent.action = .place then
    if intent.clientOrderId ∈ (← get).core.inFlightOrders then
      return ← policyReject "Order intent reuses an existing client_order_id"
    trackOrder (placeOrder requestId intent)
    return true
  if intent.action ≠ .cancel ∧ intent.action ≠ .replace then
    return ← policyReject "Unsupported OMS action for policy validation"
  let targetByClientId := targetByClientId intent
  let mut targetByExchangeId : Option ClientOrderId := none
  if let some exchangeId := intent.targetExchangeOrderId then
    match (← get).core.exchangeToClient.lookup exchangeId with
    | none => return ← policyReject "OMS target_exchange_order_id is unknown"
    | some id => targetByExchangeId := some id
  if targetByClientId.isSome ∧ targetByExchangeId.isSome ∧
      targetByClientId ≠ targetByExchangeId then
    return ← policyReject "OMS target ids resolve to different orders"
  match targetByClientId.or targetByExchangeId with
  | none => policyReject "OMS intent is missing a resolvable target order"
  | some resolvedTargetId => submitAgainst requestId intent resolvedTargetId

/-- The outcome of a submission, as its caller sees it. -/
def submissionOutcome (errorMessage : String) :
    Except String Unit × OrderManagerCore → Bool × SubmissionFrame
  | (.ok (), core) => (true, { core, errorMessage })
  | (.error message, core) => (false, { core, errorMessage := message })

section Submission

variable {core : OrderManagerCore} {requestId : ℕ} {intent : OrderIntent} {errorMessage : String}

/-- A refusal counts one policy reject and sets the text. -/
theorem run_policyReject (message : String)
    (h : core.admission requestId intent = .error message) :
    (policyReject message).run { core, errorMessage } =
      submissionOutcome errorMessage (core.validateAndTrackSubmission requestId intent) := by
  rw [OrderManagerCore.validateAndTrackSubmission, h]
  rfl

theorem run_trackOrder {order : InFlightOrder}
    (h : core.admission requestId intent = .ok (some order)) :
    (do trackOrder order; return true).run { core, errorMessage } =
      submissionOutcome errorMessage (core.validateAndTrackSubmission requestId intent) := by
  rw [OrderManagerCore.validateAndTrackSubmission, h]
  rfl

theorem resolveTarget_eq (core : OrderManagerCore) (intent : OrderIntent) :
    core.resolveTarget intent = (match intent.targetExchangeOrderId with
      | none => .ok none
      | some exchangeId =>
        match core.exchangeToClient.lookup exchangeId with
        | none => .error "OMS target_exchange_order_id is unknown"
        | some id => .ok (some id) : Except String (Option ClientOrderId)).bind
      fun targetByExchangeId ↦ match targetByClientId intent, targetByExchangeId with
        | some byClient, some byExchange =>
          if byClient ≠ byExchange then .error "OMS target ids resolve to different orders"
          else .ok byClient
        | some byClient, none => .ok byClient
        | none, some byExchange => .ok byExchange
        | none, none => .error "OMS intent is missing a resolvable target order" := by
  rw [resolveTarget, targetByClientId]
  cases intent.targetExchangeOrderId with
  | none => rfl
  | some exchangeId =>
    dsimp only
    cases core.exchangeToClient.lookup exchangeId <;> rfl

theorem run_submitAgainst (id : ClientOrderId) (hid : intent.clientOrderId ≠ "")
    (haction : intent.action = .cancel ∨ intent.action = .replace)
    (hresolve : core.resolveTarget intent = .ok id) :
    (submitAgainst requestId intent id).run { core, errorMessage } =
      submissionOutcome errorMessage (core.validateAndTrackSubmission requestId intent) := by
  -- without a live target the submission is refused, whatever it asks for
  have hrefused : ∀ message, core.findTarget intent = .error message →
      core.admission requestId intent = .error message := by
    intro message h
    rcases haction with haction | haction
    · simp [admission, hid, haction, h, bind, Except.bind]
    · simp [admission, hid, haction, h, bind, Except.bind]
  cases hlookup : core.inFlightOrders.lookup id with
  | none =>
    rw [← run_policyReject "OMS target order is not tracked" (hrefused _
      (by simp [findTarget, hresolve, hlookup, bind, Except.bind]))]
    simp [submitAgainst, hlookup]
  | some target =>
    by_cases hterminal : isTerminalState target.status = true
    · rw [← run_policyReject "OMS target order is terminal" (hrefused _
        (by simp [findTarget, hresolve, hlookup, hterminal, bind, Except.bind]))]
      simp [submitAgainst, hlookup, hterminal]
    have htarget : core.findTarget intent = .ok (id, target) := by
      simp [findTarget, hresolve, hlookup, hterminal, bind, Except.bind]
    rcases haction with haction | haction
    · have hadmission : core.admission requestId intent = .ok none := by
        simp [admission, hid, haction, htarget, bind, Except.bind]
      rw [OrderManagerCore.validateAndTrackSubmission, hadmission]
      simp [submitAgainst, hlookup, hterminal, haction]
      rfl
    · -- the three checks of a replace, and then the edit
      have hadmission : core.admission requestId intent =
          (core.replaceOrder requestId intent id target).map some := by
        rw [admission, if_neg hid, haction]
        simp only [htarget, bind, Except.bind]
        cases core.replaceOrder requestId intent id target <;> rfl
      by_cases hsame : id = intent.clientOrderId
      · rw [← run_policyReject "OMS replace requires a new client_order_id"
          (by rw [hadmission, replaceOrder, if_pos hsame]; rfl)]
        simp [submitAgainst, hlookup, hterminal, haction, hsame]
      by_cases hexists : intent.clientOrderId ∈ core.inFlightOrders
      · rw [← run_policyReject "OMS replace client_order_id already exists"
          (by rw [hadmission, replaceOrder, if_neg hsame, if_pos hexists]; rfl)]
        simp [submitAgainst, hlookup, hterminal, haction, hsame, hexists]
      by_cases hmarket : intent.marketTicker ≠ "" ∧ target.marketTicker ≠ "" ∧
          intent.marketTicker ≠ target.marketTicker
      · rw [← run_policyReject "OMS replace target market mismatch"
          (by rw [hadmission, replaceOrder, if_neg hsame, if_neg hexists, if_pos hmarket]; rfl)]
        simp [submitAgainst, hlookup, hterminal, haction, hsame, hexists, hmarket]
      · rw [replaceOrder, if_neg hsame, if_neg hexists, if_neg hmarket] at hadmission
        rw [← run_trackOrder hadmission]
        simp [submitAgainst, hlookup, hterminal, haction, hsame, hexists, hmarket]

theorem validateAndTrackSubmission_run (core : OrderManagerCore) (requestId : ℕ)
    (intent : OrderIntent) (errorMessage : String) :
    (validateAndTrackSubmission requestId intent).run { core, errorMessage } =
      submissionOutcome errorMessage (core.validateAndTrackSubmission requestId intent) := by
  by_cases hid : intent.clientOrderId = ""
  · rw [← run_policyReject "Order intent must include client_order_id"
      (by rw [admission, if_pos hid])]
    simp [validateAndTrackSubmission, hid]
  by_cases hplace : intent.action = .place
  · by_cases hexists : intent.clientOrderId ∈ core.inFlightOrders
    · rw [← run_policyReject "Order intent reuses an existing client_order_id"
        (by simp [admission, hid, hplace, hexists])]
      simp [validateAndTrackSubmission, hid, hplace, hexists]
    · simp [validateAndTrackSubmission, OrderManagerCore.validateAndTrackSubmission, admission,
        hid, hplace, hexists]
      rfl
  by_cases hother : intent.action ≠ .cancel ∧ intent.action ≠ .replace
  · rw [← run_policyReject "Unsupported OMS action for policy validation"
      (by cases haction : intent.action <;> simp_all [admission])]
    simp [validateAndTrackSubmission, hid, hplace, hother]
  have haction : intent.action = .cancel ∨ intent.action = .replace := by
    cases haction : intent.action <;> simp_all
  have hrefused : ∀ message, core.resolveTarget intent = .error message →
      core.admission requestId intent = .error message := by
    intro message h
    rcases haction with haction | haction
    · simp [admission, findTarget, hid, haction, h, bind, Except.bind]
    · simp [admission, findTarget, hid, haction, h, bind, Except.bind]
  -- how the two ids are resolved
  cases hexchange : intent.targetExchangeOrderId with
  | none =>
    cases hclient : targetByClientId intent with
    | none =>
      rw [← run_policyReject "OMS intent is missing a resolvable target order" (hrefused _
        (by simp [resolveTarget_eq, hexchange, hclient, Except.bind]))]
      simp [validateAndTrackSubmission, hid, hplace, hother, hexchange, hclient]
    | some id =>
      rw [← run_submitAgainst id hid haction
        (by simp [resolveTarget_eq, hexchange, hclient, Except.bind])]
      simp [validateAndTrackSubmission, hid, hplace, hother, hexchange, hclient]
  | some exchangeId =>
    cases hlookup : core.exchangeToClient.lookup exchangeId with
    | none =>
      rw [← run_policyReject "OMS target_exchange_order_id is unknown" (hrefused _
        (by simp [resolveTarget_eq, hexchange, hlookup, Except.bind]))]
      simp [validateAndTrackSubmission, hid, hplace, hother, hexchange, hlookup]
    | some id =>
      cases hclient : targetByClientId intent with
      | none =>
        rw [← run_submitAgainst id hid haction
          (by simp [resolveTarget_eq, hexchange, hlookup, hclient, Except.bind])]
        simp [validateAndTrackSubmission, hid, hplace, hother, hexchange, hlookup, hclient]
      | some id' =>
        by_cases hsame : id' = id
        · rw [← run_submitAgainst id hid haction
            (by simp [resolveTarget_eq, hexchange, hlookup, hclient, hsame, Except.bind])]
          simp [validateAndTrackSubmission, hid, hplace, hother, hexchange, hlookup, hclient,
            hsame]
        · rw [← run_policyReject "OMS target ids resolve to different orders" (hrefused _
            (by simp [resolveTarget_eq, hexchange, hlookup, hclient, hsame, Except.bind]))]
          simp [validateAndTrackSubmission, hid, hplace, hother, hexchange, hlookup, hclient,
            hsame]

end Submission

/-! ## Updates -/

/-- What `apply_update_transition` can write: the core, and the update and the error text of its
caller. -/
structure UpdateFrame where
  core : OrderManagerCore
  update : OrderStateUpdate
  errorMessage : String := ""

def transitionReject (message : String) : StateM UpdateFrame Bool := do
  modify fun frame ↦ { frame with
    core := { frame.core with transitionRejectCount := frame.core.transitionRejectCount + 1 } }
  modify fun frame ↦ { frame with errorMessage := message }
  return false

def unknownOrder (message : String) : StateM UpdateFrame Bool := do
  modify fun frame ↦ { frame with
    core := { frame.core with unknownOrderUpdateCount := frame.core.unknownOrderUpdateCount + 1 } }
  modify fun frame ↦ { frame with errorMessage := message }
  return false

/-- An edit through the reference to the entry under `key`. -/
def editOrder (key : ClientOrderId) (edit : InFlightOrder → InFlightOrder) :
    StateM UpdateFrame Unit :=
  modify fun frame ↦
    match frame.core.inFlightOrders.lookup key with
    | some order => { frame with
        core := { frame.core with
          inFlightOrders := frame.core.inFlightOrders.insert key (edit order) } }
    | none => frame

/-- A read through the reference. -/
def orderAt (key : ClientOrderId) : StateM UpdateFrame InFlightOrder := do
  return ((← get).core.inFlightOrders.lookup key).getD {}

/-- The edits of the order that every update makes. -/
def editTouched (now : ℕ) (next : InFlightStatus) (key : ClientOrderId) :
    StateM UpdateFrame Unit := do
  editOrder key fun order ↦ { order with status := next }
  let update := (← get).update
  if update.recvTsNs ≠ 0 then
    editOrder key fun order ↦ { order with lastUpdateTsNs := update.recvTsNs }
  else
    editOrder key fun order ↦ { order with lastUpdateTsNs := now }
  if update.marketTicker ≠ "" then
    editOrder key fun order ↦ { order with marketTicker := update.marketTicker }

/-- The edits for the exchange order id that an update carries. -/
def editExchangeId (key : ClientOrderId) : StateM UpdateFrame Unit := do
  if let some id := (← get).update.exchangeOrderId then
    if id ≠ "" then
      editOrder key fun order ↦ { order with exchangeOrderId := some id }
      let order ← orderAt key
      modify fun frame ↦ { frame with
        core := { frame.core with
          exchangeToClient := frame.core.exchangeToClient.insert id order.clientOrderId } }

/-- The edits of the order for a fill. -/
def editFilled (next : InFlightStatus) (key : ClientOrderId) (fill : OrderFill) :
    StateM UpdateFrame Unit := do
  let order ← orderAt key
  if order.side = .unknown ∧ fill.side ≠ .unknown then
    editOrder key fun order ↦ { order with side := fill.side }
  if next = .filled ∧ order.requestedQtyLots > 0 then
    editOrder key fun order ↦ { order with filledQtyLots := order.requestedQtyLots }
  else if fill.fillQtyLots > order.filledQtyLots then
    editOrder key fun order ↦ { order with filledQtyLots := fill.fillQtyLots }

/-- The edits for a fill: of the fill itself first, then of the order. -/
def editFill (next : InFlightStatus) (key : ClientOrderId) : StateM UpdateFrame Unit := do
  if let .fill fill := (← get).update.data then
    let order ← orderAt key
    let mut fill := fill
    if fill.side = .unknown ∧ order.side ≠ .unknown then
      fill := { fill with side := order.side }
      modify fun frame ↦ { frame with update := { frame.update with data := .fill fill } }
    editFilled next key fill

def applyUpdateTransition (now : ℕ) : StateM UpdateFrame Bool := do
  let frame ← get
  match toInFlightStatus frame.update.status with
  | none => transitionReject "Unsupported OMS transition status"
  | some next =>
    match frame.core.matchOrder frame.update with
    | none => unknownOrder "Order update does not match an in-flight order"
    | some (key, order) =>
      if ¬canTransition order.status next then
        return ← transitionReject "Rejected OMS transition for in-flight order"
      editTouched now next key
      editExchangeId key
      editFill next key
      modify fun frame ↦ { frame with
        core := { frame.core with
          transitionAppliedCount := frame.core.transitionAppliedCount + 1 } }
      return true

/-- The outcome of an update, as its caller sees it. A refused one is left as it was. -/
def updateOutcome (update : OrderStateUpdate) (errorMessage : String) :
    Except String OrderStateUpdate × OrderManagerCore → Bool × UpdateFrame
  | (.ok update, core) => (true, { core, update, errorMessage })
  | (.error message, core) => (false, { core, update, errorMessage := message })

section Update

variable (core : OrderManagerCore) (key : ClientOrderId) (order : InFlightOrder)
  (update : OrderStateUpdate) (errorMessage : String) (next : InFlightStatus) (now : ℕ)

/-- The frame in which the entry under `key` is this order. -/
def frameAt : UpdateFrame :=
  { core := { core with inFlightOrders := core.inFlightOrders.insert key order }, update,
    errorMessage }

theorem run_editOrder (edit : InFlightOrder → InFlightOrder) :
    (editOrder key edit).run (frameAt core key order update errorMessage) =
      ((), frameAt core key (edit order) update errorMessage) := by
  simp [editOrder, frameAt, AList.lookup_insert, AList.insert_insert]
  rfl

theorem run_orderAt :
    (orderAt key).run (frameAt core key order update errorMessage) =
      (order, frameAt core key order update errorMessage) := by
  simp [orderAt, frameAt, AList.lookup_insert]
  rfl

theorem frameAt_update : (frameAt core key order update errorMessage).update = update := rfl

/-- The first edit finds the entry as the core has it. -/
theorem run_editOrder_of_lookup {core : OrderManagerCore} {key : ClientOrderId}
    {order : InFlightOrder} (h : core.inFlightOrders.lookup key = some order)
    (edit : InFlightOrder → InFlightOrder) :
    (editOrder key edit).run { core, update, errorMessage } =
      ((), frameAt core key (edit order) update errorMessage) := by
  simp [editOrder, frameAt, h]
  rfl

theorem run_editTouched {core : OrderManagerCore} {key : ClientOrderId} {order : InFlightOrder}
    (h : core.inFlightOrders.lookup key = some order) :
    (editTouched now next key).run { core, update, errorMessage } =
      ((), frameAt core key
        { order with
          status := next
          lastUpdateTsNs := if update.recvTsNs ≠ 0 then update.recvTsNs else now
          marketTicker :=
            if update.marketTicker ≠ "" then update.marketTicker else order.marketTicker }
        update errorMessage) := by
  by_cases htime : update.recvTsNs = 0
  · by_cases hmarket : update.marketTicker = ""
    · simp only [editTouched, run_bind, run_get, run_editOrder_of_lookup _ _ h, frameAt_update,
        run_editOrder, run_pure, ne_eq, htime, hmarket, not_true_eq_false, if_false]
    · simp only [editTouched, run_bind, run_get, run_editOrder_of_lookup _ _ h, frameAt_update,
        run_editOrder, ne_eq, htime, hmarket, not_true_eq_false, not_false_eq_true, if_false,
        if_true]
  · by_cases hmarket : update.marketTicker = ""
    · simp only [editTouched, run_bind, run_get, run_editOrder_of_lookup _ _ h, frameAt_update,
        run_editOrder, run_pure, ne_eq, htime, hmarket, not_true_eq_false, not_false_eq_true,
        if_false, if_true]
    · simp only [editTouched, run_bind, run_get, run_editOrder_of_lookup _ _ h, frameAt_update,
        run_editOrder, ne_eq, htime, hmarket, not_false_eq_true, if_true]

theorem run_editExchangeId :
    (editExchangeId key).run (frameAt core key order update errorMessage) =
      ((), frameAt { core with
          exchangeToClient := core.recordExchangeId update order.clientOrderId } key
        { order with
          exchangeOrderId := match update.exchangeOrderId with
            | some id => if id ≠ "" then some id else order.exchangeOrderId
            | none => order.exchangeOrderId }
        update errorMessage) := by
  cases hid : update.exchangeOrderId with
  | none =>
    simp only [editExchangeId, run_bind, run_get, frameAt_update, hid, recordExchangeId]
    rfl
  | some id =>
    by_cases hempty : id ≠ ""
    · simp only [editExchangeId, run_bind, run_get, frameAt_update, hid, recordExchangeId,
        if_pos hempty, run_editOrder, run_orderAt]
      rfl
    · simp only [editExchangeId, run_bind, run_get, frameAt_update, hid, recordExchangeId,
        if_neg hempty]
      rfl

theorem run_editFilled (fill : OrderFill) :
    (editFilled next key fill).run (frameAt core key order update errorMessage) =
      ((), frameAt core key (fillOrder order next fill) update errorMessage) := by
  by_cases hside : order.side = .unknown ∧ fill.side ≠ .unknown
  · by_cases hfull : next = .filled ∧ order.requestedQtyLots > 0
    · simp only [editFilled, run_bind, run_orderAt, hside, hfull, run_editOrder, fillOrder,
        and_self, if_true, ne_eq, not_false_eq_true]
    · by_cases hmore : fill.fillQtyLots > order.filledQtyLots
      · simp only [editFilled, run_bind, run_orderAt, hside, hfull, hmore, run_editOrder,
          fillOrder, and_self, if_true, if_false, ne_eq, not_false_eq_true]
      · simp only [editFilled, run_bind, run_orderAt, hside, hfull, hmore, run_editOrder,
          fillOrder, and_self, if_true, if_false, ne_eq, not_false_eq_true, run_pure]
  · by_cases hfull : next = .filled ∧ order.requestedQtyLots > 0
    · simp only [editFilled, run_bind, run_orderAt, if_neg hside, hfull, run_editOrder, fillOrder,
        and_self, if_true]
    · by_cases hmore : fill.fillQtyLots > order.filledQtyLots
      · simp only [editFilled, run_bind, run_orderAt, if_neg hside, hfull, hmore, run_editOrder,
          fillOrder, if_true, if_false]
      · simp only [editFilled, run_bind, run_orderAt, if_neg hside, hfull, hmore,
          fillOrder, if_false, run_pure]

theorem run_editFill_of_not_fill (h : ∀ fill, update.data ≠ .fill fill) :
    (editFill next key).run (frameAt core key order update errorMessage) =
      ((), frameAt core key order update errorMessage) := by
  simp only [editFill, run_bind, run_get, frameAt_update]
  cases hdata : update.data with
  | fill fill => exact absurd hdata (h fill)
  | monostate => rfl
  | ack => rfl
  | reject => rfl

theorem run_editFill_of_fill {fill : OrderFill} (h : update.data = .fill fill) :
    (editFill next key).run (frameAt core key order update errorMessage) =
      ((), frameAt core key (fillOrder order next (enrichFill order fill))
        { update with data := .fill (enrichFill order fill) } errorMessage) := by
  by_cases hside : fill.side = .unknown ∧ order.side ≠ .unknown
  · have hset : ∀ frame : UpdateFrame, ∀ fill : OrderFill,
        (modify fun frame : UpdateFrame ↦
          { frame with update := { frame.update with data := .fill fill } } :
            StateM UpdateFrame PUnit).run frame =
        ((), { frame with update := { frame.update with data := .fill fill } }) := fun _ _ ↦ rfl
    simp only [editFill, run_bind, run_get, frameAt_update, h, run_orderAt, if_pos hside,
      enrichFill, hset]
    exact run_editFilled ..
  · have hsame : { update with data := .fill fill } = update := by rw [← h]
    simp only [editFill, run_bind, run_get, frameAt_update, h, run_orderAt, if_neg hside,
      enrichFill, run_editFilled, hsame]

/-- The edits of an accepted update, taken together. -/
theorem run_edits {core : OrderManagerCore} {key : ClientOrderId} {order : InFlightOrder}
    (h : core.inFlightOrders.lookup key = some order) :
    (do editTouched now next key; editExchangeId key; editFill next key).run
        { core, update, errorMessage } =
      ((), frameAt { core with
          exchangeToClient := core.recordExchangeId update order.clientOrderId } key
        (transitionOrder order next now update) (enrichUpdate order update) errorMessage) := by
  simp only [run_bind, run_editTouched _ _ _ _ h, run_editExchangeId]
  by_cases hdata : ∃ fill, update.data = .fill fill
  · obtain ⟨fill, hfill⟩ := hdata
    rw [run_editFill_of_fill _ _ _ _ _ _ hfill]
    simp only [transitionOrder, enrichUpdate, hfill]
    rfl
  · have hnone : ∀ fill, update.data ≠ .fill fill := fun fill hfill ↦ hdata ⟨fill, hfill⟩
    have htouched : transitionOrder order next now update = touchOrder order next now update := by
      rw [transitionOrder]
      split
      · rename_i fill hfill
        exact absurd hfill (hnone fill)
      · rfl
    rw [run_editFill_of_not_fill _ _ _ _ _ _ hnone, enrichUpdate_of_not_fill order hnone,
      htouched]
    rfl

theorem applyUpdateTransition_run (core : OrderManagerCore) (now : ℕ)
    (update : OrderStateUpdate) (errorMessage : String) :
    (applyUpdateTransition now).run { core, update, errorMessage } =
      updateOutcome update errorMessage (core.applyUpdateTransition now update) := by
  cases hstatus : toInFlightStatus update.status with
  | none =>
    simp only [applyUpdateTransition, OrderManagerCore.applyUpdateTransition, run_bind, run_get,
      hstatus]
    rfl
  | some next =>
    cases hmatch : core.matchOrder update with
    | none =>
      simp only [applyUpdateTransition, OrderManagerCore.applyUpdateTransition, run_bind, run_get,
        hstatus, hmatch]
      rfl
    | some found =>
      obtain ⟨key, order⟩ := found
      by_cases hcan : canTransition order.status next = true
      · have hedits := run_edits update errorMessage next now (matchOrder_lookup hmatch)
        simp only [run_bind] at hedits
        rw [applyUpdateTransition_of_match now hstatus hmatch hcan]
        simp only [applyUpdateTransition, run_bind, run_get, hstatus, hmatch, hcan, hedits,
          not_true_eq_false, if_false]
        rfl
      · simp only [applyUpdateTransition, OrderManagerCore.applyUpdateTransition, run_bind,
          run_get, hstatus, hmatch, hcan]
        rfl

end Update

/-! ## What a call may change -/

/-- The order holds already what the update says when it is applied at `now`. -/
structure Repeats (order : InFlightOrder) (now : ℕ) (update : OrderStateUpdate) : Prop where
  status : toInFlightStatus update.status = some order.status
  time : order.lastUpdateTsNs = if update.recvTsNs ≠ 0 then update.recvTsNs else now
  marketTicker : update.marketTicker ≠ "" → update.marketTicker = order.marketTicker
  exchangeOrderId : ∀ id, update.exchangeOrderId = some id → id ≠ "" →
    order.exchangeOrderId = some id
  side : ∀ fill, update.data = .fill fill → order.side = .unknown → fill.side = .unknown
  partly : ∀ fill, update.data = .fill fill → fill.fillQtyLots ≤ order.filledQtyLots
  fully : ∀ fill, update.data = .fill fill → order.status = .filled →
    0 < order.requestedQtyLots → order.filledQtyLots = order.requestedQtyLots

/-- What an accepted update does: it writes the order it resolves to and at most one entry of the
exchange id map, and counts itself. The order comes out as it was when the update only repeats it.
The update is handed back as it was, up to the side of its fill. -/
structure Writes (core : OrderManagerCore) (now : ℕ) (update : OrderStateUpdate)
    (frame : UpdateFrame) (key : ClientOrderId) (order written : InFlightOrder) : Prop where
  existing : core.inFlightOrders.lookup key = some order
  status : toInFlightStatus update.status = some written.status
  time : written.lastUpdateTsNs = if update.recvTsNs ≠ 0 then update.recvTsNs else now
  repeated : Repeats order now update → written = order
  core_eq : ∃ exchangeToClient,
    frame.core = { core with
      inFlightOrders := core.inFlightOrders.insert key written
      exchangeToClient := exchangeToClient
      transitionAppliedCount := core.transitionAppliedCount + 1 } ∧
    (exchangeToClient = core.exchangeToClient ∨ ∃ id, update.exchangeOrderId = some id ∧
      exchangeToClient = core.exchangeToClient.insert id order.clientOrderId)
  update_eq : frame.update = update ∨ ∃ fill side, update.data = .fill fill ∧
    frame.update = { update with data := .fill { fill with side := side } }

/-- A refused update moves one of two counters. -/
theorem applyUpdateTransition_refused {core core' : OrderManagerCore} {now : ℕ}
    {update : OrderStateUpdate} {message : String}
    (h : core.applyUpdateTransition now update = (.error message, core')) :
    core' = { core with transitionRejectCount := core.transitionRejectCount + 1 } ∨
      core' = { core with unknownOrderUpdateCount := core.unknownOrderUpdateCount + 1 } := by
  rw [OrderManagerCore.applyUpdateTransition] at h
  split at h
  · exact .inl (Prod.mk.inj h).2.symm
  split at h
  · exact .inr (Prod.mk.inj h).2.symm
  split at h
  · exact absurd (Prod.mk.inj h).1 (by simp)
  · exact .inl (Prod.mk.inj h).2.symm

theorem recordExchangeId_cases (core : OrderManagerCore) (update : OrderStateUpdate)
    (clientOrderId : ClientOrderId) :
    core.recordExchangeId update clientOrderId = core.exchangeToClient ∨
      ∃ id, update.exchangeOrderId = some id ∧
        core.recordExchangeId update clientOrderId =
          core.exchangeToClient.insert id clientOrderId := by
  rw [recordExchangeId]
  split
  · rename_i id hid
    split
    · exact .inr ⟨id, hid, rfl⟩
    · exact .inl rfl
  · exact .inl rfl

theorem enrichUpdate_cases (order : InFlightOrder) (update : OrderStateUpdate) :
    enrichUpdate order update = update ∨ ∃ fill side, update.data = .fill fill ∧
      enrichUpdate order update = { update with data := .fill { fill with side := side } } := by
  rw [enrichUpdate]
  split
  · rename_i fill hfill
    rw [enrichFill]
    split
    · exact .inr ⟨fill, order.side, hfill, rfl⟩
    · exact .inr ⟨fill, fill.side, hfill, rfl⟩
  · exact .inl rfl

theorem transitionOrder_lastUpdateTsNs (order : InFlightOrder) (next : InFlightStatus) (now : ℕ)
    (update : OrderStateUpdate) :
    (transitionOrder order next now update).lastUpdateTsNs =
      if update.recvTsNs ≠ 0 then update.recvTsNs else now := by
  rw [transitionOrder]
  split <;> rfl

theorem Repeats.touchOrder_eq {order : InFlightOrder} {now : ℕ} {update : OrderStateUpdate}
    (h : Repeats order now update) : touchOrder order order.status now update = order := by
  have hmarket : (if update.marketTicker ≠ "" then update.marketTicker else order.marketTicker) =
      order.marketTicker := by
    split
    · rename_i hnamed
      exact h.marketTicker hnamed
    · rfl
  have hexchange : (touchOrder order order.status now update).exchangeOrderId =
      order.exchangeOrderId := by
    dsimp only [touchOrder]
    split
    · rename_i id hid
      split
      · rename_i hnamed
        exact (h.exchangeOrderId id hid hnamed).symm
      · rfl
    · rfl
  rw [touchOrder, ← h.time, hmarket]
  exact congrArg (fun id ↦ { order with exchangeOrderId := id }) hexchange

theorem fillOrder_eq_self {order : InFlightOrder} {fill : OrderFill}
    (hside : order.side = .unknown → fill.side = .unknown)
    (hpartly : fill.fillQtyLots ≤ order.filledQtyLots)
    (hfully : order.status = .filled → 0 < order.requestedQtyLots →
      order.filledQtyLots = order.requestedQtyLots) :
    fillOrder order order.status fill = order := by
  have hkept : (if order.side = .unknown ∧ fill.side ≠ .unknown then fill.side else order.side) =
      order.side := if_neg fun h ↦ h.2 (hside h.1)
  have hfilled : (if order.status = .filled ∧ order.requestedQtyLots > 0 then
        order.requestedQtyLots
      else if fill.fillQtyLots > order.filledQtyLots then fill.fillQtyLots
      else order.filledQtyLots) = order.filledQtyLots := by
    rw [if_neg (not_lt.mpr hpartly)]
    split
    · rename_i hfinal
      exact (hfully hfinal.1 hfinal.2).symm
    · rfl
  rw [fillOrder, hkept, hfilled]

/-- An update that only repeats an order leaves it as it was. -/
theorem Repeats.transitionOrder_eq {order : InFlightOrder} {now : ℕ} {update : OrderStateUpdate}
    (h : Repeats order now update) : transitionOrder order order.status now update = order := by
  rw [transitionOrder, h.touchOrder_eq]
  split
  · rename_i fill hfill
    have henriched : order.side = .unknown → enrichFill order fill = fill :=
      fun hside ↦ if_neg fun hboth ↦ hboth.2 hside
    have hqty : (enrichFill order fill).fillQtyLots = fill.fillQtyLots := by
      rw [enrichFill]
      split <;> rfl
    refine fillOrder_eq_self (fun hside ↦ ?_) (hqty ▸ h.partly fill hfill) (h.fully fill hfill)
    rw [henriched hside]
    exact h.side fill hfill hside
  · rfl

end InPlace

open InPlace in
/-- **Failed calls are atomic, and others are local.** From any state of the core, a refused
submission counts itself and changes nothing else, and an accepted one adds the order under the id
of the intent, or nothing for a cancel. A refused update moves one of two counters and is left as it
was; an accepted one writes one order. -/
theorem core_calls_atomic (core : OrderManagerCore) :
    (∀ requestId intent errorMessage accepted frame,
      (InPlace.validateAndTrackSubmission requestId intent).run { core, errorMessage } =
          (accepted, frame) →
      (accepted = false →
        frame.core = { core with policyRejectCount := core.policyRejectCount + 1 }) ∧
      (accepted = true →
        (intent.action = .cancel ∧ frame.core = core) ∨
        (intent.action ≠ .cancel ∧ intent.clientOrderId ∉ core.inFlightOrders ∧
          ∃ order, frame.core = { core with
            inFlightOrders := core.inFlightOrders.insert intent.clientOrderId order }))) ∧
    ∀ now update errorMessage applied frame,
      (InPlace.applyUpdateTransition now).run { core, update, errorMessage } =
          (applied, frame) →
      (applied = false → frame.update = update ∧
        (frame.core = { core with transitionRejectCount := core.transitionRejectCount + 1 } ∨
          frame.core =
            { core with unknownOrderUpdateCount := core.unknownOrderUpdateCount + 1 })) ∧
      (applied = true → ∃ key order written, Writes core now update frame key order written) := by
  refine ⟨?_, ?_⟩
  · intro requestId intent errorMessage accepted frame hrun
    rw [validateAndTrackSubmission_run] at hrun
    obtain ⟨message, h⟩ | ⟨hadmission, h⟩ | ⟨order, hadmission, h⟩ :=
      core.validateAndTrackSubmission_cases requestId intent
    · rw [h] at hrun
      obtain ⟨rfl, rfl⟩ := Prod.mk.inj hrun
      exact ⟨fun _ ↦ rfl, fun h ↦ absurd h (by decide)⟩
    · rw [h] at hrun
      obtain ⟨rfl, rfl⟩ := Prod.mk.inj hrun
      exact ⟨fun h ↦ absurd h (by decide), fun _ ↦ .inl ⟨(admission_none hadmission).1, rfl⟩⟩
    · rw [h] at hrun
      obtain ⟨rfl, rfl⟩ := Prod.mk.inj hrun
      obtain ⟨hcreates, hid, hfresh, _⟩ := admission_some_fields hadmission
      refine ⟨fun h ↦ absurd h (by decide), fun _ ↦ .inr ⟨?_, ?_, order, ?_⟩⟩
      · exact ((creates_iff intent).mp hcreates).1
      · exact AList.lookup_eq_none.mp hfresh
      · rw [← hid]
        rfl
  · intro now update errorMessage applied frame hrun
    rw [applyUpdateTransition_run] at hrun
    obtain ⟨message, core', h, _, _⟩ | ⟨next, key, order, hstatus, hmatch, _, h⟩ :=
      core.applyUpdateTransition_cases now update
    · have hcount := applyUpdateTransition_refused h
      rw [h] at hrun
      obtain ⟨rfl, rfl⟩ := Prod.mk.inj hrun
      exact ⟨fun _ ↦ ⟨rfl, hcount⟩, fun h ↦ absurd h (by decide)⟩
    · rw [h] at hrun
      obtain ⟨rfl, rfl⟩ := Prod.mk.inj hrun
      refine ⟨fun h ↦ absurd h (by decide), fun _ ↦
        ⟨key, order, transitionOrder order next now update, ?_⟩⟩
      exact {
        existing := matchOrder_lookup hmatch
        status := by rw [transitionOrder_status, hstatus]
        time := transitionOrder_lastUpdateTsNs order next now update
        repeated := fun hrepeats ↦ by
          obtain rfl := Option.some.inj (hstatus.symm.trans hrepeats.status)
          exact hrepeats.transitionOrder_eq
        core_eq := ⟨_, rfl, recordExchangeId_cases core update order.clientOrderId⟩
        update_eq := enrichUpdate_cases order update }

namespace AtomicCallsExample

open SampleOrders

def placed : OrderManagerCore := (({} : OrderManagerCore).validateAndTrackSubmission 1 (buy 10)).2

/-- The core once the order is placed and acknowledged. -/
def working : OrderManagerCore := (placed.applyUpdateTransition 9 ack).2

end AtomicCallsExample

open SampleOrders AtomicCallsExample in
/-- The acknowledgement comes twice. It is accepted twice, and the second one writes what is there
already. -/
theorem repeated_update_changes_no_order :
    ∃ frame, (InPlace.applyUpdateTransition 9).run { core := working, update := ack } =
        (true, frame) ∧
      ¬∃ id, frame.core.inFlightOrders.lookup id ≠ working.inFlightOrders.lookup id :=
  ⟨_, rfl, fun ⟨_, hchanged⟩ ↦ hchanged rfl⟩

open SampleOrders AtomicCallsExample in
theorem core_calls_atomic_acknowledged :
    ∃ frame key order written,
      (InPlace.applyUpdateTransition 9).run { core := placed, update := ack } = (true, frame) ∧
        InPlace.Writes placed 9 ack frame key order written := by
  obtain ⟨frame, hrun⟩ : ∃ frame, (InPlace.applyUpdateTransition 9).run
      { core := placed, update := ack } = (true, frame) := ⟨_, rfl⟩
  obtain ⟨key, order, written, hwrites⟩ := ((core_calls_atomic placed).2 9 ack "" true frame
    hrun).2 rfl
  exact ⟨frame, key, order, written, hrun, hwrites⟩

end TradingEngine
