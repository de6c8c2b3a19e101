import TradingEngine.Lib.UnorderedMap
import TradingEngine.Oms.RiskGates

/-!
# The order tracking core

`OrderManagerCore` keeps the orders in flight under their client order ids, a map from exchange
order ids back to client order ids, and the counters of `stats`. It validates submissions, runs
the two gates on a snapshot of its own orders, and moves orders along when updates arrive.

An operation of the source that returns `false` and sets an error text returns `Except.error` with
that text here, next to the state it leaves behind. The clock is an argument: `now` is what
`monotonic_now_ns` reads.

The long submission check is cut where the source's own comments and early returns cut it:
`resolveTarget` finds the id a cancel or replace means, `findTarget` the live order under it,
`replaceOrder` the checks of a replace, and `admission` puts them together and says which order, if
any, is to be tracked.
-/

namespace TradingEngine

inductive InFlightStatus
  | pending | accepted | partiallyFilled | filled | canceled | rejected | replaced
  deriving DecidableEq

structure InFlightOrder where
  requestId : ℕ := 0
  lastAction : OmsAction := .unknown
  status : InFlightStatus := .pending
  clientOrderId : ClientOrderId := ""
  exchangeOrderId : Option ExchangeOrderId := none
  replaceTargetClientOrderId : Option ClientOrderId := none
  marketTicker : String := ""
  side : Side := .unknown
  requestedQtyLots : ℤ := 0
  filledQtyLots : ℤ := 0
  createdTsNs : ℕ := 0
  lastUpdateTsNs : ℕ := 0
  deriving DecidableEq

structure OrderManagerCore where
  globalRiskGate : GlobalRiskConfig := {}
  portfolioRiskGate : PortfolioRiskConfig := {}
  inFlightOrders : UnorderedMap ClientOrderId InFlightOrder := ∅
  exchangeToClient : UnorderedMap ExchangeOrderId ClientOrderId := ∅
  riskRejectCount : ℕ := 0
  portfolioRiskRejectCount : ℕ := 0
  transitionAppliedCount : ℕ := 0
  transitionRejectCount : ℕ := 0
  unknownOrderUpdateCount : ℕ := 0
  policyRejectCount : ℕ := 0

namespace OrderManagerCore

/-! ## Statuses -/

def isTerminalState : InFlightStatus → Bool
  | .filled | .canceled | .rejected => true
  | .pending | .accepted | .partiallyFilled | .replaced => false

def toInFlightStatus : OmsOrderStatus → Option InFlightStatus
  | .accepted => some .accepted
  | .rejected => some .rejected
  | .canceled => some .canceled
  | .partiallyFilled => some .partiallyFilled
  | .filled => some .filled
  | .replaced => some .replaced
  | .unknown => none

/-- A repeated status is always let through, a terminal one included. -/
def canTransition (current next : InFlightStatus) : Bool :=
  if current = next then true
  else match current with
    | .pending => next = .accepted || next = .partiallyFilled || next = .filled ||
        next = .canceled || next = .rejected
    | .accepted => next = .partiallyFilled || next = .filled || next = .canceled ||
        next = .rejected || next = .replaced
    | .partiallyFilled => next = .filled || next = .canceled || next = .rejected ||
        next = .replaced
    | .replaced => next = .accepted || next = .partiallyFilled || next = .filled ||
        next = .canceled || next = .rejected
    | .filled | .canceled | .rejected => false

def outstandingQty (order : InFlightOrder) : ℤ :=
  if order.requestedQtyLots ≤ 0 then 0
  else if order.filledQtyLots ≤ 0 then order.requestedQtyLots
  else if order.filledQtyLots ≥ order.requestedQtyLots then 0
  else order.requestedQtyLots - order.filledQtyLots

/-! ## Submissions -/

def reset (core : OrderManagerCore) : OrderManagerCore :=
  { globalRiskGate := core.globalRiskGate, portfolioRiskGate := core.portfolioRiskGate }

/-- The client order id a cancel or replace acts on. A cancel that names no target means the order
under its own id. -/
def resolveTarget (core : OrderManagerCore) (intent : OrderIntent) :
    Except String ClientOrderId := do
  let targetByClientId : Option ClientOrderId :=
    match intent.targetClientOrderId with
    | some id => some id
    | none => if intent.action = .cancel then some intent.clientOrderId else none
  let targetByExchangeId : Option ClientOrderId ←
    match intent.targetExchangeOrderId with
    | none => .ok none
    | some exchangeId =>
      match core.exchangeToClient.lookup exchangeId with
      | none => .error "OMS target_exchange_order_id is unknown"
      | some id => .ok (some id)
  match targetByClientId, targetByExchangeId with
  | some byClient, some byExchange =>
    if byClient ≠ byExchange then .error "OMS target ids resolve to different orders"
    else .ok byClient
  | some byClient, none => .ok byClient
  | none, some byExchange => .ok byExchange
  | none, none => .error "OMS intent is missing a resolvable target order"

/-- The live order under the resolved id. -/
def findTarget (core : OrderManagerCore) (intent : OrderIntent) :
    Except String (ClientOrderId × InFlightOrder) := do
  let resolvedTargetId ← core.resolveTarget intent
  match core.inFlightOrders.lookup resolvedTargetId with
  | none => .error "OMS target order is not tracked"
  | some target =>
    if isTerminalState target.status then .error "OMS target order is terminal"
    else .ok (resolvedTargetId, target)

/-- The order a place tracks. -/
def placeOrder (requestId : ℕ) (intent : OrderIntent) : InFlightOrder where
  requestId := requestId
  lastAction := intent.action
  status := .pending
  clientOrderId := intent.clientOrderId
  marketTicker := intent.marketTicker
  side := intent.side
  requestedQtyLots := intent.qtyLots
  createdTsNs := intent.intentTsNs

/-- The order a replace tracks: blank fields of the intent are taken from the target. -/
def replaceOrder (core : OrderManagerCore) (requestId : ℕ) (intent : OrderIntent)
    (resolvedTargetId : ClientOrderId) (target : InFlightOrder) : Except String InFlightOrder :=
  if resolvedTargetId = intent.clientOrderId then
    .error "OMS replace requires a new client_order_id"
  else if intent.clientOrderId ∈ core.inFlightOrders then
    .error "OMS replace client_order_id already exists"
  else if intent.marketTicker ≠ "" ∧ target.marketTicker ≠ "" ∧
      intent.marketTicker ≠ target.marketTicker then
    .error "OMS replace target market mismatch"
  else .ok {
    requestId := requestId
    lastAction := intent.action
    status := .pending
    clientOrderId := intent.clientOrderId
    replaceTargetClientOrderId := some resolvedTargetId
    marketTicker := if intent.marketTicker ≠ "" then intent.marketTicker else target.marketTicker
    side := if intent.side ≠ .unknown then intent.side else target.side
    requestedQtyLots := if intent.qtyLots > 0 then intent.qtyLots else target.requestedQtyLots
    createdTsNs := intent.intentTsNs }

/-- The order a submission is to track, none for a cancel, or the reason it is refused. -/
def admission (core : OrderManagerCore) (requestId : ℕ) (intent : OrderIntent) :
    Except String (Option InFlightOrder) :=
  if intent.clientOrderId = "" then .error "Order intent must include client_order_id"
  else match intent.action with
    | .place =>
      if intent.clientOrderId ∈ core.inFlightOrders then
        .error "Order intent reuses an existing client_order_id"
      else .ok (some (placeOrder requestId intent))
    | .unknown => .error "Unsupported OMS action for policy validation"
    | .cancel => do
      let _ ← core.findTarget intent
      .ok none
    | .replace => do
      let (resolvedTargetId, target) ← core.findTarget intent
      let order ← core.replaceOrder requestId intent resolvedTargetId target
      .ok (some order)

/-- Put a new order under its client order id. -/
def track (core : OrderManagerCore) (order : InFlightOrder) : OrderManagerCore :=
  { core with inFlightOrders := core.inFlightOrders.insert order.clientOrderId order }

def validateAndTrackSubmission (core : OrderManagerCore) (requestId : ℕ)
    (intent : OrderIntent) : Except String Unit × OrderManagerCore :=
  match core.admission requestId intent with
  | .error message =>
    (.error message, { core with policyRejectCount := core.policyRejectCount + 1 })
  | .ok none => (.ok (), core)
  | .ok (some order) => (.ok (), core.track order)

/-! ## Risk evaluation -/

/-- One iteration of the snapshot loop. As in the gates, the arithmetic is a parameter. -/
def addToSnapshotWith (arithmetic : Arithmetic) (marketTicker skipClientOrderId : String)
    (snapshot : GlobalRiskSnapshot) (clientOrderId : ClientOrderId) (order : InFlightOrder) :
    GlobalRiskSnapshot :=
  if skipClientOrderId ≠ "" ∧ clientOrderId = skipClientOrderId then snapshot
  else if isTerminalState order.status then snapshot
  else
    let inMarket := marketTicker ≠ "" ∧ order.marketTicker = marketTicker
    { activeOrdersGlobal := snapshot.activeOrdersGlobal + 1
      outstandingQtyGlobal :=
        arithmetic.add snapshot.outstandingQtyGlobal (outstandingQty order)
      activeOrdersMarket :=
        if inMarket then snapshot.activeOrdersMarket + 1 else snapshot.activeOrdersMarket
      outstandingQtyMarket :=
        if inMarket then arithmetic.add snapshot.outstandingQtyMarket (outstandingQty order)
        else snapshot.outstandingQtyMarket }

def addToSnapshot : String → String → GlobalRiskSnapshot → ClientOrderId → InFlightOrder →
    GlobalRiskSnapshot :=
  addToSnapshotWith .exact

def buildRiskSnapshotWith (arithmetic : Arithmetic) (core : OrderManagerCore)
    (marketTicker skipClientOrderId : String) : GlobalRiskSnapshot :=
  core.inFlightOrders.entries.foldl (fun snapshot entry ↦
    addToSnapshotWith arithmetic marketTicker skipClientOrderId snapshot entry.1 entry.2) {}

def buildRiskSnapshot : OrderManagerCore → String → String → GlobalRiskSnapshot :=
  buildRiskSnapshotWith .exact

/-- The reject decision and its text, or nothing when the gate lets the intent through. -/
def evaluateGlobalRiskWith (arithmetic : Arithmetic) (core : OrderManagerCore)
    (intent : OrderIntent) : Option GlobalRiskDecision × OrderManagerCore :=
  let snapshot := core.buildRiskSnapshotWith arithmetic intent.marketTicker intent.clientOrderId
  let decision := GlobalRiskGate.evaluateWith arithmetic core.globalRiskGate intent snapshot
  if decision.allow then (none, core)
  else (some decision, { core with riskRejectCount := core.riskRejectCount + 1 })

def evaluateGlobalRisk : OrderManagerCore → OrderIntent →
    Option GlobalRiskDecision × OrderManagerCore :=
  evaluateGlobalRiskWith .exact

def evaluatePortfolioRiskWith (arithmetic : Arithmetic) (core : OrderManagerCore)
    (intent : OrderIntent) (snapshot : PortfolioRiskSnapshot) :
    Option PortfolioRiskDecision × OrderManagerCore :=
  let decision :=
    PortfolioRiskGate.evaluateWith arithmetic core.portfolioRiskGate intent snapshot
  if decision.allow then (none, core)
  else (some decision, { core with portfolioRiskRejectCount := core.portfolioRiskRejectCount + 1 })

def evaluatePortfolioRisk : OrderManagerCore → OrderIntent → PortfolioRiskSnapshot →
    Option PortfolioRiskDecision × OrderManagerCore :=
  evaluatePortfolioRiskWith .exact

/-- The update both gates answer a refused intent with. -/
def makeRiskRejectUpdate (intent : OrderIntent) (reasonCode reasonMessage : String)
    (now : ℕ) : OrderStateUpdate where
  exchange := intent.exchange
  status := .rejected
  clientOrderId := intent.clientOrderId
  exchangeOrderId := none
  marketTicker := intent.marketTicker
  recvTsNs := now
  data := .reject {
    clientOrderId := intent.clientOrderId
    exchangeOrderId := none
    reasonCode := reasonCode
    reasonMessage := reasonMessage }

def makeGlobalRiskRejectUpdate (intent : OrderIntent) (decision : GlobalRiskDecision)
    (now : ℕ) : OrderStateUpdate :=
  makeRiskRejectUpdate intent (GlobalRiskGate.rejectCodeName decision.code)
    decision.reasonMessage now

def makePortfolioRiskRejectUpdate (intent : OrderIntent) (decision : PortfolioRiskDecision)
    (now : ℕ) : OrderStateUpdate :=
  makeRiskRejectUpdate intent (PortfolioRiskGate.rejectCodeName decision.code)
    decision.reasonMessage now

/-! ## Updates -/

/-- The tracked order an update is about: by client order id first, then by exchange order id. -/
def matchOrder (core : OrderManagerCore) (update : OrderStateUpdate) :
    Option (ClientOrderId × InFlightOrder) :=
  match core.inFlightOrders.lookup update.clientOrderId with
  | some order => some (update.clientOrderId, order)
  | none =>
    match update.exchangeOrderId with
    | none => none
    | some exchangeId =>
      match core.exchangeToClient.lookup exchangeId with
      | none => none
      | some clientOrderId =>
        match core.inFlightOrders.lookup clientOrderId with
        | none => none
        | some order => some (clientOrderId, order)

/-- A fill that carries no side takes the side of the order it fills. -/
def enrichFill (order : InFlightOrder) (fill : OrderFill) : OrderFill :=
  if fill.side = .unknown ∧ order.side ≠ .unknown then { fill with side := order.side } else fill

/-- What a fill does to the order. A final fill sets the filled quantity to the requested one, a
partial one raises it to the quantity of the fill. -/
def fillOrder (order : InFlightOrder) (next : InFlightStatus) (fill : OrderFill) :
    InFlightOrder :=
  { order with
    side := if order.side = .unknown ∧ fill.side ≠ .unknown then fill.side else order.side
    filledQtyLots :=
      if next = .filled ∧ order.requestedQtyLots > 0 then order.requestedQtyLots
      else if fill.fillQtyLots > order.filledQtyLots then fill.fillQtyLots
      else order.filledQtyLots }

/-- The part of a transition that every update has. -/
def touchOrder (order : InFlightOrder) (next : InFlightStatus) (now : ℕ)
    (update : OrderStateUpdate) : InFlightOrder :=
  { order with
    status := next
    lastUpdateTsNs := if update.recvTsNs ≠ 0 then update.recvTsNs else now
    marketTicker := if update.marketTicker ≠ "" then update.marketTicker else order.marketTicker
    exchangeOrderId :=
      match update.exchangeOrderId with
      | some id => if id ≠ "" then some id else order.exchangeOrderId
      | none => order.exchangeOrderId }

/-- The update handed on to the event sink. -/
def enrichUpdate (order : InFlightOrder) (update : OrderStateUpdate) : OrderStateUpdate :=
  match update.data with
  | .fill fill => { update with data := .fill (enrichFill order fill) }
  | _ => update

/-- The order after a transition. -/
def transitionOrder (order : InFlightOrder) (next : InFlightStatus) (now : ℕ)
    (update : OrderStateUpdate) : InFlightOrder :=
  match update.data with
  | .fill fill => fillOrder (touchOrder order next now update) next (enrichFill order fill)
  | _ => touchOrder order next now update

/-- The exchange id map after a transition of the order with this client order id. -/
def recordExchangeId (core : OrderManagerCore) (update : OrderStateUpdate)
    (clientOrderId : ClientOrderId) : UnorderedMap ExchangeOrderId ClientOrderId :=
  match update.exchangeOrderId with
  | some id => if id ≠ "" then core.exchangeToClient.insert id clientOrderId
    else core.exchangeToClient
  | none => core.exchangeToClient

/-- The state after an accepted transition of the order under `key`. -/
def applyTransition (core : OrderManagerCore) (now : ℕ) (update : OrderStateUpdate)
    (next : InFlightStatus) (key : ClientOrderId) (order : InFlightOrder) : OrderManagerCore :=
  { core with
    inFlightOrders := core.inFlightOrders.insert key (transitionOrder order next now update)
    exchangeToClient := core.recordExchangeId update order.clientOrderId
    transitionAppliedCount := core.transitionAppliedCount + 1 }

def applyUpdateTransition (core : OrderManagerCore) (now : ℕ)
    (update : OrderStateUpdate) : Except String OrderStateUpdate × OrderManagerCore :=
  match toInFlightStatus update.status with
  | none =>
    (.error "Unsupported OMS transition status",
      { core with transitionRejectCount := core.transitionRejectCount + 1 })
  | some next =>
    match core.matchOrder update with
    | none =>
      (.error "Order update does not match an in-flight order",
        { core with unknownOrderUpdateCount := core.unknownOrderUpdateCount + 1 })
    | some (key, order) =>
      if canTransition order.status next then
        (.ok (enrichUpdate order update), core.applyTransition now update next key order)
      else
        (.error "Rejected OMS transition for in-flight order",
          { core with transitionRejectCount := core.transitionRejectCount + 1 })

/-! ## What a status change may be -/

theorem canTransition_of_terminal {current next : InFlightStatus}
    (hterminal : isTerminalState current = true) (h : canTransition current next = true) :
    next = current := by
  cases current <;> cases hterminal <;> cases next <;> first | rfl | cases h

theorem canTransition_rejected {current : InFlightStatus}
    (h : isTerminalState current = false) : canTransition current .rejected = true := by
  cases current <;> first | rfl | exact absurd h (by decide)

theorem toInFlightStatus_ne_pending {status : OmsOrderStatus} {next : InFlightStatus}
    (h : toInFlightStatus status = some next) : next ≠ .pending := by
  rintro rfl
  cases status <;> exact absurd h (by decide)

/-! ## What a submission may do -/

/-- A target that is found is a live order under the resolved id. -/
theorem findTarget_ok {core : OrderManagerCore} {intent : OrderIntent} {id : ClientOrderId}
    {target : InFlightOrder} (h : core.findTarget intent = .ok (id, target)) :
    core.resolveTarget intent = .ok id ∧ core.inFlightOrders.lookup id = some target ∧
      isTerminalState target.status = false := by
  rw [findTarget] at h
  cases hresolve : core.resolveTarget intent with
  | error message => rw [hresolve] at h; cases h
  | ok resolvedTargetId =>
    rw [hresolve] at h
    dsimp only [bind, Except.bind] at h
    split at h
    · exact absurd h (by simp)
    rename_i order horder
    split at h
    · exact absurd h (by simp)
    rename_i hlive
    obtain ⟨rfl, rfl⟩ := Prod.mk.inj (Except.ok.inj h)
    exact ⟨rfl, horder, Bool.eq_false_of_not_eq_true hlive⟩

/-- The fields of the order a replace tracks. -/
theorem replaceOrder_ok {core : OrderManagerCore} {requestId : ℕ}
    {intent : OrderIntent} {id : ClientOrderId} {target order : InFlightOrder}
    (h : core.replaceOrder requestId intent id target = .ok order) :
    intent.clientOrderId ∉ core.inFlightOrders ∧ order = {
      requestId := requestId
      lastAction := intent.action
      status := .pending
      clientOrderId := intent.clientOrderId
      replaceTargetClientOrderId := some id
      marketTicker := if intent.marketTicker ≠ "" then intent.marketTicker else target.marketTicker
      side := if intent.side ≠ .unknown then intent.side else target.side
      requestedQtyLots := if intent.qtyLots > 0 then intent.qtyLots else target.requestedQtyLots
      createdTsNs := intent.intentTsNs } := by
  rw [replaceOrder] at h
  -- each of the three checks answers with an error, so all have passed
  split at h
  · exact absurd h (by simp)
  split at h
  · exact absurd h (by simp)
  rename_i hfresh
  split at h
  · exact absurd h (by simp)
  exact ⟨hfresh, (Except.ok.inj h).symm⟩

/-- A submission that tracks an order is a place or a replace under a fresh, non-empty id. -/
theorem admission_some {core : OrderManagerCore} {requestId : ℕ} {intent : OrderIntent}
    {order : InFlightOrder} (h : core.admission requestId intent = .ok (some order)) :
    intent.clientOrderId ≠ "" ∧
      ((intent.action = .place ∧ intent.clientOrderId ∉ core.inFlightOrders ∧
          order = placeOrder requestId intent) ∨
        (intent.action = .replace ∧ ∃ id target, core.findTarget intent = .ok (id, target) ∧
          core.replaceOrder requestId intent id target = .ok order)) := by
  rw [admission] at h
  split at h
  · exact absurd h (by simp)
  rename_i hid
  refine ⟨hid, ?_⟩
  split at h
  · rename_i haction
    split at h
    · exact absurd h (by simp)
    · rename_i hfresh
      exact .inl ⟨haction, hfresh, (Option.some.inj (Except.ok.inj h)).symm⟩
  · exact absurd h (by simp)
  · -- a cancel tracks nothing, whether or not its target is found
    cases ht : core.findTarget intent with
    | error message => rw [ht] at h; cases h
    | ok target => rw [ht] at h; cases h
  · rename_i haction
    cases ht : core.findTarget intent with
    | error message => rw [ht] at h; cases h
    | ok found =>
      obtain ⟨id, target⟩ := found
      rw [ht] at h
      dsimp only [bind, Except.bind] at h
      cases ho : core.replaceOrder requestId intent id target with
      | error message => rw [ho] at h; cases h
      | ok order' =>
        rw [ho] at h
        obtain rfl : order' = order := Option.some.inj (Except.ok.inj h)
        exact .inr ⟨haction, id, target, rfl, ho⟩

/-- A submission that is accepted and tracks nothing is a cancel with a live target. -/
theorem admission_none {core : OrderManagerCore} {requestId : ℕ} {intent : OrderIntent}
    (h : core.admission requestId intent = .ok none) :
    intent.action = .cancel ∧ ∃ id target, core.findTarget intent = .ok (id, target) := by
  rw [admission] at h
  split at h
  · exact absurd h (by simp)
  split at h
  · split at h
    · exact absurd h (by simp)
    · exact absurd h (by simp)
  · exact absurd h (by simp)
  · rename_i haction
    cases ht : core.findTarget intent with
    | error message => rw [ht] at h; cases h
    | ok found => exact ⟨haction, found.1, found.2, rfl⟩
  · cases ht : core.findTarget intent with
    | error message => rw [ht] at h; cases h
    | ok found =>
      rw [ht] at h
      dsimp only [bind, Except.bind] at h
      cases ho : core.replaceOrder requestId intent found.1 found.2 with
      | error message => rw [ho] at h; cases h
      | ok order => rw [ho] at h; cases h

/-- What every order carries when it is first tracked. -/
theorem admission_some_fields {core : OrderManagerCore} {requestId : ℕ}
    {intent : OrderIntent} {order : InFlightOrder}
    (h : core.admission requestId intent = .ok (some order)) :
    intent.Creates ∧ order.clientOrderId = intent.clientOrderId ∧
      core.inFlightOrders.lookup intent.clientOrderId = none ∧ order.requestId = requestId ∧
      order.status = .pending ∧ order.filledQtyLots = 0 := by
  obtain ⟨_, ⟨haction, hfresh, rfl⟩ | ⟨haction, id, target, _, ho⟩⟩ := admission_some h
  · exact ⟨.inl haction, rfl, AList.lookup_eq_none.mpr hfresh, rfl, rfl, rfl⟩
  · obtain ⟨hfresh, rfl⟩ := replaceOrder_ok ho
    exact ⟨.inr haction, rfl, AList.lookup_eq_none.mpr hfresh, rfl, rfl, rfl⟩

/-- A place or replace that is accepted is tracked. -/
theorem admission_of_creates {core : OrderManagerCore} {requestId : ℕ} {intent : OrderIntent}
    {tracked : Option InFlightOrder} (h : core.admission requestId intent = .ok tracked)
    (hcreates : intent.Creates) :
    ∃ order, tracked = some order ∧ order.clientOrderId = intent.clientOrderId := by
  cases tracked with
  | none =>
    obtain ⟨haction, _⟩ := admission_none h
    rcases hcreates with hplace | hreplace
    · cases haction.symm.trans hplace
    · cases haction.symm.trans hreplace
  | some order => exact ⟨order, rfl, (admission_some_fields h).2.1⟩

/-- An intent that states its quantity is tracked with that quantity. -/
theorem admission_some_requestedQtyLots {core : OrderManagerCore} {requestId : ℕ}
    {intent : OrderIntent} {order : InFlightOrder}
    (h : core.admission requestId intent = .ok (some order)) (hqty : 0 < intent.qtyLots) :
    order.requestedQtyLots = intent.qtyLots := by
  obtain ⟨_, ⟨_, _, rfl⟩ | ⟨_, id, target, _, ho⟩⟩ := admission_some h
  · rfl
  · obtain ⟨_, rfl⟩ := replaceOrder_ok ho
    exact if_pos hqty

/-- An intent that names its market is tracked under that market. -/
theorem admission_some_marketTicker {core : OrderManagerCore} {requestId : ℕ}
    {intent : OrderIntent} {order : InFlightOrder}
    (h : core.admission requestId intent = .ok (some order))
    (hmarket : intent.action = .replace → intent.marketTicker ≠ "") :
    order.marketTicker = intent.marketTicker := by
  obtain ⟨_, ⟨_, _, rfl⟩ | ⟨hreplace, id, target, _, ho⟩⟩ := admission_some h
  · rfl
  · obtain ⟨_, rfl⟩ := replaceOrder_ok ho
    exact if_pos (hmarket hreplace)

/-- **A submission, in full.** It is refused with one more policy reject, it is a cancel that
changes nothing, or it tracks one new order. -/
theorem validateAndTrackSubmission_cases (core : OrderManagerCore) (requestId : ℕ)
    (intent : OrderIntent) :
    (∃ message, core.validateAndTrackSubmission requestId intent =
      (.error message, { core with policyRejectCount := core.policyRejectCount + 1 })) ∨
    (core.admission requestId intent = .ok none ∧
      core.validateAndTrackSubmission requestId intent = (.ok (), core)) ∨
    (∃ order, core.admission requestId intent = .ok (some order) ∧
      core.validateAndTrackSubmission requestId intent = (.ok (), core.track order)) := by
  rw [validateAndTrackSubmission]
  cases h : core.admission requestId intent with
  | error message => exact .inl ⟨message, rfl⟩
  | ok tracked =>
    cases tracked with
    | none => exact .inr (.inl ⟨rfl, rfl⟩)
    | some order => exact .inr (.inr ⟨order, rfl, rfl⟩)

theorem lookup_of_track {core : OrderManagerCore} {order order' : InFlightOrder}
    {id : ClientOrderId} (h : (core.track order).inFlightOrders.lookup id = some order') :
    (id = order.clientOrderId ∧ order' = order) ∨ core.inFlightOrders.lookup id = some order' := by
  by_cases hkey : id = order.clientOrderId
  · rw [hkey] at h
    have hself := (AList.lookup_insert core.inFlightOrders).symm.trans h
    exact .inl ⟨hkey, (Option.some.inj hself).symm⟩
  · exact .inr ((AList.lookup_insert_ne hkey).symm.trans h)

/-- What is tracked after a submission was tracked before, or is the order it creates. -/
theorem lookup_of_tracked {core : OrderManagerCore} {tracked : Option InFlightOrder}
    {id : ClientOrderId} {order : InFlightOrder}
    (h : (tracked.elim core core.track).inFlightOrders.lookup id = some order) :
    core.inFlightOrders.lookup id = some order ∨
      tracked = some order ∧ id = order.clientOrderId := by
  cases tracked with
  | none => exact .inl h
  | some new =>
    obtain ⟨rfl, rfl⟩ | hold := lookup_of_track h
    · exact .inr ⟨rfl, rfl⟩
    · exact .inl hold

/-! ## What an update may do -/

theorem matchOrder_lookup {core : OrderManagerCore} {update : OrderStateUpdate}
    {key : ClientOrderId} {order : InFlightOrder}
    (h : core.matchOrder update = some (key, order)) :
    core.inFlightOrders.lookup key = some order := by
  rw [matchOrder] at h
  split at h
  · rename_i order' hlookup
    obtain ⟨rfl, rfl⟩ := Prod.mk.inj (Option.some.inj h)
    exact hlookup
  -- the client order id is unknown: the exchange order id leads to another one
  split at h
  · exact absurd h (by simp)
  split at h
  · exact absurd h (by simp)
  split at h
  · exact absurd h (by simp)
  · rename_i order' hlookup
    obtain ⟨rfl, rfl⟩ := Prod.mk.inj (Option.some.inj h)
    exact hlookup

theorem matchOrder_of_lookup {core : OrderManagerCore} {update : OrderStateUpdate}
    {order : InFlightOrder} (h : core.inFlightOrders.lookup update.clientOrderId = some order) :
    core.matchOrder update = some (update.clientOrderId, order) := by
  rw [matchOrder, h]

/-- An update without exchange order id can only be matched by client order id. -/
theorem matchOrder_key {core : OrderManagerCore} {update : OrderStateUpdate} {key : ClientOrderId}
    {order : InFlightOrder} (hid : update.exchangeOrderId = none)
    (h : core.matchOrder update = some (key, order)) : key = update.clientOrderId := by
  rw [matchOrder, hid] at h
  split at h
  · exact (Prod.mk.inj (Option.some.inj h)).1.symm
  · exact absurd h (by simp)

/-- The two states agree on everything but counters. -/
structure SameOrders (core core' : OrderManagerCore) : Prop where
  globalRiskGate : core'.globalRiskGate = core.globalRiskGate
  portfolioRiskGate : core'.portfolioRiskGate = core.portfolioRiskGate
  inFlightOrders : core'.inFlightOrders = core.inFlightOrders
  exchangeToClient : core'.exchangeToClient = core.exchangeToClient

theorem SameOrders.refl (core : OrderManagerCore) : core.SameOrders core := ⟨rfl, rfl, rfl, rfl⟩

theorem SameOrders.trans {core core' core'' : OrderManagerCore} (h : core.SameOrders core')
    (h' : core'.SameOrders core'') : core.SameOrders core'' :=
  ⟨h'.globalRiskGate.trans h.globalRiskGate, h'.portfolioRiskGate.trans h.portfolioRiskGate,
    h'.inFlightOrders.trans h.inFlightOrders, h'.exchangeToClient.trans h.exchangeToClient⟩

/-- Counters do not matter to the search for an order. -/
theorem SameOrders.matchOrder {core core' : OrderManagerCore} (h : core.SameOrders core')
    (update : OrderStateUpdate) : core'.matchOrder update = core.matchOrder update := by
  simp only [OrderManagerCore.matchOrder, h.inFlightOrders, h.exchangeToClient]

theorem SameOrders.applyTransition {core core' : OrderManagerCore} (h : core.SameOrders core')
    (now : ℕ) (update : OrderStateUpdate) (next : InFlightStatus) (key : ClientOrderId)
    (order : InFlightOrder) :
    (core.applyTransition now update next key order).SameOrders
      (core'.applyTransition now update next key order) := by
  refine ⟨h.globalRiskGate, h.portfolioRiskGate, ?_, ?_⟩
  · simp only [OrderManagerCore.applyTransition, h.inFlightOrders]
  · simp only [OrderManagerCore.applyTransition, OrderManagerCore.recordExchangeId,
      h.exchangeToClient]

/-- **An update, in full.** It is refused and moves one counter, or the order it matches takes the
new status. -/
theorem applyUpdateTransition_cases (core : OrderManagerCore) (now : ℕ)
    (update : OrderStateUpdate) :
    (∃ message core', core.applyUpdateTransition now update = (.error message, core') ∧
      core.SameOrders core' ∧
      ∀ next key order, toInFlightStatus update.status = some next →
        core.matchOrder update = some (key, order) → canTransition order.status next = false) ∨
    (∃ next key order, toInFlightStatus update.status = some next ∧
      core.matchOrder update = some (key, order) ∧ canTransition order.status next = true ∧
      core.applyUpdateTransition now update =
        (.ok (enrichUpdate order update), core.applyTransition now update next key order)) := by
  rw [applyUpdateTransition]
  cases hstatus : toInFlightStatus update.status with
  | none => exact .inl ⟨_, _, rfl, ⟨rfl, rfl, rfl, rfl⟩, fun _ _ _ h ↦ absurd h (by simp)⟩
  | some next =>
    cases hmatch : core.matchOrder update with
    | none => exact .inl ⟨_, _, rfl, ⟨rfl, rfl, rfl, rfl⟩, fun _ _ _ _ h ↦ absurd h (by simp)⟩
    | some found =>
      obtain ⟨key, order⟩ := found
      cases hcan : canTransition order.status next with
      | true => exact .inr ⟨next, key, order, rfl, rfl, hcan, by simp only [hcan, if_true]⟩
      | false =>
        refine .inl ⟨"Rejected OMS transition for in-flight order",
          { core with transitionRejectCount := core.transitionRejectCount + 1 },
          by simp [hcan], ⟨rfl, rfl, rfl, rfl⟩, ?_⟩
        rintro next' key' order' hnext hfound
        obtain rfl := Option.some.inj hnext
        obtain ⟨rfl, rfl⟩ := Prod.mk.inj (Option.some.inj hfound)
        exact hcan

/-- An update that matches an order which may take its status is applied. -/
theorem applyUpdateTransition_of_match {core : OrderManagerCore} {update : OrderStateUpdate}
    {next : InFlightStatus} {key : ClientOrderId} {order : InFlightOrder} (now : ℕ)
    (hstatus : toInFlightStatus update.status = some next)
    (hmatch : core.matchOrder update = some (key, order))
    (hcan : canTransition order.status next = true) :
    core.applyUpdateTransition now update =
      (.ok (enrichUpdate order update), core.applyTransition now update next key order) := by
  simp only [applyUpdateTransition, hstatus, hmatch, hcan, if_true]

theorem lookup_applyTransition (core : OrderManagerCore) (now : ℕ) (update : OrderStateUpdate)
    (next : InFlightStatus) (key : ClientOrderId) (order : InFlightOrder) (id : ClientOrderId) :
    (core.applyTransition now update next key order).inFlightOrders.lookup id =
      if id = key then some (transitionOrder order next now update)
      else core.inFlightOrders.lookup id := by
  split
  · rename_i hid
    rw [hid]
    exact AList.lookup_insert _
  · rename_i hid
    exact AList.lookup_insert_ne hid

/-- A fill that carries its side is handed on as it is. -/
theorem enrichUpdate_of_side {update : OrderStateUpdate} {fill : OrderFill} (order : InFlightOrder)
    (hdata : update.data = .fill fill) (hside : fill.side ≠ .unknown) :
    enrichUpdate order update = update := by
  have hfill : enrichFill order fill = fill := if_neg fun h ↦ hside h.1
  rw [enrichUpdate, hdata]
  dsimp only
  rw [hfill, ← hdata]

/-- An update that is no fill is handed on as it is. -/
theorem enrichUpdate_of_not_fill {update : OrderStateUpdate} (order : InFlightOrder)
    (hdata : ∀ fill, update.data ≠ .fill fill) : enrichUpdate order update = update := by
  rw [enrichUpdate]
  split
  · rename_i fill hfill
    exact absurd hfill (hdata fill)
  · rfl

/-- Enriching touches the side only, and makes it known if it can. -/
theorem enrichFill_known {order : InFlightOrder} {fill : OrderFill}
    (hside : fill.side ≠ .unknown ∨ order.side ≠ .unknown) :
    (enrichFill order fill).fillQtyLots = fill.fillQtyLots ∧
      (enrichFill order fill).marketTicker = fill.marketTicker ∧
      (enrichFill order fill).side ≠ .unknown := by
  rw [enrichFill]
  split
  · rename_i hunknown
    exact ⟨rfl, rfl, hunknown.2⟩
  · rename_i hknown
    refine ⟨rfl, rfl, fun hunknown ↦ hknown ⟨hunknown, ?_⟩⟩
    exact hside.resolve_left fun hne ↦ hne hunknown

/-! ### The fields of an order across a transition -/

section Transition

variable (order : InFlightOrder) (next : InFlightStatus) (now : ℕ)
  (update : OrderStateUpdate)

@[simp] theorem transitionOrder_status : (transitionOrder order next now update).status = next := by
  rw [transitionOrder]; split <;> rfl

@[simp] theorem transitionOrder_requestId :
    (transitionOrder order next now update).requestId = order.requestId := by
  rw [transitionOrder]; split <;> rfl

@[simp] theorem transitionOrder_clientOrderId :
    (transitionOrder order next now update).clientOrderId = order.clientOrderId := by
  rw [transitionOrder]; split <;> rfl

@[simp] theorem transitionOrder_requestedQtyLots :
    (transitionOrder order next now update).requestedQtyLots = order.requestedQtyLots := by
  rw [transitionOrder]; split <;> rfl

theorem transitionOrder_marketTicker :
    (transitionOrder order next now update).marketTicker =
      if update.marketTicker ≠ "" then update.marketTicker else order.marketTicker := by
  rw [transitionOrder]; split <;> rfl

theorem transitionOrder_exchangeOrderId :
    (transitionOrder order next now update).exchangeOrderId =
      match update.exchangeOrderId with
      | some id => if id ≠ "" then some id else order.exchangeOrderId
      | none => order.exchangeOrderId := by
  rw [transitionOrder]; split <;> rfl

theorem transitionOrder_filledQtyLots_of_fill {fill : OrderFill} (h : update.data = .fill fill) :
    (transitionOrder order next now update).filledQtyLots =
      if next = .filled ∧ order.requestedQtyLots > 0 then order.requestedQtyLots
      else if fill.fillQtyLots > order.filledQtyLots then fill.fillQtyLots
      else order.filledQtyLots := by
  have hqty : (enrichFill order fill).fillQtyLots = fill.fillQtyLots := by
    rw [enrichFill]; split <;> rfl
  simp only [transitionOrder, h, fillOrder, hqty]
  rfl

theorem transitionOrder_filledQtyLots_of_not_fill (h : ∀ fill, update.data ≠ .fill fill) :
    (transitionOrder order next now update).filledQtyLots = order.filledQtyLots := by
  rw [transitionOrder]
  split
  · rename_i fill hdata
    exact absurd hdata (h fill)
  · rfl

end Transition

/-! ## Outstanding quantity -/

theorem outstandingQty_nonneg (order : InFlightOrder) : 0 ≤ outstandingQty order := by
  rw [outstandingQty]
  split_ifs <;> omega

theorem outstandingQty_le_requested {order : InFlightOrder} (h : 0 ≤ order.requestedQtyLots) :
    outstandingQty order ≤ order.requestedQtyLots := by
  rw [outstandingQty]
  split_ifs <;> omega

/-- A transition never gives quantity back, although the filled quantity itself may go down. -/
theorem outstandingQty_transitionOrder_le (order : InFlightOrder) (next : InFlightStatus)
    (now : ℕ) (update : OrderStateUpdate) :
    outstandingQty (transitionOrder order next now update) ≤ outstandingQty order := by
  rw [outstandingQty, outstandingQty, transitionOrder_requestedQtyLots]
  by_cases hdata : ∃ fill, update.data = .fill fill
  · obtain ⟨fill, hfill⟩ := hdata
    rw [transitionOrder_filledQtyLots_of_fill order next now update hfill]
    split_ifs <;> omega
  · rw [transitionOrder_filledQtyLots_of_not_fill order next now update
      fun fill hfill ↦ hdata ⟨fill, hfill⟩]

/-! ## The snapshot as a sum

The loop of `build_risk_snapshot` visits every live order but one; what it adds up are the four
sums below. -/

/-- The live orders other than the one under `skip`. -/
def Counted (skip : String) (clientOrderId : ClientOrderId) (order : InFlightOrder) : Prop :=
  ¬(skip ≠ "" ∧ clientOrderId = skip) ∧ isTerminalState order.status = false

instance (skip : String) (id : ClientOrderId) (order : InFlightOrder) :
    Decidable (Counted skip id order) := inferInstanceAs (Decidable (_ ∧ _))

/-- One entry's share of the snapshot. -/
def share (marketTicker skip : String) (id : ClientOrderId) (order : InFlightOrder) :
    GlobalRiskSnapshot where
  activeOrdersGlobal := if Counted skip id order then 1 else 0
  outstandingQtyGlobal := if Counted skip id order then outstandingQty order else 0
  activeOrdersMarket :=
    if Counted skip id order ∧ marketTicker ≠ "" ∧ order.marketTicker = marketTicker then 1 else 0
  outstandingQtyMarket :=
    if Counted skip id order ∧ marketTicker ≠ "" ∧ order.marketTicker = marketTicker then
      outstandingQty order else 0

theorem addToSnapshot_eq (marketTicker skip : String) (snapshot : GlobalRiskSnapshot)
    (id : ClientOrderId) (order : InFlightOrder) :
    addToSnapshot marketTicker skip snapshot id order =
      { activeOrdersGlobal := snapshot.activeOrdersGlobal
          + (share marketTicker skip id order).activeOrdersGlobal
        outstandingQtyGlobal := snapshot.outstandingQtyGlobal
          + (share marketTicker skip id order).outstandingQtyGlobal
        activeOrdersMarket := snapshot.activeOrdersMarket
          + (share marketTicker skip id order).activeOrdersMarket
        outstandingQtyMarket := snapshot.outstandingQtyMarket
          + (share marketTicker skip id order).outstandingQtyMarket } := by
  by_cases hskip : skip ≠ "" ∧ id = skip
  · simp [addToSnapshot, addToSnapshotWith, share, Counted, hskip]
  · by_cases hterminal : isTerminalState order.status = true
    · simp [addToSnapshot, addToSnapshotWith, share, Counted, hskip, hterminal]
    · by_cases hmarket : marketTicker ≠ "" ∧ order.marketTicker = marketTicker
      · simp [addToSnapshot, addToSnapshotWith, share, Counted, hskip, hterminal, hmarket]
      · simp [addToSnapshot, addToSnapshotWith, share, Counted, hskip, hterminal, hmarket]

/-- The loop passes over what is not counted. -/
theorem addToSnapshot_of_not_counted {marketTicker skip : String} {snapshot : GlobalRiskSnapshot}
    {id : ClientOrderId} {order : InFlightOrder} (h : ¬Counted skip id order) :
    addToSnapshot marketTicker skip snapshot id order = snapshot := by
  rw [addToSnapshot, addToSnapshotWith]
  split
  · rfl
  · rename_i hskip
    split
    · rfl
    · rename_i hterminal
      exact absurd ⟨hskip, Bool.eq_false_of_not_eq_true hterminal⟩ h

theorem foldl_addToSnapshot (marketTicker skip : String)
    (entries : List (Sigma fun _ : ClientOrderId ↦ InFlightOrder)) :
    ∀ snapshot : GlobalRiskSnapshot,
      entries.foldl (fun acc e ↦ addToSnapshot marketTicker skip acc e.1 e.2) snapshot =
        { activeOrdersGlobal := snapshot.activeOrdersGlobal
            + (entries.map fun e ↦ (share marketTicker skip e.1 e.2).activeOrdersGlobal).sum
          outstandingQtyGlobal := snapshot.outstandingQtyGlobal
            + (entries.map fun e ↦ (share marketTicker skip e.1 e.2).outstandingQtyGlobal).sum
          activeOrdersMarket := snapshot.activeOrdersMarket
            + (entries.map fun e ↦ (share marketTicker skip e.1 e.2).activeOrdersMarket).sum
          outstandingQtyMarket := snapshot.outstandingQtyMarket
            + (entries.map fun e ↦
                (share marketTicker skip e.1 e.2).outstandingQtyMarket).sum } := by
  induction entries with
  | nil => intro snapshot; simp
  | cons e entries ih =>
    intro snapshot
    rw [List.foldl_cons, ih, addToSnapshot_eq]
    simp only [List.map_cons, List.sum_cons, add_assoc]

theorem buildRiskSnapshot_eq (core : OrderManagerCore) (marketTicker skip : String) :
    core.buildRiskSnapshot marketTicker skip =
      { activeOrdersGlobal := core.inFlightOrders.sumOf fun id order ↦
          (share marketTicker skip id order).activeOrdersGlobal
        outstandingQtyGlobal := core.inFlightOrders.sumOf fun id order ↦
          (share marketTicker skip id order).outstandingQtyGlobal
        activeOrdersMarket := core.inFlightOrders.sumOf fun id order ↦
          (share marketTicker skip id order).activeOrdersMarket
        outstandingQtyMarket := core.inFlightOrders.sumOf fun id order ↦
          (share marketTicker skip id order).outstandingQtyMarket } := by
  have hloop := foldl_addToSnapshot marketTicker skip core.inFlightOrders.entries {}
  simp only [zero_add] at hloop
  exact hloop

/-! ### Over 64 bits -/

theorem addToSnapshotWith_int64 (marketTicker skip : String) (snapshot : GlobalRiskSnapshot)
    (id : ClientOrderId) (order : InFlightOrder) :
    addToSnapshotWith .int64 marketTicker skip snapshot.wrapped id order =
      (addToSnapshot marketTicker skip snapshot id order).wrapped := by
  rw [addToSnapshot, addToSnapshotWith, addToSnapshotWith]
  split
  · rfl
  split
  · rfl
  · dsimp only [GlobalRiskSnapshot.wrapped]
    rw [Arithmetic.int64_add_wrapInt64, Arithmetic.int64_add_wrapInt64]
    split <;> rfl

theorem buildRiskSnapshotWith_int64 (core : OrderManagerCore) (marketTicker skip : String) :
    core.buildRiskSnapshotWith .int64 marketTicker skip =
      (core.buildRiskSnapshot marketTicker skip).wrapped := by
  rw [buildRiskSnapshot, buildRiskSnapshotWith, buildRiskSnapshotWith]
  have hempty : GlobalRiskSnapshot.wrapped {} = {} := rfl
  rw [← hempty]
  refine List.foldl_hom GlobalRiskSnapshot.wrapped fun snapshot entry ↦ ?_
  exact addToSnapshotWith_int64 marketTicker skip snapshot entry.1 entry.2

/-- Where the sums fit, the global gate of the source decides as the one over the integers. -/
theorem evaluateGlobalRiskWith_int64 {core : OrderManagerCore} {intent : OrderIntent}
    (h : GlobalRiskGate.SumsFit core.globalRiskGate intent
      (core.buildRiskSnapshot intent.marketTicker intent.clientOrderId)) :
    core.evaluateGlobalRiskWith .int64 intent = core.evaluateGlobalRisk intent := by
  rw [evaluateGlobalRisk, evaluateGlobalRiskWith, evaluateGlobalRiskWith]
  rw [buildRiskSnapshotWith_int64, GlobalRiskGate.evaluateWith_int64 h]
  rfl

/-- So does the portfolio gate. -/
theorem evaluatePortfolioRiskWith_int64 {core : OrderManagerCore} {intent : OrderIntent}
    {snapshot : PortfolioRiskSnapshot} (h : PortfolioRiskGate.SumsFit intent snapshot) :
    core.evaluatePortfolioRiskWith .int64 intent snapshot =
      core.evaluatePortfolioRisk intent snapshot := by
  rw [evaluatePortfolioRisk, evaluatePortfolioRiskWith, evaluatePortfolioRiskWith]
  rw [PortfolioRiskGate.evaluateWith_int64 h]
  rfl

end OrderManagerCore

end TradingEngine
