import Mathlib.Algebra.Order.Group.Nat
import Mathlib.Data.Int.ConditionallyCompleteOrder
import Mathlib.Order.ConditionallyCompleteLattice.Indexed
import TradingEngine.Apps.Trader
import TradingEngine.Oms.RequestIds

/-!
# The caps of the global gate over whole sessions

The gate is asked once per request, when the worker takes it from the batch. It sees every live
order, sent or not, except the order of the request itself. What should follow is a bound on the
live orders whose request was sent, at every moment.

The argument does not depend on what is bounded. A `Quota` gives every order a weight, every request
a charge that covers the weight of its order, and a limit that the gate enforces. While the worker
holds a request that has passed the gate, the weights of the other sent orders leave room for its
charge (`QuotaKept.inHand`); nothing but the worker sends, and updates only take weight away, so the
room is still there when the request is sent. The four caps are four quotas.

* The two global caps hold in every run, that of the quantities with every adapter that encodes no
  request without a quantity, as that of Kalshi (`global_caps`).
* The two caps per market hold in every run in which a replace names its market
  (`market_caps`). A replace that leaves the market blank is tracked under the market of its target
  but evaluated under no market at all (`market_cap_exceeded`).
-/

namespace TradingEngine

open OrderManagerCore

section Adapters

variable {Text : Type*}

/-- No place or replace is encoded without a quantity. -/
def IExchangeOmsAdapter.RefusesUnsized (adapter : IExchangeOmsAdapter Text) : Prop :=
  ∀ {intent payload}, adapter.buildRequest intent = .ok payload → intent.Creates →
    0 < intent.qtyLots

/-- No place is encoded without a market. -/
def IExchangeOmsAdapter.RefusesUnnamed (adapter : IExchangeOmsAdapter Text) : Prop :=
  ∀ {intent payload}, adapter.buildRequest intent = .ok payload → intent.action = .place →
    intent.marketTicker ≠ ""

theorem Kalshi.refusesUnsized (json : JsonLibrary Text) : (omsAdapter json).RefusesUnsized :=
  qtyLots_pos_of_buildRequest

theorem Kalshi.refusesUnnamed (json : JsonLibrary Text) : (omsAdapter json).RefusesUnnamed := by
  intro intent payload hbuild hplace
  obtain ⟨_, hvalid, _⟩ := buildRequest_place hbuild hplace
  exact hvalid.marketTicker

end Adapters

namespace OrderManager

variable {Text τ σ : Type*} {config : OrderManagerConfig Text τ σ} {s s' : OrderManager Text τ σ}
  {input : OrderManagerInput} {transport : τ} {sink : σ}

/-! ## Sent orders and their weight -/

section Weight

variable {A : Type*} [AddCommMonoid A]

/-- The weight of an order that is live and was sent; any other order weighs nothing. -/
def sentWeight (weight : InFlightOrder → A) (s : OrderManager Text τ σ)
    (order : InFlightOrder) : A :=
  if s.Sent order.requestId ∧ isTerminalState order.status = false then weight order else 0

def sentTotal (weight : InFlightOrder → A) (s : OrderManager Text τ σ) : A :=
  s.core.inFlightOrders.sumOf fun _ order ↦ s.sentWeight weight order

/-- The total without the order under one id. -/
def sentTotalExcept (weight : InFlightOrder → A) (s : OrderManager Text τ σ)
    (key : ClientOrderId) : A :=
  s.core.inFlightOrders.sumOf fun id order ↦ if id = key then 0 else s.sentWeight weight order

theorem sentWeight_congr (weight : InFlightOrder → A) {order : InFlightOrder}
    (h : s'.Sent order.requestId ↔ s.Sent order.requestId) :
    s'.sentWeight weight order = s.sentWeight weight order := by
  simp only [sentWeight, h]

end Weight

/-! ## Steps that send nothing -/

/-- A step sends nothing, or it sends the intent in hand and leaves the core alone. -/
theorem sent_cases (h : Effect config s input s') :
    (∀ requestId, s'.Sent requestId → s.Sent requestId) ∨
    ∃ pending rest payload, s.worker = .cleared pending rest ∧
      config.adapter.buildRequest pending.intent = .ok payload ∧ s'.core = s.core ∧
      s'.log = .sent pending.requestId payload :: s.log := by
  have hcons : ∀ {entry : LogEntry Text}, entry.sentId = none →
      s'.log = entry :: s.log → ∀ requestId, s'.Sent requestId → s.Sent requestId := by
    intro entry hnone hlog requestId hsent
    rw [Sent, hlog, sentIn_cons, hnone] at hsent
    exact hsent.resolve_left (by simp)
  obtain hlog | ⟨_, _, _, _, hlog⟩ | ⟨pending, rest, payload, hworker, hbuild, hcore, _, hlog⟩ |
    ⟨_, _, _, _, hlog⟩ := log_cases h
  · exact .inl fun requestId hsent ↦ by rwa [Sent, hlog] at hsent
  · exact .inl (hcons rfl hlog)
  · exact .inr ⟨pending, rest, payload, hworker, hbuild, hcore, hlog⟩
  · exact .inl (hcons rfl hlog)

/-- The intent in hand was in hand before, or has just passed the global gate. -/
theorem inHand_of_effect (h : Effect config s input s') {pending : PendingIntent}
    (hhand : s'.worker.inHand = some pending) :
    (s'.log = s.log ∧ s'.core = s.core ∧ s.globalAllows pending = true) ∨
    s.worker.inHand = some pending ∧ ∀ requestId, s'.Sent requestId → s.Sent requestId := by
  have hnone : ∀ {worker : Worker}, worker.inHand = none → worker.inHand ≠ some pending := by
    intro worker hnone hsome
    cases hnone.symm.trans hsome
  cases h with
  | quiet hworker _ =>
    obtain rfl | ⟨_, hempty⟩ := hworker
    · exact .inr ⟨hhand, fun _ h ↦ h⟩
    · exact absurd hhand (hnone hempty)
  | gated _ hallow =>
    obtain rfl := Option.some.inj hhand
    exact .inl ⟨rfl, rfl, hallow⟩
  | cleared hworker _ =>
    obtain rfl := Option.some.inj hhand
    exact .inr ⟨by rw [hworker]; rfl, fun _ h ↦ h⟩
  | restarted _ hworker =>
    obtain rfl | rfl := hworker
    · exact absurd hhand (hnone rfl)
    · exact absurd hhand (hnone rfl)
  | accepted _ _ =>
    refine .inr ⟨hhand, fun requestId hsent ↦ ?_⟩
    exact (sentIn_cons.mp hsent).resolve_left (by simp [LogEntry.sentId, LogEntry.sentRequest])
  | began _ _ => exact .inr ⟨hhand, fun _ h ↦ h⟩
  | refused _ _ => exact .inr ⟨hhand, fun _ h ↦ h⟩
  | enqueued _ => exact .inr ⟨hhand, fun _ h ↦ h⟩
  | counted _ => exact .inr ⟨hhand, fun _ h ↦ h⟩
  | _ => exact absurd hhand (hnone rfl)

/-! ## Quotas -/

section Quota

variable {A : Type*} [AddCommMonoid A] [PartialOrder A]

/-- A bound on the sent orders that the global gate is to enforce, over the runs that meet `ok`. -/
structure Quota (config : OrderManagerConfig Text τ σ)
    (ok : OrderManager Text τ σ → OrderManagerInput → Prop) (s₀ : OrderManager Text τ σ) (A : Type*)
    [AddCommMonoid A] [PartialOrder A] where
  weight : InFlightOrder → A
  charge : OrderIntent → A
  limit : A
  weight_nonneg : ∀ order, 0 ≤ weight order
  charge_nonneg : ∀ intent, 0 ≤ charge intent
  limit_nonneg : 0 ≤ limit
  /-- A live order does not gain weight. -/
  weight_moved : ∀ {s s' input id order order'}, (machine config).ReachesVia ok s₀ s →
    ok s input → Effect config s input s' → s.core.inFlightOrders.lookup id = some order →
    s'.core.inFlightOrders.lookup id = some order' → order.Moved order' →
    isTerminalState order'.status = false → weight order' ≤ weight order
  /-- The gate makes room for the charge. -/
  gate : ∀ {s pending}, (machine config).ReachesVia ok s₀ s → s.globalAllows pending = true →
    pending.intent.Creates → s.sentTotal weight ≤ limit →
    s.sentTotalExcept weight pending.intent.clientOrderId + charge pending.intent ≤ limit
  /-- The charge of a request that is sent covers its order. -/
  charge_covers : ∀ {s pending rest payload id order}, (machine config).ReachesVia ok s₀ s →
    s.worker = .cleared pending rest → config.adapter.buildRequest pending.intent = .ok payload →
    s.core.inFlightOrders.lookup id = some order → order.requestId = pending.requestId →
    isTerminalState order.status = false → weight order ≤ charge pending.intent

variable {ok : OrderManager Text τ σ → OrderManagerInput → Prop} {s₀ : OrderManager Text τ σ}

/-- The bound, and the room that is kept for the request in hand. -/
structure QuotaKept (quota : Quota config ok s₀ A) (s : OrderManager Text τ σ) : Prop where
  total : s.sentTotal quota.weight ≤ quota.limit
  inHand : ∀ pending ∈ s.worker.inHand, pending.intent.Creates →
    s.sentTotalExcept quota.weight pending.intent.clientOrderId + quota.charge pending.intent
      ≤ quota.limit

theorem sentWeight_nonneg (quota : Quota config ok s₀ A) (s : OrderManager Text τ σ)
    (order : InFlightOrder) : 0 ≤ s.sentWeight quota.weight order := by
  rw [sentWeight]
  split
  · exact quota.weight_nonneg order
  · exact le_rfl

/-- A step that sends nothing adds no weight to any order, and a new order has none. -/
theorem sentWeight_le_of_effect (quota : Quota config ok s₀ A) (hwf : s.WellFormed)
    (hs : (machine config).ReachesVia ok s₀ s) (hok : ok s input)
    (h : Effect config s input s') (hnone : ∀ requestId, s'.Sent requestId → s.Sent requestId)
    {id : ClientOrderId} {order' : InFlightOrder}
    (hlookup : s'.core.inFlightOrders.lookup id = some order') :
    s'.sentWeight quota.weight order'
      ≤ (s.core.inFlightOrders.lookup id).elim 0 (s.sentWeight quota.weight) := by
  obtain ⟨order, horder, hmoved⟩ | ⟨thread, pending, _, hcall, _, hadmission, _⟩ :=
    orders_of_effect h hlookup
  · rw [horder, Option.elim_some, sentWeight]
    split
    · rename_i hcounted
      obtain ⟨hsent, hlive⟩ := hcounted
      have hcounted : s.Sent order.requestId ∧ isTerminalState order.status = false :=
        ⟨hmoved.evolves.requestId ▸ hnone _ hsent, hmoved.evolves.live hlive⟩
      rw [sentWeight, if_pos hcounted]
      exact quota.weight_moved hs hok h horder hlookup hmoved hlive
    · exact sentWeight_nonneg quota s order
  · -- the request of a new order is not mentioned anywhere yet
    have hunsent : ¬s'.Sent order'.requestId := by
      intro hsent
      rw [(admission_some_fields hadmission).2.2.2.1] at hsent
      exact hwf.fresh _ _ hcall (mentions_of_sent (hnone _ hsent))
    rw [sentWeight, if_neg fun hcounted ↦ hunsent hcounted.1]
    cases s.core.inFlightOrders.lookup id with
    | none => exact le_rfl
    | some order => exact sentWeight_nonneg quota s order

variable [IsOrderedAddMonoid A]

theorem sentTotal_le_of_unsent (quota : Quota config ok s₀ A) (hwf : s.WellFormed)
    (hs : (machine config).ReachesVia ok s₀ s) (hok : ok s input)
    (h : Effect config s input s') (hnone : ∀ requestId, s'.Sent requestId → s.Sent requestId) :
    s'.sentTotal quota.weight ≤ s.sentTotal quota.weight := by
  refine UnorderedMap.sumOf_le_of_dominated (fun _ ↦ sentWeight_nonneg quota s) _ _ ?_
  intro id order' hlookup
  exact sentWeight_le_of_effect quota hwf hs hok h hnone hlookup

theorem sentTotalExcept_le_of_unsent (quota : Quota config ok s₀ A) (hwf : s.WellFormed)
    (hs : (machine config).ReachesVia ok s₀ s) (hok : ok s input)
    (h : Effect config s input s') (hnone : ∀ requestId, s'.Sent requestId → s.Sent requestId)
    (key : ClientOrderId) :
    s'.sentTotalExcept quota.weight key ≤ s.sentTotalExcept quota.weight key := by
  refine UnorderedMap.sumOf_le_of_dominated (fun id order ↦ ?_) _ _ fun id order' hlookup ↦ ?_
  · split
    · exact le_rfl
    · exact sentWeight_nonneg quota s order
  · by_cases hid : id = key
    · rw [if_pos hid, hid]
      cases s.core.inFlightOrders.lookup key with
      | none => exact le_rfl
      | some order => exact (if_pos rfl).ge
    · simp only [if_neg hid]
      exact sentWeight_le_of_effect quota hwf hs hok h hnone hlookup

/-- Only the order of the request that is sent gains weight, and its charge covers that. -/
theorem sentTotal_le_of_sent (quota : Quota config ok s₀ A) (hwf : s.WellFormed)
    (hs : (machine config).ReachesVia ok s₀ s) (hkept : QuotaKept quota s)
    {pending : PendingIntent} {rest : List PendingIntent} {payload : Text}
    (hworker : s.worker = .cleared pending rest)
    (hbuild : config.adapter.buildRequest pending.intent = .ok payload) (hcore : s'.core = s.core)
    (hlog : s'.log = .sent pending.requestId payload :: s.log) :
    s'.sentTotal quota.weight ≤ quota.limit := by
  have hunsettled := unsettled_of_cleared hworker
  have hother : ∀ {order : InFlightOrder}, order.requestId ≠ pending.requestId →
      s'.sentWeight quota.weight order = s.sentWeight quota.weight order := by
    intro order hne
    refine sentWeight_congr quota.weight ?_
    rw [Sent, hlog, sentIn_cons]
    exact or_iff_right fun hid ↦ hne (Option.some.inj hid).symm
  rw [sentTotal, hcore]
  -- a cancel has no order of its own, and then nothing gains weight
  by_cases htracked : ∃ id order, s.core.inFlightOrders.lookup id = some order ∧
      order.requestId = pending.requestId
  · obtain ⟨id, order, horder, hid⟩ := htracked
    have has := hwf.tracked pending hunsettled id order horder hid
    have hroom := hkept.inHand pending (by rw [hworker]; rfl) has.creates
    refine le_trans ?_ ((add_comm _ _).trans_le hroom)
    refine UnorderedMap.sumOf_le_add (k := pending.intent.clientOrderId) (quota.charge_nonneg _)
      (fun order' horder' ↦ ?_) ?_
    · rw [← has.id_eq, horder] at horder'
      obtain rfl := Option.some.inj horder'
      rw [if_pos rfl, add_zero, sentWeight]
      split
      · rename_i hcounted
        exact quota.charge_covers hs hworker hbuild horder hid hcounted.2
      · exact quota.charge_nonneg _
    · intro id' order' hne horder'
      rw [if_neg hne]
      refine (hother fun hid' ↦ hne ?_).le
      exact (hwf.tracked pending hunsettled id' order' horder' hid').id_eq
  · refine le_trans (UnorderedMap.sumOf_le_sumOf fun id order horder ↦ ?_) hkept.total
    exact (hother fun hid ↦ htracked ⟨id, order, horder, hid⟩).le

theorem quotaKept_of_effect (quota : Quota config ok s₀ A) (hwf : s.WellFormed)
    (hs : (machine config).ReachesVia ok s₀ s) (hkept : QuotaKept quota s) (hok : ok s input)
    (h : Effect config s input s') : QuotaKept quota s' := by
  constructor
  · obtain hnone | ⟨pending, rest, payload, hworker, hbuild, hcore, hlog⟩ := sent_cases h
    · exact (sentTotal_le_of_unsent quota hwf hs hok h hnone).trans hkept.total
    · exact sentTotal_le_of_sent quota hwf hs hkept hworker hbuild hcore hlog
  · intro pending hhand hcreates
    obtain ⟨hlog, hcore, hallow⟩ | ⟨hhand, hnone⟩ := inHand_of_effect h hhand
    · -- the intent passes the gate in this step, with the orders as the gate has seen them
      have hsame : ∀ order, s'.sentWeight quota.weight order = s.sentWeight quota.weight order :=
        fun order ↦ sentWeight_congr quota.weight (by rw [Sent, hlog, ← Sent])
      rw [sentTotalExcept, hcore]
      simp only [hsame]
      exact quota.gate hs hallow hcreates hkept.total
    · -- it was in hand before, and the orders it shares the quota with have not grown
      have hroom := hkept.inHand pending hhand hcreates
      refine le_trans (add_le_add ?_ le_rfl) hroom
      exact sentTotalExcept_le_of_unsent quota hwf hs hok h hnone _

end Quota

/-- **A quota is kept in every run.** -/
theorem sentTotal_le_limit {A : Type*} [AddCommMonoid A] [PartialOrder A] [IsOrderedAddMonoid A]
    {ok : OrderManager Text τ σ → OrderManagerInput → Prop}
    (quota : Quota config ok (init config transport sink) A)
    (h : (machine config).ReachesVia ok (init config transport sink) s) :
    s.sentTotal quota.weight ≤ quota.limit := by
  have hkept : QuotaKept quota s := by
    refine h.invariant (P := QuotaKept quota) ⟨?_, fun pending hhand ↦ ?_⟩ ?_
    · exact (UnorderedMap.sumOf_empty _).trans_le quota.limit_nonneg
    · cases hhand
    · intro s input s' hs hkept hok hstep
      exact quotaKept_of_effect quota (wellFormed_of_reaches hs) hs hkept hok (effect_of_step hstep)
  exact hkept.total

/-! ## What the gate sees -/

/-- The gate counts every live order but one, so the sent ones among them are covered. -/
theorem sentTotalExcept_le_counted {A : Type*} [AddCommMonoid A] [PartialOrder A]
    [IsOrderedAddMonoid A] (weight : InFlightOrder → A) (hweight : ∀ order, 0 ≤ weight order)
    (s : OrderManager Text τ σ) (key : ClientOrderId) :
    s.sentTotalExcept weight key ≤
      s.core.inFlightOrders.sumOf
        fun id order ↦ if Counted key id order then weight order else 0 := by
  refine UnorderedMap.sumOf_le_sumOf fun id order _ ↦ ?_
  have hnonneg : 0 ≤ if Counted key id order then weight order else 0 := by
    split
    · exact hweight order
    · exact le_rfl
  by_cases hid : id = key
  · rw [if_pos hid]
    exact hnonneg
  · rw [if_neg hid, sentWeight]
    split
    · rename_i hcounted
      rw [if_pos ⟨fun hskip ↦ hid hskip.2, hcounted.2⟩]
    · exact hnonneg

theorem sentTotalExcept_le_sentTotal {A : Type*} [AddCommMonoid A] [PartialOrder A]
    [IsOrderedAddMonoid A] (weight : InFlightOrder → A) (hweight : ∀ order, 0 ≤ weight order)
    (s : OrderManager Text τ σ) (key : ClientOrderId) :
    s.sentTotalExcept weight key ≤ s.sentTotal weight := by
  refine UnorderedMap.sumOf_le_sumOf fun id order _ ↦ ?_
  split
  · rw [sentWeight]
    split
    · exact hweight order
    · exact le_rfl
  · exact le_rfl

/-- An order whose intent states a quantity has that quantity. -/
theorem outstandingQty_le_charge {pending : PendingIntent} {id : ClientOrderId}
    {order : InFlightOrder} (hpos : 0 < pending.intent.qtyLots) (has : TrackedAs pending id order) :
    outstandingQty order ≤ max pending.intent.qtyLots 0 := by
  have hqty := has.requestedQtyLots hpos
  have hle := outstandingQty_le_requested (by omega : 0 ≤ order.requestedQtyLots)
  exact (hle.trans hqty.le).trans (le_max_left _ _)

section GlobalCaps

variable {ok : OrderManager Text τ σ → OrderManagerInput → Prop}

/-- At most `max_active_orders_global` sent orders are live. -/
def activeOrdersQuota (hlimit : 0 < config.globalRisk.maxActiveOrdersGlobal) :
    Quota config ok (init config transport sink) ℕ where
  weight _ := 1
  charge _ := 1
  limit := config.globalRisk.maxActiveOrdersGlobal
  weight_nonneg _ := Nat.zero_le _
  charge_nonneg _ := Nat.zero_le _
  limit_nonneg := Nat.zero_le _
  weight_moved _ _ _ _ _ _ _ := le_rfl
  gate := by
    intro s pending hs hallow hcreates _
    rw [globalAllows, (riskGates_of_reaches hs).1] at hallow
    have hroom := (GlobalRiskGate.evaluate_allow hcreates hallow).1 hlimit
    rw [buildRiskSnapshot_eq] at hroom
    have hsent := sentTotalExcept_le_counted (fun _ ↦ 1) (fun _ ↦ Nat.zero_le _) s
      pending.intent.clientOrderId
    exact Nat.succ_le_of_lt (hsent.trans_lt hroom)
  charge_covers _ _ _ _ _ _ := le_rfl

/-- Their outstanding quantity adds up to at most `max_outstanding_qty_global`. -/
def outstandingQtyQuota (hsized : config.adapter.RefusesUnsized)
    (hlimit : 0 < config.globalRisk.maxOutstandingQtyGlobal) :
    Quota config ok (init config transport sink) ℤ where
  weight := outstandingQty
  charge intent := max intent.qtyLots 0
  limit := config.globalRisk.maxOutstandingQtyGlobal
  weight_nonneg := outstandingQty_nonneg
  charge_nonneg _ := le_max_right _ _
  limit_nonneg := hlimit.le
  weight_moved _ _ _ _ _ hmoved _ := hmoved.outstandingQty_le
  gate := by
    intro s pending hs hallow hcreates _
    rw [globalAllows, (riskGates_of_reaches hs).1] at hallow
    have hroom := (GlobalRiskGate.evaluate_allow hcreates hallow).2.2.1 hlimit
    rw [buildRiskSnapshot_eq] at hroom
    have hsent := sentTotalExcept_le_counted outstandingQty outstandingQty_nonneg s
      pending.intent.clientOrderId
    exact (add_le_add hsent le_rfl).trans hroom
  charge_covers := by
    intro s pending rest payload id order hs hworker hbuild horder hid _
    have has := (wellFormed_of_reaches hs).tracked pending (unsettled_of_cleared hworker) id order
      horder hid
    exact outstandingQty_le_charge (hsized hbuild has.creates) has

end GlobalCaps

/-- **The global caps hold.** With any adapter, transport, sink and provider, and any updates: in
every state of every run, the live orders whose request was sent are no more than the limit of the
gate, and where the adapter encodes no request without a quantity, their outstanding quantity, an
exact integer, is within its limit too. -/
theorem global_caps (h : (machine config).Reaches (init config transport sink) s) :
    (0 < config.globalRisk.maxActiveOrdersGlobal →
      s.sentTotal (fun _ ↦ 1) ≤ config.globalRisk.maxActiveOrdersGlobal) ∧
    (config.adapter.RefusesUnsized → 0 < config.globalRisk.maxOutstandingQtyGlobal →
      s.sentTotal outstandingQty ≤ config.globalRisk.maxOutstandingQtyGlobal) :=
  ⟨fun hlimit ↦ sentTotal_le_limit (activeOrdersQuota hlimit) h,
    fun hsized hlimit ↦ sentTotal_le_limit (outstandingQtyQuota hsized hlimit) h⟩

open Trader in
/-- One order of ten lots under limits of one order and ten lots. -/
theorem global_caps_place :
    let config := paperConfig JsonLibrary.trees
      { maxActiveOrdersGlobal := 1, maxOutstandingQtyGlobal := 10 } {}
    ∃ s, (machine config).Reaches (init config {} {}) s ∧ s.Sent 1 ∧
      s.sentTotal (fun _ ↦ 1) ≤ 1 ∧ s.sentTotal outstandingQty ≤ 10 := by
  intro config
  have hrun : ∃ s, (machine config).runVia (fun _ _ ↦ True) (init config {} {})
      ([.start] ++ submit 0 (placeIntent "c1" "KXBTC-YES" .buy 10 40) ++ drain 1) = some s ∧
      s.Sent 1 := ⟨_, rfl, by decide⟩
  obtain ⟨s, hrun, hsent⟩ := hrun
  have hreaches := Machine.reachesVia_of_runVia hrun
  have hcaps := global_caps hreaches
  exact ⟨s, hreaches, hsent, hcaps.1 (by decide), hcaps.2 (Kalshi.refusesUnsized _) (by decide)⟩

/-! ## Caps per market -/

/-- A replace names its market. -/
def NamesMarket (intent : OrderIntent) : Prop :=
  intent.action = .replace → intent.marketTicker ≠ ""

instance (intent : OrderIntent) : Decidable (NamesMarket intent) :=
  inferInstanceAs (Decidable (_ → _))

/-- A step that submits no replace with a blank market. -/
def SubmitsNamed (input : OrderManagerInput) : Prop :=
  ∀ intent ∈ input.submitted, NamesMarket intent

instance (input : OrderManagerInput) : Decidable (SubmitsNamed input) :=
  inferInstanceAs (Decidable (∀ intent ∈ input.submitted, _))

/-- An update that arrives repeats the market of the order it is about, or leaves it out. -/
def RepeatsMarket (config : OrderManagerConfig Text τ σ) (s : OrderManager Text τ σ)
    (input : OrderManagerInput) : Prop :=
  input.isWorker = true → s.worker = .pumping →
    ∀ payload ∈ (config.transport.recvText s.transport).1,
      ∀ update ∈ (config.adapter.parseUpdate payload).toOption,
        ∀ found ∈ s.core.matchOrder update,
          update.marketTicker = "" ∨ update.marketTicker = found.2.marketTicker

instance (config : OrderManagerConfig Text τ σ) (s : OrderManager Text τ σ)
    (input : OrderManagerInput) : Decidable (s.RepeatsMarket config input) :=
  inferInstanceAs (Decidable (_ → _ → ∀ payload ∈ (config.transport.recvText s.transport).1,
    ∀ update ∈ (config.adapter.parseUpdate payload).toOption,
      ∀ found ∈ s.core.matchOrder update, _))

/-- The runs in which the caps per market hold. -/
def MarketsKnown (config : OrderManagerConfig Text τ σ) (s : OrderManager Text τ σ)
    (input : OrderManagerInput) : Prop :=
  s.RepeatsMarket config input ∧ SubmitsNamed input

instance (config : OrderManagerConfig Text τ σ) (s : OrderManager Text τ σ)
    (input : OrderManagerInput) : Decidable (s.MarketsKnown config input) :=
  inferInstanceAs (Decidable (_ ∧ _))

/-- A live order keeps its market: an update that arrives does not change it, and the reject of a
gate ends the order. -/
theorem marketTicker_of_effect (hok : s.RepeatsMarket config input)
    (h : Effect config s input s') {id : ClientOrderId} {order order' : InFlightOrder}
    (horder : s.core.inFlightOrders.lookup id = some order)
    (horder' : s'.core.inFlightOrders.lookup id = some order')
    (hlive : isTerminalState order'.status = false) : order'.marketTicker = order.marketTicker := by
  have hsame : ∀ {core : OrderManagerCore}, core.inFlightOrders = s.core.inFlightOrders →
      core.inFlightOrders.lookup id = some order' → order'.marketTicker = order.marketTicker := by
    intro core hcore hlookup
    rw [hcore, horder] at hlookup
    rw [Option.some.inj hlookup]
  cases h with
  | restarted _ _ => cases horder'
  | refused _ hcore => exact hsame hcore.inFlightOrders horder'
  | @accepted _ pending tracked _ hadmission =>
    obtain hold | ⟨rfl, hnew⟩ := lookup_of_tracked horder'
    · exact hsame rfl hold
    · -- the id of a new order was not tracked before
      obtain ⟨_, hid, hfresh, _⟩ := admission_some_fields hadmission
      rw [hnew, hid, hfresh] at horder
      exact absurd horder (by simp)
  | rejected _ hhandled =>
    obtain ⟨_, hold, rfl | ⟨next, hstatus, _, _, rfl⟩⟩ := hhandled.origin horder'
    · rw [Option.some.inj (horder.symm.trans hold)]
    · obtain rfl := Option.some.inj hstatus
      rw [transitionOrder_status] at hlive
      cases hlive
  | received hworker hrecv hparse hhandled =>
    obtain ⟨old, hold, rfl | ⟨next, _, hmatch, _, rfl⟩⟩ := hhandled.origin horder'
    · rw [Option.some.inj (horder.symm.trans hold)]
    · obtain rfl := Option.some.inj (horder.symm.trans hold)
      have hmarket := hok rfl hworker _ hrecv _ (by rw [hparse]; rfl) _ hmatch
      rw [transitionOrder_marketTicker]
      obtain hblank | hrepeat := hmarket
      · rw [if_neg (not_not.mpr hblank)]
      · rw [hrepeat, ite_self]
  | _ => exact hsame rfl horder'

/-- Replaces name their market, and a live order is tracked under the market of its intent. -/
structure MarketsNamed (s : OrderManager Text τ σ) : Prop where
  named : s.Intends NamesMarket
  tracked : ∀ pending, s.Unsettled pending → ∀ id order,
    s.core.inFlightOrders.lookup id = some order → order.requestId = pending.requestId →
    isTerminalState order.status = false → order.marketTicker = pending.intent.marketTicker

theorem marketsNamed_of_effect (hwf : s.WellFormed) (hs : s.MarketsNamed)
    (hok : s.MarketsKnown config input) (h : Effect config s input s') : s'.MarketsNamed where
  named := hs.named.of_effect (fun _ _ hnamed ↦ hnamed) hok.2 h
  tracked pending hunsettled id order' horder' hid hlive := by
    have hnamed := hs.named.of_effect (fun _ _ hnamed ↦ hnamed) hok.2 h
    obtain ⟨hold, order, horder, hid, hmoved⟩ | ⟨hadmission, _⟩ :=
      hwf.link_of_effect h hunsettled horder' hid
    · rw [marketTicker_of_effect hok.1 h horder horder' hlive]
      exact hs.tracked pending hold id order horder hid (hmoved.evolves.live hlive)
    · exact admission_some_marketTicker hadmission (hnamed.unsettled pending hunsettled)

theorem marketsNamed_of_reaches
    (h : (machine config).ReachesVia (MarketsKnown config) (init config transport sink) s) :
    s.MarketsNamed := by
  refine invariant_of_effect (P := MarketsNamed) ⟨intends_init _ transport sink, ?_⟩ ?_ h
  · intro pending _ id order horder
    cases horder
  · intro s s' input hwf hs hok heffect
    exact marketsNamed_of_effect hwf hs hok heffect

/-- With an adapter that encodes no place without a market, what is encoded names its market. -/
theorem marketTicker_ne_of_cleared (hunnamed : config.adapter.RefusesUnnamed) (hs : s.MarketsNamed)
    {pending : PendingIntent} {rest : List PendingIntent} {payload : Text}
    (hworker : s.worker = .cleared pending rest)
    (hbuild : config.adapter.buildRequest pending.intent = .ok payload)
    (hcreates : pending.intent.Creates) : pending.intent.marketTicker ≠ "" := by
  rcases hcreates with hplace | hreplace
  · exact hunnamed hbuild hplace
  · exact hs.named.unsettled pending (unsettled_of_cleared hworker) hreplace

/-- The weight of the orders of one market. -/
def inMarket {A : Type*} [Zero A] (marketTicker : String) (weight : InFlightOrder → A)
    (order : InFlightOrder) : A :=
  if order.marketTicker = marketTicker then weight order else 0

theorem inMarket_nonneg {A : Type*} [Zero A] [Preorder A] {weight : InFlightOrder → A}
    (hweight : ∀ order, 0 ≤ weight order) (marketTicker : String) (order : InFlightOrder) :
    0 ≤ inMarket marketTicker weight order := by
  rw [inMarket]
  split
  · exact hweight order
  · exact le_rfl

/-- The charge of the requests of one market. -/
def chargeIn {A : Type*} [Zero A] (marketTicker : String) (charge : OrderIntent → A)
    (intent : OrderIntent) : A :=
  if marketTicker ≠ "" ∧ intent.marketTicker = marketTicker then charge intent else 0

section MarketQuota

variable {A : Type*} [AddCommMonoid A] [PartialOrder A] [IsOrderedAddMonoid A]

/-- A quota for one market, from what the gate checks for the requests of that market. -/
def marketQuota {marketTicker : String}
    (hblank : marketTicker = "" → config.adapter.RefusesUnnamed)
    (weight : InFlightOrder → A) (charge : OrderIntent → A) (limit : A)
    (hweight : ∀ order, 0 ≤ weight order) (hcharge : ∀ intent, 0 ≤ charge intent)
    (hlimit : 0 ≤ limit)
    (hmoved : ∀ {order order' : InFlightOrder}, order.Moved order' → weight order' ≤ weight order)
    (hgate : ∀ {s : OrderManager Text τ σ} {pending : PendingIntent},
      (machine config).ReachesVia (MarketsKnown config) (init config transport sink) s →
      s.globalAllows pending = true → pending.intent.Creates → marketTicker ≠ "" →
      pending.intent.marketTicker = marketTicker →
      s.sentTotalExcept (inMarket marketTicker weight) pending.intent.clientOrderId
        + charge pending.intent ≤ limit)
    (hcovers : ∀ {pending : PendingIntent} {payload : Text} {id : ClientOrderId}
      {order : InFlightOrder}, config.adapter.buildRequest pending.intent = .ok payload →
      TrackedAs pending id order → weight order ≤ charge pending.intent) :
    Quota config (MarketsKnown config) (init config transport sink) A where
  weight := inMarket marketTicker weight
  charge := chargeIn marketTicker charge
  limit := limit
  weight_nonneg := inMarket_nonneg hweight marketTicker
  charge_nonneg intent := by
    rw [chargeIn]
    split
    · exact hcharge intent
    · exact le_rfl
  limit_nonneg := hlimit
  weight_moved := by
    intro s s' input id order order' _ hok heffect horder horder' horders hlive
    rw [inMarket, inMarket, marketTicker_of_effect hok.1 heffect horder horder' hlive]
    split
    · exact hmoved horders
    · exact le_rfl
  gate := by
    intro s pending hs hallow hcreates htotal
    rw [chargeIn]
    split
    · rename_i hmarket
      exact hgate hs hallow hcreates hmarket.1 hmarket.2
    · -- a request of another market takes no room here
      rw [add_zero]
      exact (sentTotalExcept_le_sentTotal _ (inMarket_nonneg hweight marketTicker) s _).trans htotal
  charge_covers := by
    intro s pending rest payload id order hs hworker hbuild horder hid hlive
    have hunsettled := unsettled_of_cleared hworker
    have hnamed := marketsNamed_of_reaches hs
    have hmarket := hnamed.tracked pending hunsettled id order horder hid hlive
    have has := (wellFormed_of_reaches hs).tracked pending hunsettled id order horder hid
    rw [inMarket, chargeIn, hmarket]
    by_cases hticker : pending.intent.marketTicker = marketTicker
    · have hne : marketTicker ≠ "" := fun hempty ↦
        marketTicker_ne_of_cleared (hblank hempty) hnamed hworker hbuild has.creates
          (hticker.trans hempty)
      rw [if_pos hticker, if_pos ⟨hne, hticker⟩]
      exact hcovers hbuild has
    · rw [if_neg hticker, if_neg fun h ↦ hticker h.2]

end MarketQuota

/-- The share of the gate's snapshot that falls on one market, as a weighted sum. -/
theorem sentTotalExcept_inMarket_le {A : Type*} [AddCommMonoid A] [PartialOrder A]
    [IsOrderedAddMonoid A] (weight : InFlightOrder → A) (hweight : ∀ order, 0 ≤ weight order)
    (s : OrderManager Text τ σ) {marketTicker : String} (hmarket : marketTicker ≠ "")
    (key : ClientOrderId) :
    s.sentTotalExcept (inMarket marketTicker weight) key ≤
      s.core.inFlightOrders.sumOf fun id order ↦
        if Counted key id order ∧ marketTicker ≠ "" ∧ order.marketTicker = marketTicker then
          weight order else 0 := by
  refine (sentTotalExcept_le_counted _ (inMarket_nonneg hweight marketTicker) s key).trans_eq ?_
  refine UnorderedMap.sumOf_congr fun id order _ ↦ ?_
  rw [inMarket]
  by_cases hcounted : Counted key id order
  · simp [hcounted, hmarket]
  · simp [hcounted]

section MarketCaps

variable {marketTicker : String} (hblank : marketTicker = "" → config.adapter.RefusesUnnamed)
  (h : (machine config).ReachesVia (MarketsKnown config) (init config transport sink) s)

include hblank h

/-- The quota of a market for live orders. -/
theorem activeOrdersPerMarket_le (hlimit : 0 < config.globalRisk.maxActiveOrdersPerMarket) :
    s.sentTotal (inMarket marketTicker fun _ ↦ 1) ≤ config.globalRisk.maxActiveOrdersPerMarket := by
  refine sentTotal_le_limit (marketQuota hblank (fun _ ↦ 1) (fun _ ↦ 1) _ (fun _ ↦ Nat.zero_le _)
    (fun _ ↦ Nat.zero_le _) (Nat.zero_le _) (fun _ ↦ le_rfl) ?_ (fun _ _ ↦ le_rfl)) h
  rintro s pending hs hallow hcreates hne rfl
  rw [globalAllows, (riskGates_of_reaches hs).1] at hallow
  have hroom := (GlobalRiskGate.evaluate_allow hcreates hallow).2.1 hlimit
  rw [buildRiskSnapshot_eq] at hroom
  have hsent := sentTotalExcept_inMarket_le (fun _ ↦ 1) (fun _ ↦ Nat.zero_le _) s hne
    pending.intent.clientOrderId
  exact Nat.succ_le_of_lt (hsent.trans_lt hroom)

/-- And for their outstanding quantity. -/
theorem outstandingQtyPerMarket_le (hsized : config.adapter.RefusesUnsized)
    (hlimit : 0 < config.globalRisk.maxOutstandingQtyPerMarket) :
    s.sentTotal (inMarket marketTicker outstandingQty) ≤
      config.globalRisk.maxOutstandingQtyPerMarket := by
  refine sentTotal_le_limit (marketQuota hblank outstandingQty (fun intent ↦ max intent.qtyLots 0)
    _ outstandingQty_nonneg (fun _ ↦ le_max_right _ _) hlimit.le
    (fun hmoved ↦ hmoved.outstandingQty_le) ?_
    fun hbuild has ↦ outstandingQty_le_charge (hsized hbuild has.creates) has) h
  rintro s pending hs hallow hcreates hne rfl
  rw [globalAllows, (riskGates_of_reaches hs).1] at hallow
  have hroom := (GlobalRiskGate.evaluate_allow hcreates hallow).2.2.2 hlimit
  rw [buildRiskSnapshot_eq] at hroom
  have hsent := sentTotalExcept_inMarket_le outstandingQty outstandingQty_nonneg s hne
    pending.intent.clientOrderId
  exact (add_le_add hsent le_rfl).trans hroom

/-- **The caps per market hold when replaces name their market.** In every run in which no replace
with a blank market is submitted and updates repeat the market of their order or leave it out, and
for every market: the live orders of that market whose request was sent are within the limits, the
quantities, exact integers, where the adapter encodes no request without one. Orders without a
market are within them as well where the adapter encodes no place without a market. -/
theorem market_caps :
    (0 < config.globalRisk.maxActiveOrdersPerMarket →
      s.sentTotal (inMarket marketTicker fun _ ↦ 1) ≤ config.globalRisk.maxActiveOrdersPerMarket) ∧
    (config.adapter.RefusesUnsized → 0 < config.globalRisk.maxOutstandingQtyPerMarket →
      s.sentTotal (inMarket marketTicker outstandingQty)
        ≤ config.globalRisk.maxOutstandingQtyPerMarket) :=
  ⟨activeOrdersPerMarket_le hblank h, outstandingQtyPerMarket_le hblank h⟩

end MarketCaps

open Trader in
/-- A replace of the order `target`, in the given market. -/
def replaceIntent (clientOrderId target marketTicker : String) (qtyLots : ℤ) : OrderIntent :=
  { placeIntent clientOrderId marketTicker .buy qtyLots 40 with
    action := .replace
    targetClientOrderId := some target }

/-- A place is sent and acknowledged, then a replace of it is submitted and the worker takes some
more steps. -/
def replaceRun (marketTicker : String) (steps : ℕ) : List OrderManagerInput :=
  [.start] ++ Trader.submit 0 (Trader.placeIntent "c1" "KXBTC-YES" .buy 10 40) ++ Trader.drain 1
    ++ [.worker 3, .worker 4] ++ Trader.submit 1 (replaceIntent "c2" "c1" marketTicker 5)
    ++ List.replicate steps (.worker 5)

open Trader in
/-- A replace that names its market is refused once the market is full. -/
theorem market_caps_named_replace :
    let config := paperConfig JsonLibrary.trees { maxActiveOrdersPerMarket := 1 } {}
    ∃ s, (machine config).ReachesVia (MarketsKnown config) (init config {} {}) s ∧ s.Sent 1 ∧
      s.sentTotal (inMarket "KXBTC-YES" fun _ ↦ 1) ≤ 1 := by
  intro config
  have hrun : ((machine config).runVia (MarketsKnown config) (init config {} {})
      (replaceRun "KXBTC-YES" 3)).any (fun s ↦ s.Sent 1) = true := by
    decide +kernel
  obtain ⟨s, hreaches, hsent⟩ := Machine.exists_of_runVia hrun
  exact ⟨s, hreaches, of_decide_eq_true hsent,
    (market_caps (fun _ ↦ Kalshi.refusesUnnamed _) hreaches).1 (by decide)⟩

open Trader in
/-- The same replace with a blank market passes the gate: two orders in a market for one. Every
update of the run repeats the market of its order. -/
theorem market_cap_exceeded :
    let config := paperConfig JsonLibrary.trees { maxActiveOrdersPerMarket := 1 } {}
    ∃ s, (machine config).ReachesVia (RepeatsMarket config) (init config {} {}) s ∧
      s.sentTotal (inMarket "KXBTC-YES" fun _ ↦ 1) = 2 := by
  intro config
  have hrun : ((machine config).runVia (RepeatsMarket config) (init config {} {})
      (replaceRun "" 5)).any (fun s ↦ s.sentTotal (inMarket "KXBTC-YES" fun _ ↦ 1) = 2) = true := by
    decide +kernel
  obtain ⟨s, hreaches, htotal⟩ := Machine.exists_of_runVia hrun
  exact ⟨s, hreaches, of_decide_eq_true htotal⟩

end OrderManager

end TradingEngine
