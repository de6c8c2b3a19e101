import TradingEngine.Oms.OrderManager

/-!
# Orders judged one at a time

The order manager tracks an order when it is submitted and judges it when the worker gets to it, so
what the global gate counts depends on how the two are interleaved. This module says what the
verdicts would be if every order were judged alone, against the orders before it: `deskLive` goes
through a list of intents, newest first, and keeps those that both gates let through. It reads
nothing but the intents, the limits and the portfolio snapshots.

A replace may leave its market or its quantity to the order it replaces. `termsOf` resolves this by
going back through the earlier intents.
-/

namespace TradingEngine

open OrderManagerCore

/-- What the global gate reads of a live order without fills. -/
structure OrderTerms where
  marketTicker : String
  qtyLots : ℤ
  deriving DecidableEq

def InFlightOrder.terms (order : InFlightOrder) : OrderTerms where
  marketTicker := order.marketTicker
  qtyLots := order.requestedQtyLots

/-- The client order id of the order that a replace stands in for. -/
def OrderIntent.replaces (intent : OrderIntent) : Option ClientOrderId :=
  if intent.action = .replace then intent.targetClientOrderId else none

/-- The terms of an intent, given those of the order it replaces. -/
def OrderIntent.termsWith (intent : OrderIntent) : Option OrderTerms → OrderTerms
  | none => { marketTicker := intent.marketTicker, qtyLots := intent.qtyLots }
  | some target =>
    { marketTicker := if intent.marketTicker ≠ "" then intent.marketTicker else target.marketTicker
      qtyLots := if intent.qtyLots > 0 then intent.qtyLots else target.qtyLots }

/-- The terms of the order under a client order id, where the intents are given newest first. -/
def termsOf : List OrderIntent → ClientOrderId → Option OrderTerms
  | [], _ => none
  | intent :: earlier, id =>
    if intent.clientOrderId = id then
      some (intent.termsWith (intent.replaces.bind (termsOf earlier)))
    else termsOf earlier id

theorem termsOf_cons_self (intent : OrderIntent) (earlier : List OrderIntent) :
    termsOf (intent :: earlier) intent.clientOrderId =
      some (intent.termsWith (intent.replaces.bind (termsOf earlier))) := if_pos rfl

theorem termsOf_cons_of_ne {intent : OrderIntent} {earlier : List OrderIntent} {id : ClientOrderId}
    (h : intent.clientOrderId ≠ id) : termsOf (intent :: earlier) id = termsOf earlier id :=
  if_neg h

/-! ## Submissions -/

/-- While no exchange order id is known, a replace finds the order that it names itself. -/
theorem findTarget_replace {core : OrderManagerCore} {intent : OrderIntent} {id : ClientOrderId}
    {target : InFlightOrder} (hids : core.exchangeToClient = ∅) (haction : intent.action = .replace)
    (h : core.findTarget intent = .ok (id, target)) :
    intent.replaces = some id ∧ core.inFlightOrders.lookup id = some target ∧
      isTerminalState target.status = false := by
  obtain ⟨hresolve, htarget⟩ := findTarget_ok h
  refine ⟨?_, htarget⟩
  rw [OrderIntent.replaces, if_pos haction]
  rw [resolveTarget] at hresolve
  cases hexchange : intent.targetExchangeOrderId with
  | some exchangeId =>
    -- it is looked up in an empty map
    rw [hexchange, hids] at hresolve
    cases hresolve
  | none =>
    rw [hexchange] at hresolve
    cases hclient : intent.targetClientOrderId with
    | none =>
      rw [hclient, haction] at hresolve
      cases hresolve
    | some named =>
      rw [hclient] at hresolve
      rw [Except.ok.inj hresolve]

/-- **The terms of a new order** follow from its intent and the terms of the live orders. -/
theorem terms_of_admission {core : OrderManagerCore} {requestId : ℕ} {intent : OrderIntent}
    {order : InFlightOrder} {terms : ClientOrderId → Option OrderTerms}
    (hids : core.exchangeToClient = ∅)
    (hterms : ∀ id order, core.inFlightOrders.lookup id = some order →
      isTerminalState order.status = false → terms id = some order.terms)
    (h : core.admission requestId intent = .ok (some order)) :
    intent.termsWith (intent.replaces.bind terms) = order.terms := by
  obtain ⟨_, ⟨haction, _, rfl⟩ | ⟨haction, id, target, hfound, horder⟩⟩ := admission_some h
  · have hnone : intent.replaces = none := by
      rw [OrderIntent.replaces, haction]
      rfl
    rw [hnone]
    rfl
  · obtain ⟨hreplaces, htarget, hlive⟩ := findTarget_replace hids haction hfound
    obtain ⟨_, rfl⟩ := replaceOrder_ok horder
    rw [hreplaces, Option.bind_some, hterms id target htarget hlive]
    rfl

/-! ## The snapshot of a list of orders -/

/-- The share of one order in the snapshot for a market. -/
def termsShare (marketTicker : String) : Option OrderTerms → GlobalRiskSnapshot
  | none => {}
  | some terms =>
    { activeOrdersGlobal := 1
      outstandingQtyGlobal := max terms.qtyLots 0
      activeOrdersMarket := if marketTicker ≠ "" ∧ terms.marketTicker = marketTicker then 1 else 0
      outstandingQtyMarket :=
        if marketTicker ≠ "" ∧ terms.marketTicker = marketTicker then max terms.qtyLots 0 else 0 }

/-- The snapshot of the orders under these ids. -/
def deskSnapshot (marketTicker : String) (terms : ClientOrderId → Option OrderTerms)
    (ids : List ClientOrderId) : GlobalRiskSnapshot where
  activeOrdersGlobal :=
    (ids.map fun id ↦ (termsShare marketTicker (terms id)).activeOrdersGlobal).sum
  outstandingQtyGlobal :=
    (ids.map fun id ↦ (termsShare marketTicker (terms id)).outstandingQtyGlobal).sum
  activeOrdersMarket :=
    (ids.map fun id ↦ (termsShare marketTicker (terms id)).activeOrdersMarket).sum
  outstandingQtyMarket :=
    (ids.map fun id ↦ (termsShare marketTicker (terms id)).outstandingQtyMarket).sum

/-- A live order without fills has the share of its terms. -/
theorem share_eq_termsShare {marketTicker skip : String} {id : ClientOrderId}
    {order : InFlightOrder} (hcounted : Counted skip id order) (hfilled : order.filledQtyLots = 0) :
    share marketTicker skip id order = termsShare marketTicker (some order.terms) := by
  have hqty : outstandingQty order = max order.requestedQtyLots 0 := by
    rw [outstandingQty, hfilled]
    split
    · rename_i hle
      exact (max_eq_right hle).symm
    · rename_i hlt
      exact (max_eq_left (not_le.mp hlt).le).symm
  rw [share, termsShare, InFlightOrder.terms, hqty]
  simp [hcounted]

/-- **The snapshot loop, order by order.** When the live orders other than the one left out are
those under `ids`, the loop computes the snapshot of their terms. -/
theorem buildRiskSnapshot_eq_deskSnapshot {core : OrderManagerCore} {marketTicker skip : String}
    {terms : ClientOrderId → Option OrderTerms} {ids : List ClientOrderId} (hskip : skip ≠ "")
    (hnodup : ids.Nodup)
    (hlive : ∀ id ∈ ids, id ≠ skip ∧ ∃ order, core.inFlightOrders.lookup id = some order ∧
      isTerminalState order.status = false ∧ order.filledQtyLots = 0 ∧
      terms id = some order.terms)
    (hrest : ∀ id order, core.inFlightOrders.lookup id = some order →
      isTerminalState order.status = false → id ∉ ids → id = skip) :
    core.buildRiskSnapshot marketTicker skip = deskSnapshot marketTicker terms ids := by
  have hshare : ∀ id ∈ ids, ∃ order, core.inFlightOrders.lookup id = some order ∧
      share marketTicker skip id order = termsShare marketTicker (terms id) := by
    intro id hid
    obtain ⟨hne, order, horder, hlive, hfilled, hterms⟩ := hlive id hid
    refine ⟨order, horder, ?_⟩
    rw [hterms]
    exact share_eq_termsShare ⟨fun h ↦ hne h.2, hlive⟩ hfilled
  have hzero : ∀ id order, core.inFlightOrders.lookup id = some order → id ∉ ids →
      share marketTicker skip id order = {} := by
    intro id order horder hid
    have hnot : ¬Counted skip id order := by
      rintro ⟨hne, hlive⟩
      exact hne ⟨hskip, hrest id order horder hlive hid⟩
    simp only [share, hnot, if_false, false_and]
  rw [buildRiskSnapshot_eq, deskSnapshot]
  congr 1
  all_goals
    refine UnorderedMap.sumOf_eq_sum_map hnodup (fun id hid ↦ ?_) fun id order horder hid ↦ ?_
    · obtain ⟨order, horder, hsame⟩ := hshare id hid
      exact ⟨order, horder, by rw [hsame]⟩
    · rw [hzero id order horder hid]

/-! ## The verdicts -/

section Verdicts

variable {Text τ σ : Type*} (config : OrderManagerConfig Text τ σ) (sink : σ)

/-- The global gate, with the orders under `live` in flight. -/
def deskGlobalAllows (earlier live : List OrderIntent) (intent : OrderIntent) : Bool :=
  (GlobalRiskGate.evaluate config.globalRisk intent (deskSnapshot intent.marketTicker
    (termsOf earlier) (live.map OrderIntent.clientOrderId))).allow

/-- The portfolio gate, with the snapshots of this sink. -/
def deskPortfolioAllows (intent : OrderIntent) : Bool :=
  match config.portfolioSnapshotProvider with
  | none => true
  | some provider =>
    (PortfolioRiskGate.evaluate config.portfolioRisk intent
      (provider.snapshotFor sink intent.exchange intent.marketTicker)).allow

/-- Both gates let an order through that is judged after `earlier`, with those in `live` still
live. -/
def deskAllows (earlier live : List OrderIntent) (intent : OrderIntent) : Bool :=
  deskGlobalAllows config earlier live intent && deskPortfolioAllows config sink intent

/-- **The orders that are live after all have been judged**, one at a time and newest first. -/
def deskLive : List OrderIntent → List OrderIntent
  | [] => []
  | intent :: earlier =>
    if deskAllows config sink earlier (deskLive earlier) intent then intent :: deskLive earlier
    else deskLive earlier

/-- The desk lets an order through that comes after `earlier`. -/
def DeskPasses (earlier : List OrderIntent) (intent : OrderIntent) : Prop :=
  deskAllows config sink earlier (deskLive config sink earlier) intent = true

/-- The requests that are handed to the transport when these intents are judged one at a time. -/
def deskSends (intents : List OrderIntent) : List OrderIntent :=
  (deskLive config sink intents).filter fun intent ↦ (config.adapter.buildRequest intent).isOk

theorem deskLive_sublist (intents : List OrderIntent) :
    (deskLive config sink intents).Sublist intents := by
  induction intents with
  | nil => exact .slnil
  | cons intent earlier ih =>
    rw [deskLive]
    split
    · exact ih.cons_cons intent
    · exact ih.cons intent

variable {config sink}

theorem deskLive_cons_of_passes {intent : OrderIntent} {earlier : List OrderIntent}
    (h : DeskPasses config sink earlier intent) :
    deskLive config sink (intent :: earlier) = intent :: deskLive config sink earlier := if_pos h

theorem deskLive_cons_of_not_passes {intent : OrderIntent} {earlier : List OrderIntent}
    (h : ¬DeskPasses config sink earlier intent) :
    deskLive config sink (intent :: earlier) = deskLive config sink earlier := if_neg h

theorem deskSends_cons_of_passes {intent : OrderIntent} {earlier : List OrderIntent}
    (h : DeskPasses config sink earlier intent) :
    deskSends config sink (intent :: earlier) =
      (if (config.adapter.buildRequest intent).isOk then [intent] else []) ++
        deskSends config sink earlier := by
  rw [deskSends, deskLive_cons_of_passes h, List.filter_cons, deskSends]
  split
  · rfl
  · rfl

theorem deskSends_cons_of_not_passes {intent : OrderIntent} {earlier : List OrderIntent}
    (h : ¬DeskPasses config sink earlier intent) :
    deskSends config sink (intent :: earlier) = deskSends config sink earlier := by
  rw [deskSends, deskLive_cons_of_not_passes h, deskSends]

/-- Which ids are live after one more order. -/
theorem mem_deskLive_cons {intent : OrderIntent} {earlier : List OrderIntent}
    {id : ClientOrderId} :
    (∃ live ∈ deskLive config sink (intent :: earlier), live.clientOrderId = id) ↔
      (DeskPasses config sink earlier intent ∧ intent.clientOrderId = id) ∨
        ∃ live ∈ deskLive config sink earlier, live.clientOrderId = id := by
  by_cases hpasses : DeskPasses config sink earlier intent
  · rw [deskLive_cons_of_passes hpasses]
    simp [hpasses]
  · rw [deskLive_cons_of_not_passes hpasses]
    simp [hpasses]

end Verdicts

end TradingEngine
