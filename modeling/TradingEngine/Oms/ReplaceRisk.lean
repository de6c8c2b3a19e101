import TradingEngine.Oms.IdMaps

/-!
# How a replace is judged

A replace may leave its market, its side and its quantity blank. The order that is tracked for it
takes what is missing from the target, and this order is what the exchange is asked for. The risk
gates are handed the intent as it was submitted. A blank market is no market to them, so the limits
per market do not see the order; a blank quantity counts as nothing; and a blank side or quantity is
an invalid intent to the portfolio gate.

`replace_judged_as_created_iff` says when this makes no difference: the intent has a side and a
quantity or the order has none either, and no limit lies between what the gates count for the intent
and what they would count for the order. It is about the gates as the source computes them, in
64-bit arithmetic: an order may be so large that its sum wraps around and is within the limit.
-/

namespace TradingEngine

/-- The intent with its market, side and quantity as those of an order. -/
def OrderIntent.filledFrom (intent : OrderIntent) (order : InFlightOrder) : OrderIntent :=
  { intent with
    marketTicker := order.marketTicker
    side := order.side
    qtyLots := order.requestedQtyLots }

namespace OrderManagerCore

open Json (IsInt64)

/-- Both gates decide alike about two intents, the portfolio gate whatever the portfolio is. -/
def JudgedAlike (arithmetic : Arithmetic) (core : OrderManagerCore)
    (intent intent' : OrderIntent) : Prop :=
  (core.evaluateGlobalRiskWith arithmetic intent).1 =
      (core.evaluateGlobalRiskWith arithmetic intent').1 ∧
  ∀ snapshot, (core.evaluatePortfolioRiskWith arithmetic intent snapshot).1 =
    (core.evaluatePortfolioRiskWith arithmetic intent' snapshot).1

/-- The intent lacks a side or a quantity that the order has. -/
def PortfolioMisses (intent : OrderIntent) (order : InFlightOrder) : Prop :=
  (intent.side = .unknown ∨ intent.qtyLots ≤ 0) ∧
    order.side ≠ .unknown ∧ 0 < order.requestedQtyLots

/-- One of two sums exceeds the limit, the other does not. -/
def Separates (limit sum sum' : ℤ) : Prop :=
  sum ≤ limit ∧ limit < sum' ∨ sum' ≤ limit ∧ limit < sum

/-- A limit lies between what is counted for the intent and what is counted for the order, and no
earlier check refuses both. The snapshot counts the orders beside the new one, those in its market
apart. -/
def GlobalMisses (arithmetic : Arithmetic) (config : GlobalRiskConfig)
    (snapshot : GlobalRiskSnapshot) (intent : OrderIntent) (order : InFlightOrder) : Prop :=
  ¬(0 < config.maxActiveOrdersGlobal ∧
    config.maxActiveOrdersGlobal ≤ snapshot.activeOrdersGlobal) ∧
  ((intent.marketTicker = "" ∧ 0 < config.maxActiveOrdersPerMarket ∧
      config.maxActiveOrdersPerMarket ≤ snapshot.activeOrdersMarket) ∨
    ¬(0 < config.maxActiveOrdersPerMarket ∧
      config.maxActiveOrdersPerMarket ≤ snapshot.activeOrdersMarket) ∧
    ((0 < config.maxOutstandingQtyGlobal ∧ Separates config.maxOutstandingQtyGlobal
        (arithmetic.add snapshot.outstandingQtyGlobal (max intent.qtyLots 0))
        (arithmetic.add snapshot.outstandingQtyGlobal (max order.requestedQtyLots 0))) ∨
      ¬(0 < config.maxOutstandingQtyGlobal ∧ config.maxOutstandingQtyGlobal <
        arithmetic.add snapshot.outstandingQtyGlobal (max order.requestedQtyLots 0)) ∧
      (0 < config.maxOutstandingQtyPerMarket ∧ Separates config.maxOutstandingQtyPerMarket
        (arithmetic.add
          (if intent.marketTicker = "" then 0 else snapshot.outstandingQtyMarket)
          (max intent.qtyLots 0))
        (arithmetic.add snapshot.outstandingQtyMarket (max order.requestedQtyLots 0)))))

variable {arithmetic : Arithmetic} {core : OrderManagerCore} {intent : OrderIntent}
  {order : InFlightOrder}

/-! ## What the gates see -/

/-- A snapshot without its market. -/
def withoutMarket (snapshot : GlobalRiskSnapshot) : GlobalRiskSnapshot :=
  { snapshot with activeOrdersMarket := 0, outstandingQtyMarket := 0 }

theorem addToSnapshotWith_of_blank (marketTicker skip : String) (snapshot : GlobalRiskSnapshot)
    (id : ClientOrderId) (order : InFlightOrder) :
    addToSnapshotWith arithmetic "" skip (withoutMarket snapshot) id order =
      withoutMarket (addToSnapshotWith arithmetic marketTicker skip snapshot id order) := by
  rw [addToSnapshotWith, addToSnapshotWith]
  by_cases hskip : skip ≠ "" ∧ id = skip
  · rw [if_pos hskip, if_pos hskip]
  by_cases hterminal : isTerminalState order.status = true
  · rw [if_neg hskip, if_neg hskip, if_pos hterminal, if_pos hterminal]
  rw [if_neg hskip, if_neg hskip, if_neg hterminal, if_neg hterminal]
  simp [withoutMarket]

/-- Without a market there are no orders in the market. -/
theorem buildRiskSnapshotWith_of_blank (core : OrderManagerCore) (marketTicker skip : String) :
    core.buildRiskSnapshotWith arithmetic "" skip =
      withoutMarket (core.buildRiskSnapshotWith arithmetic marketTicker skip) := by
  have hloop : ∀ (entries : List (Sigma fun _ : ClientOrderId ↦ InFlightOrder)) snapshot,
      entries.foldl (fun snapshot entry ↦
          addToSnapshotWith arithmetic "" skip snapshot entry.1 entry.2) (withoutMarket snapshot) =
        withoutMarket (entries.foldl (fun snapshot entry ↦
          addToSnapshotWith arithmetic marketTicker skip snapshot entry.1 entry.2) snapshot) := by
    intro entries
    induction entries with
    | nil => exact fun _ ↦ rfl
    | cons entry entries ih =>
      intro snapshot
      rw [List.foldl_cons, List.foldl_cons, addToSnapshotWith_of_blank marketTicker, ih]
  exact hloop _ {}

/-- The core hands on the decision of a gate only if it is a reject. Where a gate that lets an
intent through has nothing to add, that is as good as the decision. -/
theorem answer_eq_iff {α β : Type*} {allow : α → Bool} {pass d d' : α} {x x' y y' : β}
    (hpass : allow pass = true) (h : allow d = true → d = pass) (h' : allow d' = true → d' = pass) :
    (if allow d then ((none : Option α), x) else (some d, y)).1 =
      (if allow d' then ((none : Option α), x') else (some d', y')).1 ↔ d = d' := by
  by_cases hd : allow d = true
  · obtain rfl := h hd
    by_cases hd' : allow d' = true
    · obtain rfl := h' hd'
      exact iff_of_true (by rw [if_pos hd, if_pos hd]) rfl
    · rw [if_pos hd, if_neg hd']
      refine iff_of_false (by simp) fun heq ↦ hd' (heq ▸ hpass)
  · by_cases hd' : allow d' = true
    · obtain rfl := h' hd'
      rw [if_neg hd, if_pos hd']
      refine iff_of_false (by simp) fun heq ↦ hd (heq ▸ hpass)
    · rw [if_neg hd, if_neg hd']
      exact Option.some_inj

theorem evaluateGlobalRiskWith_eq_iff {intent' : OrderIntent} :
    (core.evaluateGlobalRiskWith arithmetic intent).1 =
        (core.evaluateGlobalRiskWith arithmetic intent').1 ↔
      GlobalRiskGate.evaluateWith arithmetic core.globalRiskGate intent
          (core.buildRiskSnapshotWith arithmetic intent.marketTicker intent.clientOrderId) =
        GlobalRiskGate.evaluateWith arithmetic core.globalRiskGate intent'
          (core.buildRiskSnapshotWith arithmetic intent'.marketTicker intent'.clientOrderId) :=
  answer_eq_iff rfl GlobalRiskGate.evaluateWith_eq_allowDecision
    GlobalRiskGate.evaluateWith_eq_allowDecision

theorem evaluatePortfolioRiskWith_eq_iff {intent' : OrderIntent}
    {snapshot : PortfolioRiskSnapshot} :
    (core.evaluatePortfolioRiskWith arithmetic intent snapshot).1 =
        (core.evaluatePortfolioRiskWith arithmetic intent' snapshot).1 ↔
      PortfolioRiskGate.evaluateWith arithmetic core.portfolioRiskGate intent snapshot =
        PortfolioRiskGate.evaluateWith arithmetic core.portfolioRiskGate intent' snapshot :=
  answer_eq_iff rfl PortfolioRiskGate.evaluateWith_eq_allowDecision
    PortfolioRiskGate.evaluateWith_eq_allowDecision

/-! ## The gates on the intent and on the order -/

/-- What the global gate counts for the intent: the market only if the intent names it. -/
def blankedFor (intent : OrderIntent) (snapshot : GlobalRiskSnapshot) : GlobalRiskSnapshot :=
  { snapshot with
    activeOrdersMarket := if intent.marketTicker = "" then 0 else snapshot.activeOrdersMarket
    outstandingQtyMarket := if intent.marketTicker = "" then 0 else snapshot.outstandingQtyMarket }

theorem evaluateWith_filledFrom_iff {config : GlobalRiskConfig} {snapshot : GlobalRiskSnapshot}
    (haction : intent.action = .replace) :
    GlobalRiskGate.evaluateWith arithmetic config intent (blankedFor intent snapshot) =
        GlobalRiskGate.evaluateWith arithmetic config (intent.filledFrom order) snapshot ↔
      ¬GlobalMisses arithmetic config snapshot intent order := by
  have hcreates : intent.Creates := .inr haction
  obtain ⟨hcancel, hother⟩ := (creates_iff intent).mp hcreates
  obtain ⟨hcancel', hother'⟩ := (creates_iff (intent.filledFrom order)).mp (.inr haction)
  have hbetween : ∀ limit value value' : ℤ,
      ((limit > 0 ∧ value > limit ↔ limit > 0 ∧ value' > limit) ↔
        ¬(0 < limit ∧ Separates limit value value')) := by
    intro limit value value'
    rw [Separates]
    omega
  -- no two checks answer with the same
  have hreject : ∀ {code code' : GlobalRiskRejectCode} {message message' : String}, code ≠ code' →
      GlobalRiskGate.reject code message ≠ GlobalRiskGate.reject code' message' :=
    fun hne heq ↦ hne (congrArg GlobalRiskDecision.code heq)
  have hallow : ∀ {code : GlobalRiskRejectCode} (message : String),
      GlobalRiskGate.reject code message ≠ GlobalRiskGate.allowDecision :=
    fun message heq ↦ Bool.false_ne_true (congrArg GlobalRiskDecision.allow heq)
  rw [GlobalRiskGate.evaluateWith, GlobalRiskGate.evaluateWith, if_neg hcancel, if_neg hcancel',
    if_neg hother, if_neg hother', GlobalMisses]
  dsimp only [blankedFor, GlobalRiskGate.clampNonNegative, OrderIntent.filledFrom]
  -- the first check is the same for both
  rw [← false_or (¬_ ∧ _)]
  refine ite_eq_ite_iff ?_ ?_ (iff_of_true Iff.rfl not_false) (ite_eq_ite_iff ?_ ?_ ?_
    (ite_eq_ite_iff ?_ ?_ (hbetween _ _ _) (ite_eq_ite_iff_last ?_ (hbetween _ _ _))))
  · exact ne_ite_of_ne (hreject (by decide)) (ne_ite_of_ne (hreject (by decide))
      (ne_ite_of_ne (hreject (by decide)) (hallow _)))
  · exact ne_ite_of_ne (hreject (by decide)) (ne_ite_of_ne (hreject (by decide))
      (ne_ite_of_ne (hreject (by decide)) (hallow _)))
  · exact ne_ite_of_ne (hreject (by decide)) (ne_ite_of_ne (hreject (by decide)) (hallow _))
  · exact ne_ite_of_ne (hreject (by decide)) (ne_ite_of_ne (hreject (by decide)) (hallow _))
  · -- a market that is blank has no orders
    by_cases hblank : intent.marketTicker = ""
    · rw [if_pos hblank, and_iff_right hblank]
      omega
    · rw [if_neg hblank]
      exact iff_of_true Iff.rfl fun hmisses ↦ hblank hmisses.1
  · exact ne_ite_of_ne (hreject (by decide)) (hallow _)
  · exact ne_ite_of_ne (hreject (by decide)) (hallow _)
  · exact hallow _

/-- The 64-bit portfolio gate, whatever the portfolio is. -/
theorem evaluatePortfolio_filledFrom_iff {config : PortfolioRiskConfig}
    (haction : intent.action = .replace)
    (hside : intent.side ≠ .unknown → order.side = intent.side)
    (hqty : 0 < intent.qtyLots → order.requestedQtyLots = intent.qtyLots)
    (hint : IsInt64 intent.qtyLots) (hint' : IsInt64 order.requestedQtyLots) :
    (∀ snapshot, PortfolioRiskGate.evaluateWith .int64 config intent snapshot =
        PortfolioRiskGate.evaluateWith .int64 config (intent.filledFrom order) snapshot) ↔
      ¬PortfolioMisses intent order := by
  have hzero := PortfolioRiskGate.signedIntentQty_eq_zero_iff intent
  have hzero' := PortfolioRiskGate.signedIntentQty_eq_zero_iff (intent.filledFrom order)
  rw [← PortfolioRiskGate.signedIntentQtyWith_int64 hint] at hzero
  rw [← PortfolioRiskGate.signedIntentQtyWith_int64
    (show IsInt64 (intent.filledFrom order).qtyLots from hint')] at hzero'
  constructor
  · rintro hsame ⟨hblank, hside', hqty'⟩
    -- the floor is held, so the first thing to say about the intent is that it is invalid
    obtain ⟨hcancel, hother⟩ := (creates_iff intent).mp (.inr haction)
    have hinvalid : PortfolioRiskGate.evaluateWith .int64 config intent
        { realizedPnlTicksTotal := config.minRealizedPnlTicks } =
        PortfolioRiskGate.reject .invalidIntent "portfolio risk reject: side/qty is invalid" := by
      rw [PortfolioRiskGate.evaluateWith, if_neg hcancel, if_neg hother,
        if_neg fun hfloor ↦ lt_irrefl _ hfloor.2]
      exact if_pos (hzero.mpr hblank)
    have hvalid : PortfolioRiskGate.signedIntentQtyWith .int64 (intent.filledFrom order) ≠ 0 := by
      rw [ne_eq, hzero', not_or]
      exact ⟨hside', not_le.mpr hqty'⟩
    have hcode := congrArg PortfolioRiskDecision.code ((hsame _).symm.trans hinvalid)
    rw [PortfolioRiskGate.evaluateWith] at hcode
    dsimp only at hcode
    split_ifs at hcode <;> first | exact hvalid ‹_› | cases hcode
  · intro hmisses snapshot
    have haction' : intent.action = (intent.filledFrom order).action := rfl
    refine PortfolioRiskGate.evaluateWith_congr haction' ?_ config snapshot
    by_cases hblank : intent.side = .unknown ∨ intent.qtyLots ≤ 0
    · rw [hzero.mpr hblank, eq_comm, hzero']
      by_contra hvalid
      rw [not_or, not_le] at hvalid
      exact hmisses ⟨hblank, hvalid⟩
    · rw [not_or, not_le] at hblank
      rw [PortfolioRiskGate.signedIntentQtyWith, PortfolioRiskGate.signedIntentQtyWith,
        OrderIntent.filledFrom, hside hblank.1, hqty hblank.2]

/-! ## The order of a replace -/

/-- What the tracked order takes from the intent. -/
theorem fields_of_replace {core' : OrderManagerCore} {requestId : ℕ}
    (haction : intent.action = .replace)
    (h : core.validateAndTrackSubmission requestId intent = (.ok (), core'))
    (horder : core'.inFlightOrders.lookup intent.clientOrderId = some order) :
    (intent.marketTicker ≠ "" → order.marketTicker = intent.marketTicker) ∧
      (intent.side ≠ .unknown → order.side = intent.side) ∧
      (0 < intent.qtyLots → order.requestedQtyLots = intent.qtyLots) := by
  obtain ⟨_, hcase⟩ | ⟨hadmission, _⟩ | ⟨tracked, hadmission, hcase⟩ :=
    core.validateAndTrackSubmission_cases requestId intent
  · cases h.symm.trans hcase
  · cases haction.symm.trans (admission_none hadmission).1
  · obtain ⟨_, rfl⟩ := Prod.mk.inj (h.symm.trans hcase)
    obtain ⟨_, ⟨hplace, _⟩ | ⟨_, id, target, _, hreplace⟩⟩ := admission_some hadmission
    · cases haction.symm.trans hplace
    obtain ⟨_, rfl⟩ := replaceOrder_ok hreplace
    have hself := horder.symm.trans (AList.lookup_insert core.inFlightOrders)
    obtain rfl := Option.some.inj hself
    exact ⟨fun hmarket ↦ if_pos hmarket, fun hside ↦ if_pos hside, fun hqty ↦ if_pos hqty⟩

/-- The snapshot that the global gate sees for the intent. -/
theorem buildRiskSnapshotWith_eq_blankedFor
    (hmarket : intent.marketTicker ≠ "" → order.marketTicker = intent.marketTicker) :
    core.buildRiskSnapshotWith arithmetic intent.marketTicker intent.clientOrderId =
      blankedFor intent (core.buildRiskSnapshotWith arithmetic order.marketTicker
        intent.clientOrderId) := by
  rw [blankedFor]
  by_cases hblank : intent.marketTicker = ""
  · rw [if_pos hblank, if_pos hblank, hblank,
      core.buildRiskSnapshotWith_of_blank order.marketTicker intent.clientOrderId, withoutMarket]
  · rw [if_neg hblank, if_neg hblank, hmarket hblank]

end OrderManagerCore

open OrderManagerCore
open Json (IsInt64)

/-- **A replace is judged as the order it creates** unless its blank side or quantity makes it
invalid, or a limit lies between what is counted for it and for the order. Both gates are the 64-bit
gates of the source, on the running totals that its loop computes. -/
theorem replace_judged_as_created_iff {core core' : OrderManagerCore} {requestId : ℕ}
    {intent : OrderIntent} {order : InFlightOrder} (haction : intent.action = .replace)
    (h : core.validateAndTrackSubmission requestId intent = (.ok (), core'))
    (horder : core'.inFlightOrders.lookup intent.clientOrderId = some order)
    (hint : IsInt64 intent.qtyLots) (hint' : IsInt64 order.requestedQtyLots) :
    core'.JudgedAlike .int64 intent (intent.filledFrom order) ↔
      ¬(PortfolioMisses intent order ∨
        GlobalMisses .int64 core'.globalRiskGate
          (core'.buildRiskSnapshotWith .int64 order.marketTicker intent.clientOrderId) intent
          order) := by
  obtain ⟨hmarket, hside, hqty⟩ := fields_of_replace haction h horder
  rw [JudgedAlike, not_or, and_comm]
  refine and_congr ?_ ?_
  · simp only [evaluatePortfolioRiskWith_eq_iff]
    exact evaluatePortfolio_filledFrom_iff haction hside hqty hint hint'
  · rw [evaluateGlobalRiskWith_eq_iff, buildRiskSnapshotWith_eq_blankedFor hmarket]
    exact evaluateWith_filledFrom_iff haction

namespace ReplaceRiskExample

/-- A replace of `cl-1` by 5 lots, with its market and side stated or not. -/
def amend (marketTicker : String) (side : Side) : OrderIntent :=
  { SampleOrders.buy 5 with
    action := .replace
    clientOrderId := "cl-2"
    targetClientOrderId := some "cl-1"
    marketTicker
    side }

/-- One order per market. -/
def onePerMarket : GlobalRiskConfig where
  maxActiveOrdersPerMarket := 1

end ReplaceRiskExample

open SampleOrders ReplaceRiskExample in
/-- A replace with a blank market and side. The global gate lets it into a market that is full, and
the portfolio gate refuses it for the side that the order has. -/
theorem blank_replace_judged_otherwise :
    ∃ core core' : OrderManagerCore, ∃ order : InFlightOrder,
      callMachine.Reaches (.create onePerMarket {}) core ∧
      core.validateAndTrackSubmission 2 (amend "" .unknown) = (.ok (), core') ∧
      core'.inFlightOrders.lookup "cl-2" = some order ∧
      (core'.evaluateGlobalRiskWith .int64 (amend "" .unknown)).1 = none ∧
      (core'.evaluateGlobalRiskWith .int64 ((amend "" .unknown).filledFrom order)).1.map (·.code) =
        some .activeOrdersMarketLimit ∧
      (core'.evaluatePortfolioRiskWith .int64 (amend "" .unknown) {}).1.map (·.code) =
        some .invalidIntent ∧
      (core'.evaluatePortfolioRiskWith .int64 ((amend "" .unknown).filledFrom order) {}).1 = none ∧
      ¬core'.JudgedAlike .int64 (amend "" .unknown) ((amend "" .unknown).filledFrom order) := by
  have hrun : ∃ core core' : OrderManagerCore, ∃ order : InFlightOrder,
      callMachine.runVia (fun _ _ ↦ True) (.create onePerMarket {}) acknowledged = some core ∧
      core.validateAndTrackSubmission 2 (amend "" .unknown) = (.ok (), core') ∧
      core'.inFlightOrders.lookup "cl-2" = some order ∧
      (core'.evaluateGlobalRiskWith .int64 (amend "" .unknown)).1 = none ∧
      (core'.evaluateGlobalRiskWith .int64 ((amend "" .unknown).filledFrom order)).1.map (·.code) =
        some .activeOrdersMarketLimit ∧
      (core'.evaluatePortfolioRiskWith .int64 (amend "" .unknown) {}).1.map (·.code) =
        some .invalidIntent ∧
      (core'.evaluatePortfolioRiskWith .int64 ((amend "" .unknown).filledFrom order) {}).1 = none :=
    ⟨_, _, _, rfl, rfl, rfl, by decide, by decide, by decide, by decide⟩
  obtain ⟨core, core', order, hrun, htracked, horder, hraw, hfilled, hportfolio⟩ := hrun
  refine ⟨core, core', order, Machine.reachesVia_of_runVia hrun, htracked, horder, hraw, hfilled,
    hportfolio.1, hportfolio.2, fun halike ↦ ?_⟩
  rw [← halike.1, hraw] at hfilled
  cases hfilled

open SampleOrders ReplaceRiskExample in
theorem replace_judged_as_created_stated :
    ∃ core core' : OrderManagerCore, ∃ order : InFlightOrder,
      callMachine.Reaches (.create {} {}) core ∧
      core.validateAndTrackSubmission 2 (amend "KXBTC-YES" .buy) = (.ok (), core') ∧
      core'.inFlightOrders.lookup "cl-2" = some order ∧
      core'.JudgedAlike .int64 (amend "KXBTC-YES" .buy)
        ((amend "KXBTC-YES" .buy).filledFrom order) := by
  have hrun : ∃ core core' : OrderManagerCore, ∃ order : InFlightOrder,
      callMachine.runVia (fun _ _ ↦ True) (.create {} {}) acknowledged = some core ∧
      core.validateAndTrackSubmission 2 (amend "KXBTC-YES" .buy) = (.ok (), core') ∧
      core'.inFlightOrders.lookup "cl-2" = some order ∧ order.requestedQtyLots = 5 ∧
      core'.globalRiskGate = {} :=
    ⟨_, _, _, rfl, rfl, rfl, rfl, rfl⟩
  obtain ⟨core, core', order, hrun, htracked, horder, hfive, hgate⟩ := hrun
  refine ⟨core, core', order, Machine.reachesVia_of_runVia hrun, htracked, horder, ?_⟩
  refine (replace_judged_as_created_iff rfl htracked horder (by decide)
    (by rw [hfive]; decide)).mpr ?_
  rintro (⟨hblank | hblank, _⟩ | hmisses)
  · cases hblank
  · exact absurd hblank (by decide)
  · rw [hgate] at hmisses
    simp [GlobalMisses] at hmisses

end TradingEngine
