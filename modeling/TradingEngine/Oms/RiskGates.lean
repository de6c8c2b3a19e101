import TradingEngine.Internal.Types
import TradingEngine.Lib.Int64

/-!
# The two risk gates of the order manager

`GlobalRiskGate` bounds the orders that are in flight, `PortfolioRiskGate` the position they would
lead to. Both are pure functions of a configuration, a snapshot and an intent. A limit of zero is
switched off. The source adds 64-bit numbers: the arithmetic is a parameter, `evaluate` is a gate
over the integers, and `SumsFit` says that no sum leaves 64 bits, so that the two are the same.

The spec lemmas `GlobalRiskGate.evaluate_allow` and `PortfolioRiskGate.evaluate_allow` say what an
admitted order-creating intent satisfies; everything above the gates uses only these.
-/

namespace TradingEngine

open Json (IsInt64 wrapInt64)

/-! ## Chains of checks -/

/-- Two chains whose first check answers with the same, that no later one answers with: they differ
where the first check is misjudged, or where it passes and the rest differs. -/
theorem ite_eq_ite_iff {α : Type*} {p q m n : Prop} [Decidable p] [Decidable q]
    {answer rest rest' : α} (h : answer ≠ rest) (h' : answer ≠ rest') (hcheck : (p ↔ q) ↔ ¬m)
    (hrest : rest = rest' ↔ ¬n) :
    (if p then answer else rest) = (if q then answer else rest') ↔ ¬(m ∨ ¬q ∧ n) := by
  rw [not_or, ← hcheck]
  by_cases hp : p
  · by_cases hq : q
    · simp [hp, hq]
    · simp [hp, hq, h']
  · by_cases hq : q
    · simp [hp, hq, h.symm]
    · simp [hp, hq, hrest]

/-- An answer that none of the later checks gives. -/
theorem ne_ite_of_ne {α : Type*} {p : Prop} [Decidable p] {answer a b : α} (ha : answer ≠ a)
    (hb : answer ≠ b) : answer ≠ if p then a else b := by
  split
  · exact ha
  · exact hb

/-- The last check. -/
theorem ite_eq_ite_iff_last {α : Type*} {p q m : Prop} [Decidable p] [Decidable q]
    {answer rest : α} (h : answer ≠ rest) (hcheck : (p ↔ q) ↔ ¬m) :
    (if p then answer else rest) = (if q then answer else rest) ↔ ¬m := by
  have hrest : rest = rest ↔ ¬False := iff_of_true rfl id
  rw [ite_eq_ite_iff h h hcheck hrest, and_false, or_false]

/-- A chain that lets something through does so with one answer, if each of its checks does. -/
theorem ite_eq_of_allow {α : Type*} {p : Prop} [Decidable p] {allow : α → Bool} {pass a b : α}
    (ha : allow a = true → a = pass) (hb : allow b = true → b = pass)
    (h : allow (if p then a else b) = true) : (if p then a else b) = pass := by
  by_cases hp : p
  · rw [if_pos hp] at h ⊢
    exact ha h
  · rw [if_neg hp] at h ⊢
    exact hb h

/-- The gates ask for the action in two steps. -/
theorem creates_iff (intent : OrderIntent) :
    intent.Creates ↔ intent.action ≠ .cancel ∧
      ¬(intent.action ≠ .place ∧ intent.action ≠ .replace) := by
  rw [OrderIntent.Creates]
  cases intent.action with
  | place => decide
  | cancel => decide
  | replace => decide
  | unknown => decide

/-! ## Orders in flight -/

structure GlobalRiskConfig where
  maxActiveOrdersGlobal : ℕ := 0
  maxActiveOrdersPerMarket : ℕ := 0
  maxOutstandingQtyGlobal : ℤ := 0
  maxOutstandingQtyPerMarket : ℤ := 0
  deriving DecidableEq

@[ext]
structure GlobalRiskSnapshot where
  activeOrdersGlobal : ℕ := 0
  activeOrdersMarket : ℕ := 0
  outstandingQtyGlobal : ℤ := 0
  outstandingQtyMarket : ℤ := 0
  deriving DecidableEq

/-- The snapshot as a loop over 64-bit totals leaves it. -/
def GlobalRiskSnapshot.wrapped (snapshot : GlobalRiskSnapshot) : GlobalRiskSnapshot :=
  { snapshot with
    outstandingQtyGlobal := wrapInt64 snapshot.outstandingQtyGlobal
    outstandingQtyMarket := wrapInt64 snapshot.outstandingQtyMarket }

inductive GlobalRiskRejectCode
  | none | activeOrdersGlobalLimit | activeOrdersMarketLimit
  | outstandingQtyGlobalLimit | outstandingQtyMarketLimit
  deriving DecidableEq

structure GlobalRiskDecision where
  allow : Bool := true
  code : GlobalRiskRejectCode := .none
  reasonMessage : String := ""
  deriving DecidableEq

namespace GlobalRiskGate

def allowDecision : GlobalRiskDecision := {}

def reject (code : GlobalRiskRejectCode) (reasonMessage : String) : GlobalRiskDecision :=
  { allow := false, code, reasonMessage }

def clampNonNegative (value : ℤ) : ℤ := max value 0

/-- The checks run in the order of the source; the first limit exceeded names the reject. -/
def evaluateWith (arithmetic : Arithmetic) (config : GlobalRiskConfig) (intent : OrderIntent)
    (snapshot : GlobalRiskSnapshot) : GlobalRiskDecision :=
  if intent.action = .cancel then allowDecision
  else if intent.action ≠ .place ∧ intent.action ≠ .replace then allowDecision
  else if config.maxActiveOrdersGlobal > 0 ∧
      snapshot.activeOrdersGlobal ≥ config.maxActiveOrdersGlobal then
    reject .activeOrdersGlobalLimit "global risk reject: max_active_orders_global exceeded"
  else if config.maxActiveOrdersPerMarket > 0 ∧
      snapshot.activeOrdersMarket ≥ config.maxActiveOrdersPerMarket then
    reject .activeOrdersMarketLimit "global risk reject: max_active_orders_per_market exceeded"
  else
    let intentQty := clampNonNegative intent.qtyLots
    if config.maxOutstandingQtyGlobal > 0 ∧
        arithmetic.add snapshot.outstandingQtyGlobal intentQty >
          config.maxOutstandingQtyGlobal then
      reject .outstandingQtyGlobalLimit "global risk reject: max_outstanding_qty_global exceeded"
    else if config.maxOutstandingQtyPerMarket > 0 ∧
        arithmetic.add snapshot.outstandingQtyMarket intentQty >
          config.maxOutstandingQtyPerMarket then
      reject .outstandingQtyMarketLimit
        "global risk reject: max_outstanding_qty_per_market exceeded"
    else allowDecision

def evaluate : GlobalRiskConfig → OrderIntent → GlobalRiskSnapshot → GlobalRiskDecision :=
  evaluateWith .exact

def rejectCodeName : GlobalRiskRejectCode → String
  | .none => "none"
  | .activeOrdersGlobalLimit => "active_orders_global_limit"
  | .activeOrdersMarketLimit => "active_orders_market_limit"
  | .outstandingQtyGlobalLimit => "outstanding_qty_global_limit"
  | .outstandingQtyMarketLimit => "outstanding_qty_market_limit"

/-- What an order-creating intent satisfies once the gate has let it through. -/
theorem evaluate_allow {config : GlobalRiskConfig} {intent : OrderIntent}
    {snapshot : GlobalRiskSnapshot} (hcreates : intent.Creates)
    (h : (evaluate config intent snapshot).allow = true) :
    (0 < config.maxActiveOrdersGlobal →
      snapshot.activeOrdersGlobal < config.maxActiveOrdersGlobal) ∧
    (0 < config.maxActiveOrdersPerMarket →
      snapshot.activeOrdersMarket < config.maxActiveOrdersPerMarket) ∧
    (0 < config.maxOutstandingQtyGlobal →
      snapshot.outstandingQtyGlobal + max intent.qtyLots 0 ≤ config.maxOutstandingQtyGlobal) ∧
    (0 < config.maxOutstandingQtyPerMarket →
      snapshot.outstandingQtyMarket + max intent.qtyLots 0
        ≤ config.maxOutstandingQtyPerMarket) := by
  obtain ⟨hcancel, hother⟩ := (creates_iff intent).mp hcreates
  rw [evaluate, evaluateWith, if_neg hcancel, if_neg hother] at h
  -- each failed check would have answered with a reject
  split at h
  · exact absurd h Bool.false_ne_true
  rename_i hactive
  split at h
  · exact absurd h Bool.false_ne_true
  rename_i hactiveMarket
  dsimp only [clampNonNegative] at h
  split at h
  · exact absurd h Bool.false_ne_true
  rename_i hqty
  split at h
  · exact absurd h Bool.false_ne_true
  rename_i hqtyMarket
  exact ⟨fun hpos ↦ not_le.mp fun hle ↦ hactive ⟨hpos, hle⟩,
    fun hpos ↦ not_le.mp fun hle ↦ hactiveMarket ⟨hpos, hle⟩,
    fun hpos ↦ not_lt.mp fun hlt ↦ hqty ⟨hpos, hlt⟩,
    fun hpos ↦ not_lt.mp fun hlt ↦ hqtyMarket ⟨hpos, hlt⟩⟩

/-- A decision that lets the intent through says nothing else. -/
theorem evaluateWith_eq_allowDecision {arithmetic : Arithmetic} {config : GlobalRiskConfig}
    {intent : OrderIntent} {snapshot : GlobalRiskSnapshot}
    (h : (evaluateWith arithmetic config intent snapshot).allow = true) :
    evaluateWith arithmetic config intent snapshot = allowDecision := by
  have hpass : allowDecision.allow = true → allowDecision = allowDecision := fun _ ↦ rfl
  have hreject : ∀ {code reasonMessage}, (reject code reasonMessage).allow = true →
      reject code reasonMessage = allowDecision := fun h ↦ absurd h Bool.false_ne_true
  exact ite_eq_of_allow hpass (ite_eq_of_allow hpass (ite_eq_of_allow hreject
    (ite_eq_of_allow hreject (ite_eq_of_allow hreject (ite_eq_of_allow hreject hpass))))) h

/-- The gate judges nothing but what creates an order. -/
theorem creates_of_refused {config : GlobalRiskConfig} {intent : OrderIntent}
    {snapshot : GlobalRiskSnapshot} (h : (evaluate config intent snapshot).allow = false) :
    intent.Creates := by
  refine (creates_iff intent).mpr ⟨fun hcancel ↦ ?_, fun hother ↦ ?_⟩
  · rw [evaluate, evaluateWith, if_pos hcancel] at h
    cases h
  · rw [evaluate, evaluateWith, if_pos hother, ite_self] at h
    cases h

/-- No sum that the gate computes for a limit leaves 64 bits. -/
structure SumsFit (config : GlobalRiskConfig) (intent : OrderIntent)
    (snapshot : GlobalRiskSnapshot) : Prop where
  global : 0 < config.maxOutstandingQtyGlobal →
    IsInt64 (snapshot.outstandingQtyGlobal + clampNonNegative intent.qtyLots)
  market : 0 < config.maxOutstandingQtyPerMarket →
    IsInt64 (snapshot.outstandingQtyMarket + clampNonNegative intent.qtyLots)

instance (config : GlobalRiskConfig) (intent : OrderIntent) (snapshot : GlobalRiskSnapshot) :
    Decidable (SumsFit config intent snapshot) :=
  decidable_of_iff ((_ → _) ∧ (_ → _)) ⟨fun h ↦ ⟨h.1, h.2⟩, fun h ↦ ⟨h.global, h.market⟩⟩

/-- Where the sums fit, the 64-bit gate is the gate over the integers, although the totals that it
is given may have wrapped. -/
theorem evaluateWith_int64 {config : GlobalRiskConfig} {intent : OrderIntent}
    {snapshot : GlobalRiskSnapshot} (h : SumsFit config intent snapshot) :
    evaluateWith .int64 config intent snapshot.wrapped = evaluate config intent snapshot := by
  have hadd : ∀ {limit total : ℤ},
      (0 < limit → IsInt64 (total + clampNonNegative intent.qtyLots)) →
      ((limit > 0 ∧
          Arithmetic.int64.add (wrapInt64 total) (clampNonNegative intent.qtyLots) > limit) ↔
        (limit > 0 ∧
          Arithmetic.exact.add total (clampNonNegative intent.qtyLots) > limit)) := by
    intro limit total hfit
    refine and_congr_right fun hpos ↦ ?_
    rw [Arithmetic.int64_add_wrapInt64, Json.wrapInt64_of_isInt64 (hfit hpos),
      Arithmetic.exact_add]
  rw [evaluate, evaluateWith, evaluateWith, GlobalRiskSnapshot.wrapped]
  simp only [hadd h.global, hadd h.market]

/-- With every limit switched off the gate is open. -/
theorem evaluate_unlimited (intent : OrderIntent) (snapshot : GlobalRiskSnapshot) :
    (evaluate {} intent snapshot).allow = true := by
  simp [evaluate, evaluateWith, allowDecision]

end GlobalRiskGate

/-! ## Positions -/

structure PortfolioRiskConfig where
  maxAbsNetPositionPerMarket : ℤ := 0
  maxAbsPositionGrossGlobal : ℤ := 0
  minRealizedPnlTicks : ℤ := 0
  enforceRealizedPnlFloor : Bool := false
  deriving DecidableEq

structure PortfolioRiskSnapshot where
  netPositionMarket : ℤ := 0
  grossPositionGlobal : ℤ := 0
  realizedPnlTicksTotal : ℤ := 0
  deriving DecidableEq

inductive PortfolioRiskRejectCode
  | none | invalidIntent | absNetPositionMarketLimit | absPositionGrossGlobalLimit
  | realizedPnlFloor
  deriving DecidableEq

structure PortfolioRiskDecision where
  allow : Bool := true
  code : PortfolioRiskRejectCode := .none
  reasonMessage : String := ""
  deriving DecidableEq

namespace PortfolioRiskGate

def allowDecision : PortfolioRiskDecision := {}

def reject (code : PortfolioRiskRejectCode) (reasonMessage : String) : PortfolioRiskDecision :=
  { allow := false, code, reasonMessage }

/-- The quantity of an intent with the sign of its side, zero where one of them is missing. -/
def signedIntentQtyWith (arithmetic : Arithmetic) (intent : OrderIntent) : ℤ :=
  if intent.qtyLots ≤ 0 then 0
  else match intent.side with
    | .buy | .bid => intent.qtyLots
    | .sell | .ask => arithmetic.neg intent.qtyLots
    | .unknown => 0

def signedIntentQty : OrderIntent → ℤ := signedIntentQtyWith .exact

def evaluateWith (arithmetic : Arithmetic) (config : PortfolioRiskConfig) (intent : OrderIntent)
    (snapshot : PortfolioRiskSnapshot) : PortfolioRiskDecision :=
  if intent.action = .cancel then allowDecision
  else if intent.action ≠ .place ∧ intent.action ≠ .replace then allowDecision
  else if config.enforceRealizedPnlFloor ∧
      snapshot.realizedPnlTicksTotal < config.minRealizedPnlTicks then
    reject .realizedPnlFloor "portfolio risk reject: realized_pnl_ticks_total breached floor"
  else
    let intentDelta := signedIntentQtyWith arithmetic intent
    if intentDelta = 0 then
      reject .invalidIntent "portfolio risk reject: side/qty is invalid"
    else
      let projectedMarketPosition := arithmetic.add snapshot.netPositionMarket intentDelta
      if config.maxAbsNetPositionPerMarket > 0 ∧
          arithmetic.abs projectedMarketPosition > config.maxAbsNetPositionPerMarket then
        reject .absNetPositionMarketLimit
          "portfolio risk reject: max_abs_net_position_per_market exceeded"
      else
        let projectedGrossGlobal := arithmetic.add
          (arithmetic.sub snapshot.grossPositionGlobal (arithmetic.abs snapshot.netPositionMarket))
          (arithmetic.abs projectedMarketPosition)
        if config.maxAbsPositionGrossGlobal > 0 ∧
            projectedGrossGlobal > config.maxAbsPositionGrossGlobal then
          reject .absPositionGrossGlobalLimit
            "portfolio risk reject: max_abs_position_gross_global exceeded"
        else allowDecision

def evaluate : PortfolioRiskConfig → OrderIntent → PortfolioRiskSnapshot → PortfolioRiskDecision :=
  evaluateWith .exact

def rejectCodeName : PortfolioRiskRejectCode → String
  | .none => "none"
  | .invalidIntent => "invalid_intent"
  | .absNetPositionMarketLimit => "abs_net_position_market_limit"
  | .absPositionGrossGlobalLimit => "abs_position_gross_global_limit"
  | .realizedPnlFloor => "realized_pnl_floor"

/-- What an order-creating intent satisfies once the gate has let it through. -/
theorem evaluate_allow {config : PortfolioRiskConfig} {intent : OrderIntent}
    {snapshot : PortfolioRiskSnapshot} (hcreates : intent.Creates)
    (h : (evaluate config intent snapshot).allow = true) :
    (0 < config.maxAbsNetPositionPerMarket →
      |snapshot.netPositionMarket + signedIntentQty intent|
        ≤ config.maxAbsNetPositionPerMarket) ∧
    (0 < config.maxAbsPositionGrossGlobal →
      snapshot.grossPositionGlobal - |snapshot.netPositionMarket|
          + |snapshot.netPositionMarket + signedIntentQty intent|
        ≤ config.maxAbsPositionGrossGlobal) := by
  obtain ⟨hcancel, hother⟩ := (creates_iff intent).mp hcreates
  rw [evaluate, evaluateWith, if_neg hcancel, if_neg hother] at h
  -- the floor and the check of side and quantity say nothing about the limits
  split at h
  · exact absurd h Bool.false_ne_true
  dsimp only at h
  split at h
  · exact absurd h Bool.false_ne_true
  split at h
  · exact absurd h Bool.false_ne_true
  rename_i hnet
  split at h
  · exact absurd h Bool.false_ne_true
  rename_i hgross
  exact ⟨fun hpos ↦ not_lt.mp fun hlt ↦ hnet ⟨hpos, hlt⟩,
    fun hpos ↦ not_lt.mp fun hlt ↦ hgross ⟨hpos, hlt⟩⟩

/-- The gate judges nothing but what creates an order. -/
theorem creates_of_refused {config : PortfolioRiskConfig} {intent : OrderIntent}
    {snapshot : PortfolioRiskSnapshot} (h : (evaluate config intent snapshot).allow = false) :
    intent.Creates := by
  refine (creates_iff intent).mpr ⟨fun hcancel ↦ ?_, fun hother ↦ ?_⟩
  · rw [evaluate, evaluateWith, if_pos hcancel] at h
    cases h
  · rw [evaluate, evaluateWith, if_pos hother, ite_self] at h
    cases h

/-- A decision that lets the intent through says nothing else. -/
theorem evaluateWith_eq_allowDecision {arithmetic : Arithmetic} {config : PortfolioRiskConfig}
    {intent : OrderIntent} {snapshot : PortfolioRiskSnapshot}
    (h : (evaluateWith arithmetic config intent snapshot).allow = true) :
    evaluateWith arithmetic config intent snapshot = allowDecision := by
  have hpass : allowDecision.allow = true → allowDecision = allowDecision := fun _ ↦ rfl
  have hreject : ∀ {code reasonMessage}, (reject code reasonMessage).allow = true →
      reject code reasonMessage = allowDecision := fun h ↦ absurd h Bool.false_ne_true
  exact ite_eq_of_allow hpass (ite_eq_of_allow hpass (ite_eq_of_allow hreject
    (ite_eq_of_allow hreject (ite_eq_of_allow hreject (ite_eq_of_allow hreject hpass))))) h

theorem signedIntentQty_eq_zero_iff (intent : OrderIntent) :
    signedIntentQty intent = 0 ↔ intent.side = .unknown ∨ intent.qtyLots ≤ 0 := by
  rw [signedIntentQty, signedIntentQtyWith]
  split
  · rename_i hqty
    exact iff_of_true rfl (.inr hqty)
  · rename_i hqty
    rw [or_iff_left hqty]
    cases intent.side with
    | unknown => simp
    | buy => simp; omega
    | sell => simp; omega
    | bid => simp; omega
    | ask => simp; omega

/-- Only the action and the signed quantity of an intent matter. -/
theorem evaluateWith_congr {arithmetic : Arithmetic} {intent intent' : OrderIntent}
    (haction : intent.action = intent'.action)
    (hqty : signedIntentQtyWith arithmetic intent = signedIntentQtyWith arithmetic intent')
    (config : PortfolioRiskConfig) (snapshot : PortfolioRiskSnapshot) :
    evaluateWith arithmetic config intent snapshot =
      evaluateWith arithmetic config intent' snapshot := by
  rw [evaluateWith, evaluateWith, haction, hqty]

theorem signedIntentQtyWith_int64 {intent : OrderIntent} (h : IsInt64 intent.qtyLots) :
    signedIntentQtyWith .int64 intent = signedIntentQty intent := by
  rw [signedIntentQty, signedIntentQtyWith, signedIntentQtyWith]
  split
  · rfl
  · rename_i hpos
    rw [Arithmetic.int64_neg_of_pos h (not_le.mp hpos)]

/-- Neither the quantity nor a position that the gate projects leaves 64 bits. -/
structure SumsFit (intent : OrderIntent) (snapshot : PortfolioRiskSnapshot) : Prop where
  qty : IsInt64 intent.qtyLots
  net : |snapshot.netPositionMarket| < 2 ^ 63
  projected : |snapshot.netPositionMarket + signedIntentQty intent| < 2 ^ 63
  others : IsInt64 (snapshot.grossPositionGlobal - |snapshot.netPositionMarket|)
  gross : IsInt64 (snapshot.grossPositionGlobal - |snapshot.netPositionMarket| +
    |snapshot.netPositionMarket + signedIntentQty intent|)

instance (intent : OrderIntent) (snapshot : PortfolioRiskSnapshot) :
    Decidable (SumsFit intent snapshot) :=
  decidable_of_iff (_ ∧ _ ∧ _ ∧ _ ∧ _)
    ⟨fun ⟨hqty, hnet, hprojected, hothers, hgross⟩ ↦ ⟨hqty, hnet, hprojected, hothers, hgross⟩,
      fun h ↦ ⟨h.qty, h.net, h.projected, h.others, h.gross⟩⟩

/-- Where they fit, the 64-bit gate is the gate over the integers. -/
theorem evaluateWith_int64 {intent : OrderIntent} {snapshot : PortfolioRiskSnapshot}
    (h : SumsFit intent snapshot) (config : PortfolioRiskConfig) :
    evaluateWith .int64 config intent snapshot = evaluate config intent snapshot := by
  have hprojected : IsInt64 (snapshot.netPositionMarket + signedIntentQty intent) := by
    obtain ⟨hmin, hmax⟩ := abs_lt.mp h.projected
    exact ⟨by omega, hmax⟩
  rw [evaluate, evaluateWith, evaluateWith, signedIntentQtyWith_int64 h.qty]
  dsimp only
  rw [Arithmetic.int64_add_of_isInt64 hprojected, Arithmetic.int64_abs_of_lt h.net,
    Arithmetic.exact_add, Arithmetic.int64_abs_of_lt h.projected, Arithmetic.exact_abs,
    Arithmetic.exact_abs, Arithmetic.int64_sub_of_isInt64 h.others, Arithmetic.exact_sub,
    Arithmetic.int64_add_of_isInt64 h.gross]
  rfl

/-- With every limit switched off the gate asks for a side and a quantity only. -/
theorem evaluate_unlimited {intent : OrderIntent} (snapshot : PortfolioRiskSnapshot)
    (hqty : signedIntentQty intent ≠ 0) : (evaluate {} intent snapshot).allow = true := by
  simp [evaluate, evaluateWith, allowDecision,
    show signedIntentQtyWith .exact intent ≠ 0 from hqty]

end PortfolioRiskGate

end TradingEngine
