import Mathlib.Algebra.Ring.Int.Defs
import TradingEngine.Oms.LedgerInvariants

/-!
# What the portfolio gate projects is what the ledger will show

The gate has a formula of its own for the position an intent leads to: the net position of the
market with the signed quantity added, and the gross position with the size of the market replaced.
The ledger gets there fill by fill, through its branches for opening, adding, reducing, closing and
flipping. Both agree, however the quantity is cut into fills.

The gross position less the size of one market is what the fills of that market leave alone
(`grossPosition_run`), so the two numbers of the snapshot depend on the sum of the fills only.
-/

namespace TradingEngine

open PositionLedgerCore

namespace PositionLedgerCore

/-- The sign of a side: buys and bids add to a position, sells and asks take from it. -/
def direction : Side → ℤ
  | .buy | .bid => 1
  | .sell | .ask => -1
  | .unknown => 0

theorem sideToSignedQty_eq (side : Side) (qtyLots : ℤ) :
    sideToSignedQty side qtyLots = direction side * qtyLots := by
  cases side with
  | unknown => exact (zero_mul _).symm
  | buy => exact (one_mul _).symm
  | bid => exact (one_mul _).symm
  | sell => exact (neg_one_mul _).symm
  | ask => exact (neg_one_mul _).symm

end PositionLedgerCore

namespace PortfolioRiskGate

theorem signedIntentQty_eq {intent : OrderIntent} (hqty : 0 < intent.qtyLots) :
    signedIntentQty intent = direction intent.side * intent.qtyLots := by
  rw [signedIntentQty, signedIntentQtyWith, if_neg (not_le.mpr hqty), ← sideToSignedQty_eq]
  rfl

/-- **The gate, in full,** while the floor is switched off: an intent with a side and a quantity is
let through exactly when both projections are within their limits. -/
theorem evaluate_allow_iff {config : PortfolioRiskConfig} {intent : OrderIntent}
    {snapshot : PortfolioRiskSnapshot} (hfloor : config.enforceRealizedPnlFloor = false)
    (hcreates : intent.Creates) (hside : intent.side ≠ .unknown) (hqty : 0 < intent.qtyLots) :
    (evaluate config intent snapshot).allow = true ↔
      (0 < config.maxAbsNetPositionPerMarket →
        |snapshot.netPositionMarket + signedIntentQty intent|
          ≤ config.maxAbsNetPositionPerMarket) ∧
      (0 < config.maxAbsPositionGrossGlobal →
        snapshot.grossPositionGlobal - |snapshot.netPositionMarket|
            + |snapshot.netPositionMarket + signedIntentQty intent|
          ≤ config.maxAbsPositionGrossGlobal) := by
  refine ⟨evaluate_allow hcreates, fun ⟨hnet, hgross⟩ ↦ ?_⟩
  obtain ⟨hcancel, hother⟩ := (creates_iff intent).mp hcreates
  have hvalid : signedIntentQty intent ≠ 0 := by
    rw [Ne, signedIntentQty_eq_zero_iff]
    rintro (hunknown | hnone)
    · exact hside hunknown
    · exact absurd hqty (not_lt.mpr hnone)
  have hexact : signedIntentQtyWith .exact intent = signedIntentQty intent := rfl
  rw [evaluate, evaluateWith, if_neg hcancel, if_neg hother, if_neg (by simp [hfloor])]
  dsimp only
  rw [hexact, if_neg hvalid, if_neg fun h ↦ not_lt.mpr (hnet h.1) h.2,
    if_neg fun h ↦ not_lt.mpr (hgross h.1) h.2]
  rfl

end PortfolioRiskGate

/-! ## Fills of one market -/

/-- The update carries this fill, the ledger books it to the market of the intent, and it is on the
side of the intent. -/
structure FillsIntent (intent : OrderIntent) (update : OrderStateUpdate) (fill : OrderFill) :
    Prop where
  data : update.data = .fill fill
  accepted : (bookingOf update).isSome
  exchange : update.exchange = intent.exchange
  marketTicker : fillMarketTicker update fill = intent.marketTicker
  side : direction fill.side = direction intent.side

/-- The market of an intent. -/
def OrderIntent.market (intent : OrderIntent) : MarketKey :=
  { exchange := intent.exchange, marketTicker := intent.marketTicker }

namespace PositionLedgerCore

variable {intent : OrderIntent} {fills : List (OrderStateUpdate × OrderFill)}

theorem FillsIntent.booked {update : OrderStateUpdate} {fill : OrderFill}
    (h : FillsIntent intent update fill) :
    ∃ b, bookingOf update = some b ∧ b.key = intent.market ∧
      b.signedQty = direction intent.side * fill.fillQtyLots := by
  obtain ⟨b, hb⟩ := Option.isSome_iff_exists.mp h.accepted
  obtain ⟨fill', hdata, hcheck⟩ := bookingOf_some hb
  obtain rfl : fill = fill' := OmsUpdateData.fill.inj (h.data.symm.trans hdata)
  obtain ⟨_, _, _, rfl⟩ := checkFill_ok hcheck
  refine ⟨_, hb, ?_, ?_⟩
  · rw [h.exchange, h.marketTicker, OrderIntent.market]
  · rw [sideToSignedQty_eq, h.side]

/-- An accepted fill is booked. -/
theorem onOrderUpdate_of_booking {update : OrderStateUpdate} {b : Booking}
    (h : bookingOf update = some b) (core : PositionLedgerCore) :
    core.onOrderUpdate update = (.ok (), core.applyBooking b) := by
  rcases core.onOrderUpdate_cases update with ⟨hnone, _⟩ | ⟨_, hnone, _⟩ | ⟨b', hb, _, heq⟩
  · exact absurd (hnone.symm.trans h) (by simp)
  · exact absurd (hnone.symm.trans h) (by simp)
  · obtain rfl : b' = b := Option.some.inj (hb.symm.trans h)
    exact heq

/-- Fills of one market add up in its net position. -/
theorem netPosition_run (core : PositionLedgerCore)
    (hfills : ∀ p ∈ fills, FillsIntent intent p.1 p.2) :
    (core.run (fills.map Prod.fst)).netPosition intent.market =
      core.netPosition intent.market
        + direction intent.side * (fills.map fun p ↦ p.2.fillQtyLots).sum := by
  induction fills generalizing core with
  | nil =>
    rw [List.map_nil, List.map_nil, List.sum_nil, mul_zero, add_zero]
    rfl
  | cons p fills ih =>
    obtain ⟨b, hb, hkey, hqty⟩ := FillsIntent.booked (hfills p List.mem_cons_self)
    have hrun : core.run ((p :: fills).map Prod.fst) =
        (core.applyBooking b).run (fills.map Prod.fst) := by
      rw [List.map_cons, run, List.foldl_cons, onOrderUpdate_of_booking hb]
      rfl
    rw [hrun, ih _ fun q hq ↦ hfills q (List.mem_cons_of_mem _ hq), netPosition_applyBooking,
      if_pos hkey.symm, hqty, List.map_cons, List.sum_cons, mul_add, add_assoc]

/-- Fills of one market leave the rest of the gross position alone. -/
theorem grossPosition_run (core : PositionLedgerCore)
    (hfills : ∀ p ∈ fills, FillsIntent intent p.1 p.2) :
    (core.run (fills.map Prod.fst)).grossPosition intent.exchange
        - |(core.run (fills.map Prod.fst)).netPosition intent.market| =
      core.grossPosition intent.exchange - |core.netPosition intent.market| := by
  induction fills generalizing core with
  | nil => rfl
  | cons p fills ih =>
    obtain ⟨b, hb, hkey, _⟩ := FillsIntent.booked (hfills p List.mem_cons_self)
    have hrun : core.run ((p :: fills).map Prod.fst) =
        (core.applyBooking b).run (fills.map Prod.fst) := by
      rw [List.map_cons, run, List.foldl_cons, onOrderUpdate_of_booking hb]
      rfl
    have hexchange : b.key.exchange = intent.exchange := by rw [hkey]; rfl
    rw [hrun, ih _ fun q hq ↦ hfills q (List.mem_cons_of_mem _ hq), netPosition_applyBooking,
      if_pos hkey.symm, grossPosition_applyBooking, if_neg (not_not.mpr hexchange), hkey]
    omega

end PositionLedgerCore

/-! ## The gate and the ledger -/

/-- A snapshot within those limits that are switched on. -/
def PortfolioRiskSnapshot.Within (snapshot : PortfolioRiskSnapshot) (limits : PortfolioRiskConfig) :
    Prop :=
  (0 < limits.maxAbsNetPositionPerMarket →
    |snapshot.netPositionMarket| ≤ limits.maxAbsNetPositionPerMarket) ∧
  (0 < limits.maxAbsPositionGrossGlobal →
    snapshot.grossPositionGlobal ≤ limits.maxAbsPositionGrossGlobal)

/-- **The projection comes true.** After any history of the ledger the gate lets an intent through
exactly when the ledger, once the intent is filled in whatever pieces, is within the limits. -/
theorem allow_iff_filled_within (limits : PortfolioRiskConfig) (history : List OrderStateUpdate)
    (intent : OrderIntent) (hfloor : limits.enforceRealizedPnlFloor = false)
    (hcreates : intent.Creates) (hside : intent.side ≠ .unknown) (hqty : 0 < intent.qtyLots)
    {fills : List (OrderStateUpdate × OrderFill)}
    (hfills : ∀ p ∈ fills, FillsIntent intent p.1 p.2)
    (hsum : (fills.map fun p ↦ p.2.fillQtyLots).sum = intent.qtyLots) :
    (PortfolioRiskGate.evaluate limits intent
      ((ofUpdates history).portfolioRiskSnapshot intent.exchange
        intent.marketTicker)).allow = true ↔
    (((ofUpdates history).run (fills.map Prod.fst)).portfolioRiskSnapshot intent.exchange
      intent.marketTicker).Within limits := by
  have hnet := (ofUpdates history).netPosition_run hfills
  have hgross := (ofUpdates history).grossPosition_run hfills
  -- the two numbers of a snapshot, named
  have hnetShown : ∀ core : PositionLedgerCore,
      (core.portfolioRiskSnapshot intent.exchange intent.marketTicker).netPositionMarket =
        core.netPosition intent.market :=
    fun core ↦ core.portfolioRiskSnapshot_netPositionMarket _ _
  have hgrossShown : ∀ core : PositionLedgerCore,
      (core.portfolioRiskSnapshot intent.exchange intent.marketTicker).grossPositionGlobal =
        core.grossPosition intent.exchange := fun _ ↦ rfl
  rw [hsum, ← PortfolioRiskGate.signedIntentQty_eq hqty] at hnet
  rw [PortfolioRiskGate.evaluate_allow_iff hfloor hcreates hside hqty,
    PortfolioRiskSnapshot.Within, hnetShown, hnetShown, hgrossShown, hgrossShown, ← hnet,
    ← hgross, sub_add_cancel]

namespace GateProjectionExample

open SampleOrders

/-- The market is short when the intent arrives. -/
def short : List OrderStateUpdate := [fillOf .sell 3 50]

/-- The second fill takes the position across zero. -/
def pieces : List (OrderStateUpdate × OrderFill) :=
  [(fillOf .buy 2 48, fill .buy 2 48), (fillOf .bid 5 49, fill .bid 5 49),
    (fillOf .buy 1 47, fill .buy 1 47)]

def limits : PortfolioRiskConfig where
  maxAbsNetPositionPerMarket := 5
  maxAbsPositionGrossGlobal := 5

end GateProjectionExample

open SampleOrders GateProjectionExample in
/-- Both limits are reached, and neither is passed. -/
theorem allow_iff_filled_within_across_zero :
    (((ofUpdates short).run (pieces.map Prod.fst)).portfolioRiskSnapshot .kalshi
      "KXBTC-YES").netPositionMarket = 5 ∧
    (((ofUpdates short).run (pieces.map Prod.fst)).portfolioRiskSnapshot .kalshi
      "KXBTC-YES").Within limits := by
  refine ⟨rfl, ?_⟩
  have hfills : ∀ p ∈ pieces, FillsIntent (buy 8) p.1 p.2 := by
    intro p hp
    rw [pieces, List.mem_cons, List.mem_cons, List.mem_singleton] at hp
    obtain rfl | rfl | rfl := hp
    · exact ⟨rfl, rfl, rfl, rfl, rfl⟩
    · exact ⟨rfl, rfl, rfl, rfl, rfl⟩
    · exact ⟨rfl, rfl, rfl, rfl, rfl⟩
  exact (allow_iff_filled_within limits short (buy 8) rfl (.inl rfl) (by decide) (by decide)
    hfills rfl).mp rfl

end TradingEngine
