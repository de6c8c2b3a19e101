import TradingEngine.Oms.GateProjection

/-!
# Long and short are alike

The ledger writes out its long and its short cases one by one: sign tests, absolute values, two
formulas for the profit, the test for a flip. If they are all right, a ledger that sees every buy as
a sell and every sell as a buy shows the same markets with the sign of every position and profit
turned round.

`Mirrors` relates two positions, `MirrorsLedger` two ledgers. A booking and its mirror image keep
the first relation (`MarketPositionState.Mirrors.book`), an update and its mirror image the second
one, and so do any updates from the empty ledger on.
-/

namespace TradingEngine

open PositionLedgerCore

/-! ## Mirror images -/

def Side.mirror : Side → Side
  | .buy => .sell
  | .sell => .buy
  | .bid => .ask
  | .ask => .bid
  | .unknown => .unknown

/-- The update with the side of its fill turned round. -/
def OrderStateUpdate.mirror (update : OrderStateUpdate) : OrderStateUpdate :=
  match update.data with
  | .fill fill => { update with data := .fill { fill with side := fill.side.mirror } }
  | _ => update

def Booking.mirror (b : Booking) : Booking :=
  { b with signedQty := -b.signedQty }

/-- The same market seen from the other side. -/
structure MarketPositionState.Mirrors (position position' : MarketPositionState) : Prop where
  exchange : position'.exchange = position.exchange
  marketTicker : position'.marketTicker = position.marketTicker
  netQtyLots : position'.netQtyLots = -position.netQtyLots
  avgOpenPriceTicks : position'.avgOpenPriceTicks = position.avgOpenPriceTicks
  hasOpenPrice : position'.hasOpenPrice = position.hasOpenPrice
  boughtQtyLots : position'.boughtQtyLots = position.soldQtyLots
  soldQtyLots : position'.soldQtyLots = position.boughtQtyLots
  closedQtyLots : position'.closedQtyLots = position.closedQtyLots
  realizedPnlTicks : position'.realizedPnlTicks = -position.realizedPnlTicks
  fillCount : position'.fillCount = position.fillCount
  lastFillTsNs : position'.lastFillTsNs = position.lastFillTsNs

theorem MarketPositionState.mirrors_empty :
    ({} : MarketPositionState).Mirrors {} := by
  constructor <;> rfl

/-! ## Updates -/

namespace PositionLedgerCore

theorem sideToSignedQty_mirror (side : Side) (qtyLots : ℤ) :
    sideToSignedQty side.mirror qtyLots = -sideToSignedQty side qtyLots := by
  cases side with
  | unknown => exact neg_zero.symm
  | buy => rfl
  | bid => rfl
  | sell => exact (neg_neg _).symm
  | ask => exact (neg_neg _).symm

/-- The checks do not see the side, but for an unknown one. -/
theorem checkFill_mirror (update : OrderStateUpdate) (fill : OrderFill) (data : OmsUpdateData) :
    checkFill { update with data := data } { fill with side := fill.side.mirror } =
      (checkFill update fill).map Booking.mirror := by
  have hticker : fillMarketTicker { update with data := data }
      { fill with side := fill.side.mirror } = fillMarketTicker update fill := rfl
  rw [checkFill, checkFill, hticker, sideToSignedQty_mirror]
  dsimp only
  split
  · rfl
  split
  · rfl
  by_cases hunknown : sideToSignedQty fill.side fill.fillQtyLots = 0
  · rw [if_pos hunknown, if_pos (neg_eq_zero.mpr hunknown)]
    rfl
  · rw [if_neg hunknown, if_neg fun h ↦ hunknown (neg_eq_zero.mp h)]
    rfl

end PositionLedgerCore

/-! ## One booking -/

theorem closedBy_neg (netQtyLots signedQty : ℤ) :
    closedBy (-netQtyLots) (-signedQty) = -closedBy netQtyLots signedQty := by
  rw [closedBy, closedBy]
  omega

theorem sameDirection_neg {oldNetQty signedFillQty : ℤ} :
    SameDirection (-oldNetQty) (-signedFillQty) ↔ SameDirection oldNetQty signedFillQty := by
  rw [SameDirection, SameDirection]
  omega

section

variable {position position' : MarketPositionState}

theorem MarketPositionState.Mirrors.realizedBy (h : position.Mirrors position') (b : Booking) :
    realizedBy position' b.mirror = -realizedBy position b := by
  rw [realizedBy_eq, realizedBy_eq, h.netQtyLots, h.avgOpenPriceTicks]
  have hclosed := closedBy_neg position.netQtyLots b.signedQty
  rw [Booking.mirror, hclosed, mul_neg]

theorem MarketPositionState.Mirrors.closes (h : position.Mirrors position') (b : Booking) :
    closes position' b.mirror = closes position b := by
  have hqty : b.mirror.signedQty = -b.signedQty := rfl
  rw [PositionLedgerCore.closes, PositionLedgerCore.closes, h.netQtyLots]
  refine decide_eq_decide.mpr ?_
  rw [hqty, sameDirection_neg, SameDirection]
  omega

theorem MarketPositionState.Mirrors.openPrice (h : position.Mirrors position') (b : Booking) :
    (book position' b.mirror).avgOpenPriceTicks = (book position b).avgOpenPriceTicks ∧
      (book position' b.mirror).hasOpenPrice = (book position b).hasOpenPrice := by
  have hqty : b.mirror.signedQty = -b.signedQty := rfl
  have hprice : b.mirror.price = b.price := rfl
  by_cases hflat : position.netQtyLots = 0
  · obtain ⟨havg, hopen⟩ := book_opened position b hflat
    obtain ⟨havg', hopen'⟩ := book_opened position' b.mirror (by rw [h.netQtyLots]; omega)
    rw [havg, hopen, havg', hopen', hprice]
    exact ⟨rfl, rfl⟩
  by_cases hsame : SameDirection position.netQtyLots b.signedQty
  · obtain ⟨havg, hopen⟩ := book_added position b hsame
    obtain ⟨havg', hopen'⟩ := book_added position' b.mirror
      (by rw [h.netQtyLots, hqty]; exact sameDirection_neg.mpr hsame)
    rw [havg, hopen, havg', hopen', weightedNotional, weightedNotional, h.netQtyLots,
      h.avgOpenPriceTicks, hqty, hprice, abs_neg, abs_neg]
    exact ⟨rfl, rfl⟩
  · obtain ⟨havg, hopen⟩ := book_against position b hflat hsame
    obtain ⟨havg', hopen'⟩ := book_against position' b.mirror (by rw [h.netQtyLots]; omega)
      (by rw [h.netQtyLots, hqty]; exact fun hmirror ↦ hsame (sameDirection_neg.mp hmirror))
    rw [havg, hopen, havg', hopen', h.netQtyLots, h.avgOpenPriceTicks, h.hasOpenPrice, hqty, hprice]
    refine ⟨if_congr (by omega) rfl rfl, if_congr (by omega) rfl (if_congr (by omega) rfl rfl)⟩

/-- **A booking and its mirror image.** -/
theorem MarketPositionState.Mirrors.book (h : position.Mirrors position') (b : Booking) :
    (book position b).Mirrors (book position' b.mirror) := by
  have hqty : b.mirror.signedQty = -b.signedQty := rfl
  obtain ⟨havg, hopen⟩ := h.openPrice b
  refine ⟨?_, ?_, ?_, havg, hopen, ?_, ?_, ?_, ?_, ?_, ?_⟩
  · exact (book_isAt _ _).exchange.trans (book_isAt position b).exchange.symm
  · exact (book_isAt _ _).marketTicker.trans (book_isAt position b).marketTicker.symm
  · rw [book_netQtyLots, book_netQtyLots, h.netQtyLots, hqty, neg_add]
  · rw [book_boughtQtyLots, book_soldQtyLots, h.boughtQtyLots, hqty]
  · rw [book_soldQtyLots, book_boughtQtyLots, h.soldQtyLots, hqty, neg_neg]
  · rw [book_closedQtyLots, book_closedQtyLots, h.closedQtyLots, h.netQtyLots, hqty, closedBy_neg,
      abs_neg]
  · rw [book_realizedPnlTicks, book_realizedPnlTicks, h.realizedPnlTicks, h.realizedBy, neg_add]
  · rw [book_fillCount, book_fillCount, h.fillCount]
  · rw [book_lastFillTsNs, book_lastFillTsNs]
    rfl

end

/-! ## The ledger -/

/-- The same ledger seen from the other side. -/
structure PositionLedgerCore.MirrorsLedger (core core' : PositionLedgerCore) : Prop where
  positions : ∀ key, Option.Rel MarketPositionState.Mirrors (core.positions.lookup key)
    (core'.positions.lookup key)
  processedFillCount : core'.processedFillCount = core.processedFillCount
  ignoredUpdateCount : core'.ignoredUpdateCount = core.ignoredUpdateCount
  rejectedFillCount : core'.rejectedFillCount = core.rejectedFillCount
  closedPositionCount : core'.closedPositionCount = core.closedPositionCount
  realizedPnlTicksTotal : core'.realizedPnlTicksTotal = -core.realizedPnlTicksTotal

namespace PositionLedgerCore

variable {core core' : PositionLedgerCore}

theorem MirrorsLedger.positionAt (h : core.MirrorsLedger core') (key : MarketKey) :
    (core.positionAt key).Mirrors (core'.positionAt key) := by
  have hrel := h.positions key
  rw [PositionLedgerCore.positionAt, PositionLedgerCore.positionAt]
  cases hlookup : core.positions.lookup key with
  | none =>
    cases hlookup' : core'.positions.lookup key with
    | none => exact MarketPositionState.mirrors_empty
    | some position' => rw [hlookup, hlookup'] at hrel; cases hrel
  | some position =>
    cases hlookup' : core'.positions.lookup key with
    | none => rw [hlookup, hlookup'] at hrel; cases hrel
    | some position' =>
      rw [hlookup, hlookup'] at hrel
      cases hrel with
      | some hmirrors => exact hmirrors

theorem MirrorsLedger.applyBooking (h : core.MirrorsLedger core') (b : Booking) :
    (core.applyBooking b).MirrorsLedger (core'.applyBooking b.mirror) := by
  have hposition := h.positionAt b.key
  have hkey : b.mirror.key = b.key := rfl
  refine ⟨fun key ↦ ?_, ?_, h.ignoredUpdateCount, h.rejectedFillCount, ?_, ?_⟩
  · rw [PositionLedgerCore.applyBooking, PositionLedgerCore.applyBooking, hkey]
    dsimp only
    by_cases hsame : key = b.key
    · rw [hsame, AList.lookup_insert, AList.lookup_insert]
      exact .some (hposition.book b)
    · rw [AList.lookup_insert_ne hsame, AList.lookup_insert_ne hsame]
      exact h.positions key
  · exact congrArg (· + 1) h.processedFillCount
  · simp only [PositionLedgerCore.applyBooking, hkey, hposition.closes, h.closedPositionCount]
  · simp only [PositionLedgerCore.applyBooking, hkey, hposition.realizedBy,
      h.realizedPnlTicksTotal, neg_add]

theorem MirrorsLedger.ignore (h : core.MirrorsLedger core') :
    MirrorsLedger { core with ignoredUpdateCount := core.ignoredUpdateCount + 1 }
      { core' with ignoredUpdateCount := core'.ignoredUpdateCount + 1 } :=
  ⟨h.positions, h.processedFillCount, congrArg (· + 1) h.ignoredUpdateCount, h.rejectedFillCount,
    h.closedPositionCount, h.realizedPnlTicksTotal⟩

theorem MirrorsLedger.refuse (h : core.MirrorsLedger core') :
    MirrorsLedger { core with rejectedFillCount := core.rejectedFillCount + 1 }
      { core' with rejectedFillCount := core'.rejectedFillCount + 1 } :=
  ⟨h.positions, h.processedFillCount, h.ignoredUpdateCount, congrArg (· + 1) h.rejectedFillCount,
    h.closedPositionCount, h.realizedPnlTicksTotal⟩

/-- **An update and its mirror image.** -/
theorem MirrorsLedger.onOrderUpdate (h : core.MirrorsLedger core') (update : OrderStateUpdate) :
    (core.onOrderUpdate update).2.MirrorsLedger (core'.onOrderUpdate update.mirror).2 := by
  have hstatus : update.mirror.status = update.status := by
    rw [OrderStateUpdate.mirror]
    split <;> rfl
  rw [PositionLedgerCore.onOrderUpdate, PositionLedgerCore.onOrderUpdate, hstatus]
  by_cases hignored : update.status ≠ .filled ∧ update.status ≠ .partiallyFilled
  · rw [if_pos hignored, if_pos hignored]
    exact h.ignore
  rw [if_neg hignored, if_neg hignored, OrderStateUpdate.mirror]
  cases hdata : update.data with
  | fill fill =>
    dsimp only
    rw [applyFill, applyFill, checkFill_mirror]
    cases checkFill update fill with
    | error message => exact h.refuse
    | ok b => exact h.applyBooking b
  | monostate =>
    rw [hdata]
    exact h.refuse
  | ack ack =>
    rw [hdata]
    exact h.refuse
  | reject reject =>
    rw [hdata]
    exact h.refuse

theorem MirrorsLedger.run (h : core.MirrorsLedger core') (updates : List OrderStateUpdate) :
    (core.run updates).MirrorsLedger (core'.run (updates.map OrderStateUpdate.mirror)) := by
  induction updates generalizing core core' with
  | nil => exact h
  | cons update updates ih => exact ih (h.onOrderUpdate update)

theorem mirrorsLedger_empty : ({} : PositionLedgerCore).MirrorsLedger {} where
  positions _ := .none
  processedFillCount := rfl
  ignoredUpdateCount := rfl
  rejectedFillCount := rfl
  closedPositionCount := rfl
  realizedPnlTicksTotal := rfl

end PositionLedgerCore

/-- **Long and short are alike.** The ledger that sees the mirror image of every update is the
mirror image of the ledger, in every market, in its counters and in the realized total. -/
theorem ledger_mirror (updates : List OrderStateUpdate) :
    (ofUpdates updates).MirrorsLedger (ofUpdates (updates.map OrderStateUpdate.mirror)) :=
  mirrorsLedger_empty.run updates

end TradingEngine
