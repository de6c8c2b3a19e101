import TradingEngine.Oms.GateProjection

/-!
# Executions in pieces

The exchange may report one execution as one fill or as several. For a fill that finds the market
flat, or that is against its position, the ledger does not tell the two apart: cut into two fills at
the same price it leaves the same position, wherever the position crosses zero. Only the number of
fills and the time of the last one show it.

One booking may take the flip branch where two take the branches for closing and opening, or for
flipping and adding. In terms of signed quantities there is less to tell apart. What two fills close
is what one closes (`closedBy_add`), and the price is that of the fills once the position has
changed sides, since the average of a price with itself is exact.

A fill that adds to a position is another matter: there the quotient is truncated once more.
-/

namespace TradingEngine

open PositionLedgerCore

/-- The same books, up to the number of fills and the time of the last one. -/
structure MarketPositionState.SameBooks (position position' : MarketPositionState) : Prop where
  netQtyLots : position.netQtyLots = position'.netQtyLots
  avgOpenPriceTicks : position.avgOpenPriceTicks = position'.avgOpenPriceTicks
  hasOpenPrice : position.hasOpenPrice = position'.hasOpenPrice
  boughtQtyLots : position.boughtQtyLots = position'.boughtQtyLots
  soldQtyLots : position.soldQtyLots = position'.soldQtyLots
  closedQtyLots : position.closedQtyLots = position'.closedQtyLots
  realizedPnlTicks : position.realizedPnlTicks = position'.realizedPnlTicks

namespace PositionLedgerCore

/-- A signed quantity that finds a position flat, or is against it. -/
def OpensOrOpposes (netQtyLots signedQty : ℤ) : Prop :=
  netQtyLots = 0 ∨ (0 < netQtyLots ∧ signedQty < 0) ∨ (netQtyLots < 0 ∧ 0 < signedQty)

/-- Two quantities on one side of the market. -/
def OneSide (qty₁ qty₂ : ℤ) : Prop := (0 < qty₁ ∧ 0 < qty₂) ∨ (qty₁ < 0 ∧ qty₂ < 0)

section

variable {net qty₁ qty₂ : ℤ}

theorem closedBy_add (hside : OneSide qty₁ qty₂) :
    closedBy net qty₁ + closedBy (net + qty₁) qty₂ = closedBy net (qty₁ + qty₂) := by
  rcases hside with ⟨h₁, h₂⟩ | ⟨h₁, h₂⟩
  · rw [closedBy_of_pos h₁, closedBy_of_pos h₂, closedBy_of_pos (add_pos h₁ h₂)]
    omega
  · rw [closedBy_of_neg h₁, closedBy_of_neg h₂, closedBy_of_neg (add_neg h₁ h₂)]
    omega

theorem abs_closedBy_add (hside : OneSide qty₁ qty₂) :
    |closedBy net qty₁| + |closedBy (net + qty₁) qty₂| = |closedBy net (qty₁ + qty₂)| := by
  have hadd : closedBy net qty₁ + closedBy (net + qty₁) qty₂ = closedBy net (qty₁ + qty₂) :=
    closedBy_add hside
  rcases hside with ⟨h₁, h₂⟩ | ⟨h₁, h₂⟩
  · have hnonpos : ∀ {net qty : ℤ}, 0 < qty → closedBy net qty ≤ 0 := by
      intro net qty h
      rw [closedBy_of_pos h]
      omega
    rw [abs_of_nonpos (hnonpos h₁), abs_of_nonpos (hnonpos h₂),
      abs_of_nonpos (hnonpos (add_pos h₁ h₂)), ← hadd, neg_add]
  · have hnonneg : ∀ {net qty : ℤ}, qty < 0 → 0 ≤ closedBy net qty := by
      intro net qty h
      rw [closedBy_of_neg h]
      exact le_max_left _ _
    rw [abs_of_nonneg (hnonneg h₁), abs_of_nonneg (hnonneg h₂),
      abs_of_nonneg (hnonneg (add_neg h₁ h₂)), hadd]

end

/-- The average of a price with itself. -/
theorem weightedNotional_tdiv_self {position : MarketPositionState} {b : Booking}
    (hprice : position.avgOpenPriceTicks = b.price) (hqty : b.signedQty ≠ 0) :
    (weightedNotional position b).tdiv (|position.netQtyLots| + |b.signedQty|) = b.price := by
  have hpos : 0 < |b.signedQty| := abs_pos.mpr hqty
  have hnonneg := abs_nonneg position.netQtyLots
  rw [weightedNotional, hprice, ← mul_add]
  exact Int.mul_tdiv_cancel b.price (by omega)

section Split

variable {position : MarketPositionState} {b₁ b₂ : Booking}

/-- Once the first fill has the position on its side, the second one leaves its price alone. -/
theorem book_openPrice_of_turned (hside : OneSide b₁.signedQty b₂.signedQty)
    (hprice : b₂.price = b₁.price)
    (hturned : SameDirection (position.netQtyLots + b₁.signedQty) b₂.signedQty)
    (hfirst : (book position b₁).avgOpenPriceTicks = b₁.price) :
    (book (book position b₁) b₂).avgOpenPriceTicks = b₁.price ∧
      (book (book position b₁) b₂).hasOpenPrice = true := by
  have hsame : SameDirection (book position b₁).netQtyLots b₂.signedQty := by
    rw [book_netQtyLots]
    exact hturned
  have hqty : b₂.signedQty ≠ 0 := by
    rw [OneSide] at hside
    omega
  obtain ⟨havg, hopen⟩ := book_added (book position b₁) b₂ hsame
  rw [weightedNotional_tdiv_self (hfirst.trans hprice.symm) hqty, hprice] at havg
  exact ⟨havg, hopen⟩

/-- **The open price**, wherever the position crosses zero. -/
theorem book_openPrice_split {b : Booking} (hside : OneSide b₁.signedQty b₂.signedQty)
    (hplace : OpensOrOpposes position.netQtyLots b₁.signedQty)
    (hqty : b.signedQty = b₁.signedQty + b₂.signedQty) (hprice₁ : b₁.price = b.price)
    (hprice₂ : b₂.price = b.price) :
    (book (book position b₁) b₂).avgOpenPriceTicks = (book position b).avgOpenPriceTicks ∧
      (book (book position b₁) b₂).hasOpenPrice = (book position b).hasOpenPrice := by
  have hnet₁ := book_netQtyLots position b₁
  have hside' := hside
  rw [OneSide] at hside'
  rw [OpensOrOpposes] at hplace
  by_cases hflat : position.netQtyLots = 0
  · -- both ways the market is opened at the price of the fills
    have hturned : SameDirection (position.netQtyLots + b₁.signedQty) b₂.signedQty := by
      rw [SameDirection]
      omega
    obtain ⟨havg, hopen⟩ := book_openPrice_of_turned hside (hprice₂.trans hprice₁.symm) hturned
      (book_opened position b₁ hflat).1
    obtain ⟨havg', hopen'⟩ := book_opened position b hflat
    rw [havg, hopen, havg', hopen', hprice₁]
    exact ⟨rfl, rfl⟩
  by_cases hturned : SameDirection (position.netQtyLots + b₁.signedQty) b₂.signedQty
  · -- the first fill alone crosses zero
    have hcross := hturned
    rw [SameDirection] at hcross
    obtain ⟨havg, hopen⟩ := book_openPrice_of_turned hside (hprice₂.trans hprice₁.symm) hturned
      (book_flipped position b₁ (by omega)).1
    obtain ⟨havg', hopen'⟩ := book_flipped position b (by omega)
    rw [havg, hopen, havg', hopen', hprice₁]
    exact ⟨rfl, rfl⟩
  rw [SameDirection] at hturned
  by_cases hzero : position.netQtyLots + b₁.signedQty = 0
  · -- the first fill closes, the second one opens
    obtain ⟨havg, hopen⟩ := book_opened (book position b₁) b₂ (hnet₁.trans hzero)
    obtain ⟨havg', hopen'⟩ := book_flipped position b (by omega)
    rw [havg, hopen, havg', hopen', hprice₂]
    exact ⟨rfl, rfl⟩
  -- the first fill reduces: the second one does to the rest what the whole does
  obtain ⟨havg₁, hopen₁⟩ := book_reduced position b₁ hflat
    (by rw [SameDirection]; omega) (by omega) hzero
  by_cases hclosed : position.netQtyLots + b.signedQty = 0
  · obtain ⟨havg, hopen⟩ := book_closed (book position b₁) b₂ (by omega)
      (by omega)
    obtain ⟨havg', hopen'⟩ := book_closed position b hflat hclosed
    rw [havg, hopen, havg', hopen', havg₁]
    exact ⟨rfl, rfl⟩
  by_cases hflip : 0 < position.netQtyLots ↔ 0 < position.netQtyLots + b.signedQty
  · obtain ⟨havg, hopen⟩ := book_reduced (book position b₁) b₂ (by omega)
      (by rw [SameDirection]; omega) (by omega) (by omega)
    obtain ⟨havg', hopen'⟩ := book_reduced position b hflat
      (by rw [SameDirection]; omega) hflip hclosed
    rw [havg, hopen, havg', hopen', havg₁, hopen₁]
    exact ⟨rfl, rfl⟩
  · obtain ⟨havg, hopen⟩ := book_flipped (book position b₁) b₂ (by omega)
    obtain ⟨havg', hopen'⟩ := book_flipped position b (by omega)
    rw [havg, hopen, havg', hopen', hprice₂]
    exact ⟨rfl, rfl⟩

/-- **Two bookings for one.** -/
theorem book_split {b : Booking} (hside : OneSide b₁.signedQty b₂.signedQty)
    (hplace : OpensOrOpposes position.netQtyLots b₁.signedQty)
    (hqty : b.signedQty = b₁.signedQty + b₂.signedQty) (hprice₁ : b₁.price = b.price)
    (hprice₂ : b₂.price = b.price) :
    (book (book position b₁) b₂).SameBooks (book position b) := by
  have hside' := hside
  rw [OneSide] at hside'
  obtain ⟨havg, hopen⟩ := book_openPrice_split hside hplace hqty hprice₁ hprice₂
  refine ⟨?_, havg, hopen, ?_, ?_, ?_, ?_⟩
  · rw [book_netQtyLots, book_netQtyLots, book_netQtyLots, hqty, add_assoc]
  · rw [book_boughtQtyLots, book_boughtQtyLots, book_boughtQtyLots, hqty]
    omega
  · rw [book_soldQtyLots, book_soldQtyLots, book_soldQtyLots, hqty]
    omega
  · rw [book_closedQtyLots, book_closedQtyLots, book_closedQtyLots, book_netQtyLots, add_assoc,
      abs_closedBy_add hside, hqty]
  · -- what is closed is closed at one price against one average
    have hrest : (b₂.price - (book position b₁).avgOpenPriceTicks)
          * closedBy (position.netQtyLots + b₁.signedQty) b₂.signedQty =
        (b.price - position.avgOpenPriceTicks)
          * closedBy (position.netQtyLots + b₁.signedQty) b₂.signedQty := by
      by_cases hnone : closedBy (position.netQtyLots + b₁.signedQty) b₂.signedQty = 0
      · rw [hnone, mul_zero, mul_zero]
      · rw [closedBy] at hnone
        rw [OpensOrOpposes] at hplace
        rw [hprice₂, (book_reduced position b₁ (by omega) (by rw [SameDirection]; omega) (by omega)
          (by omega)).1]
    rw [book_realizedPnlTicks, book_realizedPnlTicks, book_realizedPnlTicks, realizedBy_eq,
      realizedBy_eq, realizedBy_eq, book_netQtyLots, hrest, hprice₁, hqty, add_assoc, ← mul_add,
      closedBy_add hside]

end Split

end PositionLedgerCore

/-! ## Fills -/

/-- The update is a fill of this market that the ledger accepts, with this side, quantity and
price. -/
structure Executes (update : OrderStateUpdate) (key : MarketKey) (side : Side)
    (qtyLots priceTicks : ℤ) : Prop where
  exchange : update.exchange = key.exchange
  accepted : (bookingOf update).isSome
  fill : ∃ fill, update.data = .fill fill ∧ fillMarketTicker update fill = key.marketTicker ∧
    fill.side = side ∧ fill.fillQtyLots = qtyLots ∧ fill.fillPriceTicks = priceTicks

theorem Executes.booked {update : OrderStateUpdate} {key : MarketKey} {side : Side}
    {qtyLots priceTicks : ℤ} (h : Executes update key side qtyLots priceTicks) :
    ∃ b, bookingOf update = some b ∧ b.key = key ∧ b.signedQty = direction side * qtyLots ∧
      b.signedQty ≠ 0 ∧ b.price = priceTicks := by
  obtain ⟨b, hb⟩ := Option.isSome_iff_exists.mp h.accepted
  obtain ⟨fill, hdata, hmarket, rfl, rfl, rfl⟩ := h.fill
  obtain ⟨fill', hdata', hcheck⟩ := bookingOf_some hb
  obtain rfl : fill = fill' := OmsUpdateData.fill.inj (hdata.symm.trans hdata')
  obtain ⟨_, _, hsigned, rfl⟩ := checkFill_ok hcheck
  refine ⟨_, hb, ?_, sideToSignedQty_eq .., hsigned, rfl⟩
  rw [h.exchange, hmarket]

/-- **A split execution is invisible.** After any history of the ledger, an execution that finds its
market flat or is against the position there leaves the same books, in one fill or in two. Totals
are exact integers: this is about books that fit in 64 bits, the sum of the two products that an
average is taken of included. -/
theorem split_fill_invisible (history : List OrderStateUpdate) {key : MarketKey} {side : Side}
    {qty₁ qty₂ priceTicks : ℤ} {whole first second : OrderStateUpdate} (hqty₁ : 0 < qty₁)
    (hqty₂ : 0 < qty₂) (hwhole : Executes whole key side (qty₁ + qty₂) priceTicks)
    (hfirst : Executes first key side qty₁ priceTicks)
    (hsecond : Executes second key side qty₂ priceTicks)
    (hplace : OpensOrOpposes ((ofUpdates history).netPosition key)
      (sideToSignedQty side (qty₁ + qty₂))) :
    (((ofUpdates history).run [first, second]).positionAt key).SameBooks
      (((ofUpdates history).run [whole]).positionAt key) := by
  obtain ⟨b, hb, hkey, hsigned, hne, hprice⟩ := hwhole.booked
  obtain ⟨b₁, hb₁, hkey₁, hsigned₁, hne₁, hprice₁⟩ := hfirst.booked
  obtain ⟨b₂, hb₂, hkey₂, hsigned₂, hne₂, hprice₂⟩ := hsecond.booked
  have hone : OneSide b₁.signedQty b₂.signedQty := by
    rw [OneSide, hsigned₁, hsigned₂]
    rw [hsigned₁] at hne₁
    cases side with
    | unknown => exact absurd (zero_mul _) hne₁
    | buy => simp only [direction]; omega
    | bid => simp only [direction]; omega
    | sell => simp only [direction]; omega
    | ask => simp only [direction]; omega
  have hsum : b.signedQty = b₁.signedQty + b₂.signedQty := by
    rw [hsigned, hsigned₁, hsigned₂, mul_add]
  have hplace₁ : OpensOrOpposes ((ofUpdates history).positionAt key).netQtyLots b₁.signedQty := by
    rw [sideToSignedQty_eq, ← hsigned, hsum, OpensOrOpposes, netPosition] at hplace
    rw [OneSide] at hone
    rw [OpensOrOpposes]
    omega
  have hrunWhole : (ofUpdates history).run [whole] = (ofUpdates history).applyBooking b := by
    rw [run, List.foldl_cons, onOrderUpdate_of_booking hb]
    rfl
  have hrunSplit : (ofUpdates history).run [first, second] =
      ((ofUpdates history).applyBooking b₁).applyBooking b₂ := by
    rw [run, List.foldl_cons, onOrderUpdate_of_booking hb₁, List.foldl_cons,
      onOrderUpdate_of_booking hb₂]
    rfl
  rw [hrunWhole, hrunSplit, positionAt_applyBooking, positionAt_applyBooking,
    positionAt_applyBooking, if_pos hkey.symm, if_pos hkey₁.symm, if_pos hkey₂.symm]
  exact book_split hone hplace₁ hsum (hprice₁.trans hprice.symm) (hprice₂.trans hprice.symm)

open SampleOrders in
theorem executes_fillOf {side : Side} {qtyLots priceTicks : ℤ}
    (h : (bookingOf (fillOf side qtyLots priceTicks)).isSome) :
    Executes (fillOf side qtyLots priceTicks) market side qtyLots priceTicks :=
  ⟨rfl, h, _, rfl, rfl, rfl, rfl, rfl⟩

open SampleOrders in
/-- A short position of three is bought back and turned by eight. The first of the two fills closes
it to the lot. -/
theorem split_fill_invisible_at_zero :
    (((ofUpdates [fillOf .sell 3 50]).run [fillOf .buy 3 44, fillOf .buy 5 44]).positionAt
      market).SameBooks
      (((ofUpdates [fillOf .sell 3 50]).run [fillOf .buy 8 44]).positionAt market) ∧
    (((ofUpdates [fillOf .sell 3 50]).run [fillOf .buy 8 44]).positionAt
      market).realizedPnlTicks = 18 := by
  refine ⟨?_, rfl⟩
  exact split_fill_invisible [fillOf .sell 3 50] (by decide) (by decide) (executes_fillOf rfl)
    (executes_fillOf rfl) (executes_fillOf rfl) (.inr (.inr ⟨by decide, by decide⟩))

end TradingEngine
