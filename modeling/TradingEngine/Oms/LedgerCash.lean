import Mathlib.Tactic.Linarith
import Mathlib.Tactic.Ring
import TradingEngine.Oms.PositionLedgerCore

/-!
# Realized profit against cash

A flat market has realized, in cash, what its sales brought in minus what its purchases cost. The
ledger does not keep cash; it realizes profit against an average open price that it stores as an
integer quotient. This file compares the two.

## The invariant

Write `cash` for the money that has moved so far, `net` for the position and `avg` for its average
price. Opening, reducing, closing and flipping a position all keep

  `realized = cash + avg * net`.

Adding to a position does not: the quotient drops a remainder of the weighted notional, and what is
dropped stays lost. Collecting the dropped remainders, with the sign of the position, gives the
exact relation `realized = cash + avg * net + drift` (`realized_foldl_book`). In a flat market the
middle term is gone, so the ledger agrees with cash exactly when the dropped remainders cancel.
-/

namespace TradingEngine

open PositionLedgerCore

/-! ## Cash -/

/-- The notional of the sell fills among some bookings. -/
def sellNotional (bookings : List Booking) : ℤ :=
  ((bookings.filter fun b ↦ b.signedQty < 0).map fun b ↦ b.price * |b.signedQty|).sum

/-- The notional of the buy fills among some bookings. -/
def buyNotional (bookings : List Booking) : ℤ :=
  ((bookings.filter fun b ↦ 0 < b.signedQty).map fun b ↦ b.price * |b.signedQty|).sum

theorem sellNotional_sub_buyNotional_cons (b : Booking) (bookings : List Booking) :
    sellNotional (b :: bookings) - buyNotional (b :: bookings)
      = sellNotional bookings - buyNotional bookings - b.price * b.signedQty := by
  rw [sellNotional, buyNotional, List.filter_cons, List.filter_cons]
  rcases lt_trichotomy b.signedQty 0 with h | h | h
  · rw [if_pos (by simpa using h), if_neg (by simpa using h.le), List.map_cons, List.sum_cons,
      abs_of_neg h, ← sellNotional, ← buyNotional]
    ring
  · rw [if_neg (by simp [h]), if_neg (by simp [h]), ← sellNotional, ← buyNotional, h]
    ring
  · rw [if_neg (by simpa using h.le), if_pos (by simpa using h), List.map_cons, List.sum_cons,
      abs_of_pos h, ← sellNotional, ← buyNotional]
    ring

/-! ## What averaging drops -/

/-- The remainder the average price drops when a booking adds to a position, counted with the sign
of the position. -/
def roundingLoss (position : MarketPositionState) (b : Booking) : ℤ :=
  if SameDirection position.netQtyLots b.signedQty then
    position.netQtyLots.sign *
      (weightedNotional position b).tmod (|position.netQtyLots| + |b.signedQty|)
  else 0

/-- The remainders dropped while booking a list of fills, one after the other. -/
def roundingDrift : MarketPositionState → List Booking → ℤ
  | _, [] => 0
  | position, b :: bookings => roundingLoss position b + roundingDrift (book position b) bookings

/-- Every booking that adds to the position leaves an average price without remainder. -/
def AveragesExactly : MarketPositionState → List Booking → Prop
  | _, [] => True
  | position, b :: bookings =>
    (SameDirection position.netQtyLots b.signedQty →
      |position.netQtyLots| + |b.signedQty| ∣ weightedNotional position b) ∧
    AveragesExactly (book position b) bookings

theorem roundingDrift_eq_zero (bookings : List Booking) : ∀ position : MarketPositionState,
    AveragesExactly position bookings → roundingDrift position bookings = 0 := by
  induction bookings with
  | nil => intro position _; rfl
  | cons b bookings ih =>
    intro position h
    obtain ⟨hexact, hrest⟩ := h
    have hloss : roundingLoss position b = 0 := by
      rw [roundingLoss]
      split
      · rename_i hsame
        rw [Int.tmod_eq_zero_of_dvd (hexact hsame), mul_zero]
      · rfl
    rw [roundingDrift, hloss, ih _ hrest, add_zero]

/-! ## One booking

The three branches of `book`, each with the change of `avg * net` it causes. -/

/-- The value of the open position at its average price. -/
def openValue (position : MarketPositionState) : ℤ :=
  position.avgOpenPriceTicks * position.netQtyLots

theorem book_of_flat {position : MarketPositionState} (b : Booking)
    (hflat : position.netQtyLots = 0) :
    (book position b).realizedPnlTicks = position.realizedPnlTicks ∧
      openValue (book position b) = b.price * b.signedQty := by
  simp [book, hflat, openValue, stamp]

theorem book_of_sameDirection {position : MarketPositionState} {b : Booking}
    (hsame : SameDirection position.netQtyLots b.signedQty) :
    (book position b).realizedPnlTicks = position.realizedPnlTicks ∧
      openValue (book position b) = openValue position + b.price * b.signedQty
        - roundingLoss position b := by
  have hopen : position.netQtyLots ≠ 0 := by
    rcases hsame with ⟨h, _⟩ | ⟨h, _⟩ <;> omega
  set size := |position.netQtyLots| + |b.signedQty| with hsize
  -- quotient and remainder of the average price make up the whole
  have hdiv : size * (weightedNotional position b).tdiv size
      + (weightedNotional position b).tmod size = weightedNotional position b :=
    Int.mul_tdiv_add_tmod _ _
  refine ⟨by simp [book, hopen, hsame, stamp], ?_⟩
  have hvalue : openValue (book position b)
      = (weightedNotional position b).tdiv size * (position.netQtyLots + b.signedQty) := by
    simp [book, hopen, hsame, openValue, hsize]
  rw [hvalue, roundingLoss, if_pos hsame, ← hsize, openValue]
  rw [weightedNotional] at hdiv ⊢
  rcases hsame with ⟨hpos, hfill⟩ | ⟨hneg, hfill⟩
  · rw [abs_of_pos hpos, abs_of_pos hfill] at *
    rw [Int.sign_eq_one_of_pos hpos, ← hsize]
    linarith
  · rw [abs_of_neg hneg, abs_of_neg hfill] at *
    rw [Int.sign_eq_neg_one_of_neg hneg, show position.netQtyLots + b.signedQty = -size by omega]
    linarith

/-- Reducing, closing and flipping: the profit realized is exactly the value that left. -/
theorem book_of_opposite {position : MarketPositionState} {b : Booking}
    (hopen : position.netQtyLots ≠ 0) (hfill : b.signedQty ≠ 0)
    (hopposite : ¬SameDirection position.netQtyLots b.signedQty) :
    (book position b).realizedPnlTicks - position.realizedPnlTicks
      = openValue (book position b) - openValue position - b.price * b.signedQty := by
  have hsigns : ¬((position.netQtyLots > 0 ∧ b.signedQty > 0) ∨
      (position.netQtyLots < 0 ∧ b.signedQty < 0)) := hopposite
  have hrealized : (book position b).realizedPnlTicks
      = position.realizedPnlTicks + realizedBy position b := by
    simp [book, hopen, hopposite]
  have hvalue : openValue (book position b)
      = (if position.netQtyLots + b.signedQty ≠ 0 ∧
          ((position.netQtyLots > 0 ∧ position.netQtyLots + b.signedQty < 0) ∨
            (position.netQtyLots < 0 ∧ position.netQtyLots + b.signedQty > 0))
        then b.price else position.avgOpenPriceTicks) * (position.netQtyLots + b.signedQty) := by
    simp [book, hopen, hopposite, openValue]
  rw [hrealized, hvalue, openValue, realizedBy, if_neg hopen, if_neg hopposite]
  dsimp only
  rcases lt_or_gt_of_ne hopen with hneg | hpos
  · -- a purchase against a short position, which closes at most all of it
    have hbuy : 0 < b.signedQty := by omega
    rw [if_neg (by omega), abs_of_neg hneg, abs_of_pos hbuy]
    by_cases hflip : position.netQtyLots + b.signedQty > 0
    · rw [if_pos ⟨by omega, .inr ⟨hneg, hflip⟩⟩, min_eq_left (by omega)]
      ring
    · rw [if_neg (by omega), min_eq_right (by omega)]
      ring
  · -- a sale against a long position
    have hsell : b.signedQty < 0 := by omega
    rw [if_pos hpos, abs_of_pos hpos, abs_of_neg hsell]
    by_cases hflip : position.netQtyLots + b.signedQty < 0
    · rw [if_pos ⟨by omega, .inl ⟨hpos, hflip⟩⟩, min_eq_left (by omega)]
      ring
    · rw [if_neg (by omega), min_eq_right (by omega)]
      ring

/-- One booking moves realized profit by cash, by the value of the open position, and by what the
average price drops. -/
theorem realized_book (position : MarketPositionState) {b : Booking} (hfill : b.signedQty ≠ 0) :
    (book position b).realizedPnlTicks - position.realizedPnlTicks
      = openValue (book position b) - openValue position - b.price * b.signedQty
        + roundingLoss position b := by
  by_cases hopen : position.netQtyLots = 0
  · obtain ⟨hrealized, hvalue⟩ := book_of_flat b hopen
    have hnotSame : ¬SameDirection position.netQtyLots b.signedQty := by
      rw [SameDirection, hopen]; omega
    rw [hrealized, hvalue, openValue, hopen, roundingLoss, if_neg (hopen ▸ hnotSame)]
    ring
  · by_cases hsame : SameDirection position.netQtyLots b.signedQty
    · obtain ⟨hrealized, hvalue⟩ := book_of_sameDirection hsame
      rw [hrealized, hvalue]
      ring
    · rw [book_of_opposite hopen hfill hsame, roundingLoss, if_neg hsame, add_zero]

/-! ## Many bookings -/

/-- **The exact relation.** Realized profit is cash plus the value of the open position plus the
remainders dropped, all measured from the position the bookings started from. -/
theorem realized_foldl_book (bookings : List Booking) : ∀ position : MarketPositionState,
    (∀ b ∈ bookings, b.signedQty ≠ 0) →
    (bookings.foldl book position).realizedPnlTicks - position.realizedPnlTicks
      = sellNotional bookings - buyNotional bookings
        + (openValue (bookings.foldl book position) - openValue position)
        + roundingDrift position bookings := by
  induction bookings with
  | nil => intro position _; simp [sellNotional, buyNotional, roundingDrift]
  | cons b bookings ih =>
    intro position hfills
    -- the terms between the first booking and the rest cancel
    have hhead := realized_book position (hfills b List.mem_cons_self)
    have htail := ih (book position b) fun b' hb' ↦ hfills b' (List.mem_cons_of_mem _ hb')
    rw [List.foldl_cons, sellNotional_sub_buyNotional_cons, roundingDrift]
    linarith

/-- An accepted fill has a signed quantity other than zero. -/
theorem signedQty_ne_zero_of_bookingOf {update : OrderStateUpdate} {b : Booking}
    (h : bookingOf update = some b) : b.signedQty ≠ 0 := by
  obtain ⟨fill, _, hcheck⟩ := bookingOf_some h
  obtain ⟨_, _, hsigned, rfl⟩ := checkFill_ok hcheck
  exact hsigned

theorem signedQty_ne_zero_of_mem_bookingsOf {key : MarketKey} {updates : List OrderStateUpdate}
    {b : Booking} (h : b ∈ bookingsOf key updates) : b.signedQty ≠ 0 := by
  rw [bookingsOf, List.mem_filter, List.mem_filterMap] at h
  obtain ⟨⟨update, _, hb⟩, _⟩ := h
  exact signedQty_ne_zero_of_bookingOf hb

/-- **Cash conservation, as far as it goes.** In a market that is flat after any sequence of
updates, realized profit equals sales minus purchases if every averaging step divided evenly, and
in general exactly when the remainders the average price dropped cancel. -/
theorem realizedPnl_eq_cash_iff (updates : List OrderStateUpdate) (key : MarketKey)
    {position : MarketPositionState}
    (hposition : (({} : PositionLedgerCore).run updates).positions.lookup key = some position)
    (hflat : position.netQtyLots = 0) :
    (AveragesExactly {} (bookingsOf key updates) →
      position.realizedPnlTicks
        = sellNotional (bookingsOf key updates) - buyNotional (bookingsOf key updates)) ∧
    (position.realizedPnlTicks
        = sellNotional (bookingsOf key updates) - buyNotional (bookingsOf key updates) ↔
      roundingDrift {} (bookingsOf key updates) = 0) := by
  have hfold : (bookingsOf key updates).foldl book {} = position := by
    rw [← positionAt_of_lookup hposition, positionAt_run]
    rfl
  have hexact := realized_foldl_book (bookingsOf key updates) {}
    fun b hb ↦ signedQty_ne_zero_of_mem_bookingsOf hb
  rw [hfold] at hexact
  have hempty : openValue {} = 0 := by rw [openValue]; rfl
  have hvalue : openValue position = 0 := by rw [openValue, hflat, mul_zero]
  rw [hvalue, hempty, sub_self, add_zero] at hexact
  have hrealized : position.realizedPnlTicks - ({} : MarketPositionState).realizedPnlTicks
      = position.realizedPnlTicks := sub_zero _
  rw [hrealized] at hexact
  refine ⟨fun heven ↦ ?_, ?_⟩
  · rw [hexact, roundingDrift_eq_zero _ _ heven, add_zero]
  · rw [hexact]
    constructor <;> intro h <;> linarith

/-- A fill on Kalshi's `KXBTC-YES`, as the ledger receives it. -/
def ledgerFill (side : Side) (qty price : ℤ) : OrderStateUpdate :=
  { exchange := .kalshi, status := .filled, marketTicker := "KXBTC-YES",
    data := .fill { marketTicker := "KXBTC-YES", fillQtyLots := qty, fillPriceTicks := price,
                    side := side } }

def ledgerFillKey : MarketKey := { exchange := .kalshi, marketTicker := "KXBTC-YES" }

/-- Bought at 40 and 42, sold twice at 50. -/
def evenFills : List OrderStateUpdate :=
  [ledgerFill .buy 1 40, ledgerFill .buy 1 42, ledgerFill .sell 2 50]

/-- Bought at 40 and 41, sold twice at 41. -/
def unevenFills : List OrderStateUpdate :=
  [ledgerFill .buy 1 40, ledgerFill .buy 1 41, ledgerFill .sell 2 41]

/-- Two purchases that average evenly and a sale that closes them: cash is conserved. -/
theorem realizedPnl_eq_cash_iff_even :
    ∃ position, (({} : PositionLedgerCore).run evenFills).positions.lookup ledgerFillKey
        = some position ∧
      position.realizedPnlTicks = sellNotional (bookingsOf ledgerFillKey evenFills)
        - buyNotional (bookingsOf ledgerFillKey evenFills) :=
  ⟨_, rfl, (realizedPnl_eq_cash_iff evenFills ledgerFillKey rfl rfl).2.mpr (by decide)⟩

/-- Two purchases that average to 40½: one tick was earned, the ledger realizes two. -/
theorem realizedPnl_ne_cash :
    ∃ position, (({} : PositionLedgerCore).run unevenFills).positions.lookup ledgerFillKey
        = some position ∧
      position.netQtyLots = 0 ∧ position.realizedPnlTicks = 2 ∧
      sellNotional (bookingsOf ledgerFillKey unevenFills)
        - buyNotional (bookingsOf ledgerFillKey unevenFills) = 1 :=
  ⟨_, rfl, rfl, rfl, by decide⟩

end TradingEngine
