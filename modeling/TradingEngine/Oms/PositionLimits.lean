import TradingEngine.Oms.PositionLedgerCore

/-!
# Positions within the limits of the portfolio gate

The gate looks at two numbers of the ledger and projects them: the net position of the market and
the gross position of the exchange, each as it would be with the intent filled. A booking moves the
two numbers exactly as the gate projects (`netPosition_applyBooking`, `grossPosition_applyBooking`).
So a ledger within the limits stays within them when the next thing booked is the intent that the
gate has just let through (`WithinLimits.applyBooking`), and a ledger that stays within them over
some bookings does so over one more that fits at the end (`StaysWithin.append`).
-/

namespace TradingEngine

open PositionLedgerCore

namespace PositionLedgerCore

def netPosition (core : PositionLedgerCore) (key : MarketKey) : ℤ :=
  (core.positionAt key).netQtyLots

/-- What a position adds to the gross position of an exchange. -/
def sizeAt (exchange : ExchangeId) (key : MarketKey) (position : MarketPositionState) : ℤ :=
  if key.exchange ≠ exchange then 0 else |position.netQtyLots|

/-- The sizes of the positions at one exchange, added up. -/
def grossPosition (core : PositionLedgerCore) (exchange : ExchangeId) : ℤ :=
  core.positions.sumOf (sizeAt exchange)

theorem portfolioRiskSnapshot_netPositionMarket (core : PositionLedgerCore) (exchange : ExchangeId)
    (marketTicker : String) :
    (core.portfolioRiskSnapshot exchange marketTicker).netPositionMarket
      = core.netPosition { exchange, marketTicker } := by
  rw [portfolioRiskSnapshot, netPosition, positionAt]
  cases core.positions.lookup { exchange, marketTicker } <;> rfl

/-- The ledger after some bookings. -/
def bookAll (core : PositionLedgerCore) (bookings : List Booking) : PositionLedgerCore :=
  bookings.foldl applyBooking core

/-! ## One booking -/

theorem book_netQtyLots (position : MarketPositionState) (b : Booking) :
    (book position b).netQtyLots = position.netQtyLots + b.signedQty := by
  rw [book]
  dsimp only
  split
  · rename_i hflat
    rw [hflat, zero_add]
  · split
    · rfl
    · rfl

theorem netPosition_applyBooking (core : PositionLedgerCore) (b : Booking) (key : MarketKey) :
    (core.applyBooking b).netPosition key =
      if key = b.key then core.netPosition key + b.signedQty else core.netPosition key := by
  rw [netPosition, positionAt_applyBooking, netPosition]
  split
  · rw [book_netQtyLots]
  · rfl

/-- Bookings do not reach other exchanges; at its own, a booking replaces the size of one
position. -/
theorem grossPosition_applyBooking (core : PositionLedgerCore) (b : Booking)
    (exchange : ExchangeId) :
    (core.applyBooking b).grossPosition exchange =
      if b.key.exchange ≠ exchange then core.grossPosition exchange
      else core.grossPosition exchange - |core.netPosition b.key|
        + |core.netPosition b.key + b.signedQty| := by
  have hsum := core.sumOf_applyBooking (f := sizeAt exchange) (fun key ↦ by simp [sizeAt]) b
  rw [sizeAt, sizeAt, book_netQtyLots, ← netPosition] at hsum
  rw [grossPosition, grossPosition]
  split
  · rename_i hother
    rwa [if_pos hother, if_pos hother, add_zero, zero_add] at hsum
  · rename_i hsame
    rw [if_neg hsame, if_neg hsame] at hsum
    omega

/-- An update is booked, or leaves every position alone. -/
theorem onOrderUpdate_positions_eq (core : PositionLedgerCore) (update : OrderStateUpdate) :
    (core.onOrderUpdate update).2.positions =
      ((bookingOf update).elim core core.applyBooking).positions := by
  rw [onOrderUpdate_positions]
  cases bookingOf update <;> rfl

theorem applyBooking_positions_congr {core core' : PositionLedgerCore}
    (h : core'.positions = core.positions) (b : Booking) :
    (core'.applyBooking b).positions = (core.applyBooking b).positions := by
  simp only [applyBooking, positionAt, h]

theorem bookAll_positions_congr {core core' : PositionLedgerCore}
    (h : core'.positions = core.positions) (bookings : List Booking) :
    (core'.bookAll bookings).positions = (core.bookAll bookings).positions := by
  induction bookings generalizing core core' with
  | nil => exact h
  | cons b bookings ih => exact ih (applyBooking_positions_congr h b)

end PositionLedgerCore

/-! ## The limits -/

/-- Every net position and every gross position is within its limit. -/
structure WithinLimits (limits : PortfolioRiskConfig) (core : PositionLedgerCore) : Prop where
  net : ∀ key, |core.netPosition key| ≤ limits.maxAbsNetPositionPerMarket
  gross : ∀ exchange, core.grossPosition exchange ≤ limits.maxAbsPositionGrossGlobal

/-- The two numbers that the gate projects are within their limits, for a quantity `signedQty`
more in the market `key`. -/
structure Fits (limits : PortfolioRiskConfig) (core : PositionLedgerCore) (key : MarketKey)
    (signedQty : ℤ) : Prop where
  net : |core.netPosition key + signedQty| ≤ limits.maxAbsNetPositionPerMarket
  gross : core.grossPosition key.exchange - |core.netPosition key|
    + |core.netPosition key + signedQty| ≤ limits.maxAbsPositionGrossGlobal

instance (limits : PortfolioRiskConfig) (core : PositionLedgerCore) (key : MarketKey)
    (signedQty : ℤ) : Decidable (Fits limits core key signedQty) :=
  decidable_of_iff (_ ∧ _) ⟨fun h ↦ ⟨h.1, h.2⟩, fun h ↦ ⟨h.net, h.gross⟩⟩

/-- The limits hold now and after each of the bookings. -/
def StaysWithin (limits : PortfolioRiskConfig) : PositionLedgerCore → List Booking → Prop
  | core, [] => WithinLimits limits core
  | core, b :: bookings =>
    WithinLimits limits core ∧ StaysWithin limits (core.applyBooking b) bookings

variable {limits : PortfolioRiskConfig} {core core' : PositionLedgerCore}

theorem WithinLimits.empty (hnet : 0 ≤ limits.maxAbsNetPositionPerMarket)
    (hgross : 0 ≤ limits.maxAbsPositionGrossGlobal) : WithinLimits limits {} where
  net _ := hnet
  gross _ := hgross

/-- The limits are about the positions only. -/
theorem WithinLimits.congr (h : WithinLimits limits core)
    (hpositions : core'.positions = core.positions) : WithinLimits limits core' where
  net key := by
    rw [netPosition, positionAt, hpositions]
    exact h.net key
  gross exchange := by
    rw [grossPosition, hpositions]
    exact h.gross exchange

/-- So is the room for one more quantity. -/
theorem Fits.congr {key : MarketKey} {signedQty : ℤ} (h : Fits limits core key signedQty)
    (hpositions : core'.positions = core.positions) : Fits limits core' key signedQty where
  net := by
    rw [netPosition, positionAt, hpositions]
    exact h.net
  gross := by
    rw [netPosition, positionAt, grossPosition, hpositions]
    exact h.gross

/-- **A projected booking keeps the limits.** -/
theorem WithinLimits.applyBooking (h : WithinLimits limits core) {b : Booking}
    (hfits : Fits limits core b.key b.signedQty) : WithinLimits limits (core.applyBooking b) where
  net key := by
    rw [netPosition_applyBooking]
    split
    · rename_i hkey
      rw [hkey]
      exact hfits.net
    · exact h.net key
  gross exchange := by
    rw [grossPosition_applyBooking]
    split
    · exact h.gross exchange
    · rename_i hexchange
      rw [← not_not.mp hexchange]
      exact hfits.gross

theorem StaysWithin.within {bookings : List Booking} (h : StaysWithin limits core bookings) :
    WithinLimits limits core := by
  cases bookings with
  | nil => exact h
  | cons b bookings => exact h.1

theorem StaysWithin.congr {bookings : List Booking} (h : StaysWithin limits core bookings)
    (hpositions : core'.positions = core.positions) : StaysWithin limits core' bookings := by
  induction bookings generalizing core core' with
  | nil => exact WithinLimits.congr h hpositions
  | cons b bookings ih =>
    exact ⟨h.1.congr hpositions, ih h.2 (applyBooking_positions_congr hpositions b)⟩

/-- **One more booking.** It is enough that it fits after the others. -/
theorem StaysWithin.append {bookings : List Booking} {b : Booking}
    (h : StaysWithin limits core bookings)
    (hfits : Fits limits (core.bookAll bookings) b.key b.signedQty) :
    StaysWithin limits core (bookings ++ [b]) := by
  induction bookings generalizing core with
  | nil => exact ⟨h, WithinLimits.applyBooking h hfits⟩
  | cons first bookings ih => exact ⟨h.1, ih h.2 hfits⟩

/-- **The gate projects.** An order-creating intent that both limits let through fits. -/
theorem fits_of_allow (hnet : 0 < limits.maxAbsNetPositionPerMarket)
    (hgross : 0 < limits.maxAbsPositionGrossGlobal) {intent : OrderIntent}
    (hcreates : intent.Creates)
    (h : (PortfolioRiskGate.evaluate limits intent
      (core.portfolioRiskSnapshot intent.exchange intent.marketTicker)).allow = true) :
    Fits limits core { exchange := intent.exchange, marketTicker := intent.marketTicker }
      (PortfolioRiskGate.signedIntentQty intent) := by
  obtain ⟨hmarket, hglobal⟩ := PortfolioRiskGate.evaluate_allow hcreates h
  have hmarket := hmarket hnet
  have hglobal := hglobal hgross
  rw [portfolioRiskSnapshot_netPositionMarket] at hmarket hglobal
  exact ⟨hmarket, hglobal⟩

end TradingEngine
