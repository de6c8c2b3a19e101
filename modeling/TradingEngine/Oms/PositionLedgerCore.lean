import TradingEngine.Lib.UnorderedMap
import TradingEngine.Oms.RiskGates

/-!
# The position ledger

The ledger books fills per `(exchange, market)`: net quantity, average open price, bought, sold and
closed quantities, and the profit realized when a position is reduced. It ignores updates that are
not fills and refuses fills it cannot attribute.

Which market a fill belongs to and with which sign does not depend on the ledger: `bookingOf` reads
it off the update. What a booking does to its market does not depend on the other markets: `book`
is a function of one position. So the position of a market after any sequence of updates is the
fold of `book` over the bookings of that market (`positionAt_run`), and results about a position
need not mention the ledger around it.

The source has 64-bit totals. Here they are exact integers, so what is said about them is about
histories in which none of them, nor a product that an average is taken of, leaves 64 bits.
-/

namespace TradingEngine

structure MarketKey where
  exchange : ExchangeId := .unknown
  marketTicker : String := ""
  deriving DecidableEq

structure MarketPositionState where
  exchange : ExchangeId := .unknown
  marketTicker : String := ""
  netQtyLots : ℤ := 0
  avgOpenPriceTicks : ℤ := 0
  hasOpenPrice : Bool := false
  boughtQtyLots : ℤ := 0
  soldQtyLots : ℤ := 0
  closedQtyLots : ℤ := 0
  realizedPnlTicks : ℤ := 0
  fillCount : ℕ := 0
  lastFillTsNs : ℕ := 0
  deriving DecidableEq

structure PositionLedgerCore where
  positions : UnorderedMap MarketKey MarketPositionState := ∅
  processedFillCount : ℕ := 0
  ignoredUpdateCount : ℕ := 0
  rejectedFillCount : ℕ := 0
  closedPositionCount : ℕ := 0
  realizedPnlTicksTotal : ℤ := 0

/-- What the ledger tells about one market. -/
structure PositionSnapshot where
  exchange : ExchangeId := .unknown
  marketTicker : String := ""
  netQtyLots : ℤ := 0
  avgOpenPriceTicks : Option ℤ := none
  boughtQtyLots : ℤ := 0
  soldQtyLots : ℤ := 0
  closedQtyLots : ℤ := 0
  realizedPnlTicks : ℤ := 0
  fillCount : ℕ := 0
  lastFillTsNs : ℕ := 0
  deriving DecidableEq

structure PositionLedgerStats where
  processedFillCount : ℕ := 0
  ignoredUpdateCount : ℕ := 0
  rejectedFillCount : ℕ := 0
  trackedMarketCount : ℕ := 0
  openPositionCount : ℕ := 0
  closedPositionCount : ℕ := 0
  realizedPnlTicksTotal : ℤ := 0
  deriving DecidableEq

/-- A fill the ledger accepts: the market it is booked to, its signed quantity, its price and the
time it was received. -/
structure Booking where
  key : MarketKey
  signedQty : ℤ
  price : ℤ
  recvTsNs : ℕ
  deriving DecidableEq

namespace PositionLedgerCore

/-! ## Which fills are accepted -/

def sideToSignedQty (side : Side) (qtyLots : ℤ) : ℤ :=
  match side with
  | .buy | .bid => qtyLots
  | .sell | .ask => -qtyLots
  | .unknown => 0

/-- The market of a fill: its own, or the one of the update around it. -/
def fillMarketTicker (update : OrderStateUpdate) (fill : OrderFill) : String :=
  if fill.marketTicker = "" then update.marketTicker else fill.marketTicker

/-- The checks at the head of `apply_fill`. -/
def checkFill (update : OrderStateUpdate) (fill : OrderFill) : Except String Booking :=
  let marketTicker := fillMarketTicker update fill
  if marketTicker = "" then .error "Fill update is missing market_ticker"
  else if fill.fillQtyLots ≤ 0 then .error "Fill update has non-positive fill_qty_lots"
  else
    let signedFillQty := sideToSignedQty fill.side fill.fillQtyLots
    if signedFillQty = 0 then .error "Fill update has unknown side"
    else .ok {
      key := { exchange := update.exchange, marketTicker := marketTicker }
      signedQty := signedFillQty
      price := fill.fillPriceTicks
      recvTsNs := update.recvTsNs }

theorem checkFill_ok {update : OrderStateUpdate} {fill : OrderFill} {b : Booking}
    (h : checkFill update fill = .ok b) :
    fillMarketTicker update fill ≠ "" ∧ 0 < fill.fillQtyLots ∧
      sideToSignedQty fill.side fill.fillQtyLots ≠ 0 ∧
      b = { key := { exchange := update.exchange, marketTicker := fillMarketTicker update fill }
            signedQty := sideToSignedQty fill.side fill.fillQtyLots
            price := fill.fillPriceTicks
            recvTsNs := update.recvTsNs } := by
  rw [checkFill] at h
  dsimp only at h
  split at h
  · exact absurd h (by simp)
  rename_i hticker
  split at h
  · exact absurd h (by simp)
  rename_i hqty
  split at h
  · exact absurd h (by simp)
  rename_i hsigned
  exact ⟨hticker, not_le.mp hqty, hsigned, (Except.ok.inj h).symm⟩

/-- The booking of an update, if the ledger accepts it as a fill. -/
def bookingOf (update : OrderStateUpdate) : Option Booking :=
  if update.status ≠ .filled ∧ update.status ≠ .partiallyFilled then none
  else match update.data with
    | .fill fill => (checkFill update fill).toOption
    | _ => none

theorem bookingOf_some {update : OrderStateUpdate} {b : Booking} (h : bookingOf update = some b) :
    ∃ fill, update.data = .fill fill ∧ checkFill update fill = .ok b := by
  rw [bookingOf] at h
  split at h
  · exact absurd h (by simp)
  split at h
  · rename_i fill hdata
    cases hcheck : checkFill update fill with
    | error message => rw [hcheck] at h; cases h
    | ok b' =>
      rw [hcheck] at h
      obtain rfl : b' = b := Option.some.inj h
      exact ⟨fill, hdata, hcheck⟩
  · exact absurd h (by simp)

theorem abs_sideToSignedQty {side : Side} {qtyLots : ℤ} (hside : side ≠ .unknown)
    (hqty : 0 < qtyLots) : |sideToSignedQty side qtyLots| = qtyLots := by
  cases side with
  | unknown => exact absurd rfl hside
  | buy => exact abs_of_pos hqty
  | bid => exact abs_of_pos hqty
  | sell => exact (abs_neg _).trans (abs_of_pos hqty)
  | ask => exact (abs_neg _).trans (abs_of_pos hqty)

theorem sideToSignedQty_ne_zero {side : Side} {qtyLots : ℤ} (hside : side ≠ .unknown)
    (hqty : 0 < qtyLots) : sideToSignedQty side qtyLots ≠ 0 := by
  rw [← abs_pos, abs_sideToSignedQty hside hqty]
  exact hqty

/-- A complete fill with a market and a side is booked. -/
theorem bookingOf_fill {update : OrderStateUpdate} {fill : OrderFill}
    (hstatus : update.status = .filled) (hdata : update.data = .fill fill)
    (hqty : 0 < fill.fillQtyLots) (hmarket : fill.marketTicker ≠ "")
    (hside : fill.side ≠ .unknown) :
    bookingOf update = some
      { key := { exchange := update.exchange, marketTicker := fill.marketTicker }
        signedQty := sideToSignedQty fill.side fill.fillQtyLots
        price := fill.fillPriceTicks
        recvTsNs := update.recvTsNs } := by
  have hticker : fillMarketTicker update fill = fill.marketTicker := if_neg hmarket
  have hne := sideToSignedQty_ne_zero hside hqty
  rw [bookingOf, if_neg (by simp [hstatus]), hdata]
  simp only [checkFill, hticker, if_neg hmarket, if_neg (not_le.mpr hqty), if_neg hne]
  rfl

/-! ## What a booking does to its market -/

/-- The fields every booking moves. `fill_qty_lots` is the size of the signed quantity, which is
positive for every accepted fill. -/
def stamp (position : MarketPositionState) (b : Booking) : MarketPositionState :=
  { position with
    exchange := b.key.exchange
    marketTicker := b.key.marketTicker
    fillCount := position.fillCount + 1
    lastFillTsNs := b.recvTsNs
    boughtQtyLots :=
      if b.signedQty > 0 then position.boughtQtyLots + |b.signedQty| else position.boughtQtyLots
    soldQtyLots :=
      if b.signedQty > 0 then position.soldQtyLots else position.soldQtyLots + |b.signedQty| }

def SameDirection (oldNetQty signedFillQty : ℤ) : Prop :=
  (oldNetQty > 0 ∧ signedFillQty > 0) ∨ (oldNetQty < 0 ∧ signedFillQty < 0)

instance (oldNetQty signedFillQty : ℤ) : Decidable (SameDirection oldNetQty signedFillQty) :=
  inferInstanceAs (Decidable (_ ∨ _))

/-- The weighted sum whose quotient by the new size becomes the average price. -/
def weightedNotional (position : MarketPositionState) (b : Booking) : ℤ :=
  position.avgOpenPriceTicks * |position.netQtyLots| + b.price * |b.signedQty|

/-- The profit a booking realizes: none when it opens or adds, otherwise the closed quantity at the
distance between the fill price and the average price. -/
def realizedBy (position : MarketPositionState) (b : Booking) : ℤ :=
  let oldNetQty := position.netQtyLots
  if oldNetQty = 0 then 0
  else if SameDirection oldNetQty b.signedQty then 0
  else
    let closedQty := min |oldNetQty| |b.signedQty|
    if oldNetQty > 0 then (b.price - position.avgOpenPriceTicks) * closedQty
    else (position.avgOpenPriceTicks - b.price) * closedQty

/-- Whether a booking takes an open position to flat. -/
def closes (position : MarketPositionState) (b : Booking) : Bool :=
  decide (position.netQtyLots ≠ 0 ∧ ¬SameDirection position.netQtyLots b.signedQty ∧
    position.netQtyLots + b.signedQty = 0)

/-- The position after a booking. The three branches are those of `apply_fill`: a flat position is
opened, a position is added to at the weighted average price, or it is reduced, closed or flipped.
The quotient truncates, as integer division does in the source. -/
def book (position : MarketPositionState) (b : Booking) : MarketPositionState :=
  let oldNetQty := position.netQtyLots
  let newNetQty := oldNetQty + b.signedQty
  let stamped := stamp position b
  if oldNetQty = 0 then
    { stamped with
      netQtyLots := b.signedQty
      avgOpenPriceTicks := b.price
      hasOpenPrice := true }
  else if SameDirection oldNetQty b.signedQty then
    { stamped with
      avgOpenPriceTicks := (weightedNotional position b).tdiv (|oldNetQty| + |b.signedQty|)
      netQtyLots := newNetQty
      hasOpenPrice := true }
  else
    let flippedDirection := (oldNetQty > 0 ∧ newNetQty < 0) ∨ (oldNetQty < 0 ∧ newNetQty > 0)
    { stamped with
      realizedPnlTicks := position.realizedPnlTicks + realizedBy position b
      closedQtyLots := position.closedQtyLots + min |oldNetQty| |b.signedQty|
      netQtyLots := newNetQty
      hasOpenPrice :=
        if newNetQty = 0 then false else if flippedDirection then true else position.hasOpenPrice
      avgOpenPriceTicks :=
        if newNetQty ≠ 0 ∧ flippedDirection then b.price else position.avgOpenPriceTicks }

/-! ## The ledger -/

/-- The position stored under a key; a key that is not there is created with an empty one. -/
def positionAt (core : PositionLedgerCore) (key : MarketKey) : MarketPositionState :=
  (core.positions.lookup key).getD {}

/-- `apply_fill` once its checks have passed. -/
def applyBooking (core : PositionLedgerCore) (b : Booking) : PositionLedgerCore :=
  let position := core.positionAt b.key
  { core with
    positions := core.positions.insert b.key (book position b)
    processedFillCount := core.processedFillCount + 1
    closedPositionCount :=
      if closes position b then core.closedPositionCount + 1 else core.closedPositionCount
    realizedPnlTicksTotal := core.realizedPnlTicksTotal + realizedBy position b }

theorem positionAt_applyBooking (core : PositionLedgerCore) (b : Booking) (key : MarketKey) :
    (core.applyBooking b).positionAt key =
      if key = b.key then book (core.positionAt key) b else core.positionAt key := by
  rw [positionAt, applyBooking]
  dsimp only
  split
  · rename_i hkey
    rw [hkey, AList.lookup_insert, Option.getD_some]
  · rename_i hkey
    rw [AList.lookup_insert_ne hkey, ← positionAt]

/-- What a booking adds to its position, it adds to a sum over the positions. -/
theorem sumOf_applyBooking {A : Type*} [AddCommMonoid A] (core : PositionLedgerCore)
    {f : MarketKey → MarketPositionState → A} (hempty : ∀ key, f key {} = 0) (b : Booking) :
    (core.applyBooking b).positions.sumOf f + f b.key (core.positionAt b.key) =
      f b.key (book (core.positionAt b.key) b) + core.positions.sumOf f := by
  -- a market without an entry has the empty position, which adds nothing
  have hshare : (core.positions.lookup b.key).elim 0 (f b.key) =
      f b.key (core.positionAt b.key) := by
    rw [positionAt]
    rcases core.positions.lookup b.key with _ | position
    · exact (hempty b.key).symm
    · rfl
  rw [← hshare]
  exact UnorderedMap.sumOf_insert_add f core.positions b.key _

def applyFill (core : PositionLedgerCore) (update : OrderStateUpdate) (fill : OrderFill) :
    Except String Unit × PositionLedgerCore :=
  match checkFill update fill with
  | .error message =>
    (.error message, { core with rejectedFillCount := core.rejectedFillCount + 1 })
  | .ok b => (.ok (), core.applyBooking b)

def onOrderUpdate (core : PositionLedgerCore) (update : OrderStateUpdate) :
    Except String Unit × PositionLedgerCore :=
  if update.status ≠ .filled ∧ update.status ≠ .partiallyFilled then
    (.ok (), { core with ignoredUpdateCount := core.ignoredUpdateCount + 1 })
  else match update.data with
    | .fill fill => core.applyFill update fill
    | _ => (.error "Fill status update is missing OrderFill payload",
        { core with rejectedFillCount := core.rejectedFillCount + 1 })

/-- The average price is shown only while the position is open. -/
def marketPosition (core : PositionLedgerCore) (exchange : ExchangeId) (marketTicker : String) :
    Option PositionSnapshot :=
  (core.positions.lookup { exchange, marketTicker }).map fun position ↦
    { exchange := position.exchange
      marketTicker := position.marketTicker
      netQtyLots := position.netQtyLots
      avgOpenPriceTicks := if position.hasOpenPrice then some position.avgOpenPriceTicks else none
      boughtQtyLots := position.boughtQtyLots
      soldQtyLots := position.soldQtyLots
      closedQtyLots := position.closedQtyLots
      realizedPnlTicks := position.realizedPnlTicks
      fillCount := position.fillCount
      lastFillTsNs := position.lastFillTsNs }

/-- The gross position and the realized profit are summed over the markets of one exchange. -/
def portfolioRiskSnapshot (core : PositionLedgerCore) (exchange : ExchangeId)
    (marketTicker : String) : PortfolioRiskSnapshot where
  netPositionMarket :=
    match core.positions.lookup { exchange, marketTicker } with
    | some position => position.netQtyLots
    | none => 0
  grossPositionGlobal := core.positions.sumOf fun key position ↦
    if key.exchange ≠ exchange then 0 else |position.netQtyLots|
  realizedPnlTicksTotal := core.positions.sumOf fun key position ↦
    if key.exchange ≠ exchange then 0 else position.realizedPnlTicks

def stats (core : PositionLedgerCore) : PositionLedgerStats where
  processedFillCount := core.processedFillCount
  ignoredUpdateCount := core.ignoredUpdateCount
  rejectedFillCount := core.rejectedFillCount
  trackedMarketCount := core.positions.entries.length
  openPositionCount := core.positions.sumOf fun _ position ↦
    if position.netQtyLots ≠ 0 then 1 else 0
  closedPositionCount := core.closedPositionCount
  realizedPnlTicksTotal := core.realizedPnlTicksTotal

/-! ## Runs -/

/-- **An update, in full.** It is booked, or it changes no position. -/
theorem onOrderUpdate_positions (core : PositionLedgerCore) (update : OrderStateUpdate) :
    (core.onOrderUpdate update).2.positions =
      match bookingOf update with
      | some b => core.positions.insert b.key (book (core.positionAt b.key) b)
      | none => core.positions := by
  by_cases hstatus : update.status ≠ .filled ∧ update.status ≠ .partiallyFilled
  · simp only [onOrderUpdate, bookingOf, if_pos hstatus]
  · simp only [onOrderUpdate, bookingOf, if_neg hstatus]
    cases update.data with
    | fill fill =>
      simp only [applyFill]
      cases checkFill update fill <;> rfl
    | monostate => rfl
    | ack ack => rfl
    | reject reject => rfl

/-- The ledger after a list of updates. -/
def run (core : PositionLedgerCore) (updates : List OrderStateUpdate) : PositionLedgerCore :=
  updates.foldl (fun core update ↦ (core.onOrderUpdate update).2) core

theorem run_append_singleton (core : PositionLedgerCore) (updates : List OrderStateUpdate)
    (update : OrderStateUpdate) :
    core.run (updates ++ [update]) = ((core.run updates).onOrderUpdate update).2 := by
  rw [run, List.foldl_append, ← run]
  rfl

/-- The bookings of one market among a list of updates. -/
def bookingsOf (key : MarketKey) (updates : List OrderStateUpdate) : List Booking :=
  (updates.filterMap bookingOf).filter fun b ↦ b.key = key

theorem bookingsOf_cons (key : MarketKey) (update : OrderStateUpdate)
    (updates : List OrderStateUpdate) :
    bookingsOf key (update :: updates) =
      match bookingOf update with
      | some b => if b.key = key then b :: bookingsOf key updates else bookingsOf key updates
      | none => bookingsOf key updates := by
  rw [bookingsOf, List.filterMap_cons]
  cases bookingOf update with
  | none => rfl
  | some b =>
    dsimp only
    rw [List.filter_cons]
    by_cases h : b.key = key <;> simp [h, bookingsOf]

/-- **Markets do not interfere.** The position of a market after any updates is the fold of its own
bookings over the position it had. -/
theorem positionAt_run (key : MarketKey) (updates : List OrderStateUpdate) :
    ∀ core : PositionLedgerCore,
      (core.run updates).positionAt key = (bookingsOf key updates).foldl book
        (core.positionAt key) := by
  induction updates with
  | nil => intro core; rfl
  | cons update updates ih =>
    intro core
    have hrun : core.run (update :: updates) = (core.onOrderUpdate update).2.run updates := rfl
    rw [hrun, ih, bookingsOf_cons]
    -- an update writes the market it is booked to, and no other
    have hpos := core.onOrderUpdate_positions update
    cases hb : bookingOf update with
    | none =>
      rw [hb] at hpos
      rw [positionAt, hpos, ← positionAt]
    | some b =>
      rw [hb] at hpos
      dsimp only
      by_cases hkey : b.key = key
      · rw [if_pos hkey, List.foldl_cons, positionAt, hpos, ← hkey, AList.lookup_insert]
        rfl
      · rw [if_neg hkey, positionAt, hpos, AList.lookup_insert_ne (Ne.symm hkey), ← positionAt]

/-- A stored position is the one `positionAt` finds. -/
theorem positionAt_of_lookup {core : PositionLedgerCore} {key : MarketKey}
    {position : MarketPositionState} (h : core.positions.lookup key = some position) :
    core.positionAt key = position := by
  rw [positionAt, h]; rfl

end PositionLedgerCore

/-- The market of the sample orders. -/
def SampleOrders.market : MarketKey := { exchange := .kalshi, marketTicker := "KXBTC-YES" }

end TradingEngine
