import Mathlib.Algebra.Ring.Int.Defs
import TradingEngine.Oms.PositionLimits

/-!
# The ledger keeps its books

Two results about every sequence of updates. The ledger's records are consistent: the quantities of
a market fit together, and the totals are the sums over the markets (`ledger_consistent`). And the
markets are kept apart: the position of a market is the one its own accepted fills lead to, in a
ledger that sees nothing else (`market_isolation`).

## The invariant

A booking writes one position, and adds to a total what it adds to that position. So the totals are
a matter of `sumOf_insert_add`, and what is left is one position: `Balanced` says that bought, sold,
closed and net quantity fit together, and `balanced_book` keeps it.
The closed quantity is the smaller one of what was bought and what was sold, since the position
closes against one of the two sides as far as it goes.
-/

namespace TradingEngine

open PositionLedgerCore

/-! ## One position -/

/-- The quantities of a position fit together, and it has a price while it is open. -/
structure MarketPositionState.Balanced (position : MarketPositionState) : Prop where
  net : position.netQtyLots = position.boughtQtyLots - position.soldQtyLots
  closed : position.closedQtyLots = min position.boughtQtyLots position.soldQtyLots
  open_iff : position.hasOpenPrice = true ↔ position.netQtyLots ≠ 0

/-- A position that is stored under its own key. -/
structure MarketPositionState.IsAt (position : MarketPositionState) (key : MarketKey) : Prop where
  exchange : position.exchange = key.exchange
  marketTicker : position.marketTicker = key.marketTicker

namespace PositionLedgerCore

theorem book_isAt (position : MarketPositionState) (b : Booking) :
    (book position b).IsAt b.key := by
  rw [book]
  dsimp only
  split
  · exact ⟨rfl, rfl⟩
  · split <;> exact ⟨rfl, rfl⟩

theorem book_fillCount (position : MarketPositionState) (b : Booking) :
    (book position b).fillCount = position.fillCount + 1 := by
  rw [book]
  dsimp only
  split
  · rfl
  · split <;> rfl

theorem book_lastFillTsNs (position : MarketPositionState) (b : Booking) :
    (book position b).lastFillTsNs = b.recvTsNs := by
  rw [book]
  dsimp only
  split
  · rfl
  · split <;> rfl

theorem book_realizedPnlTicks (position : MarketPositionState) (b : Booking) :
    (book position b).realizedPnlTicks = position.realizedPnlTicks + realizedBy position b := by
  rw [book]
  dsimp only
  split
  · rename_i hflat
    rw [realizedBy, if_pos hflat, add_zero]
    rfl
  · rename_i hopen
    split
    · rename_i hsame
      rw [realizedBy, if_neg hopen, if_pos hsame, add_zero]
      rfl
    · rfl

theorem book_boughtQtyLots (position : MarketPositionState) (b : Booking) :
    (book position b).boughtQtyLots = position.boughtQtyLots + max b.signedQty 0 := by
  have hstamp : (stamp position b).boughtQtyLots = position.boughtQtyLots + max b.signedQty 0 := by
    rw [stamp]
    dsimp only
    split
    · rename_i hbuy
      rw [abs_of_pos hbuy, max_eq_left hbuy.le]
    · rename_i hsell
      rw [max_eq_right (not_lt.mp hsell), add_zero]
  rw [book]
  dsimp only
  split
  · exact hstamp
  · split <;> exact hstamp

theorem book_soldQtyLots (position : MarketPositionState) (b : Booking) :
    (book position b).soldQtyLots = position.soldQtyLots + max (-b.signedQty) 0 := by
  have hstamp : (stamp position b).soldQtyLots = position.soldQtyLots + max (-b.signedQty) 0 := by
    rw [stamp]
    dsimp only
    split
    · rename_i hbuy
      rw [max_eq_right (by omega), add_zero]
    · rename_i hsell
      rw [abs_of_nonpos (not_lt.mp hsell), max_eq_left (by omega)]
  rw [book]
  dsimp only
  split
  · exact hstamp
  · split <;> exact hstamp

/-- The quantity that a booking takes off a long position, less what it takes off a short one. -/
def closedBy (netQtyLots signedQty : ℤ) : ℤ :=
  max 0 (min netQtyLots (-signedQty)) - max 0 (min (-netQtyLots) signedQty)

/-- A purchase closes what is short. -/
theorem closedBy_of_pos {netQtyLots signedQty : ℤ} (h : 0 < signedQty) :
    closedBy netQtyLots signedQty = -max 0 (min (-netQtyLots) signedQty) := by
  rw [closedBy]
  omega

/-- A sale closes what is long. -/
theorem closedBy_of_neg {netQtyLots signedQty : ℤ} (h : signedQty < 0) :
    closedBy netQtyLots signedQty = max 0 (min netQtyLots (-signedQty)) := by
  rw [closedBy]
  omega

theorem book_closedQtyLots (position : MarketPositionState) (b : Booking) :
    (book position b).closedQtyLots =
      position.closedQtyLots + |closedBy position.netQtyLots b.signedQty| := by
  rw [book, closedBy]
  dsimp only [stamp]
  split
  · rename_i hflat
    dsimp only
    rw [hflat, abs_eq_max_neg]
    omega
  split
  · rename_i hsame
    rw [SameDirection] at hsame
    dsimp only
    rw [abs_eq_max_neg]
    omega
  · rename_i hother
    rw [SameDirection] at hother
    dsimp only
    rw [abs_eq_max_neg, abs_eq_max_neg, abs_eq_max_neg]
    omega

theorem realizedBy_eq (position : MarketPositionState) (b : Booking) :
    realizedBy position b =
      (b.price - position.avgOpenPriceTicks) * closedBy position.netQtyLots b.signedQty := by
  rw [realizedBy, closedBy]
  dsimp only
  split
  · rename_i hflat
    have hnone : max 0 (min position.netQtyLots (-b.signedQty))
        - max 0 (min (-position.netQtyLots) b.signedQty) = 0 := by omega
    rw [hnone, mul_zero]
  split
  · rename_i hsame
    rw [SameDirection] at hsame
    have hnone : max 0 (min position.netQtyLots (-b.signedQty))
        - max 0 (min (-position.netQtyLots) b.signedQty) = 0 := by omega
    rw [hnone, mul_zero]
  rename_i hother
  rw [SameDirection] at hother
  split
  · rename_i hlong
    congr 1
    rw [abs_eq_max_neg, abs_eq_max_neg]
    omega
  · rename_i hshort
    rw [← neg_sub b.price, neg_mul, ← mul_neg]
    congr 1
    rw [abs_eq_max_neg, abs_eq_max_neg]
    omega

/-! ### The open price across a booking -/

section OpenPrice

variable (position : MarketPositionState) (b : Booking)

theorem book_opened (hflat : position.netQtyLots = 0) :
    (book position b).avgOpenPriceTicks = b.price ∧ (book position b).hasOpenPrice = true := by
  rw [book]
  simp only [if_pos hflat, and_self]

theorem book_added (hsame : SameDirection position.netQtyLots b.signedQty) :
    (book position b).avgOpenPriceTicks =
        (weightedNotional position b).tdiv (|position.netQtyLots| + |b.signedQty|) ∧
      (book position b).hasOpenPrice = true := by
  have hopen : position.netQtyLots ≠ 0 := by
    rw [SameDirection] at hsame
    omega
  rw [book]
  simp only [if_neg hopen, if_pos hsame, and_self]

/-- The branch of `book` for a fill against the position. -/
theorem book_against (hopen : position.netQtyLots ≠ 0)
    (hother : ¬SameDirection position.netQtyLots b.signedQty) :
    (book position b).avgOpenPriceTicks =
        (if position.netQtyLots + b.signedQty ≠ 0 ∧
            ((position.netQtyLots > 0 ∧ position.netQtyLots + b.signedQty < 0) ∨
              (position.netQtyLots < 0 ∧ position.netQtyLots + b.signedQty > 0)) then b.price
          else position.avgOpenPriceTicks) ∧
      (book position b).hasOpenPrice =
        (if position.netQtyLots + b.signedQty = 0 then false
          else if (position.netQtyLots > 0 ∧ position.netQtyLots + b.signedQty < 0) ∨
              (position.netQtyLots < 0 ∧ position.netQtyLots + b.signedQty > 0) then true
          else position.hasOpenPrice) := by
  rw [book]
  simp only [if_neg hopen, if_neg hother, and_self]

theorem book_flipped
    (hflip : (position.netQtyLots > 0 ∧ position.netQtyLots + b.signedQty < 0) ∨
      (position.netQtyLots < 0 ∧ position.netQtyLots + b.signedQty > 0)) :
    (book position b).avgOpenPriceTicks = b.price ∧ (book position b).hasOpenPrice = true := by
  have hne : position.netQtyLots + b.signedQty ≠ 0 := by omega
  obtain ⟨hprice, hopen⟩ := book_against position b (by omega)
    (by rw [SameDirection]; omega)
  rw [hprice, hopen, if_pos ⟨hne, hflip⟩, if_neg hne, if_pos hflip]
  exact ⟨rfl, rfl⟩

/-- A fill that leaves something of the position leaves its price. -/
theorem book_reduced (hopen : position.netQtyLots ≠ 0)
    (hother : ¬SameDirection position.netQtyLots b.signedQty)
    (hside : 0 < position.netQtyLots ↔ 0 < position.netQtyLots + b.signedQty)
    (hleft : position.netQtyLots + b.signedQty ≠ 0) :
    (book position b).avgOpenPriceTicks = position.avgOpenPriceTicks ∧
      (book position b).hasOpenPrice = position.hasOpenPrice := by
  obtain ⟨hprice, hflag⟩ := book_against position b hopen hother
  have hkept : ¬((position.netQtyLots > 0 ∧ position.netQtyLots + b.signedQty < 0) ∨
      (position.netQtyLots < 0 ∧ position.netQtyLots + b.signedQty > 0)) := by omega
  rw [hprice, hflag, if_neg fun h ↦ hkept h.2, if_neg hleft, if_neg hkept]
  exact ⟨rfl, rfl⟩

theorem book_closed (hopen : position.netQtyLots ≠ 0)
    (hzero : position.netQtyLots + b.signedQty = 0) :
    (book position b).avgOpenPriceTicks = position.avgOpenPriceTicks ∧
      (book position b).hasOpenPrice = false := by
  obtain ⟨hprice, hflag⟩ := book_against position b hopen
    (by rw [SameDirection]; omega)
  rw [hprice, hflag, if_neg fun h ↦ h.1 hzero, if_pos hzero]
  exact ⟨rfl, rfl⟩

end OpenPrice

theorem balanced_empty : ({} : MarketPositionState).Balanced :=
  ⟨rfl, rfl, by decide⟩

/-- **One booking.** It closes against the other side as far as that goes, and the flag follows the
side of zero that the position ends on. -/
theorem balanced_book {position : MarketPositionState} (h : position.Balanced) {b : Booking}
    (hqty : b.signedQty ≠ 0) : (book position b).Balanced := by
  obtain ⟨hnet, hclosed, hopen⟩ := h
  refine ⟨?_, ?_, ?_⟩
  · rw [book_netQtyLots, book_boughtQtyLots, book_soldQtyLots, hnet]
    omega
  · rw [book_closedQtyLots, book_boughtQtyLots, book_soldQtyLots, hclosed, hnet]
    rcases hqty.lt_or_gt with hsale | hpurchase
    · rw [closedBy_of_neg hsale, abs_of_nonneg (le_max_left _ _)]
      omega
    · rw [closedBy_of_pos hpurchase, abs_neg, abs_of_nonneg (le_max_left _ _)]
      omega
  rw [book_netQtyLots]
  by_cases hflat : position.netQtyLots = 0
  · rw [hflat, zero_add]
    exact iff_of_true (book_opened position b hflat).2 hqty
  by_cases hsame : SameDirection position.netQtyLots b.signedQty
  · have hadded := (book_added position b hsame).2
    rw [SameDirection] at hsame
    exact iff_of_true hadded (by omega)
  by_cases hzero : position.netQtyLots + b.signedQty = 0
  · rw [(book_closed position b hflat hzero).2]
    exact iff_of_false (by decide) (not_not.mpr hzero)
  refine iff_of_true ?_ hzero
  by_cases hside : 0 < position.netQtyLots ↔ 0 < position.netQtyLots + b.signedQty
  · rw [(book_reduced position b hflat hsame hside hzero).2]
    exact hopen.mpr hflat
  · exact (book_flipped position b (by omega)).2

/-! ## The ledger -/

/-- The positions are in order, and the totals are sums over them. -/
structure Consistent (core : PositionLedgerCore) : Prop where
  balanced : ∀ key position, core.positions.lookup key = some position → position.Balanced
  isAt : ∀ key position, core.positions.lookup key = some position → position.IsAt key
  realized : core.realizedPnlTicksTotal =
    core.positions.sumOf fun _ position ↦ position.realizedPnlTicks
  processed : core.processedFillCount = core.positions.sumOf fun _ position ↦ position.fillCount

theorem Consistent.applyBooking {core : PositionLedgerCore} (h : core.Consistent) {b : Booking}
    (hqty : b.signedQty ≠ 0) : (core.applyBooking b).Consistent := by
  have hbalanced : (core.positionAt b.key).Balanced := by
    rw [positionAt]
    cases hlookup : core.positions.lookup b.key with
    | none => exact balanced_empty
    | some position => exact h.balanced b.key position hlookup
  -- the position of the booking is new, the others are where they were
  have hwritten : ∀ key position, (core.applyBooking b).positions.lookup key = some position →
      key = b.key ∧ position = book (core.positionAt b.key) b ∨
        core.positions.lookup key = some position := by
    intro key position hlookup
    rw [PositionLedgerCore.applyBooking] at hlookup
    dsimp only at hlookup
    by_cases hkey : key = b.key
    · rw [hkey, AList.lookup_insert] at hlookup
      exact .inl ⟨hkey, (Option.some.inj hlookup).symm⟩
    · rw [AList.lookup_insert_ne hkey] at hlookup
      exact .inr hlookup
  refine ⟨?_, ?_, ?_, ?_⟩
  · intro key position hlookup
    rcases hwritten key position hlookup with ⟨rfl, rfl⟩ | hold
    · exact balanced_book hbalanced hqty
    · exact h.balanced key position hold
  · intro key position hlookup
    rcases hwritten key position hlookup with ⟨rfl, rfl⟩ | hold
    · exact book_isAt _ b
    · exact h.isAt key position hold
  · have hsum := core.sumOf_applyBooking (f := fun _ position ↦ position.realizedPnlTicks)
      (fun _ ↦ rfl) b
    have htotal : (core.applyBooking b).realizedPnlTicksTotal =
        core.realizedPnlTicksTotal + realizedBy (core.positionAt b.key) b := rfl
    rw [book_realizedPnlTicks, ← h.realized] at hsum
    omega
  · have hsum := core.sumOf_applyBooking (f := fun _ position ↦ position.fillCount) (fun _ ↦ rfl) b
    have htotal : (core.applyBooking b).processedFillCount = core.processedFillCount + 1 := rfl
    rw [book_fillCount, ← h.processed] at hsum
    omega

/-! ## Runs -/

/-- **What becomes of an update.** It is ignored, refused or booked, and the first two move one
counter each and nothing else. -/
theorem onOrderUpdate_cases (core : PositionLedgerCore) (update : OrderStateUpdate) :
    (bookingOf update = none ∧ core.onOrderUpdate update =
      (.ok (), { core with ignoredUpdateCount := core.ignoredUpdateCount + 1 })) ∨
    (∃ message, bookingOf update = none ∧ core.onOrderUpdate update =
      (.error message, { core with rejectedFillCount := core.rejectedFillCount + 1 })) ∨
    (∃ b, bookingOf update = some b ∧ b.signedQty ≠ 0 ∧
      core.onOrderUpdate update = (.ok (), core.applyBooking b)) := by
  rw [onOrderUpdate, bookingOf]
  split
  · exact .inl ⟨rfl, rfl⟩
  · split
    · rename_i fill _
      rw [applyFill]
      cases hcheck : checkFill update fill with
      | error message => exact .inr (.inl ⟨message, rfl, rfl⟩)
      | ok b =>
        obtain ⟨_, _, hsigned, rfl⟩ := checkFill_ok hcheck
        exact .inr (.inr ⟨_, rfl, hsigned, rfl⟩)
    · exact .inr (.inl ⟨_, rfl, rfl⟩)

theorem consistent_onOrderUpdate {core : PositionLedgerCore} (h : core.Consistent)
    (update : OrderStateUpdate) : (core.onOrderUpdate update).2.Consistent := by
  rcases core.onOrderUpdate_cases update with ⟨_, heq⟩ | ⟨message, _, heq⟩ | ⟨b, _, hqty, heq⟩
  · rw [heq]
    exact ⟨h.balanced, h.isAt, h.realized, h.processed⟩
  · rw [heq]
    exact ⟨h.balanced, h.isAt, h.realized, h.processed⟩
  · rw [heq]
    exact h.applyBooking hqty

theorem consistent_run {core : PositionLedgerCore} (h : core.Consistent)
    (updates : List OrderStateUpdate) : (core.run updates).Consistent := by
  induction updates generalizing core with
  | nil => exact h
  | cons update updates ih => exact ih (consistent_onOrderUpdate h update)

/-- The ledger after a list of updates, from its construction on. -/
def ofUpdates (updates : List OrderStateUpdate) : PositionLedgerCore :=
  ({} : PositionLedgerCore).run updates

theorem consistent_empty : ({} : PositionLedgerCore).Consistent where
  balanced _ _ hlookup := by cases hlookup
  isAt _ _ hlookup := by cases hlookup
  realized := rfl
  processed := rfl

/-- Every position belongs to one of the three exchanges. -/
theorem sum_portfolioRiskSnapshot (core : PositionLedgerCore) (marketTicker : String) :
    (core.portfolioRiskSnapshot .unknown marketTicker).realizedPnlTicksTotal
        + (core.portfolioRiskSnapshot .kalshi marketTicker).realizedPnlTicksTotal
        + (core.portfolioRiskSnapshot .polymarket marketTicker).realizedPnlTicksTotal =
      core.positions.sumOf fun _ position ↦ position.realizedPnlTicks := by
  simp only [portfolioRiskSnapshot]
  rw [← UnorderedMap.sumOf_add, ← UnorderedMap.sumOf_add]
  refine UnorderedMap.sumOf_congr fun key position _ ↦ ?_
  cases key.exchange <;> simp

/-- The gross position of an exchange covers the net position of each of its markets. -/
theorem abs_netPosition_le_gross (core : PositionLedgerCore) (exchange : ExchangeId)
    (marketTicker : String) :
    |(core.portfolioRiskSnapshot exchange marketTicker).netPositionMarket| ≤
      (core.portfolioRiskSnapshot exchange marketTicker).grossPositionGlobal := by
  have hnonneg : ∀ key position, 0 ≤ sizeAt exchange key position := by
    intro key position
    rw [sizeAt]
    split
    · exact le_rfl
    · exact abs_nonneg _
  have hgross : (core.portfolioRiskSnapshot exchange marketTicker).grossPositionGlobal =
      core.grossPosition exchange := rfl
  rw [hgross, portfolioRiskSnapshot_netPositionMarket, netPosition, positionAt, grossPosition]
  cases hlookup : core.positions.lookup { exchange, marketTicker } with
  | none =>
    rw [Option.getD_none, abs_zero, UnorderedMap.sumOf]
    refine List.sum_nonneg fun size hsize ↦ ?_
    obtain ⟨entry, _, rfl⟩ := List.mem_map.mp hsize
    exact hnonneg entry.1 entry.2
  | some position =>
    have hsize : sizeAt exchange { exchange, marketTicker } position = |position.netQtyLots| :=
      if_neg (not_not.mpr rfl)
    rw [Option.getD_some, ← hsize]
    exact UnorderedMap.le_sumOf hnonneg hlookup

end PositionLedgerCore

/-- **The books are in order** after any sequence of updates: in every market, for its totals, and
in what the ledger shows of them. -/
theorem ledger_consistent (updates : List OrderStateUpdate) :
    (∀ key position, (ofUpdates updates).positions.lookup key = some position →
      position.netQtyLots = position.boughtQtyLots - position.soldQtyLots ∧
      position.closedQtyLots = min position.boughtQtyLots position.soldQtyLots ∧
      (position.hasOpenPrice = true ↔ position.netQtyLots ≠ 0) ∧
      position.exchange = key.exchange ∧ position.marketTicker = key.marketTicker) ∧
    (∀ exchange marketTicker snapshot,
      (ofUpdates updates).marketPosition exchange marketTicker = some snapshot →
      (snapshot.avgOpenPriceTicks.isSome ↔ snapshot.netQtyLots ≠ 0)) ∧
    (ofUpdates updates).realizedPnlTicksTotal =
      (ofUpdates updates).positions.sumOf (fun _ position ↦ position.realizedPnlTicks) ∧
    (∀ marketTicker, (ofUpdates updates).realizedPnlTicksTotal =
      ((ofUpdates updates).portfolioRiskSnapshot .unknown marketTicker).realizedPnlTicksTotal
        + ((ofUpdates updates).portfolioRiskSnapshot .kalshi marketTicker).realizedPnlTicksTotal
        + ((ofUpdates updates).portfolioRiskSnapshot .polymarket
            marketTicker).realizedPnlTicksTotal) ∧
    (ofUpdates updates).processedFillCount =
      (ofUpdates updates).positions.sumOf (fun _ position ↦ position.fillCount) ∧
    ∀ exchange marketTicker,
      |((ofUpdates updates).portfolioRiskSnapshot exchange marketTicker).netPositionMarket| ≤
        ((ofUpdates updates).portfolioRiskSnapshot exchange marketTicker).grossPositionGlobal := by
  have h : (ofUpdates updates).Consistent := consistent_run consistent_empty updates
  refine ⟨?_, ?_, h.realized, ?_, h.processed, (ofUpdates updates).abs_netPosition_le_gross⟩
  · intro key position hlookup
    obtain ⟨hnet, hclosed, hopen⟩ := h.balanced key position hlookup
    obtain ⟨hexchange, hticker⟩ := h.isAt key position hlookup
    exact ⟨hnet, hclosed, hopen, hexchange, hticker⟩
  · intro exchange marketTicker snapshot hsnapshot
    obtain ⟨position, hlookup, rfl⟩ := Option.map_eq_some_iff.mp hsnapshot
    have hopen := (h.balanced _ position hlookup).open_iff
    rw [← hopen]
    cases position.hasOpenPrice <;> simp
  · intro marketTicker
    rw [sum_portfolioRiskSnapshot, h.realized]

/-! ## Markets are kept apart -/

namespace PositionLedgerCore

/-- The update is a fill of this market that the ledger accepts. -/
def isFillOf (key : MarketKey) (update : OrderStateUpdate) : Bool :=
  (bookingOf update).any fun b ↦ b.key = key

theorem isFillOf_of_none {key : MarketKey} {update : OrderStateUpdate}
    (h : bookingOf update = none) : isFillOf key update = false := by
  rw [isFillOf, h]
  rfl

/-- Two ledgers that agree on a market still agree on it after the same fills of the market,
whatever else the first one sees. -/
theorem lookup_run_filter (key : MarketKey) (updates : List OrderStateUpdate) :
    ∀ core core' : PositionLedgerCore,
      core.positions.lookup key = core'.positions.lookup key →
      (core.run updates).positions.lookup key =
        (core'.run (updates.filter (isFillOf key))).positions.lookup key := by
  induction updates with
  | nil => intro core core' h; exact h
  | cons update updates ih =>
    intro core core' h
    have hrun : core.run (update :: updates) = (core.onOrderUpdate update).2.run updates := rfl
    rw [hrun]
    rcases core.onOrderUpdate_cases update with ⟨hnone, heq⟩ | ⟨message, hnone, heq⟩ |
      ⟨b, hb, _, heq⟩
    · rw [heq, List.filter_cons_of_neg (by rw [isFillOf_of_none hnone]; decide)]
      exact ih _ core' h
    · rw [heq, List.filter_cons_of_neg (by rw [isFillOf_of_none hnone]; decide)]
      exact ih _ core' h
    by_cases hkey : b.key = key
    · -- a fill of this market: both ledgers book it to the same position
      have hpositions := core.onOrderUpdate_positions update
      have hpositions' := core'.onOrderUpdate_positions update
      rw [hb] at hpositions hpositions'
      rw [List.filter_cons_of_pos (by rw [isFillOf, hb]; exact decide_eq_true hkey)]
      refine ih _ (core'.onOrderUpdate update).2 ?_
      rw [hpositions, hpositions', ← hkey, AList.lookup_insert, AList.lookup_insert, positionAt,
        positionAt, hkey, h]
    · -- a fill of another market
      rw [List.filter_cons_of_neg (by rw [isFillOf, hb]; simpa using hkey), heq]
      refine ih _ core' (Eq.trans ?_ h)
      exact AList.lookup_insert_ne (Ne.symm hkey)

theorem counts_run (updates : List OrderStateUpdate) : ∀ core : PositionLedgerCore,
    (core.run updates).processedFillCount + (core.run updates).ignoredUpdateCount
        + (core.run updates).rejectedFillCount =
      core.processedFillCount + core.ignoredUpdateCount + core.rejectedFillCount
        + updates.length := by
  induction updates with
  | nil => intro core; rfl
  | cons update updates ih =>
    intro core
    have hrun : core.run (update :: updates) = (core.onOrderUpdate update).2.run updates := rfl
    rw [hrun, ih, List.length_cons]
    rcases core.onOrderUpdate_cases update with ⟨_, heq⟩ | ⟨message, _, heq⟩ | ⟨b, _, _, heq⟩
    · rw [heq]
      dsimp only
      omega
    · rw [heq]
      dsimp only
      omega
    · rw [heq]
      dsimp only [applyBooking]
      omega

end PositionLedgerCore

/-- **Markets are isolated.** After any updates, the position of a market is the one that its own
accepted fills lead to, so it does not matter how the fills of different markets are interleaved.
An update that is ignored or refused moves its own counter and nothing else, and every update is
counted once. -/
theorem market_isolation (updates : List OrderStateUpdate) :
    (∀ key, (ofUpdates updates).positions.lookup key =
      (ofUpdates (updates.filter (isFillOf key))).positions.lookup key) ∧
    (∀ key updates', updates'.filter (isFillOf key) = updates.filter (isFillOf key) →
      (ofUpdates updates').positions.lookup key = (ofUpdates updates).positions.lookup key) ∧
    (∀ update, update.status ≠ .filled ∧ update.status ≠ .partiallyFilled →
      (ofUpdates updates).onOrderUpdate update = (.ok (), { ofUpdates updates with
        ignoredUpdateCount := (ofUpdates updates).ignoredUpdateCount + 1 })) ∧
    (∀ update message, ((ofUpdates updates).onOrderUpdate update).1 = .error message →
      ((ofUpdates updates).onOrderUpdate update).2 = { ofUpdates updates with
        rejectedFillCount := (ofUpdates updates).rejectedFillCount + 1 }) ∧
    (ofUpdates updates).processedFillCount + (ofUpdates updates).ignoredUpdateCount
      + (ofUpdates updates).rejectedFillCount = updates.length := by
  have hown : ∀ key updates, (ofUpdates updates).positions.lookup key =
      (ofUpdates (updates.filter (isFillOf key))).positions.lookup key :=
    fun key updates ↦ lookup_run_filter key updates {} {} rfl
  refine ⟨fun key ↦ hown key updates, ?_, ?_, ?_, ?_⟩
  · intro key updates' hsame
    rw [hown key updates', hown key updates, hsame]
  · intro update hignored
    rw [onOrderUpdate, if_pos hignored]
  · intro update message herror
    rcases (ofUpdates updates).onOrderUpdate_cases update with ⟨_, heq⟩ | ⟨_, _, heq⟩ |
      ⟨_, _, _, heq⟩
    · rw [heq] at herror
      exact absurd herror (by simp)
    · rw [heq]
    · rw [heq] at herror
      exact absurd herror (by simp)
  · rw [ofUpdates, counts_run]
    exact Nat.zero_add _

end TradingEngine
