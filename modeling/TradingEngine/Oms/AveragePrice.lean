import Mathlib.Data.Int.Order.Lemmas
import Mathlib.Data.Set.Finite.Lemmas
import Mathlib.Data.Set.Finite.List
import Mathlib.Order.Bounds.Basic
import Mathlib.Tactic.Linarith
import TradingEngine.Oms.LedgerInvariants

/-!
# The average price stays inside the prices paid

The average open price is recomputed with a truncating quotient each time a position is added to,
kept while the position is reduced, and set anew when it is opened or flipped. So it is no longer
the average of anything in particular. It still lies between the lowest and the highest price of
the fills that built the position up (`avg_price_between_prices_paid`).

Which fills these are is a matter of the net quantities alone: `BuildsUp` reads it off the fills,
without the ledger. One more fill keeps those that count so far while the position keeps its side,
and counts itself if it is on that side (`mem_openPrices_append`).
-/

namespace TradingEngine

open PositionLedgerCore

/-! ## Truncated means -/

/-- A truncated mean does not fall below what both of its parts are above. -/
theorem le_tdiv_mean {lo a b m n : ℤ} (hm : 0 < m) (hn : 0 < n) (ha : lo ≤ a) (hb : lo ≤ b) :
    lo ≤ (a * m + b * n).tdiv (m + n) := by
  refine Int.le_tdiv_of_mul_le (by omega) ?_
  rw [mul_add]
  exact add_le_add (mul_le_mul_of_nonneg_right ha hm.le) (mul_le_mul_of_nonneg_right hb hn.le)

theorem tdiv_mean_le {hi a b m n : ℤ} (hm : 0 < m) (hn : 0 < n) (ha : a ≤ hi) (hb : b ≤ hi) :
    (a * m + b * n).tdiv (m + n) ≤ hi := by
  have hsum : a * m + b * n ≤ hi * (m + n) := by
    rw [mul_add]
    exact add_le_add (mul_le_mul_of_nonneg_right ha hm.le) (mul_le_mul_of_nonneg_right hb hn.le)
  calc (a * m + b * n).tdiv (m + n) ≤ (hi * (m + n)).tdiv (m + n) :=
        Int.tdiv_le_tdiv (by omega) hsum
    _ = hi := Int.mul_tdiv_cancel hi (by omega)

/-! ## The fills that built a position up -/

/-- The net quantity that some fills of one market add up to. -/
def netOf (fills : List Booking) : ℤ := (fills.map Booking.signedQty).sum

theorem netOf_append_singleton (fills : List Booking) (b : Booking) :
    netOf (fills ++ [b]) = netOf fills + b.signedQty := by
  rw [netOf, List.map_append, List.sum_append, ← netOf, List.map_singleton, List.sum_singleton]

/-- Between the fills `earlier` and `later`, the fill `b` opened, flipped into or added to the
position that there is at the end: it is on the side of that position, and the net quantity has had
this side since. -/
def BuildsUp (earlier : List Booking) (b : Booking) (later : List Booking) : Prop :=
  b.signedQty.sign = (netOf (earlier ++ b :: later)).sign ∧
  ∀ seen, seen <+: later →
    (netOf (earlier ++ b :: seen)).sign = (netOf (earlier ++ b :: later)).sign

/-- The prices of the fills that built the position up. -/
def openPrices (fills : List Booking) : Set ℤ :=
  {price | ∃ earlier b later, fills = earlier ++ b :: later ∧ BuildsUp earlier b later ∧
    b.price = price}

theorem buildsUp_append_singleton (earlier later : List Booking) (b last : Booking) :
    BuildsUp earlier b (later ++ [last]) ↔
      BuildsUp earlier b later ∧
        (netOf (earlier ++ b :: later ++ [last])).sign = (netOf (earlier ++ b :: later)).sign := by
  rw [BuildsUp, BuildsUp, ← List.cons_append, ← List.append_assoc]
  constructor
  · rintro ⟨hside, hkept⟩
    have hlast := hkept later (List.prefix_append later [last])
    refine ⟨⟨hside.trans hlast.symm, fun seen hseen ↦ ?_⟩, hlast.symm⟩
    exact (hkept seen (hseen.trans (List.prefix_append later [last]))).trans hlast.symm
  · rintro ⟨⟨hside, hkept⟩, hlast⟩
    refine ⟨hside.trans hlast.symm, fun seen hseen ↦ ?_⟩
    rcases List.prefix_concat_iff.mp hseen with rfl | hseen
    · rw [← List.cons_append, ← List.append_assoc]
    · exact (hkept seen hseen).trans hlast.symm

/-- **One more fill.** It counts if it is on the side of the position it leads to, and the others
still count if the position has kept its side. -/
theorem mem_openPrices_append {fills : List Booking} {last : Booking} {price : ℤ} :
    price ∈ openPrices (fills ++ [last]) ↔
      (last.price = price ∧ last.signedQty.sign = (netOf fills + last.signedQty).sign) ∨
      (price ∈ openPrices fills ∧
        (netOf fills + last.signedQty).sign = (netOf fills).sign) := by
  rw [← netOf_append_singleton]
  constructor
  · rintro ⟨earlier, b, later, heq, hbuilds, rfl⟩
    rcases List.eq_nil_or_concat' later with rfl | ⟨later, last', rfl⟩
    · -- the last fill itself
      obtain ⟨rfl, hlast⟩ := List.append_inj' heq rfl
      obtain rfl := List.singleton_inj.mp hlast
      exact .inl ⟨rfl, hbuilds.1⟩
    · rw [← List.cons_append, ← List.append_assoc] at heq
      obtain ⟨rfl, hlast⟩ := List.append_inj' heq rfl
      obtain rfl := List.singleton_inj.mp hlast
      obtain ⟨hbuilds, hkept⟩ := (buildsUp_append_singleton ..).mp hbuilds
      exact .inr ⟨⟨earlier, b, later, rfl, hbuilds, rfl⟩, hkept⟩
  · rintro (⟨rfl, hside⟩ | ⟨⟨earlier, b, later, rfl, hbuilds, rfl⟩, hkept⟩)
    · refine ⟨fills, last, [], rfl, ⟨hside, fun seen hseen ↦ ?_⟩, rfl⟩
      rw [List.prefix_nil.mp hseen]
    · refine ⟨earlier, b, later ++ [last], ?_, ?_, rfl⟩
      · rw [List.append_assoc, List.cons_append]
      · exact (buildsUp_append_singleton ..).mpr ⟨hbuilds, hkept⟩

theorem openPrices_finite (fills : List Booking) : (openPrices fills).Finite := by
  refine (List.finite_toSet (fills.map Booking.price)).subset ?_
  rintro price ⟨earlier, b, later, rfl, _, rfl⟩
  exact List.mem_map_of_mem (List.mem_append_right _ List.mem_cons_self)

/-! ## One booking -/

/-- The average price of an open position has prices of its fills on both sides. -/
structure PricedBy (position : MarketPositionState) (fills : List Booking) : Prop where
  net : position.netQtyLots = netOf fills
  low : position.netQtyLots ≠ 0 → ∃ price ∈ openPrices fills, price ≤ position.avgOpenPriceTicks
  high : position.netQtyLots ≠ 0 → ∃ price ∈ openPrices fills, position.avgOpenPriceTicks ≤ price

theorem sign_eq_of_sameDirection {net qty : ℤ} (h : SameDirection net qty) :
    qty.sign = (net + qty).sign ∧ (net + qty).sign = net.sign := by
  rcases h with ⟨hnet, hqty⟩ | ⟨hnet, hqty⟩
  · rw [Int.sign_eq_one_of_pos hqty, Int.sign_eq_one_of_pos hnet,
      Int.sign_eq_one_of_pos (by omega)]
    exact ⟨rfl, rfl⟩
  · rw [Int.sign_eq_neg_one_of_neg hqty, Int.sign_eq_neg_one_of_neg hnet,
      Int.sign_eq_neg_one_of_neg (by omega)]
    exact ⟨rfl, rfl⟩

section

variable {position : MarketPositionState} {fills : List Booking} {b : Booking}

/-- A fill that opens or flips sets the price. -/
theorem PricedBy.of_set (hnet : position.netQtyLots = netOf fills)
    (hprice : (book position b).avgOpenPriceTicks = b.price)
    (hside : b.signedQty.sign = (netOf fills + b.signedQty).sign) :
    PricedBy (book position b) (fills ++ [b]) := by
  have hmem : b.price ∈ openPrices (fills ++ [b]) := mem_openPrices_append.mpr (.inl ⟨rfl, hside⟩)
  refine ⟨?_, fun _ ↦ ⟨b.price, hmem, hprice.ge⟩, fun _ ↦ ⟨b.price, hmem, hprice.le⟩⟩
  rw [book_netQtyLots, netOf_append_singleton, hnet]

/-- A fill that reduces keeps the price, and the fills that count. -/
theorem PricedBy.of_kept (h : PricedBy position fills) (hopen : position.netQtyLots ≠ 0)
    (hprice : (book position b).avgOpenPriceTicks = position.avgOpenPriceTicks)
    (hkept : (netOf fills + b.signedQty).sign = (netOf fills).sign) :
    PricedBy (book position b) (fills ++ [b]) := by
  obtain ⟨low, hlow, hle⟩ := h.low hopen
  obtain ⟨high, hhigh, hge⟩ := h.high hopen
  refine ⟨?_, fun _ ↦ ⟨low, ?_, ?_⟩, fun _ ↦ ⟨high, ?_, ?_⟩⟩
  · rw [book_netQtyLots, netOf_append_singleton, h.net]
  · exact mem_openPrices_append.mpr (.inr ⟨hlow, hkept⟩)
  · rw [hprice]
    exact hle
  · exact mem_openPrices_append.mpr (.inr ⟨hhigh, hkept⟩)
  · rw [hprice]
    exact hge

/-- A fill that adds moves the price towards its own. -/
theorem PricedBy.of_added (h : PricedBy position fills)
    (hsame : SameDirection position.netQtyLots b.signedQty) :
    PricedBy (book position b) (fills ++ [b]) := by
  have hprice := (book_added position b hsame).1
  have hopen : position.netQtyLots ≠ 0 := by
    rw [SameDirection] at hsame
    omega
  have hold : 0 < |position.netQtyLots| := abs_pos.mpr hopen
  have hnew : 0 < |b.signedQty| := by
    rw [SameDirection] at hsame
    exact abs_pos.mpr (by omega)
  obtain ⟨hside, hkept⟩ := sign_eq_of_sameDirection hsame
  rw [h.net] at hside hkept
  have hmem : b.price ∈ openPrices (fills ++ [b]) := mem_openPrices_append.mpr (.inl ⟨rfl, hside⟩)
  obtain ⟨low, hlow, hle⟩ := h.low hopen
  obtain ⟨high, hhigh, hge⟩ := h.high hopen
  refine ⟨?_, fun _ ↦ ?_, fun _ ↦ ?_⟩
  · rw [book_netQtyLots, netOf_append_singleton, h.net]
  · rw [hprice, weightedNotional]
    rcases le_total low b.price with hless | hless
    · exact ⟨low, mem_openPrices_append.mpr (.inr ⟨hlow, hkept⟩), le_tdiv_mean hold hnew hle hless⟩
    · exact ⟨b.price, hmem, le_tdiv_mean hold hnew (hless.trans hle) le_rfl⟩
  · rw [hprice, weightedNotional]
    rcases le_total b.price high with hless | hless
    · exact ⟨high, mem_openPrices_append.mpr (.inr ⟨hhigh, hkept⟩),
        tdiv_mean_le hold hnew hge hless⟩
    · exact ⟨b.price, hmem, tdiv_mean_le hold hnew (hge.trans hless) le_rfl⟩

/-- **One booking,** through the branches of `book`. -/
theorem PricedBy.book (h : PricedBy position fills) :
    PricedBy (book position b) (fills ++ [b]) := by
  by_cases hflat : position.netQtyLots = 0
  · refine .of_set h.net (book_opened position b hflat).1 ?_
    rw [← h.net, hflat, zero_add]
  by_cases hsame : SameDirection position.netQtyLots b.signedQty
  · exact h.of_added hsame
  by_cases hclosed : position.netQtyLots + b.signedQty = 0
  · -- a flat position is not asked for its price
    have hnet : (PositionLedgerCore.book position b).netQtyLots = 0 := by
      rw [book_netQtyLots, hclosed]
    refine ⟨?_, fun hne ↦ absurd hnet hne, fun hne ↦ absurd hnet hne⟩
    rw [book_netQtyLots, netOf_append_singleton, h.net]
  have hother := hsame
  rw [SameDirection] at hother
  by_cases hflip : (position.netQtyLots > 0 ∧ position.netQtyLots + b.signedQty < 0) ∨
      (position.netQtyLots < 0 ∧ position.netQtyLots + b.signedQty > 0)
  · refine .of_set h.net (book_flipped position b hflip).1 ?_
    rw [← h.net]
    rcases hflip with ⟨_, hneg⟩ | ⟨_, hpos⟩
    · rw [Int.sign_eq_neg_one_of_neg hneg, Int.sign_eq_neg_one_of_neg (by omega)]
    · rw [Int.sign_eq_one_of_pos hpos, Int.sign_eq_one_of_pos (by omega)]
  · refine h.of_kept hflat (book_reduced position b hflat hsame (by omega) hclosed).1 ?_
    rw [← h.net]
    rcases lt_or_gt_of_ne hflat with hneg | hpos
    · rw [Int.sign_eq_neg_one_of_neg hneg, Int.sign_eq_neg_one_of_neg (by omega)]
    · rw [Int.sign_eq_one_of_pos hpos, Int.sign_eq_one_of_pos (by omega)]

end

theorem pricedBy_foldl_book (fills : List Booking) : PricedBy (fills.foldl book {}) fills := by
  induction fills using List.reverseRecOn with
  | nil => exact ⟨rfl, fun hne ↦ absurd rfl hne, fun hne ↦ absurd rfl hne⟩
  | append_singleton fills b ih =>
    rw [List.foldl_append]
    exact ih.book

/-! ## Runs -/

/-- **The average price stays inside the prices paid.** After any updates, an open position has an
average price between the lowest and the highest price of the fills that built it up. Prices and
quantities are exact integers: this is about fills for which the two products that are averaged, and
the sum of the two, are 64-bit integers. -/
theorem avg_price_between_prices_paid {updates : List OrderStateUpdate} {key : MarketKey}
    {position : MarketPositionState}
    (hlookup : (ofUpdates updates).positions.lookup key = some position)
    (hopen : position.netQtyLots ≠ 0) :
    ∃ low high, IsLeast (openPrices (bookingsOf key updates)) low ∧
      IsGreatest (openPrices (bookingsOf key updates)) high ∧
      low ≤ position.avgOpenPriceTicks ∧ position.avgOpenPriceTicks ≤ high := by
  have hposition : (bookingsOf key updates).foldl book {} = position := by
    rw [← positionAt_of_lookup hlookup, ofUpdates, positionAt_run]
    rfl
  have hpriced := pricedBy_foldl_book (bookingsOf key updates)
  rw [hposition] at hpriced
  obtain ⟨price, hprice, hle⟩ := hpriced.low hopen
  obtain ⟨price', hprice', hge⟩ := hpriced.high hopen
  have hfinite := openPrices_finite (bookingsOf key updates)
  obtain ⟨low, hlow, hleast⟩ := Set.exists_min_image _ id hfinite ⟨price, hprice⟩
  obtain ⟨high, hhigh, hgreatest⟩ := Set.exists_max_image _ id hfinite ⟨price, hprice⟩
  exact ⟨low, high, ⟨hlow, fun p hp ↦ hleast p hp⟩, ⟨hhigh, fun p hp ↦ hgreatest p hp⟩,
    (hleast price hprice).trans hle, hge.trans (hgreatest price' hprice')⟩

/-- Opened at a negative price, added to at a positive one, and reduced. -/
def SampleOrders.reduced : List OrderStateUpdate :=
  [fillOf .buy 3 (-7), fillOf .bid 2 4, fillOf .sell 4 90]

open SampleOrders in
/-- The mean of the two prices is -2.6, and the quotient is cut to -2. The price of the sale does
not count. -/
theorem avg_price_between_prices_paid_reduced :
    ∃ position, (ofUpdates reduced).positions.lookup market = some position ∧
      position.netQtyLots = 1 ∧ position.avgOpenPriceTicks = -2 ∧
      ∃ low high, IsLeast (openPrices (bookingsOf market reduced)) low ∧
        IsGreatest (openPrices (bookingsOf market reduced)) high ∧ low ≤ -2 ∧ -2 ≤ high := by
  obtain ⟨position, hlookup, hnet, havg⟩ : ∃ position,
      (ofUpdates reduced).positions.lookup market = some position ∧ position.netQtyLots = 1 ∧
        position.avgOpenPriceTicks = -2 := ⟨_, rfl, rfl, rfl⟩
  have hbetween := avg_price_between_prices_paid hlookup (by rw [hnet]; decide)
  rw [havg] at hbetween
  exact ⟨position, hlookup, hnet, havg, hbetween⟩

end TradingEngine
