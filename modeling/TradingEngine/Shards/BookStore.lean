import Std.Data.ExtTreeMap
import TradingEngine.Internal.NormalizedEvent
import TradingEngine.Lib.Machine
import TradingEngine.Lib.UnorderedMap

/-!
# Order books

A shard keeps one book per market. A snapshot replaces the levels, a delta moves one level, a trade
is remembered. Deltas that arrive before the first snapshot are buffered and replayed on top of it;
a buffer that overflows, or a replay that fails, marks the book desynced until the next snapshot.

An operation that returns `false` in the source returns `false` here, together with the book as it
leaves it, half-done work included. Quantities are exact integers, where the source adds 64-bit
numbers.
-/

namespace TradingEngine

open Std (ExtTreeMap TransCmp)

/-- Bid levels, best price first. -/
abbrev BidLevels := ExtTreeMap ℤ ℤ fun a b ↦ compare b a

/-- Ask levels, best price first. -/
abbrev AskLevels := ExtTreeMap ℤ ℤ compare

instance bidOrder : TransCmp fun a b : ℤ ↦ compare b a := inferInstance

instance askOrder : TransCmp (compare : ℤ → ℤ → Ordering) := inferInstance

structure PendingDelta where
  sequenceId : Option ℕ := none
  delta : DeltaData := {}
  deriving DecidableEq

structure BookState where
  marketTicker : String := ""
  lastSeqId : Option ℕ := none
  hasSnapshot : Bool := false
  desynced : Bool := false
  bids : BidLevels := ∅
  asks : AskLevels := ∅
  pendingDeltas : List PendingDelta := []
  lastTrade : Option TradeData := none
  snapshotCount : ℕ := 0
  deltaCount : ℕ := 0
  tradeCount : ℕ := 0
  bufferedDeltaCount : ℕ := 0
  replayedDeltaCount : ℕ := 0
  droppedPendingDeltaCount : ℕ := 0
  desyncCount : ℕ := 0
  staleSequenceCount : ℕ := 0
  applyRejectCount : ℕ := 0

def kMaxPendingDeltas : ℕ := 512

namespace BookState

/-! ## The steps of an apply -/

def markDesynced (book : BookState) (droppedPendingCount : ℕ) : BookState :=
  { book with
    desyncCount := if book.desynced then book.desyncCount else book.desyncCount + 1
    desynced := true
    hasSnapshot := false
    lastSeqId := none
    bids := ∅
    asks := ∅
    pendingDeltas := []
    droppedPendingDeltaCount := book.droppedPendingDeltaCount + droppedPendingCount }

/-- Gaps are allowed, repetitions and regressions are not. -/
def advanceSequenceIfPresent (book : BookState) (sequenceId : Option ℕ) : Bool × BookState :=
  match sequenceId with
  | none => (true, book)
  | some nextSeq =>
    match book.lastSeqId with
    | some lastSeq =>
      if nextSeq ≤ lastSeq then
        (false, { book with staleSequenceCount := book.staleSequenceCount + 1 })
      else (true, { book with lastSeqId := some nextSeq })
    | none => (true, { book with lastSeqId := some nextSeq })

/-- The loop over one side of a snapshot: it stops at the first level the book may not hold, with
the levels before it already in place. -/
def loadLevels {cmp : ℤ → ℤ → Ordering} [TransCmp cmp] (levels : ExtTreeMap ℤ ℤ cmp) :
    List Level → Bool × ExtTreeMap ℤ ℤ cmp
  | [] => (true, levels)
  | level :: rest =>
    if level.priceTicks < 0 ∨ level.qtyLots ≤ 0 then (false, levels)
    else loadLevels (levels.insert level.priceTicks level.qtyLots) rest

/-- Both sides are cleared before the first level is looked at. -/
def applySnapshotData (book : BookState) (snapshot : SnapshotData) : Bool × BookState :=
  let bids := loadLevels (∅ : BidLevels) snapshot.bids
  if bids.1 then
    let asks := loadLevels (∅ : AskLevels) snapshot.asks
    (asks.1, { book with bids := bids.2, asks := asks.2 })
  else (false, { book with bids := bids.2, asks := ∅ })

/-- Add a quantity to one level; a level that is used up is removed. -/
def moveLevel {cmp : ℤ → ℤ → Ordering} [TransCmp cmp] (levels : ExtTreeMap ℤ ℤ cmp)
    (priceTicks deltaQtyLots : ℤ) : ExtTreeMap ℤ ℤ cmp :=
  let updatedQty := levels[priceTicks]?.getD 0 + deltaQtyLots
  if updatedQty ≤ 0 then levels.erase priceTicks else levels.insert priceTicks updatedQty

def applyDeltaData (book : BookState) (delta : DeltaData) : Bool × BookState :=
  if delta.priceTicks < 0 then (false, book)
  else match delta.side with
    | .bid | .buy =>
      (true, { book with bids := moveLevel book.bids delta.priceTicks delta.deltaQtyLots })
    | .ask | .sell =>
      (true, { book with asks := moveLevel book.asks delta.priceTicks delta.deltaQtyLots })
    | .unknown => (false, book)

/-- The replay loop, by recursion on the deltas still to be popped. A stale delta is dropped, an
invalid one desyncs the book and drops itself and the rest. -/
def replayFrom (book : BookState) : List PendingDelta → Bool × BookState
  | [] => (true, { book with pendingDeltas := [] })
  | pending :: rest =>
    let popped := { book with pendingDeltas := rest }
    let advanced := popped.advanceSequenceIfPresent pending.sequenceId
    if advanced.1 then
      let applied := advanced.2.applyDeltaData pending.delta
      if applied.1 then
        replayFrom { applied.2 with
          deltaCount := applied.2.deltaCount + 1
          replayedDeltaCount := applied.2.replayedDeltaCount + 1 } rest
      else (false, applied.2.markDesynced (rest.length + 1))
    else
      replayFrom { advanced.2 with
        droppedPendingDeltaCount := advanced.2.droppedPendingDeltaCount + 1 } rest

def replayPendingDeltas (book : BookState) : Bool × BookState :=
  book.replayFrom book.pendingDeltas

/-- Count a rejected event. -/
def reject (book : BookState) : Bool × BookState :=
  (false, { book with applyRejectCount := book.applyRejectCount + 1 })

/-! ## One event on its own book -/

/-- A snapshot is loaded, and the buffered deltas are still to be replayed on it. -/
def installSnapshot (book : BookState) (event : NormalizedEvent) : BookState :=
  { book with
    hasSnapshot := true
    desynced := false
    lastSeqId := event.effectiveSequenceId
    snapshotCount := book.snapshotCount + 1 }

def applySnapshot (book : BookState) (event : NormalizedEvent) : Bool × BookState :=
  match event.data with
  | .snapshot snapshot =>
    let loaded := book.applySnapshotData snapshot
    if loaded.1 then
      let replayed := (loaded.2.installSnapshot event).replayPendingDeltas
      if replayed.1 then (true, replayed.2) else replayed.2.reject
    else loaded.2.reject
  | _ => book.reject

def applyDelta (book : BookState) (event : NormalizedEvent) : Bool × BookState :=
  match event.data with
  | .delta delta =>
    if book.desynced then book.reject
    else if book.hasSnapshot then
      let advanced := book.advanceSequenceIfPresent event.effectiveSequenceId
      if advanced.1 then
        let applied := advanced.2.applyDeltaData delta
        if applied.1 then (true, { applied.2 with deltaCount := applied.2.deltaCount + 1 })
        else applied.2.reject
      else advanced.2.reject
    else if book.pendingDeltas.length ≥ kMaxPendingDeltas then
      (book.markDesynced (book.pendingDeltas.length + 1)).reject
    else
      (true, { book with
        pendingDeltas := book.pendingDeltas ++
          [{ sequenceId := event.effectiveSequenceId, delta := delta }]
        bufferedDeltaCount := book.bufferedDeltaCount + 1 })
  | _ => book.reject

def applyTrade (book : BookState) (event : NormalizedEvent) : Bool × BookState :=
  match event.data with
  | .trade trade =>
    if book.desynced then book.reject
    else
      let advanced := book.advanceSequenceIfPresent event.effectiveSequenceId
      if advanced.1 then
        (true, { advanced.2 with
          lastTrade := some trade
          tradeCount := advanced.2.tradeCount + 1 })
      else advanced.2.reject
  | _ => book.reject

def applyEvent (book : BookState) (event : NormalizedEvent) : Bool × BookState :=
  match event.type with
  | .snapshot => book.applySnapshot event
  | .delta => book.applyDelta event
  | .trade => book.applyTrade event
  | .heartbeat | .status | .unknown => book.reject

end BookState

/-! ## The store -/

structure BookStore where
  books : UnorderedMap String BookState := ∅

namespace BookStore

def find (store : BookStore) (marketTicker : String) : Option BookState :=
  store.books.lookup marketTicker

/-- The book an event is applied to; a market seen for the first time gets an empty one. -/
def bookFor (store : BookStore) (marketTicker : String) : BookState :=
  (store.find marketTicker).getD { marketTicker := marketTicker }

def apply (store : BookStore) (event : NormalizedEvent) : Bool × BookStore :=
  if event.marketTicker = "" ∨ event.type = .unknown then (false, store)
  else
    let applied := (store.bookFor event.marketTicker).applyEvent event
    (applied.1, { store with books := store.books.insert event.marketTicker applied.2 })

/-- The store as a machine: every event is taken, whether or not it is accepted. -/
def machine : Machine BookStore NormalizedEvent where
  step store event := some (store.apply event).2

theorem find_apply_of_ne (store : BookStore) {event : NormalizedEvent} {marketTicker : String}
    (h : marketTicker ≠ event.marketTicker) :
    (store.apply event).2.find marketTicker = store.find marketTicker := by
  rw [apply]
  split
  · rfl
  · exact AList.lookup_insert_ne h

theorem find_apply_self (store : BookStore) {event : NormalizedEvent}
    (h : ¬(event.marketTicker = "" ∨ event.type = .unknown)) :
    (store.apply event).2.find event.marketTicker
      = some ((store.bookFor event.marketTicker).applyEvent event).2 := by
  rw [apply, if_neg h]
  exact AList.lookup_insert _

theorem apply_fst (store : BookStore) {event : NormalizedEvent}
    (h : ¬(event.marketTicker = "" ∨ event.type = .unknown)) :
    (store.apply event).1 = ((store.bookFor event.marketTicker).applyEvent event).1 := by
  rw [apply, if_neg h]

/-- Apply events one after another. -/
def applyAll (store : BookStore) (events : List NormalizedEvent) : BookStore :=
  events.foldl (fun store event ↦ (store.apply event).2) store

theorem applyAll_concat (store : BookStore) (events : List NormalizedEvent)
    (event : NormalizedEvent) :
    store.applyAll (events ++ [event]) = ((store.applyAll events).apply event).2 := by
  rw [applyAll, List.foldl_append]
  rfl

/-- A book depends on no other book. -/
theorem find_apply_congr {store store' : BookStore} {marketTicker : String}
    (event : NormalizedEvent) (h : store.find marketTicker = store'.find marketTicker) :
    (store.apply event).2.find marketTicker = (store'.apply event).2.find marketTicker := by
  by_cases hmarket : marketTicker = event.marketTicker
  · subst hmarket
    by_cases hguard : event.marketTicker = "" ∨ event.type = .unknown
    · rw [apply, apply, if_pos hguard, if_pos hguard]
      exact h
    · rw [find_apply_self store hguard, find_apply_self store' hguard, bookFor, bookFor, h]
  · rw [find_apply_of_ne store hmarket, find_apply_of_ne store' hmarket]
    exact h

/-- **A book depends on the events of its own market only.** -/
theorem find_applyAll {store store' : BookStore} {marketTicker : String}
    (events : List NormalizedEvent) (h : store.find marketTicker = store'.find marketTicker) :
    (store.applyAll events).find marketTicker =
      (store'.applyAll (events.filter fun event ↦ event.marketTicker = marketTicker)).find
        marketTicker := by
  induction events generalizing store store' with
  | nil => exact h
  | cons event events ih =>
    by_cases hmarket : event.marketTicker = marketTicker
    · rw [List.filter_cons_of_pos (by simpa using hmarket)]
      exact ih (find_apply_congr event h)
    · rw [List.filter_cons_of_neg (by simpa using hmarket)]
      exact ih ((find_apply_of_ne store fun heq ↦ hmarket heq.symm).trans h)

/-- **Books are independent.** What holds of a fresh book and is kept by every event of a kind on
its own book holds of every book of every store that events of the kind lead to. -/
theorem forall_book_of_reachesVia {P : BookState → Prop} {ok : NormalizedEvent → Prop}
    (hfresh : ∀ marketTicker, P { marketTicker := marketTicker })
    (hevent : ∀ book event, ok event → P book → P (BookState.applyEvent book event).2)
    {store : BookStore} (h : machine.ReachesVia (fun _ event ↦ ok event) {} store) :
    ∀ marketTicker, P (store.bookFor marketTicker) := by
  refine h.invariant (P := fun store ↦ ∀ marketTicker, P (store.bookFor marketTicker)) ?_ ?_
  · intro marketTicker
    exact hfresh marketTicker
  · intro store event store' _ ih hok hstep marketTicker
    obtain rfl := Option.some.inj hstep
    by_cases hguard : event.marketTicker = "" ∨ event.type = .unknown
    · rw [apply, if_pos hguard]
      exact ih marketTicker
    · by_cases hmarket : marketTicker = event.marketTicker
      · rw [hmarket, bookFor, find_apply_self store hguard]
        exact hevent _ event hok (ih event.marketTicker)
      · rw [bookFor, find_apply_of_ne store hmarket]
        exact ih marketTicker

/-- The same for all events. -/
theorem forall_book_of_reaches {P : BookState → Prop}
    (hfresh : ∀ marketTicker, P { marketTicker := marketTicker })
    (hevent : ∀ book event, P book → P (BookState.applyEvent book event).2)
    {store : BookStore} (h : machine.Reaches {} store) :
    ∀ marketTicker, P (store.bookFor marketTicker) :=
  forall_book_of_reachesVia hfresh (fun book event _ ↦ hevent book event) h

end BookStore

end TradingEngine
