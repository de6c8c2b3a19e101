import Mathlib.Algebra.Order.Group.Int
import TradingEngine.Lib.Reflection
import TradingEngine.Shards.BookInvariant
import TradingEngine.Shards.SnapshotPosition

/-!
# The depth of a book

What a book shows at one price does not depend on what happens at the others. It starts at the
quantity of the snapshot, every delta at the price is added to it, and it is reflected at zero: a
level that is overdrawn is removed, and what was taken in vain is forgotten. `Ladder` records what
the levels of a book are made from, and `depth_is_reflected_sum` says that the code, with its
buffer, its replays, its refusals and its half-loaded snapshots, keeps to that in every run.
-/

namespace TradingEngine

open Std (ExtTreeMap TransCmp LawfulEqCmp)
open Reflection

/-! ## Levels as functions of the price -/

inductive BookSide
  | bid | ask
  deriving DecidableEq

/-- The side of the book that a delta is about. -/
def Side.bookSide : Side → Option BookSide
  | .bid | .buy => some .bid
  | .ask | .sell => some .ask
  | .unknown => none

section Levels

variable {cmp : ℤ → ℤ → Ordering} [TransCmp cmp]

/-- The quantity of a level; without a level there is none. -/
def levelQty (levels : ExtTreeMap ℤ ℤ cmp) (priceTicks : ℤ) : ℤ := levels[priceTicks]?.getD 0

/-- The quantity at a price in a list of levels, in which the last one counts. -/
def lastQty (levels : List Level) (priceTicks : ℤ) : ℤ :=
  ((levels.filter fun level ↦ level.priceTicks = priceTicks).getLast?.map Level.qtyLots).getD 0

variable [LawfulEqCmp cmp]

theorem levelQty_insert (levels : ExtTreeMap ℤ ℤ cmp) (priceTicks qtyLots price : ℤ) :
    levelQty (levels.insert priceTicks qtyLots) price =
      if priceTicks = price then qtyLots else levelQty levels price := by
  rw [levelQty, ExtTreeMap.getElem?_insert]
  by_cases hprice : priceTicks = price
  · rw [if_pos (LawfulEqCmp.compare_eq_iff_eq.mpr hprice), if_pos hprice]
    rfl
  · rw [if_neg (mt LawfulEqCmp.compare_eq_iff_eq.mp hprice), if_neg hprice]
    rfl

theorem levelQty_erase (levels : ExtTreeMap ℤ ℤ cmp) (priceTicks price : ℤ) :
    levelQty (levels.erase priceTicks) price =
      if priceTicks = price then 0 else levelQty levels price := by
  rw [levelQty, ExtTreeMap.getElem?_erase]
  by_cases hprice : priceTicks = price
  · rw [if_pos (LawfulEqCmp.compare_eq_iff_eq.mpr hprice), if_pos hprice]
    rfl
  · rw [if_neg (mt LawfulEqCmp.compare_eq_iff_eq.mp hprice), if_neg hprice]
    rfl

/-- **One delta**: its level moves and is reflected at zero, the others stay. -/
theorem levelQty_moveLevel (levels : ExtTreeMap ℤ ℤ cmp) (priceTicks deltaQtyLots price : ℤ) :
    levelQty (BookState.moveLevel levels priceTicks deltaQtyLots) price =
      if priceTicks = price then max 0 (levelQty levels price + deltaQtyLots)
      else levelQty levels price := by
  rw [BookState.moveLevel]
  split
  · rename_i hused
    rw [levelQty_erase]
    split
    · rename_i hprice
      rw [← hprice]
      exact (max_eq_left hused).symm
    · rfl
  · rename_i hleft
    rw [levelQty_insert]
    split
    · rename_i hprice
      rw [← hprice]
      exact (max_eq_right (not_le.mp hleft).le).symm
    · rfl

theorem levelQty_levelsOf (levels : List Level) (price : ℤ) :
    levelQty (levelsOf levels : ExtTreeMap ℤ ℤ cmp) price = lastQty levels price := by
  induction levels using List.reverseRecOn with
  | nil => simp [levelQty, levelsOf, lastQty]
  | append_singleton levels level ih =>
    have hinsert : (levelsOf (levels ++ [level]) : ExtTreeMap ℤ ℤ cmp) =
        (levelsOf levels).insert level.priceTicks level.qtyLots := List.foldl_append
    rw [hinsert, levelQty_insert, ih, lastQty, lastQty, List.filter_append]
    by_cases hprice : level.priceTicks = price
    · rw [if_pos hprice, List.filter_cons_of_pos (by simpa using hprice), List.filter_nil,
        List.getLast?_concat]
      rfl
    · rw [if_neg hprice, List.filter_cons_of_neg (by simpa using hprice), List.filter_nil,
        List.append_nil]

end Levels

theorem lastQty_nonneg {levels : List Level} (h : ∀ level ∈ levels, level.Valid)
    (priceTicks : ℤ) : 0 ≤ lastQty levels priceTicks := by
  rw [lastQty]
  cases hlast : (levels.filter fun level ↦ level.priceTicks = priceTicks).getLast? with
  | none => exact le_rfl
  | some level =>
    have hlevel := h level (List.mem_of_mem_filter (List.mem_of_getLast? hlast))
    exact (not_le.mp (not_or.mp hlevel).2).le

/-- The part of a snapshot that is loaded: all of it when it is valid. -/
def SnapshotData.loaded (snapshot : SnapshotData) : SnapshotData where
  bids := validPrefix snapshot.bids
  asks := if ∀ level ∈ snapshot.bids, level.Valid then validPrefix snapshot.asks else []

def SnapshotData.qtyAt (snapshot : SnapshotData) : BookSide → ℤ → ℤ
  | .bid => lastQty snapshot.bids
  | .ask => lastQty snapshot.asks

/-- A delta at a price of a side. -/
def DeltaData.IsAt (delta : DeltaData) (side : BookSide) (priceTicks : ℤ) : Prop :=
  delta.side.bookSide = some side ∧ delta.priceTicks = priceTicks

instance (delta : DeltaData) (side : BookSide) (priceTicks : ℤ) :
    Decidable (delta.IsAt side priceTicks) := inferInstanceAs (Decidable (_ ∧ _))

/-- The quantities that deltas add at one price. -/
def movesAt (deltas : List DeltaData) (side : BookSide) (priceTicks : ℤ) : List ℤ :=
  (deltas.filter fun delta ↦ delta.IsAt side priceTicks).map DeltaData.deltaQtyLots

theorem movesAt_concat (deltas : List DeltaData) (delta : DeltaData) (side : BookSide)
    (priceTicks : ℤ) :
    movesAt (deltas ++ [delta]) side priceTicks =
      movesAt deltas side priceTicks ++
        if delta.IsAt side priceTicks then [delta.deltaQtyLots] else [] := by
  rw [movesAt, List.filter_append, List.map_append, ← movesAt]
  by_cases hat : delta.IsAt side priceTicks
  · rw [if_pos hat, List.filter_cons_of_pos (by simpa using hat)]
    rfl
  · rw [if_neg hat, List.filter_cons_of_neg (by simpa using hat)]
    rfl

/-- **What the levels of a book are made from**: the part of a snapshot that was loaded last, and
the deltas that have moved levels since. -/
structure Ladder where
  base : SnapshotData := {}
  deltas : List DeltaData := []

namespace Ladder

def push (ladder : Ladder) (delta : DeltaData) : Ladder :=
  { ladder with deltas := ladder.deltas ++ [delta] }

/-- The quantity of a level that is made so. -/
def qtyAt (ladder : Ladder) (side : BookSide) (priceTicks : ℤ) : ℤ :=
  reflect (ladder.base.qtyAt side priceTicks) (movesAt ladder.deltas side priceTicks)

/-- A replay empties the book when one of its deltas is invalid. -/
def replay (ladder : Ladder) (deltas : List DeltaData) : Ladder :=
  if ∀ delta ∈ deltas, delta.Valid then { ladder with deltas := ladder.deltas ++ deltas } else {}

theorem replay_nil (ladder : Ladder) : ladder.replay [] = ladder := by
  rw [replay, if_pos (by simp), List.append_nil]

theorem replay_cons (ladder : Ladder) {delta : DeltaData} (deltas : List DeltaData)
    (hvalid : delta.Valid) :
    ladder.replay (delta :: deltas) = (ladder.push delta).replay deltas := by
  simp only [replay, push, List.forall_mem_cons, hvalid, true_and, List.append_assoc,
    List.singleton_append]

theorem replay_cons_of_not_valid (ladder : Ladder) {delta : DeltaData} (deltas : List DeltaData)
    (hinvalid : ¬delta.Valid) : ladder.replay (delta :: deltas) = {} :=
  if_neg fun hall ↦ hinvalid (hall delta List.mem_cons_self)

theorem deltas_replay_sublist (ladder : Ladder) (deltas : List DeltaData) :
    (ladder.replay deltas).deltas.Sublist (ladder.deltas ++ deltas) := by
  rw [replay]
  split
  · exact List.Sublist.refl _
  · exact List.nil_sublist _

theorem qtyAt_push (ladder : Ladder) (delta : DeltaData) (side : BookSide) (priceTicks : ℤ) :
    (ladder.push delta).qtyAt side priceTicks =
      if delta.IsAt side priceTicks then max 0 (ladder.qtyAt side priceTicks + delta.deltaQtyLots)
      else ladder.qtyAt side priceTicks := by
  rw [qtyAt, push, movesAt_concat]
  by_cases hat : delta.IsAt side priceTicks
  · rw [if_pos hat, if_pos hat, reflect_concat]
    rfl
  · rw [if_neg hat, if_neg hat, List.append_nil]
    rfl

/-- The base is the loaded part of one of these snapshots. -/
def BaseFrom (ladder : Ladder) (events : List NormalizedEvent) : Prop :=
  ladder.base = {} ∨ ∃ event ∈ events, ∃ snapshot, event.type = .snapshot ∧
    event.data = .snapshot snapshot ∧ ladder.base = snapshot.loaded

theorem BaseFrom.concat {ladder : Ladder} {events : List NormalizedEvent}
    (h : ladder.BaseFrom events) (event : NormalizedEvent) :
    ladder.BaseFrom (events ++ [event]) := by
  refine h.imp_right ?_
  rintro ⟨earlier, hmem, hsnapshot⟩
  exact ⟨earlier, List.mem_append_left _ hmem, hsnapshot⟩

/-- Only valid levels are loaded, so no base is negative. -/
theorem BaseFrom.qtyAt_nonneg {ladder : Ladder} {events : List NormalizedEvent}
    (h : ladder.BaseFrom events) (side : BookSide) (priceTicks : ℤ) :
    0 ≤ ladder.base.qtyAt side priceTicks := by
  have hloaded : ∀ levels, ∀ level ∈ validPrefix levels, level.Valid := fun levels level hlevel ↦
    of_decide_eq_true (List.all_eq_true.mp List.all_takeWhile level hlevel)
  rcases h with hempty | ⟨_, _, snapshot, _, _, hbase⟩
  · rw [hempty]
    cases side with
    | bid => exact lastQty_nonneg (by simp) priceTicks
    | ask => exact lastQty_nonneg (by simp) priceTicks
  · rw [hbase]
    cases side with
    | bid => exact lastQty_nonneg (hloaded snapshot.bids) priceTicks
    | ask =>
      refine lastQty_nonneg ?_ priceTicks
      rw [SnapshotData.loaded]
      split
      · exact hloaded snapshot.asks
      · simp

theorem BaseFrom.replay {ladder : Ladder} {events : List NormalizedEvent}
    (h : ladder.BaseFrom events) (deltas : List DeltaData) :
    (ladder.replay deltas).BaseFrom events := by
  rw [Ladder.replay]
  split
  · exact h
  · exact .inl rfl

end Ladder

/-- The delta of a delta event. -/
def NormalizedEvent.deltaData (event : NormalizedEvent) : Option DeltaData :=
  match event.type, event.data with
  | .delta, .delta delta => some delta
  | _, _ => none

namespace BookState

/-- The quantity that a book shows. -/
def qtyAt (book : BookState) : BookSide → ℤ → ℤ
  | .bid => levelQty book.bids
  | .ask => levelQty book.asks

/-- The levels are the ones of the ladder. -/
def MadeFrom (book : BookState) (ladder : Ladder) : Prop :=
  ∀ side priceTicks, book.qtyAt side priceTicks = ladder.qtyAt side priceTicks

variable {book : BookState} {ladder : Ladder}

theorem madeFrom_empty (hbids : book.bids = ∅) (hasks : book.asks = ∅) : book.MadeFrom {} := by
  intro side priceTicks
  cases side with
  | bid =>
    rw [qtyAt, hbids, levelQty]
    simp [Ladder.qtyAt, SnapshotData.qtyAt, lastQty, movesAt]
  | ask =>
    rw [qtyAt, hasks, levelQty]
    simp [Ladder.qtyAt, SnapshotData.qtyAt, lastQty, movesAt]

theorem madeFrom_loaded (snapshot : SnapshotData)
    (hbids : book.bids = levelsOf (validPrefix snapshot.bids))
    (hasks : book.asks = loadedAsks snapshot) : book.MadeFrom { base := snapshot.loaded } := by
  intro side priceTicks
  cases side with
  | bid =>
    rw [qtyAt, hbids, levelQty_levelsOf]
    rfl
  | ask =>
    have hloaded : loadedAsks snapshot = levelsOf snapshot.loaded.asks := by
      rw [loadedAsks, SnapshotData.loaded]
      split
      · rfl
      · rfl
    rw [qtyAt, hasks, hloaded, levelQty_levelsOf]
    rfl

theorem levelQty_moveBids (delta : DeltaData) (bids : BidLevels) (priceTicks : ℤ) :
    levelQty (delta.moveBids bids) priceTicks =
      if delta.IsAt .bid priceTicks then max 0 (levelQty bids priceTicks + delta.deltaQtyLots)
      else levelQty bids priceTicks := by
  cases hside : delta.side with
  | _ => simp [DeltaData.moveBids, DeltaData.IsAt, Side.bookSide, hside, levelQty_moveLevel]

theorem levelQty_moveAsks (delta : DeltaData) (asks : AskLevels) (priceTicks : ℤ) :
    levelQty (delta.moveAsks asks) priceTicks =
      if delta.IsAt .ask priceTicks then max 0 (levelQty asks priceTicks + delta.deltaQtyLots)
      else levelQty asks priceTicks := by
  cases hside : delta.side with
  | _ => simp [DeltaData.moveAsks, DeltaData.IsAt, Side.bookSide, hside, levelQty_moveLevel]

theorem MadeFrom.congr {book' : BookState} (h : book.MadeFrom ladder)
    (hbids : book'.bids = book.bids) (hasks : book'.asks = book.asks) : book'.MadeFrom ladder := by
  intro side priceTicks
  rw [← h side priceTicks]
  cases side with
  | bid => exact congrArg (levelQty · priceTicks) hbids
  | ask => exact congrArg (levelQty · priceTicks) hasks

/-- **A delta that is applied.** -/
theorem MadeFrom.push {book' : BookState} {delta : DeltaData} (h : book.MadeFrom ladder)
    (hbids : book'.bids = delta.moveBids book.bids)
    (hasks : book'.asks = delta.moveAsks book.asks) : book'.MadeFrom (ladder.push delta) := by
  intro side priceTicks
  rw [Ladder.qtyAt_push, ← h side priceTicks]
  cases side with
  | bid => exact (congrArg (levelQty · priceTicks) hbids).trans (levelQty_moveBids delta _ _)
  | ask => exact (congrArg (levelQty · priceTicks) hasks).trans (levelQty_moveAsks delta _ _)

/-! ## The ladder of a book -/

/-- The deltas of a buffer that a replay gets to apply: those that are not stale. -/
def replayedDeltas (lastSeqId : Option ℕ) : List PendingDelta → List DeltaData
  | [] => []
  | first :: rest =>
    if isStale lastSeqId first.sequenceId then replayedDeltas lastSeqId rest
    else first.delta :: replayedDeltas (first.sequenceId.or lastSeqId) rest

/-- What an event makes of the ladder of a book. -/
def ladderAfter (book : BookState) (ladder : Ladder) (event : NormalizedEvent) : Ladder :=
  match event.type, event.data with
  | .snapshot, .snapshot snapshot =>
    if snapshot.Valid then
      Ladder.replay { base := snapshot.loaded }
        (replayedDeltas event.effectiveSequenceId book.pendingDeltas)
    else { base := snapshot.loaded }
  | .delta, .delta delta =>
    if book.desynced then ladder
    else if book.hasSnapshot then
      if isStale book.lastSeqId event.effectiveSequenceId ∨ ¬delta.Valid then ladder
      else ladder.push delta
    else if book.pendingDeltas.length ≥ kMaxPendingDeltas then {}
    else ladder
  | _, _ => ladder

/-- **A replay**: it applies the deltas that are not stale, or it empties the book. -/
theorem madeFrom_replayFrom (pending : List PendingDelta) : ∀ (book : BookState) (ladder : Ladder),
    book.MadeFrom ladder →
      (book.replayFrom pending).2.MadeFrom
        (ladder.replay (replayedDeltas book.lastSeqId pending)) := by
  induction pending with
  | nil =>
    intro book ladder h
    rw [replayedDeltas, Ladder.replay_nil]
    exact h
  | cons first rest ih =>
    intro book ladder h
    rw [replayFrom, advanceSequenceIfPresent_eq, replayedDeltas]
    by_cases hstale : isStale book.lastSeqId first.sequenceId = true
    · rw [if_pos hstale, if_pos hstale]
      exact ih _ ladder h
    rw [if_neg hstale, if_neg hstale]
    dsimp only
    rw [if_pos rfl]
    by_cases hvalid : first.delta.Valid
    · -- the first delta of the replay is one more delta of the ladder
      rw [applyDeltaData_eq_of_valid _ hvalid, Ladder.replay_cons ladder _ hvalid]
      exact ih _ _ (h.push rfl rfl)
    · rw [applyDeltaData_of_not_valid _ hvalid, Ladder.replay_cons_of_not_valid ladder _ hvalid]
      exact madeFrom_empty rfl rfl

/-! ## One event -/

/-- **What an event does** to the levels and the buffer of a book, and to its ladder. -/
inductive LadderStep (book : BookState) (ladder : Ladder) (event : NormalizedEvent)
    (book' : BookState) : Ladder → Prop
  /-- Nothing moves. -/
  | kept (hbids : book'.bids = book.bids) (hasks : book'.asks = book.asks)
      (hpending : book'.pendingDeltas = book.pendingDeltas) :
      LadderStep book ladder event book' ladder
  /-- A live delta moves its level. -/
  | moved {delta : DeltaData} (hdelta : event.deltaData = some delta)
      (hsnapshot : book.hasSnapshot = true) (hbids : book'.bids = delta.moveBids book.bids)
      (hasks : book'.asks = delta.moveAsks book.asks)
      (hpending : book'.pendingDeltas = book.pendingDeltas) :
      LadderStep book ladder event book' (ladder.push delta)
  /-- A delta waits for the first snapshot. -/
  | buffered {delta : DeltaData} {sequenceId : Option ℕ} (hdelta : event.deltaData = some delta)
      (hbids : book'.bids = book.bids) (hasks : book'.asks = book.asks)
      (hpending : book'.pendingDeltas = book.pendingDeltas ++ [⟨sequenceId, delta⟩]) :
      LadderStep book ladder event book' ladder
  /-- The buffer overflows. -/
  | emptied (hbids : book'.bids = ∅) (hasks : book'.asks = ∅)
      (hpending : book'.pendingDeltas = []) :
      LadderStep book ladder event book' {}
  /-- A snapshot is refused, and has loaded a part of itself all the same. -/
  | refused {snapshot : SnapshotData} (htype : event.type = .snapshot)
      (hdata : event.data = .snapshot snapshot)
      (hbids : book'.bids = levelsOf (validPrefix snapshot.bids))
      (hasks : book'.asks = loadedAsks snapshot)
      (hpending : book'.pendingDeltas = book.pendingDeltas) :
      LadderStep book ladder event book' { base := snapshot.loaded }
  /-- A snapshot is loaded, and the buffer is replayed on top of it. -/
  | loaded {snapshot : SnapshotData} (htype : event.type = .snapshot)
      (hdata : event.data = .snapshot snapshot)
      (hmade : book'.MadeFrom (Ladder.replay { base := snapshot.loaded }
        (replayedDeltas event.effectiveSequenceId book.pendingDeltas)))
      (hpending : book'.pendingDeltas = []) :
      LadderStep book ladder event book' (Ladder.replay { base := snapshot.loaded }
        (replayedDeltas event.effectiveSequenceId book.pendingDeltas))

variable {event : NormalizedEvent}

theorem ladderStep_applySnapshot (htype : event.type = .snapshot) :
    LadderStep book ladder event (book.applySnapshot event).2 (book.ladderAfter ladder event) := by
  rw [applySnapshot, ladderAfter, htype]
  cases hdata : event.data with
  | snapshot snapshot =>
    dsimp only
    by_cases hvalid : snapshot.Valid
    · have hbids : (loadLevels (∅ : BidLevels) snapshot.bids).2 =
          levelsOf (validPrefix snapshot.bids) := by
        rw [loadLevels_eq]
        rfl
      have hasks : (loadLevels (∅ : AskLevels) snapshot.asks).2 = loadedAsks snapshot := by
        rw [loadLevels_eq, loadedAsks, if_pos hvalid.1]
        rfl
      rw [applySnapshotData_eq_of_valid book hvalid, if_pos hvalid, if_pos rfl, hbids, hasks,
        replayPendingDeltas]
      have hmade := madeFrom_replayFrom book.pendingDeltas { book with
          bids := levelsOf (validPrefix snapshot.bids)
          asks := loadedAsks snapshot
          hasSnapshot := true
          desynced := false
          lastSeqId := event.effectiveSequenceId
          snapshotCount := book.snapshotCount + 1 } _ (madeFrom_loaded snapshot rfl rfl)
      have hpending := pendingDeltas_replayFrom book.pendingDeltas { book with
          bids := levelsOf (validPrefix snapshot.bids)
          asks := loadedAsks snapshot
          hasSnapshot := true
          desynced := false
          lastSeqId := event.effectiveSequenceId
          snapshotCount := book.snapshotCount + 1 }
      split
      · exact .loaded htype hdata hmade hpending
      · exact .loaded htype hdata hmade hpending
    · rw [applySnapshotData_of_not_valid book hvalid, if_neg hvalid]
      exact .refused htype hdata rfl rfl rfl
  | monostate => exact .kept rfl rfl rfl
  | delta _ => exact .kept rfl rfl rfl
  | trade _ => exact .kept rfl rfl rfl

theorem ladderStep_applyDelta (htype : event.type = .delta) :
    LadderStep book ladder event (book.applyDelta event).2 (book.ladderAfter ladder event) := by
  rw [ladderAfter, applyDelta, htype]
  cases hdata : event.data with
  | delta delta =>
    have hdelta : event.deltaData = some delta := by
      rw [NormalizedEvent.deltaData, htype, hdata]
    dsimp only
    by_cases hdesynced : book.desynced = true
    · rw [if_pos hdesynced, if_pos hdesynced]
      exact .kept rfl rfl rfl
    rw [if_neg hdesynced, if_neg hdesynced]
    by_cases hsnapshot : book.hasSnapshot = true
    · rw [if_pos hsnapshot, if_pos hsnapshot, advanceSequenceIfPresent_eq]
      by_cases hstale : isStale book.lastSeqId event.effectiveSequenceId = true
      · have hsame : (if isStale book.lastSeqId event.effectiveSequenceId = true ∨ ¬delta.Valid
            then ladder else ladder.push delta) = ladder := if_pos (.inl hstale)
        rw [if_pos hstale, hsame]
        exact .kept rfl rfl rfl
      rw [if_neg hstale]
      dsimp only
      rw [if_pos rfl]
      by_cases hvalid : delta.Valid
      · rw [applyDeltaData_eq_of_valid _ hvalid,
          if_neg (not_or.mpr ⟨hstale, not_not.mpr hvalid⟩)]
        exact .moved hdelta hsnapshot rfl rfl rfl
      · have hsame : (if isStale book.lastSeqId event.effectiveSequenceId = true ∨ ¬delta.Valid
            then ladder else ladder.push delta) = ladder := if_pos (.inr hvalid)
        rw [applyDeltaData_of_not_valid _ hvalid, hsame]
        exact .kept rfl rfl rfl
    rw [if_neg hsnapshot, if_neg hsnapshot]
    split
    · exact .emptied rfl rfl rfl
    · exact .buffered hdelta rfl rfl rfl
  | monostate => exact .kept rfl rfl rfl
  | snapshot _ => exact .kept rfl rfl rfl
  | trade _ => exact .kept rfl rfl rfl

/-- A trade moves no level. -/
theorem ladderStep_applyTrade (event : NormalizedEvent) :
    LadderStep book ladder event (book.applyTrade event).2 ladder := by
  rw [applyTrade]
  cases event.data with
  | trade trade =>
    dsimp only
    split
    · exact .kept rfl rfl rfl
    rw [advanceSequenceIfPresent_eq]
    split
    · exact .kept rfl rfl rfl
    · exact .kept rfl rfl rfl
  | monostate => exact .kept rfl rfl rfl
  | snapshot _ => exact .kept rfl rfl rfl
  | delta _ => exact .kept rfl rfl rfl

/-- **The list of steps is complete.** -/
theorem ladderStep_applyEvent (book : BookState) (ladder : Ladder) (event : NormalizedEvent) :
    LadderStep book ladder event (book.applyEvent event).2 (book.ladderAfter ladder event) := by
  cases htype : event.type with
  | snapshot =>
    rw [applyEvent, htype]
    exact ladderStep_applySnapshot htype
  | delta =>
    rw [applyEvent, htype]
    exact ladderStep_applyDelta htype
  | trade =>
    rw [applyEvent, ladderAfter, htype]
    exact ladderStep_applyTrade event
  | heartbeat | status | unknown =>
    rw [applyEvent, ladderAfter, htype]
    exact .kept rfl rfl rfl

/-- **The levels are the ones of the ladder**, after every event, accepted or not. -/
theorem MadeFrom.of_step {book' : BookState} {ladder' : Ladder} (h : book.MadeFrom ladder)
    (hstep : LadderStep book ladder event book' ladder') : book'.MadeFrom ladder' := by
  cases hstep with
  | kept hbids hasks _ => exact h.congr hbids hasks
  | moved _ _ hbids hasks _ => exact h.push hbids hasks
  | buffered _ hbids hasks _ => exact h.congr hbids hasks
  | emptied hbids hasks _ => exact madeFrom_empty hbids hasks
  | refused _ _ hbids hasks _ => exact madeFrom_loaded _ hbids hasks
  | loaded _ _ hmade _ => exact hmade

/-! ## Where the ladder comes from -/

theorem replayedDeltas_sublist (pending : List PendingDelta) : ∀ lastSeqId : Option ℕ,
    (replayedDeltas lastSeqId pending).Sublist (pending.map PendingDelta.delta) := by
  induction pending with
  | nil => exact fun _ ↦ .slnil
  | cons first rest ih =>
    intro lastSeqId
    rw [replayedDeltas, List.map_cons]
    split
    · exact (ih _).cons _
    · exact (ih _).cons_cons _

/-- What is moved and what is buffered comes from the events, in their order and once each. -/
structure OwedTo (book : BookState) (ladder : Ladder) (events : List NormalizedEvent) : Prop where
  base : ladder.BaseFrom events
  deltas : (ladder.deltas ++ book.pendingDeltas.map PendingDelta.delta).Sublist
    (events.filterMap NormalizedEvent.deltaData)

section Provenance

variable {events : List NormalizedEvent} {event : NormalizedEvent}

theorem sublist_filterMap_concat {deltas : List DeltaData}
    (h : deltas.Sublist (events.filterMap NormalizedEvent.deltaData)) :
    deltas.Sublist ((events ++ [event]).filterMap NormalizedEvent.deltaData) := by
  rw [List.filterMap_append]
  exact h.trans (List.sublist_append_left _ _)

/-- A snapshot starts a new base, on which the buffer may be moved. -/
theorem OwedTo.reload {book' : BookState} {ladder' : Ladder} (h : book.OwedTo ladder events)
    (hbase : ladder'.BaseFrom (events ++ [event]))
    (hdeltas : (ladder'.deltas ++ book'.pendingDeltas.map PendingDelta.delta).Sublist
      (book.pendingDeltas.map PendingDelta.delta)) : book'.OwedTo ladder' (events ++ [event]) :=
  ⟨hbase, sublist_filterMap_concat
    (hdeltas.trans ((List.sublist_append_right _ _).trans h.deltas))⟩

theorem OwedTo.keep {book' : BookState} (h : book.OwedTo ladder events)
    (hpending : book'.pendingDeltas = book.pendingDeltas) :
    book'.OwedTo ladder (events ++ [event]) :=
  ⟨h.base.concat event, sublist_filterMap_concat (hpending ▸ h.deltas)⟩

theorem owedTo_empty {book' : BookState} (hpending : book'.pendingDeltas = []) :
    book'.OwedTo {} (events ++ [event]) :=
  ⟨.inl rfl, hpending ▸ List.nil_sublist _⟩

/-- A delta that is buffered or moves a level is one more delta that is owed to an event. -/
theorem OwedTo.extend {book' : BookState} {ladder' : Ladder} {delta : DeltaData}
    (h : book.OwedTo ladder events) (hdelta : event.deltaData = some delta)
    (hbase : ladder'.base = ladder.base)
    (hdeltas : ladder'.deltas ++ book'.pendingDeltas.map PendingDelta.delta =
      ladder.deltas ++ book.pendingDeltas.map PendingDelta.delta ++ [delta]) :
    book'.OwedTo ladder' (events ++ [event]) := by
  refine ⟨?_, ?_⟩
  · have hconcat := h.base.concat event
    rwa [Ladder.BaseFrom, ← hbase] at hconcat
  · rw [hdeltas, List.filterMap_append, List.filterMap_cons_some hdelta, List.filterMap_nil]
    exact h.deltas.append (List.Sublist.refl _)

theorem OwedTo.of_step {book' : BookState} {ladder' : Ladder} (h : book.OwedTo ladder events)
    (hrep : book.Rep) (hstep : LadderStep book ladder event book' ladder') :
    book'.OwedTo ladder' (events ++ [event]) := by
  have hbase : ∀ {snapshot}, event.type = .snapshot → event.data = .snapshot snapshot →
      ({ base := snapshot.loaded } : Ladder).BaseFrom (events ++ [event]) :=
    fun {snapshot} htype hdata ↦
      .inr ⟨event, List.mem_append_right _ List.mem_cons_self, snapshot, htype, hdata, rfl⟩
  cases hstep with
  | kept _ _ hpending => exact h.keep hpending
  | @moved delta hdelta hsnapshot _ _ hpending =>
    -- a book with a snapshot has nothing in its buffer
    have hnone : book.pendingDeltas = [] := by
      by_contra hsome
      exact absurd ((hrep.waiting hsome).2.symm.trans hsnapshot) (by decide)
    refine h.extend hdelta rfl ?_
    rw [hpending, hnone, List.map_nil, List.append_nil, List.append_nil]
    rfl
  | buffered hdelta _ _ hpending =>
    refine h.extend hdelta rfl ?_
    rw [hpending, List.map_append, List.append_assoc]
    rfl
  | emptied _ _ hpending => exact owedTo_empty hpending
  | refused htype hdata _ _ hpending =>
    refine h.reload (hbase htype hdata) ?_
    rw [hpending]
    exact List.Sublist.refl _
  | loaded htype hdata _ hpending =>
    refine h.reload ((hbase htype hdata).replay _) ?_
    rw [hpending, List.map_nil, List.append_nil]
    exact (Ladder.deltas_replay_sublist _ _).trans (replayedDeltas_sublist _ _)

end Provenance

end BookState

namespace BookStore

/-! ## Whole runs -/

/-- The store and the ladder of one of its markets, one event later. -/
def followLadder (marketTicker : String) (s : BookStore × Ladder) (event : NormalizedEvent) :
    BookStore × Ladder :=
  ((s.1.apply event).2,
    if event.marketTicker = marketTicker ∧ event.marketTicker ≠ "" ∧ event.type ≠ .unknown then
      (s.1.bookFor marketTicker).ladderAfter s.2 event
    else s.2)

/-- The ladder of a market after some events. -/
def ladderOf (marketTicker : String) (events : List NormalizedEvent) : Ladder :=
  (events.foldl (followLadder marketTicker) ({}, {})).2

theorem fst_foldl_followLadder (marketTicker : String) (events : List NormalizedEvent) :
    (events.foldl (followLadder marketTicker) ({}, {})).1 = applyAll {} events := by
  induction events using List.reverseRecOn with
  | nil => rfl
  | append_singleton events event ih =>
    rw [List.foldl_append, applyAll_concat, ← ih]
    rfl

theorem ladderOf_concat (marketTicker : String) (events : List NormalizedEvent)
    (event : NormalizedEvent) :
    ladderOf marketTicker (events ++ [event]) =
      if event.marketTicker = marketTicker ∧ event.marketTicker ≠ "" ∧ event.type ≠ .unknown then
        ((applyAll {} events).bookFor marketTicker).ladderAfter (ladderOf marketTicker events) event
      else ladderOf marketTicker events := by
  rw [ladderOf, List.foldl_append, ← fst_foldl_followLadder marketTicker events]
  rfl

/-- The events of a market. -/
def eventsOf (marketTicker : String) (events : List NormalizedEvent) : List NormalizedEvent :=
  events.filter fun event ↦ event.marketTicker = marketTicker

/-- What an event that is not taken by the book of a market does to it. -/
theorem bookFor_apply_of_not (store : BookStore) {event : NormalizedEvent} {marketTicker : String}
    (h : ¬(event.marketTicker = marketTicker ∧ event.marketTicker ≠ "" ∧
      event.type ≠ .unknown)) :
    (store.apply event).2.bookFor marketTicker = store.bookFor marketTicker := by
  by_cases hguard : event.marketTicker = "" ∨ event.type = .unknown
  · rw [apply, if_pos hguard]
  · have hmarket : marketTicker ≠ event.marketTicker := fun hsame ↦
      h ⟨hsame.symm, not_or.mp hguard⟩
    rw [bookFor, bookFor, find_apply_of_ne store hmarket]

/-- **The ladder is followed** in every run. -/
theorem ladder_followed (marketTicker : String) (events : List NormalizedEvent) :
    ((applyAll {} events).bookFor marketTicker).Rep ∧
    ((applyAll {} events).bookFor marketTicker).MadeFrom (ladderOf marketTicker events) ∧
    ((applyAll {} events).bookFor marketTicker).OwedTo (ladderOf marketTicker events)
      (eventsOf marketTicker events) := by
  induction events using List.reverseRecOn with
  | nil =>
    exact ⟨BookState.rep_fresh marketTicker, BookState.madeFrom_empty rfl rfl, .inl rfl, .slnil⟩
  | append_singleton events event ih =>
    obtain ⟨hrep, hmade, howed⟩ := ih
    rw [applyAll_concat, ladderOf_concat, eventsOf, List.filter_append, ← eventsOf]
    by_cases htaken : event.marketTicker = marketTicker ∧ event.marketTicker ≠ "" ∧
        event.type ≠ .unknown
    · obtain ⟨rfl, hguard⟩ := htaken
      have hbook : ((applyAll {} events).apply event).2.bookFor event.marketTicker =
          (((applyAll {} events).bookFor event.marketTicker).applyEvent event).2 := by
        rw [bookFor, find_apply_self _ (not_or.mpr hguard)]
        rfl
      have hstep := BookState.ladderStep_applyEvent
        ((applyAll {} events).bookFor event.marketTicker) (ladderOf event.marketTicker events) event
      rw [hbook, if_pos ⟨rfl, hguard⟩, List.filter_cons_of_pos (by simp), List.filter_nil]
      exact ⟨(hrep.follows_applyEvent event).rep, hmade.of_step hstep, howed.of_step hrep hstep⟩
    · rw [bookFor_apply_of_not _ htaken, if_neg htaken]
      refine ⟨hrep, hmade, ?_⟩
      by_cases hmarket : event.marketTicker = marketTicker
      · rw [List.filter_cons_of_pos (by simpa using hmarket), List.filter_nil]
        exact howed.keep rfl
      · rw [List.filter_cons_of_neg (by simpa using hmarket), List.filter_nil, List.append_nil]
        exact howed

/-- **The depth of a book.** In every run of the store and for every market, the quantity that the
book shows at a price is what the last snapshot that was loaded had there and what the deltas at
this price and side have added since, reflected at zero: the greatest of the plain sum and of the
sums of the last deltas. It is the plain sum exactly when the level was never overdrawn. The deltas
are those of events of the market, in their order and once each, and no other price has a part in
it. Quantities are exact integers: this is about runs in which no level and delta have a sum that
leaves 64 bits. -/
theorem depth_is_reflected_sum (marketTicker : String) (events : List NormalizedEvent) :
    (ladderOf marketTicker events).BaseFrom (eventsOf marketTicker events) ∧
    (ladderOf marketTicker events).deltas.Sublist
      ((eventsOf marketTicker events).filterMap NormalizedEvent.deltaData) ∧
    ∀ side priceTicks,
      let shown := ((applyAll {} events).bookFor marketTicker).qtyAt side priceTicks
      let stock := (ladderOf marketTicker events).base.qtyAt side priceTicks
      let moves := movesAt (ladderOf marketTicker events).deltas side priceTicks
      IsGreatest ({stock + moves.sum} ∪ {total | ∃ last, last <:+ moves ∧ last.sum = total}) shown ∧
      (shown = stock + moves.sum ↔ ∀ first, first <+: moves → 0 ≤ stock + first.sum) := by
  obtain ⟨-, hmade, howed⟩ := ladder_followed marketTicker events
  refine ⟨howed.base, (List.sublist_append_left _ _).trans howed.deltas, ?_⟩
  intro side priceTicks
  have hstock := howed.base.qtyAt_nonneg side priceTicks
  dsimp only
  rw [hmade side priceTicks]
  exact ⟨isGreatest_reflect hstock _, reflect_eq_sum_iff hstock _⟩

end BookStore

end TradingEngine
