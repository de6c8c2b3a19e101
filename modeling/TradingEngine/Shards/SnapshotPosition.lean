import TradingEngine.Shards.BookRejects

/-!
# The position of the first snapshot

Deltas that come ahead of the first snapshot of their market are buffered and replayed on top of it.
The replay is a second piece of code for what a live delta does: both check the sequence id, drop a
delta that is stale, move a level and count. `BookView.takeDelta` says once what a delta does to the
part of the book that both have in common, and the two pieces of code are shown to do that. Where
the snapshot stands among the deltas is then invisible, as long as the buffer can hold the deltas
ahead of it.
-/

namespace TradingEngine

/-- The part of a book that does not tell a replay from live deltas. -/
structure BookView where
  bids : BidLevels
  asks : AskLevels
  lastSeqId : Option ℕ
  hasSnapshot : Bool
  desynced : Bool
  deltaCount : ℕ
  staleSequenceCount : ℕ

namespace DeltaData

def moveBids (delta : DeltaData) (bids : BidLevels) : BidLevels :=
  match delta.side with
  | .bid | .buy => BookState.moveLevel bids delta.priceTicks delta.deltaQtyLots
  | _ => bids

def moveAsks (delta : DeltaData) (asks : AskLevels) : AskLevels :=
  match delta.side with
  | .ask | .sell => BookState.moveLevel asks delta.priceTicks delta.deltaQtyLots
  | _ => asks

end DeltaData

/-- The sequence id does not go up. -/
def BookState.isStale (lastSeqId sequenceId : Option ℕ) : Bool :=
  sequenceId.any fun next ↦ lastSeqId.any fun last ↦ next ≤ last

namespace BookView

/-- What a delta with a price and a side does to a book with a snapshot. -/
def takeDelta (view : BookView) (pending : PendingDelta) : BookView :=
  if BookState.isStale view.lastSeqId pending.sequenceId then
    { view with staleSequenceCount := view.staleSequenceCount + 1 }
  else
    { view with
      lastSeqId := pending.sequenceId.or view.lastSeqId
      bids := pending.delta.moveBids view.bids
      asks := pending.delta.moveAsks view.asks
      deltaCount := view.deltaCount + 1 }

/-- What a snapshot makes of a book, ahead of the replay. -/
def load (view : BookView) (sequenceId : Option ℕ) (snapshot : SnapshotData) : BookView :=
  { view with
    bids := (BookState.loadLevels ∅ snapshot.bids).2
    asks := (BookState.loadLevels ∅ snapshot.asks).2
    lastSeqId := sequenceId
    hasSnapshot := true
    desynced := false }

end BookView

namespace NormalizedEvent

/-- A delta with a price and a side. -/
def IsDeltaOf (marketTicker : String) (event : NormalizedEvent) : Prop :=
  event.type = .delta ∧ event.marketTicker = marketTicker ∧
    ∃ delta, event.data = .delta delta ∧ delta.Valid

/-- A snapshot that a book may load. -/
def IsSnapshotOf (marketTicker : String) (event : NormalizedEvent) : Prop :=
  event.type = .snapshot ∧ event.marketTicker = marketTicker ∧
    ∃ snapshot, event.data = .snapshot snapshot ∧ snapshot.Valid

/-- A delta as it is buffered. -/
def pendingDelta (event : NormalizedEvent) : PendingDelta where
  sequenceId := event.effectiveSequenceId
  delta := match event.data with
    | .delta delta => delta
    | _ => {}

end NormalizedEvent

namespace BookState

def view (book : BookState) : BookView where
  bids := book.bids
  asks := book.asks
  lastSeqId := book.lastSeqId
  hasSnapshot := book.hasSnapshot
  desynced := book.desynced
  deltaCount := book.deltaCount
  staleSequenceCount := book.staleSequenceCount

variable {book : BookState} {marketTicker : String} {event : NormalizedEvent}

@[simp]
theorem view_lastSeqId : book.view.lastSeqId = book.lastSeqId := rfl

/-! ## A delta, live and replayed -/

theorem advanceSequenceIfPresent_eq (book : BookState) (sequenceId : Option ℕ) :
    book.advanceSequenceIfPresent sequenceId =
      if isStale book.lastSeqId sequenceId then
        (false, { book with staleSequenceCount := book.staleSequenceCount + 1 })
      else (true, { book with lastSeqId := sequenceId.or book.lastSeqId }) := by
  cases sequenceId with
  | none => rfl
  | some next =>
    rw [advanceSequenceIfPresent]
    cases book.lastSeqId with
    | none => simp [isStale]
    | some last => simp [isStale]

theorem applyDeltaData_eq_of_valid (book : BookState) {delta : DeltaData} (h : delta.Valid) :
    book.applyDeltaData delta = (true, { book with
      bids := delta.moveBids book.bids
      asks := delta.moveAsks book.asks }) := by
  rw [applyDeltaData, if_neg (not_lt.mpr h.1), DeltaData.moveBids, DeltaData.moveAsks]
  cases hside : delta.side with
  | unknown => exact absurd hside h.2
  | bid => rfl
  | ask => rfl
  | buy => rfl
  | sell => rfl

/-- **A live delta.** -/
theorem view_applyEvent_delta (hdelta : event.IsDeltaOf marketTicker)
    (hsnapshot : book.hasSnapshot = true) (hsynced : book.desynced = false) :
    (book.applyEvent event).2.view = book.view.takeDelta event.pendingDelta := by
  obtain ⟨htype, _, delta, hdata, hvalid⟩ := hdelta
  have hpending : event.pendingDelta = ⟨event.effectiveSequenceId, delta⟩ := by
    rw [NormalizedEvent.pendingDelta, hdata]
  rw [applyEvent, htype, hpending]
  dsimp only
  rw [applyDelta, hdata]
  dsimp only
  rw [if_neg (hsynced ▸ Bool.false_ne_true), if_pos hsnapshot, advanceSequenceIfPresent_eq,
    BookView.takeDelta, view_lastSeqId]
  by_cases hstale : isStale book.lastSeqId event.effectiveSequenceId = true
  · rw [if_pos hstale, if_pos hstale]
    rfl
  · rw [if_neg hstale, if_neg hstale]
    dsimp only
    rw [applyDeltaData_eq_of_valid _ hvalid]
    rfl

/-- **A replay** of deltas that all have a price and a side. -/
theorem view_replayFrom (pending : List PendingDelta) : ∀ book : BookState,
    (∀ first ∈ pending, first.delta.Valid) →
      (book.replayFrom pending).1 = true ∧
      (book.replayFrom pending).2.view = pending.foldl BookView.takeDelta book.view := by
  induction pending with
  | nil => exact fun book _ ↦ ⟨rfl, rfl⟩
  | cons first rest ih =>
    intro book hvalid
    obtain ⟨hfirst, hrest⟩ := List.forall_mem_cons.mp hvalid
    rw [replayFrom, advanceSequenceIfPresent_eq, List.foldl_cons, BookView.takeDelta,
      view_lastSeqId]
    by_cases hstale : isStale book.lastSeqId first.sequenceId = true
    · rw [if_pos hstale, if_pos hstale]
      exact ih _ hrest
    · rw [if_neg hstale, if_neg hstale]
      dsimp only
      rw [applyDeltaData_eq_of_valid _ hfirst]
      exact ih _ hrest

/-! ## Runs of one book -/

/-- Apply events to one book after another. -/
def applyEvents (book : BookState) (events : List NormalizedEvent) : BookState :=
  events.foldl (fun book event ↦ (book.applyEvent event).2) book

theorem applyEvents_append (book : BookState) (events events' : List NormalizedEvent) :
    book.applyEvents (events ++ events') = (book.applyEvents events).applyEvents events' :=
  List.foldl_append

theorem takeDelta_mode (view : BookView) (pending : PendingDelta) :
    (view.takeDelta pending).hasSnapshot = view.hasSnapshot ∧
      (view.takeDelta pending).desynced = view.desynced := by
  rw [BookView.takeDelta]
  split
  · exact ⟨rfl, rfl⟩
  · exact ⟨rfl, rfl⟩

theorem foldl_takeDelta_mode (pending : List PendingDelta) : ∀ view : BookView,
    (pending.foldl BookView.takeDelta view).hasSnapshot = view.hasSnapshot ∧
      (pending.foldl BookView.takeDelta view).desynced = view.desynced := by
  induction pending with
  | nil => exact fun view ↦ ⟨rfl, rfl⟩
  | cons first rest ih =>
    intro view
    obtain ⟨hsnapshot, hdesynced⟩ := ih (view.takeDelta first)
    obtain ⟨hfirst, hfirst'⟩ := takeDelta_mode view first
    exact ⟨hsnapshot.trans hfirst, hdesynced.trans hfirst'⟩

/-- **Live deltas**, one after another. -/
theorem view_applyEvents (deltas : List NormalizedEvent) : ∀ book : BookState,
    (∀ event ∈ deltas, event.IsDeltaOf marketTicker) →
      book.hasSnapshot = true → book.desynced = false →
      (book.applyEvents deltas).view =
        (deltas.map NormalizedEvent.pendingDelta).foldl BookView.takeDelta book.view := by
  induction deltas with
  | nil => exact fun book _ _ _ ↦ rfl
  | cons event deltas ih =>
    intro book hdeltas hsnapshot hsynced
    obtain ⟨hevent, hrest⟩ := List.forall_mem_cons.mp hdeltas
    have hview := view_applyEvent_delta hevent hsnapshot hsynced
    obtain ⟨hmode, hmode'⟩ := takeDelta_mode book.view event.pendingDelta
    rw [List.map_cons, List.foldl_cons, ← hview]
    refine ih _ hrest ?_ ?_
    · exact (congrArg BookView.hasSnapshot hview).trans (hmode.trans hsnapshot)
    · exact (congrArg BookView.desynced hview).trans (hmode'.trans hsynced)

/-- **Deltas ahead of the first snapshot** are buffered while there is room. -/
theorem applyEvents_buffered (deltas : List NormalizedEvent) : ∀ book : BookState,
    (∀ event ∈ deltas, event.IsDeltaOf marketTicker) →
      book.hasSnapshot = false → book.desynced = false →
      book.pendingDeltas.length + deltas.length ≤ kMaxPendingDeltas →
      (book.applyEvents deltas).view = book.view ∧
      (book.applyEvents deltas).pendingDeltas =
        book.pendingDeltas ++ deltas.map NormalizedEvent.pendingDelta := by
  induction deltas with
  | nil => exact fun book _ _ _ _ ↦ ⟨rfl, (List.append_nil _).symm⟩
  | cons event deltas ih =>
    intro book hdeltas hsnapshot hsynced hroom
    obtain ⟨⟨htype, _, delta, hdata, _⟩, hrest⟩ := List.forall_mem_cons.mp hdeltas
    rw [List.length_cons] at hroom
    have hbuffered : (book.applyEvent event).2 = { book with
        pendingDeltas := book.pendingDeltas ++ [event.pendingDelta]
        bufferedDeltaCount := book.bufferedDeltaCount + 1 } := by
      rw [applyEvent, htype, NormalizedEvent.pendingDelta, hdata]
      dsimp only
      rw [applyDelta, hdata]
      dsimp only
      rw [if_neg (hsynced ▸ Bool.false_ne_true), if_neg (hsnapshot ▸ Bool.false_ne_true),
        if_neg (by omega)]
    have hnext := ih (book.applyEvent event).2 hrest
    rw [hbuffered] at hnext
    obtain ⟨hview, hpending⟩ := hnext hsnapshot hsynced (by
      rw [List.length_append, List.length_singleton]
      omega)
    rw [applyEvents, List.foldl_cons, hbuffered]
    refine ⟨hview, hpending.trans ?_⟩
    rw [List.append_assoc]
    rfl

theorem applySnapshotData_eq_of_valid (book : BookState) {snapshot : SnapshotData}
    (h : snapshot.Valid) :
    book.applySnapshotData snapshot = (true, { book with
      bids := (loadLevels ∅ snapshot.bids).2
      asks := (loadLevels ∅ snapshot.asks).2 }) := by
  simp only [applySnapshotData, loadLevels_eq, decide_eq_true h.1, decide_eq_true h.2, if_true]

/-- **A snapshot** replays what is buffered. -/
theorem view_applyEvent_snapshot {snapshot : SnapshotData} (htype : event.type = .snapshot)
    (hdata : event.data = .snapshot snapshot) (hsnapshot : snapshot.Valid)
    (hpending : ∀ pending ∈ book.pendingDeltas, pending.delta.Valid) :
    (book.applyEvent event).2.view = book.pendingDeltas.foldl BookView.takeDelta
      (book.view.load event.effectiveSequenceId snapshot) := by
  rw [applyEvent, htype]
  dsimp only
  have hloaded := applySnapshotData_eq_of_valid book hsnapshot
  rw [applySnapshot_of_data hdata hloaded, if_pos rfl, replayPendingDeltas]
  set installed := installSnapshot { book with
      bids := (loadLevels ∅ snapshot.bids).2
      asks := (loadLevels ∅ snapshot.asks).2 } event
  obtain ⟨hreplayed, hview⟩ := view_replayFrom installed.pendingDeltas installed hpending
  rw [if_pos hreplayed]
  exact hview

theorem forall_valid_pendingDelta {deltas : List NormalizedEvent}
    (h : ∀ event ∈ deltas, event.IsDeltaOf marketTicker) :
    ∀ pending ∈ deltas.map NormalizedEvent.pendingDelta, pending.delta.Valid := by
  intro pending hpending
  obtain ⟨event, hevent, rfl⟩ := List.mem_map.mp hpending
  obtain ⟨_, _, delta, hdata, hvalid⟩ := h event hevent
  rw [NormalizedEvent.pendingDelta, hdata]
  exact hvalid

/-- **The two orders agree on one book.** -/
theorem view_applyEvents_snapshot_position {snapshot : NormalizedEvent}
    (hsnapshot : snapshot.IsSnapshotOf marketTicker) {deltas : List NormalizedEvent}
    (hdeltas : ∀ event ∈ deltas, event.IsDeltaOf marketTicker) {k : ℕ}
    (hk : k ≤ kMaxPendingDeltas) (hfresh : book.hasSnapshot = false)
    (hsynced : book.desynced = false) (hempty : book.pendingDeltas = []) :
    (book.applyEvents (deltas.take k ++ snapshot :: deltas.drop k)).view =
      (book.applyEvents (snapshot :: deltas)).view := by
  obtain ⟨htype, _, data, hdata, hvalid⟩ := hsnapshot
  have htake : ∀ event ∈ deltas.take k, event.IsDeltaOf marketTicker :=
    fun event hevent ↦ hdeltas event (List.mem_of_mem_take hevent)
  have hdrop : ∀ event ∈ deltas.drop k, event.IsDeltaOf marketTicker :=
    fun event hevent ↦ hdeltas event (List.mem_of_mem_drop hevent)
  -- the deltas ahead of the snapshot are buffered
  obtain ⟨hview, hpending⟩ := applyEvents_buffered (deltas.take k) book htake hfresh hsynced (by
    rw [hempty, List.length_nil, List.length_take]
    omega)
  rw [hempty, List.nil_append] at hpending
  set buffered := book.applyEvents (deltas.take k) with hbuffered
  have hreplayed : (buffered.applyEvent snapshot).2.view =
      ((deltas.take k).map NormalizedEvent.pendingDelta).foldl BookView.takeDelta
        (book.view.load snapshot.effectiveSequenceId data) := by
    rw [view_applyEvent_snapshot htype hdata hvalid, hpending, hview]
    rw [hpending]
    exact forall_valid_pendingDelta htake
  have hlive : (book.applyEvent snapshot).2.view =
      book.view.load snapshot.effectiveSequenceId data := by
    rw [view_applyEvent_snapshot htype hdata hvalid, hempty]
    · rfl
    · rw [hempty]
      exact fun _ h ↦ absurd h List.not_mem_nil
  have hmode := foldl_takeDelta_mode ((deltas.take k).map NormalizedEvent.pendingDelta)
    (book.view.load snapshot.effectiveSequenceId data)
  rw [← hreplayed] at hmode
  calc (book.applyEvents (deltas.take k ++ snapshot :: deltas.drop k)).view
      = ((buffered.applyEvent snapshot).2.applyEvents (deltas.drop k)).view := by
        rw [applyEvents_append, ← hbuffered]
        rfl
    _ = ((deltas.drop k).map NormalizedEvent.pendingDelta).foldl BookView.takeDelta
          (buffered.applyEvent snapshot).2.view := view_applyEvents _ _ hdrop hmode.1 hmode.2
    _ = (deltas.map NormalizedEvent.pendingDelta).foldl BookView.takeDelta
          (book.view.load snapshot.effectiveSequenceId data) := by
        rw [hreplayed, ← List.foldl_append, ← List.map_append, List.take_append_drop]
    _ = ((book.applyEvent snapshot).2.applyEvents deltas).view := by
        rw [← hlive]
        refine (view_applyEvents _ _ hdeltas ?_ ?_).symm
        · exact congrArg BookView.hasSnapshot hlive
        · exact congrArg BookView.desynced hlive

end BookState

namespace BookStore

/-- Events of one market are applied to its book one after another. -/
theorem find_applyAll_own {marketTicker : String} (hmarket : marketTicker ≠ "")
    (events : List NormalizedEvent) : ∀ {store : BookStore}, events ≠ [] →
      (∀ event ∈ events, event.marketTicker = marketTicker ∧ event.type ≠ .unknown) →
      (store.applyAll events).find marketTicker =
        some ((store.bookFor marketTicker).applyEvents events) := by
  induction events with
  | nil => exact fun h ↦ absurd rfl h
  | cons event events ih =>
    intro store _ hevents
    obtain ⟨⟨hown, htype⟩, hrest⟩ := List.forall_mem_cons.mp hevents
    subst hown
    have hfind := find_apply_self store (not_or.mpr ⟨hmarket, htype⟩)
    cases events with
    | nil => exact hfind
    | cons next events =>
      refine (ih (List.cons_ne_nil _ _) hrest).trans ?_
      rw [bookFor, hfind]
      rfl

/-- Events without a market are turned away. -/
theorem applyAll_of_no_market (events : List NormalizedEvent) : ∀ {store : BookStore},
    (∀ event ∈ events, event.marketTicker = "") → store.applyAll events = store := by
  induction events with
  | nil => exact fun _ ↦ rfl
  | cons event events ih =>
    intro store hevents
    obtain ⟨hevent, hrest⟩ := List.forall_mem_cons.mp hevents
    have hstore : (store.apply event).2 = store := by rw [apply, if_pos (.inl hevent)]
    rw [applyAll, List.foldl_cons, hstore]
    exact ih hrest

/-- **The position of the first snapshot is invisible**: the deltas ahead of it are buffered and
replayed, and the book is as if they had come after it. -/
theorem snapshot_position_invisible {store : BookStore} {marketTicker : String}
    (hnew : store.find marketTicker = none) {snapshot : NormalizedEvent}
    (hsnapshot : snapshot.IsSnapshotOf marketTicker) {deltas : List NormalizedEvent}
    (hdeltas : ∀ event ∈ deltas, event.IsDeltaOf marketTicker) {k : ℕ}
    (hk : k ≤ kMaxPendingDeltas) :
    ((store.applyAll (deltas.take k ++ snapshot :: deltas.drop k)).find marketTicker).map
        BookState.view =
      ((store.applyAll (snapshot :: deltas)).find marketTicker).map BookState.view := by
  have hlive : ∀ event ∈ snapshot :: deltas,
      event.marketTicker = marketTicker ∧ event.type ≠ .unknown := by
    rw [List.forall_mem_cons]
    refine ⟨⟨hsnapshot.2.1, ?_⟩, fun event hevent ↦ ⟨(hdeltas event hevent).2.1, ?_⟩⟩
    · rw [hsnapshot.1]
      decide
    · rw [(hdeltas event hevent).1]
      decide
  -- the same events in another order
  have hperm : (deltas.take k ++ snapshot :: deltas.drop k).Perm (snapshot :: deltas) := by
    refine List.perm_middle.trans ?_
    rw [List.take_append_drop]
  have hbuffered : ∀ event ∈ deltas.take k ++ snapshot :: deltas.drop k,
      event.marketTicker = marketTicker ∧ event.type ≠ .unknown :=
    fun event hevent ↦ hlive event (hperm.mem_iff.mp hevent)
  by_cases hmarket : marketTicker = ""
  · rw [applyAll_of_no_market _ fun event hevent ↦ (hlive event hevent).1.trans hmarket,
      applyAll_of_no_market _ fun event hevent ↦ (hbuffered event hevent).1.trans hmarket]
  · rw [find_applyAll_own hmarket _ (by simp) hlive,
      find_applyAll_own hmarket _ (by simp) hbuffered, bookFor, hnew]
    exact congrArg some (BookState.view_applyEvents_snapshot_position hsnapshot hdeltas hk rfl rfl
      rfl)

namespace SnapshotPositionExample

open SampleEvents

def snapshot : NormalizedEvent := SampleEvents.snapshot 10 [⟨40, 5⟩]

/-- One is stale, one has no sequence id, and one uses up a level. -/
def deltas : List NormalizedEvent :=
  [delta (some 9) .bid 40 1, delta none .bid 41 2, delta (some 11) .bid 40 (-5)]

end SnapshotPositionExample

open SnapshotPositionExample in
theorem snapshot_position_invisible_stale :
    ((applyAll {} (deltas.take 2 ++ snapshot :: deltas.drop 2)).find "KXBTC-YES").map
        (fun book ↦ (book.bids.toList, book.staleSequenceCount)) = some ([(41, 2)], 1) ∧
      ((applyAll {} (deltas.take 2 ++ snapshot :: deltas.drop 2)).find "KXBTC-YES").map
          BookState.view =
        ((applyAll {} (snapshot :: deltas)).find "KXBTC-YES").map BookState.view := by
  refine ⟨by decide, snapshot_position_invisible rfl ?_ ?_ (by decide)⟩
  · exact ⟨rfl, rfl, _, rfl, by decide⟩
  · intro event hevent
    simp only [deltas, List.mem_cons, List.not_mem_nil, or_false] at hevent
    rcases hevent with rfl | rfl | rfl
    · exact ⟨rfl, rfl, _, rfl, by decide⟩
    · exact ⟨rfl, rfl, _, rfl, by decide⟩
    · exact ⟨rfl, rfl, _, rfl, by decide⟩

end BookStore

end TradingEngine
