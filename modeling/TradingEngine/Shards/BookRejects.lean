import TradingEngine.Shards.BookStore

/-!
# What a rejected event leaves behind

An event that `BookStore::apply` refuses should leave the books alone, up to the diagnostic
counters; the one licensed exception is a book that the event has just marked desynced. Other
markets are indeed never touched (`BookStore.find_apply_of_ne`). On the event's own book two error
paths do work before they check:

* a snapshot clears both sides and loads levels one by one, so an invalid level leaves the levels
  ahead of it in place of the old book;
* a delta advances the sequence before its price and side are looked at.

`BookState.KeepsOnReject` says when neither happens, and `apply_reject_keeps_book_iff` that this is
exact: for every book of every reachable store and every event, the error path is clean precisely
then. Reachability is used once, for the replay: a desynced book buffers nothing, so a replay that
fails has found a synced book.
-/

namespace TradingEngine

open Std (ExtTreeMap TransCmp)

/-- A level a book may hold. -/
def Level.Valid (level : Level) : Prop := ¬(level.priceTicks < 0 ∨ level.qtyLots ≤ 0)

instance (level : Level) : Decidable level.Valid := inferInstanceAs (Decidable (¬_))

/-- A snapshot a book may load. -/
def SnapshotData.Valid (snapshot : SnapshotData) : Prop :=
  (∀ level ∈ snapshot.bids, level.Valid) ∧ ∀ level ∈ snapshot.asks, level.Valid

instance (snapshot : SnapshotData) : Decidable snapshot.Valid := inferInstanceAs (Decidable (_ ∧ _))

/-- A delta a book may apply. -/
def DeltaData.Valid (delta : DeltaData) : Prop := 0 ≤ delta.priceTicks ∧ delta.side ≠ .unknown

instance (delta : DeltaData) : Decidable delta.Valid := inferInstanceAs (Decidable (_ ∧ _))

/-- Levels in the order in which they are loaded, the last one of a price winning. -/
def levelsOf {cmp : ℤ → ℤ → Ordering} [TransCmp cmp] (levels : List Level) : ExtTreeMap ℤ ℤ cmp :=
  levels.foldl (fun map level ↦ map.insert level.priceTicks level.qtyLots) ∅

/-- The levels ahead of the first invalid one. -/
def validPrefix (levels : List Level) : List Level := levels.takeWhile fun level ↦ level.Valid

/-- The asks that are in place when loading stops: none when it stops on the bid side. -/
def loadedAsks (snapshot : SnapshotData) : AskLevels :=
  if ∀ level ∈ snapshot.bids, level.Valid then levelsOf (validPrefix snapshot.asks) else ∅

namespace BookState

/-- The two books agree on everything but the diagnostic counters. -/
structure SameContent (book book' : BookState) : Prop where
  marketTicker : book'.marketTicker = book.marketTicker
  bids : book'.bids = book.bids
  asks : book'.asks = book.asks
  lastSeqId : book'.lastSeqId = book.lastSeqId
  hasSnapshot : book'.hasSnapshot = book.hasSnapshot
  desynced : book'.desynced = book.desynced
  pendingDeltas : book'.pendingDeltas = book.pendingDeltas
  lastTrade : book'.lastTrade = book.lastTrade

/-- The book went from synced to desynced. -/
def JustDesynced (book book' : BookState) : Prop := book.desynced = false ∧ book'.desynced = true

/-- A snapshot that is refused does no harm when the levels ahead of its first invalid level are
what the book already holds. -/
def SnapshotHarmless (book : BookState) (snapshot : SnapshotData) : Prop :=
  snapshot.Valid ∨
  (book.bids = levelsOf (validPrefix snapshot.bids) ∧ book.asks = loadedAsks snapshot)

/-- A delta that is refused does harm when it meets a synced book with a snapshot and carries a
sequence id that the book advances to first. -/
def DeltaHarmful (book : BookState) (sequenceId : Option ℕ) (delta : DeltaData) : Prop :=
  book.desynced = false ∧ book.hasSnapshot = true ∧ ¬delta.Valid ∧
    ∃ nextSeq, sequenceId = some nextSeq ∧ ∀ lastSeq, book.lastSeqId = some lastSeq →
      lastSeq < nextSeq

/-- The events whose rejection, if they are rejected, leaves the book clean. -/
def KeepsOnReject (book : BookState) (event : NormalizedEvent) : Prop :=
  (event.type = .snapshot → ∀ snapshot, event.data = .snapshot snapshot →
    book.SnapshotHarmless snapshot) ∧
  (event.type = .delta → ∀ delta, event.data = .delta delta →
    ¬book.DeltaHarmful event.effectiveSequenceId delta)

theorem SameContent.refl (book : BookState) : book.SameContent book :=
  ⟨rfl, rfl, rfl, rfl, rfl, rfl, rfl, rfl⟩

theorem SameContent.reject {book book' : BookState} (h : book.SameContent book') :
    book.SameContent book'.reject.2 :=
  ⟨h.marketTicker, h.bids, h.asks, h.lastSeqId, h.hasSnapshot, h.desynced, h.pendingDeltas,
    h.lastTrade⟩

/-! ## The steps of an apply -/

theorem loadLevels_eq {cmp : ℤ → ℤ → Ordering} [TransCmp cmp] (levels : List Level) :
    ∀ map : ExtTreeMap ℤ ℤ cmp, loadLevels map levels =
      (decide (∀ level ∈ levels, level.Valid),
        (validPrefix levels).foldl (fun map level ↦ map.insert level.priceTicks level.qtyLots)
          map) := by
  induction levels with
  | nil => intro map; simp [loadLevels, validPrefix]
  | cons level levels ih =>
    intro map
    by_cases hvalid : level.Valid
    · rw [loadLevels, if_neg hvalid, ih, validPrefix, validPrefix,
        List.takeWhile_cons_of_pos (by simpa using hvalid), List.foldl_cons]
      simp [hvalid]
    · rw [loadLevels, if_pos (not_not.mp hvalid), validPrefix,
        List.takeWhile_cons_of_neg (by simpa using hvalid)]
      simp [hvalid]

/-- A valid snapshot is loaded, and loading does not look at the buffered deltas. -/
theorem applySnapshotData_of_valid (book : BookState) {snapshot : SnapshotData}
    (h : snapshot.Valid) :
    (book.applySnapshotData snapshot).1 = true ∧
      (book.applySnapshotData snapshot).2.pendingDeltas = book.pendingDeltas := by
  simp only [applySnapshotData, loadLevels_eq, decide_eq_true h.1, decide_eq_true h.2, if_true,
    and_self]

/-- An invalid one is refused, with the levels ahead of the first invalid one left in the book. -/
theorem applySnapshotData_of_not_valid (book : BookState) {snapshot : SnapshotData}
    (h : ¬snapshot.Valid) :
    book.applySnapshotData snapshot = (false, { book with
      bids := levelsOf (validPrefix snapshot.bids)
      asks := loadedAsks snapshot }) := by
  rw [applySnapshotData, loadLevels_eq, loadLevels_eq, loadedAsks]
  by_cases hbids : ∀ level ∈ snapshot.bids, level.Valid
  · have hasks : ¬∀ level ∈ snapshot.asks, level.Valid := fun hasks ↦ h ⟨hbids, hasks⟩
    simp only [decide_eq_true hbids, decide_eq_false hasks, if_true, if_pos hbids, levelsOf]
  · simp only [decide_eq_false hbids, Bool.false_eq_true, if_false, if_neg hbids, levelsOf]

/-- A snapshot is loaded, installed and replayed on, in this order. -/
theorem applySnapshot_of_data {book loaded : BookState} {event : NormalizedEvent}
    {snapshot : SnapshotData} {accepted : Bool} (hdata : event.data = .snapshot snapshot)
    (hloaded : book.applySnapshotData snapshot = (accepted, loaded)) :
    book.applySnapshot event =
      if accepted then
        if (loaded.installSnapshot event).replayPendingDeltas.1 then
          (true, (loaded.installSnapshot event).replayPendingDeltas.2)
        else (loaded.installSnapshot event).replayPendingDeltas.2.reject
      else loaded.reject := by
  rw [applySnapshot, hdata]
  dsimp only
  rw [hloaded]

theorem advanceSequenceIfPresent_cases (book : BookState) (sequenceId : Option ℕ) :
    (sequenceId = none ∧ book.advanceSequenceIfPresent sequenceId = (true, book)) ∨
    (∃ nextSeq, sequenceId = some nextSeq ∧
      (∀ lastSeq, book.lastSeqId = some lastSeq → lastSeq < nextSeq) ∧
      book.advanceSequenceIfPresent sequenceId = (true, { book with lastSeqId := some nextSeq })) ∨
    (∃ nextSeq lastSeq, sequenceId = some nextSeq ∧ book.lastSeqId = some lastSeq ∧
      nextSeq ≤ lastSeq ∧ book.advanceSequenceIfPresent sequenceId =
        (false, { book with staleSequenceCount := book.staleSequenceCount + 1 })) := by
  cases sequenceId with
  | none => exact .inl ⟨rfl, rfl⟩
  | some nextSeq =>
    rw [advanceSequenceIfPresent]
    cases hlast : book.lastSeqId with
    | none => exact .inr (.inl ⟨nextSeq, rfl, (fun _ h ↦ by cases h), rfl⟩)
    | some lastSeq =>
      by_cases hle : nextSeq ≤ lastSeq
      · exact .inr (.inr ⟨nextSeq, lastSeq, rfl, rfl, hle, if_pos hle⟩)
      · refine .inr (.inl ⟨nextSeq, rfl, fun last h ↦ ?_, if_neg hle⟩)
        obtain rfl := Option.some.inj h
        exact not_le.mp hle

/-- An invalid delta is refused with the book as it was. -/
theorem applyDeltaData_of_not_valid (book : BookState) {delta : DeltaData} (h : ¬delta.Valid) :
    book.applyDeltaData delta = (false, book) := by
  rw [applyDeltaData]
  split
  · rfl
  · rename_i hprice
    have hside : delta.side = .unknown := not_not.mp fun hside ↦ h ⟨not_lt.mp hprice, hside⟩
    rw [hside]

theorem applyDeltaData_of_valid (book : BookState) {delta : DeltaData} (h : delta.Valid) :
    (book.applyDeltaData delta).1 = true := by
  rw [applyDeltaData, if_neg (not_lt.mpr h.1)]
  cases hside : delta.side with
  | unknown => exact absurd hside h.2
  | bid => rfl
  | ask => rfl
  | buy => rfl
  | sell => rfl

/-! ## The replay -/

/-- A replay that fails has left the book desynced, and there was something to replay. -/
theorem replayFrom_eq_false (pending : List PendingDelta) : ∀ book : BookState,
    (book.replayFrom pending).1 = false →
      (book.replayFrom pending).2.desynced = true ∧ pending ≠ [] := by
  induction pending with
  | nil => intro book h; cases h
  | cons delta rest ih =>
    intro book h
    refine ⟨?_, List.cons_ne_nil _ _⟩
    rw [replayFrom] at h ⊢
    dsimp only at h ⊢
    split
    · rename_i hadvanced
      rw [if_pos hadvanced] at h
      split
      · rename_i happlied
        rw [if_pos happlied] at h
        exact (ih _ h).1
      · rfl
    · rename_i hadvanced
      rw [if_neg hadvanced] at h
      exact (ih _ h).1

/-- Either way, nothing is left to replay. -/
theorem pendingDeltas_replayFrom (pending : List PendingDelta) : ∀ book : BookState,
    (book.replayFrom pending).2.pendingDeltas = [] := by
  induction pending with
  | nil => intro book; rfl
  | cons delta rest ih =>
    intro book
    rw [replayFrom]
    dsimp only
    split
    · split
      · exact ih _
      · rfl
    · exact ih _

/-! ## A desynced book buffers nothing -/

/-- A desynced book has no pending deltas. -/
def DesyncedHasNoPending (book : BookState) : Prop :=
  book.desynced = true → book.pendingDeltas = []

theorem desyncedHasNoPending_applySnapshot {book : BookState} {event : NormalizedEvent}
    (h : book.DesyncedHasNoPending) : (book.applySnapshot event).2.DesyncedHasNoPending := by
  rw [applySnapshot]
  split
  · dsimp only
    split
    · -- the levels were loaded: the replay empties the buffer, whatever becomes of it
      have hpending := pendingDeltas_replayFrom
      split
      · exact fun _ ↦ hpending _ _
      · exact fun _ ↦ hpending _ _
    · rw [applySnapshotData]
      dsimp only
      split <;> exact h
  · exact h

theorem desyncedHasNoPending_applyDelta {book : BookState} {event : NormalizedEvent}
    (h : book.DesyncedHasNoPending) : (book.applyDelta event).2.DesyncedHasNoPending := by
  rw [applyDelta]
  split
  · rename_i delta _
    split
    · exact h
    · rename_i hsynced
      split
      · -- a live delta touches neither the flag nor the buffer
        intro hdesynced
        refine absurd hdesynced ?_
        obtain ⟨_, hadv⟩ | ⟨nextSeq, _, _, hadv⟩ | ⟨_, _, _, _, _, hadv⟩ :=
          book.advanceSequenceIfPresent_cases event.effectiveSequenceId
        all_goals
          rw [hadv]
          simp only [applyDeltaData, reject]
          split_ifs <;> first | exact hsynced | (split at * <;> exact hsynced)
      · split
        · exact fun _ ↦ rfl
        · exact fun hdesynced ↦ absurd hdesynced hsynced
  · exact h

theorem desyncedHasNoPending_applyTrade {book : BookState} {event : NormalizedEvent}
    (h : book.DesyncedHasNoPending) : (book.applyTrade event).2.DesyncedHasNoPending := by
  rw [applyTrade]
  split
  · dsimp only
    split
    · exact h
    · obtain ⟨_, hadv⟩ | ⟨_, _, _, hadv⟩ | ⟨_, _, _, _, _, hadv⟩ :=
        book.advanceSequenceIfPresent_cases event.effectiveSequenceId
      all_goals
        rw [hadv]
        exact h
  · exact h

theorem desyncedHasNoPending_applyEvent (book : BookState) (event : NormalizedEvent)
    (h : book.DesyncedHasNoPending) : (book.applyEvent event).2.DesyncedHasNoPending := by
  rw [applyEvent]
  cases event.type with
  | snapshot => exact desyncedHasNoPending_applySnapshot h
  | delta => exact desyncedHasNoPending_applyDelta h
  | trade => exact desyncedHasNoPending_applyTrade h
  | heartbeat => exact h
  | status => exact h
  | unknown => exact h

/-! ## One rejected event -/

/-- What a rejection may leave of a book. -/
def CleanReject (book book' : BookState) : Prop :=
  book.JustDesynced book' ∨ book.SameContent book'

theorem applySnapshot_clean_iff {book : BookState} {event : NormalizedEvent}
    {snapshot : SnapshotData} (hbook : book.DesyncedHasNoPending)
    (hdata : event.data = .snapshot snapshot) :
    ((book.applySnapshot event).1 = false → book.CleanReject (book.applySnapshot event).2) ↔
      book.SnapshotHarmless snapshot := by
  rw [applySnapshot, hdata]
  dsimp only
  by_cases hvalid : snapshot.Valid
  · -- only the replay can fail, and it desyncs a book that was synced
    obtain ⟨hloaded, hpending⟩ := book.applySnapshotData_of_valid hvalid
    refine iff_of_true ?_ (.inl hvalid)
    rw [if_pos hloaded]
    split
    · intro h
      exact absurd h (by simp)
    · rename_i hreplay
      obtain ⟨hdesynced, hne⟩ := replayFrom_eq_false _ _ (Bool.not_eq_true _ ▸ hreplay)
      refine fun _ ↦ .inl ⟨?_, hdesynced⟩
      by_contra hsynced
      exact hne (hpending.trans (hbook (Bool.eq_true_of_not_eq_false hsynced)))
  · -- the levels ahead of the first invalid one have replaced the book
    rw [book.applySnapshotData_of_not_valid hvalid]
    constructor
    · rintro h
      obtain ⟨hsynced, hdesynced⟩ | hsame := h rfl
      · exact absurd (hsynced.symm.trans hdesynced) (by decide)
      · exact .inr ⟨hsame.bids.symm, hsame.asks.symm⟩
    · rintro (h | ⟨hbids, hasks⟩) -
      · exact absurd h hvalid
      · exact .inr ⟨rfl, hbids.symm, hasks.symm, rfl, rfl, rfl, rfl, rfl⟩

theorem applyDelta_clean_iff {book : BookState} {event : NormalizedEvent} {delta : DeltaData}
    (hdata : event.data = .delta delta) :
    ((book.applyDelta event).1 = false → book.CleanReject (book.applyDelta event).2) ↔
      ¬book.DeltaHarmful event.effectiveSequenceId delta := by
  rw [applyDelta, hdata]
  dsimp only
  split
  · -- a desynced book refuses before it does anything
    rename_i hdesynced
    refine iff_of_true (fun _ ↦ .inr (SameContent.refl book).reject) fun h ↦ ?_
    exact absurd (h.1.symm.trans hdesynced) (by decide)
  · rename_i hsynced
    split
    · rename_i hsnapshot
      obtain ⟨hseq, hadv⟩ | ⟨nextSeq, hseq, hfresh, hadv⟩ |
          ⟨nextSeq, lastSeq, hseq, hlast, hle, hadv⟩ :=
        book.advanceSequenceIfPresent_cases event.effectiveSequenceId
      all_goals rw [hadv]
      all_goals dsimp only
      · -- no sequence id: nothing to advance
        refine iff_of_true ?_ fun ⟨_, _, _, _, h, _⟩ ↦ by cases hseq.symm.trans h
        rw [if_pos rfl]
        by_cases hvalid : delta.Valid
        · rw [if_pos (applyDeltaData_of_valid _ hvalid)]
          intro h
          exact absurd h (by simp)
        · rw [applyDeltaData_of_not_valid _ hvalid]
          exact fun _ ↦ .inr (SameContent.refl book).reject
      · by_cases hvalid : delta.Valid
        · refine iff_of_true ?_ fun h ↦ h.2.2.1 hvalid
          rw [if_pos rfl, if_pos (applyDeltaData_of_valid _ hvalid)]
          intro h
          exact absurd h (by simp)
        · -- the sequence has moved on, and stays there
          rw [if_pos rfl, applyDeltaData_of_not_valid _ hvalid]
          refine iff_of_false (fun h ↦ ?_) fun h ↦ h ⟨?_, hsnapshot, hvalid, nextSeq, hseq, hfresh⟩
          · obtain h | h := h rfl
            · exact hsynced h.2
            · exact absurd (hfresh nextSeq h.lastSeqId.symm) (lt_irrefl _)
          · exact Bool.eq_false_of_not_eq_true hsynced
      · -- a stale sequence id: only a counter moves
        refine iff_of_true ?_ fun ⟨_, _, _, next, hnext, h⟩ ↦ ?_
        · exact fun _ ↦ .inr ⟨rfl, rfl, rfl, rfl, rfl, rfl, rfl, rfl⟩
        · obtain rfl := Option.some.inj (hseq.symm.trans hnext)
          exact absurd (h lastSeq hlast) (not_lt.mpr hle)
    · -- no snapshot yet: the delta is buffered, or the overflow desyncs the book
      rename_i hsnapshot
      refine iff_of_true ?_ fun h ↦ hsnapshot h.2.1
      split
      · exact fun _ ↦ .inl ⟨Bool.eq_false_of_not_eq_true hsynced, rfl⟩
      · intro h
        exact absurd h (by simp)

theorem applyTrade_clean {book : BookState} {event : NormalizedEvent}
    (h : (book.applyTrade event).1 = false) : book.CleanReject (book.applyTrade event).2 := by
  refine .inr ?_
  rw [applyTrade] at h ⊢
  split
  · rename_i trade hdata
    rw [hdata] at h
    dsimp only at h ⊢
    split
    · exact (SameContent.refl book).reject
    · rename_i hsynced
      rw [if_neg hsynced] at h
      obtain ⟨_, hadv⟩ | ⟨_, _, _, hadv⟩ | ⟨_, _, _, _, _, hadv⟩ :=
        book.advanceSequenceIfPresent_cases event.effectiveSequenceId
      · rw [hadv] at h
        exact absurd h (by simp)
      · rw [hadv] at h
        exact absurd h (by simp)
      · rw [hadv]
        exact ⟨rfl, rfl, rfl, rfl, rfl, rfl, rfl, rfl⟩
  · exact (SameContent.refl book).reject

theorem applyEvent_clean_iff {book : BookState} {event : NormalizedEvent}
    (hbook : book.DesyncedHasNoPending) :
    ((book.applyEvent event).1 = false → book.CleanReject (book.applyEvent event).2) ↔
      book.KeepsOnReject event := by
  have hreject : book.CleanReject book.reject.2 := .inr (SameContent.refl book).reject
  rw [applyEvent, KeepsOnReject]
  cases htype : event.type with
  | snapshot =>
    cases hdata : event.data with
    | snapshot snapshot =>
      rw [applySnapshot_clean_iff hbook hdata]
      simp
    | _ =>
      simp only [applySnapshot, hdata]
      simp [hreject]
  | delta =>
    cases hdata : event.data with
    | delta delta =>
      rw [applyDelta_clean_iff hdata]
      simp
    | _ =>
      simp only [applyDelta, hdata]
      simp [hreject]
  | trade => simpa using applyTrade_clean
  | heartbeat => simp [hreject]
  | status => simp [hreject]
  | unknown => simp [hreject]

end BookState

/-! ## The store -/

namespace BookStore

/-- A refused event leaves every other book as it was, and its own book clean; a market that has
not been seen may get an empty book. -/
structure CleanReject (store store' : BookStore) (event : NormalizedEvent) : Prop where
  others : ∀ marketTicker ≠ event.marketTicker, store'.find marketTicker = store.find marketTicker
  own : ∀ book', store'.find event.marketTicker = some book' →
    (store.bookFor event.marketTicker).CleanReject book'
  kept : (store'.find event.marketTicker).isNone → (store.find event.marketTicker).isNone

/-- **A refused event leaves the books intact exactly when `KeepsOnReject` says so.** For every
reachable store and every event. -/
theorem apply_reject_keeps_book_iff (store : BookStore) (h : machine.Reaches {} store)
    (event : NormalizedEvent) :
    ((store.apply event).1 = false → store.CleanReject (store.apply event).2 event) ↔
      (event.marketTicker = "" ∨ (store.bookFor event.marketTicker).KeepsOnReject event) := by
  have hothers : ∀ marketTicker ≠ event.marketTicker,
      (store.apply event).2.find marketTicker = store.find marketTicker :=
    fun _ hne ↦ store.find_apply_of_ne hne
  by_cases hguard : event.marketTicker = "" ∨ event.type = .unknown
  · -- the event is turned away at the door
    have hstore : (store.apply event).2 = store := by rw [apply, if_pos hguard]
    refine iff_of_true (fun _ ↦ ⟨hothers, fun book' hbook' ↦ ?_, fun hnone ↦ ?_⟩) ?_
    · rw [hstore] at hbook'
      rw [bookFor, hbook']
      exact .inr (.refl book')
    · rwa [hstore] at hnone
    · refine hguard.imp_right fun hunknown ↦ ⟨fun htype ↦ ?_, fun htype ↦ ?_⟩
      · cases hunknown.symm.trans htype
      · cases hunknown.symm.trans htype
  · have hbook : (store.bookFor event.marketTicker).DesyncedHasNoPending :=
      forall_book_of_reaches (P := BookState.DesyncedHasNoPending) (fun _ hdesynced ↦ by
        cases hdesynced) BookState.desyncedHasNoPending_applyEvent h _
    have hown := store.find_apply_self hguard
    rw [or_iff_right fun hticker ↦ hguard (.inl hticker), ← BookState.applyEvent_clean_iff hbook,
      store.apply_fst hguard]
    refine forall_congr' fun _ ↦ ⟨fun hclean ↦ hclean.own _ hown, fun hclean ↦ ?_⟩
    refine ⟨hothers, fun book' hbook' ↦ ?_, fun hnone ↦ ?_⟩
    · obtain rfl := Option.some.inj (hown.symm.trans hbook')
      exact hclean
    · rw [hown] at hnone
      exact absurd hnone (by simp)

open SampleEvents in
/-- A store that has seen one snapshot. -/
def seededStore : BookStore := (apply {} (snapshot 5 [⟨100, 2⟩])).2

theorem seededStore_reached : machine.Reaches {} seededStore := .tail .refl trivial rfl

/-- A trade that comes late is refused, and the book is as it was. -/
theorem apply_reject_keeps_book_trade :
    let event : NormalizedEvent :=
      { type := .trade, marketTicker := "KXBTC-YES", rawSequenceId := some 5, data := .trade {} }
    (seededStore.apply event).1 = false ∧
      seededStore.CleanReject (seededStore.apply event).2 event := by
  refine ⟨by decide, ?_⟩
  refine (apply_reject_keeps_book_iff seededStore seededStore_reached _).mpr (.inr ⟨?_, ?_⟩)
    (by decide)
  · intro htype
    exact absurd htype (by simp)
  · intro htype
    exact absurd htype (by simp)

open SampleEvents in
/-- A snapshot with a negative price is refused after the bids have been cleared. -/
theorem apply_reject_empties_book :
    machine.Reaches {} seededStore ∧
    (seededStore.apply (snapshot 6 [⟨-1, 2⟩])).1 = false ∧
    (seededStore.find "KXBTC-YES").map (·.bids.toList) = some [(100, 2)] ∧
    ((seededStore.apply (snapshot 6 [⟨-1, 2⟩])).2.find "KXBTC-YES").map (·.bids.toList)
      = some [] ∧
    ¬seededStore.CleanReject (seededStore.apply (snapshot 6 [⟨-1, 2⟩])).2
      (snapshot 6 [⟨-1, 2⟩]) := by
  refine ⟨seededStore_reached, by decide, by decide, by decide, fun hclean ↦ ?_⟩
  obtain ⟨-, hdesynced⟩ | hsame := hclean.own _ rfl
  · exact absurd hdesynced (by decide)
  · exact absurd (congrArg ExtTreeMap.toList hsame.bids) (by decide)

end BookStore

end TradingEngine
