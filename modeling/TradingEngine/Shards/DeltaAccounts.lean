import TradingEngine.Shards.BookStore

/-!
# Every buffered delta is accounted for

A delta that is buffered leaves the buffer in one of four ways. The replay applies it, the replay
finds it stale and drops it, the replay fails and drops it with all that is behind it, or the buffer
overflows and is dropped as a whole, together with the delta that did not fit. The source counts
the first way in one counter and the other three in another, with the one delta that has left the
buffer or never got there added by hand.

The delta that did not fit is counted among the dropped ones although it was never counted as
buffered. So the books balance once these refusals are added on the other side
(`buffered_deltas_accounted`).
-/

namespace TradingEngine

namespace BookState

/-! ## What a step keeps -/

/-- The deltas that have left the buffer, and those still in it. -/
def accounted (book : BookState) : ℕ :=
  book.replayedDeltaCount + book.droppedPendingDeltaCount + book.pendingDeltas.length

/-- The buffer and what is counted about it are the same. -/
structure SameBuffer (book book' : BookState) : Prop where
  buffered : book'.bufferedDeltaCount = book.bufferedDeltaCount
  replayed : book'.replayedDeltaCount = book.replayedDeltaCount
  dropped : book'.droppedPendingDeltaCount = book.droppedPendingDeltaCount
  pending : book'.pendingDeltas = book.pendingDeltas

variable {book book' book'' : BookState}

theorem SameBuffer.refl (book : BookState) : book.SameBuffer book := ⟨rfl, rfl, rfl, rfl⟩

theorem SameBuffer.trans (h : book.SameBuffer book') (h' : book'.SameBuffer book'') :
    book.SameBuffer book'' :=
  ⟨h'.buffered.trans h.buffered, h'.replayed.trans h.replayed, h'.dropped.trans h.dropped,
    h'.pending.trans h.pending⟩

theorem SameBuffer.accounted (h : book.SameBuffer book') : book'.accounted = book.accounted := by
  rw [BookState.accounted, BookState.accounted, h.replayed, h.dropped, h.pending]

theorem sameBuffer_advance (book : BookState) (sequenceId : Option ℕ) :
    book.SameBuffer (book.advanceSequenceIfPresent sequenceId).2 := by
  unfold advanceSequenceIfPresent
  split
  · exact .refl book
  split
  · split
    · exact ⟨rfl, rfl, rfl, rfl⟩
    · exact ⟨rfl, rfl, rfl, rfl⟩
  · exact ⟨rfl, rfl, rfl, rfl⟩

theorem sameBuffer_applyDeltaData (book : BookState) (delta : DeltaData) :
    book.SameBuffer (book.applyDeltaData delta).2 := by
  rw [applyDeltaData]
  split
  · exact .refl book
  split <;> exact ⟨rfl, rfl, rfl, rfl⟩

theorem sameBuffer_applySnapshotData (book : BookState) (snapshot : SnapshotData) :
    book.SameBuffer (book.applySnapshotData snapshot).2 := by
  rw [applySnapshotData]
  dsimp only
  split <;> exact ⟨rfl, rfl, rfl, rfl⟩

theorem sameBuffer_reject (book : BookState) : book.SameBuffer book.reject.2 :=
  ⟨rfl, rfl, rfl, rfl⟩

/-! ## The replay -/

/-- **The replay loop.** Each delta that it pops is replayed or dropped, and when it gives up it
drops the rest. -/
theorem replayFrom_accounted (pending : List PendingDelta) : ∀ book : BookState,
    (book.replayFrom pending).2.bufferedDeltaCount = book.bufferedDeltaCount ∧
    (book.replayFrom pending).2.accounted =
      book.replayedDeltaCount + book.droppedPendingDeltaCount + pending.length := by
  induction pending with
  | nil => exact fun book ↦ ⟨rfl, rfl⟩
  | cons first rest ih =>
    intro book
    rw [replayFrom]
    dsimp only
    have hadvance := sameBuffer_advance { book with pendingDeltas := rest } first.sequenceId
    split
    · have hdelta := hadvance.trans (sameBuffer_applyDeltaData
        ({ book with pendingDeltas := rest }.advanceSequenceIfPresent first.sequenceId).2
        first.delta)
      split
      · obtain ⟨hbuffered, haccounted⟩ := ih _
        refine ⟨hbuffered.trans hdelta.buffered, haccounted.trans ?_⟩
        dsimp only
        rw [hdelta.replayed, hdelta.dropped, List.length_cons]
        dsimp only
        omega
      · -- the invalid delta has been popped, and is dropped with the rest
        refine ⟨hdelta.buffered, ?_⟩
        rw [accounted, markDesynced]
        dsimp only
        rw [hdelta.replayed, hdelta.dropped, List.length_nil, List.length_cons]
        dsimp only
        omega
    · obtain ⟨hbuffered, haccounted⟩ := ih _
      refine ⟨hbuffered.trans hadvance.buffered, haccounted.trans ?_⟩
      dsimp only
      rw [hadvance.replayed, hadvance.dropped, List.length_cons]
      dsimp only
      omega

/-! ## One event -/

/-- The event is a delta, the book waits for its first snapshot, and its buffer is full. -/
def refusesForFullBuffer (book : BookState) (event : NormalizedEvent) : Bool :=
  event.type = .delta && (match event.data with | .delta _ => true | _ => false) &&
    !book.desynced && !book.hasSnapshot && decide (book.pendingDeltas.length ≥ kMaxPendingDeltas)

/-- The deltas that an event adds on one side of the books, it adds on the other. -/
def Balances (book book' : BookState) (refused : ℕ) : Prop :=
  book'.bufferedDeltaCount + refused + book.accounted =
    book.bufferedDeltaCount + book'.accounted

theorem SameBuffer.balances (h : book.SameBuffer book') : book.Balances book' 0 := by
  rw [Balances, h.accounted, h.buffered, Nat.add_zero]

theorem Balances.trans {m n : ℕ} (h : book.Balances book' m) (h' : book'.Balances book'' n) :
    book.Balances book'' (m + n) := by
  rw [Balances] at h h' ⊢
  omega

theorem balances_replayPendingDeltas (book : BookState) :
    book.Balances book.replayPendingDeltas.2 0 := by
  obtain ⟨hbuffered, haccounted⟩ := replayFrom_accounted book.pendingDeltas book
  rw [Balances, replayPendingDeltas, hbuffered, haccounted, accounted, Nat.add_zero]

theorem balances_applySnapshot (book : BookState) (event : NormalizedEvent) :
    book.Balances (book.applySnapshot event).2 0 := by
  rw [applySnapshot]
  split
  · rename_i snapshot _
    have hloaded := sameBuffer_applySnapshotData book snapshot
    dsimp only
    split
    · -- the buffer is replayed as the snapshot found it
      have hready : book.SameBuffer { (book.applySnapshotData snapshot).2 with
          hasSnapshot := true
          desynced := false
          lastSeqId := event.effectiveSequenceId
          snapshotCount := (book.applySnapshotData snapshot).2.snapshotCount + 1 } :=
        hloaded.trans ⟨rfl, rfl, rfl, rfl⟩
      have hreplayed := hready.balances.trans (balances_replayPendingDeltas _)
      split
      · exact hreplayed
      · exact hreplayed.trans (sameBuffer_reject _).balances
    · exact (hloaded.trans (sameBuffer_reject _)).balances
  · exact (sameBuffer_reject book).balances

theorem balances_applyDelta (book : BookState) {event : NormalizedEvent}
    (htype : event.type = .delta) :
    book.Balances (book.applyDelta event).2
      (if book.refusesForFullBuffer event then 1 else 0) := by
  rw [applyDelta]
  split
  · rename_i delta hdata
    by_cases hdesynced : book.desynced = true
    · rw [if_pos hdesynced, if_neg (by simp [refusesForFullBuffer, hdesynced])]
      exact (sameBuffer_reject book).balances
    rw [if_neg hdesynced]
    by_cases hsnapshot : book.hasSnapshot = true
    · have hnone : book.refusesForFullBuffer event = false := by
        simp [refusesForFullBuffer, hsnapshot]
      rw [if_pos hsnapshot, hnone]
      dsimp only
      have hadvance := sameBuffer_advance book event.effectiveSequenceId
      have hdelta := hadvance.trans (sameBuffer_applyDeltaData
        (book.advanceSequenceIfPresent event.effectiveSequenceId).2 delta)
      split
      · split
        · exact SameBuffer.balances (hdelta.trans ⟨rfl, rfl, rfl, rfl⟩)
        · exact (hdelta.trans (sameBuffer_reject _)).balances
      · exact (hadvance.trans (sameBuffer_reject _)).balances
    rw [if_neg hsnapshot]
    by_cases hfull : book.pendingDeltas.length ≥ kMaxPendingDeltas
    · rw [if_pos hfull, if_pos (by
        simp [refusesForFullBuffer, htype, hdata, hdesynced, hsnapshot, hfull])]
      simp only [Balances, accounted, reject, markDesynced, List.length_nil]
      omega
    · rw [if_neg hfull, if_neg (by
        simp only [refusesForFullBuffer, decide_eq_false hfull, Bool.and_false]; decide)]
      simp only [Balances, accounted, List.length_append, List.length_singleton]
      omega
  · rename_i hother
    have hnone : book.refusesForFullBuffer event = false := by
      rw [refusesForFullBuffer]
      cases hdata : event.data with
      | delta delta => exact absurd hdata (hother delta)
      | _ => simp
    rw [hnone]
    exact (sameBuffer_reject book).balances

theorem balances_applyTrade (book : BookState) (event : NormalizedEvent) :
    book.Balances (book.applyTrade event).2 0 := by
  rw [applyTrade]
  split
  · split
    · exact (sameBuffer_reject book).balances
    · dsimp only
      have hadvance := sameBuffer_advance book event.effectiveSequenceId
      split
      · exact SameBuffer.balances (hadvance.trans ⟨rfl, rfl, rfl, rfl⟩)
      · exact (hadvance.trans (sameBuffer_reject _)).balances
  · exact (sameBuffer_reject book).balances

/-- **One event.** -/
theorem balances_applyEvent (book : BookState) (event : NormalizedEvent) :
    book.Balances (book.applyEvent event).2
      (if book.refusesForFullBuffer event then 1 else 0) := by
  by_cases hdelta : event.type = .delta
  · rw [applyEvent, hdelta]
    exact balances_applyDelta book hdelta
  · rw [if_neg (by simp [refusesForFullBuffer, hdelta]), applyEvent]
    cases htype : event.type with
    | delta => exact absurd htype hdelta
    | snapshot => exact balances_applySnapshot book event
    | trade => exact balances_applyTrade book event
    | heartbeat => exact (sameBuffer_reject book).balances
    | status => exact (sameBuffer_reject book).balances
    | unknown => exact (sameBuffer_reject book).balances

end BookState

/-! ## Runs -/

namespace BookStore

/-- The deltas of a market that are refused because its buffer is full, while a list of events is
applied. -/
def fullBufferRefusals (marketTicker : String) : BookStore → List NormalizedEvent → ℕ
  | _, [] => 0
  | store, event :: events =>
    (if event.marketTicker = marketTicker ∧ event.marketTicker ≠ "" ∧
        (store.bookFor marketTicker).refusesForFullBuffer event then 1 else 0)
      + fullBufferRefusals marketTicker (store.apply event).2 events

theorem balances_apply (store : BookStore) (marketTicker : String) (event : NormalizedEvent) :
    (store.bookFor marketTicker).Balances ((store.apply event).2.bookFor marketTicker)
      (if event.marketTicker = marketTicker ∧ event.marketTicker ≠ "" ∧
        (store.bookFor marketTicker).refusesForFullBuffer event then 1 else 0) := by
  by_cases hguard : event.marketTicker = "" ∨ event.type = .unknown
  · -- the store does not look at the event
    have hnone : ¬(event.marketTicker = marketTicker ∧ event.marketTicker ≠ "" ∧
        (store.bookFor marketTicker).refusesForFullBuffer event = true) := by
      rintro ⟨_, hne, hrefuses⟩
      rcases hguard with hempty | hunknown
      · exact hne hempty
      · rw [BookState.refusesForFullBuffer, hunknown] at hrefuses
        exact absurd hrefuses (by simp)
    rw [if_neg hnone, apply, if_pos hguard]
    exact (BookState.SameBuffer.refl _).balances
  by_cases hmarket : event.marketTicker = marketTicker
  · subst hmarket
    have hbook : (store.apply event).2.bookFor event.marketTicker =
        ((store.bookFor event.marketTicker).applyEvent event).2 := by
      rw [bookFor, find_apply_self store hguard, Option.getD_some]
    have hnamed : event.marketTicker ≠ "" := fun hempty ↦ hguard (.inl hempty)
    simpa [hbook, hnamed] using
      BookState.balances_applyEvent (store.bookFor event.marketTicker) event
  · rw [if_neg fun h ↦ hmarket h.1, bookFor, bookFor,
      find_apply_of_ne store fun heq ↦ hmarket heq.symm]
    exact (BookState.SameBuffer.refl _).balances

theorem balances_applyAll (marketTicker : String) (events : List NormalizedEvent) :
    ∀ store : BookStore, (store.bookFor marketTicker).Balances
      ((store.applyAll events).bookFor marketTicker)
      (fullBufferRefusals marketTicker store events) := by
  induction events with
  | nil => exact fun store ↦ (BookState.SameBuffer.refl _).balances
  | cons event events ih =>
    intro store
    exact (balances_apply store marketTicker event).trans (ih (store.apply event).2)

end BookStore

/-- **Every buffered delta is accounted for exactly once,** in every book after any events: with the
deltas that found the buffer full, the buffered ones are those replayed, those dropped and those
still waiting. -/
theorem buffered_deltas_accounted {events : List NormalizedEvent} {marketTicker : String}
    {book : BookState}
    (h : (({} : BookStore).applyAll events).find marketTicker = some book) :
    book.bufferedDeltaCount + BookStore.fullBufferRefusals marketTicker {} events =
      book.replayedDeltaCount + book.droppedPendingDeltaCount + book.pendingDeltas.length := by
  have hbalance := BookStore.balances_applyAll marketTicker events {}
  have hbook : (({} : BookStore).applyAll events).bookFor marketTicker = book := by
    rw [BookStore.bookFor, h, Option.getD_some]
  have hfresh : (({} : BookStore).bookFor marketTicker).accounted = 0 := rfl
  have hnone : (({} : BookStore).bookFor marketTicker).bufferedDeltaCount = 0 := rfl
  rw [hbook, BookState.Balances, hfresh, hnone, Nat.add_zero, Nat.zero_add] at hbalance
  exact hbalance

namespace DeltaAccountsExample

open SampleEvents

/-- One delta is older than the snapshot, one has no side, and one is behind it. -/
def events : List NormalizedEvent :=
  [delta (some 5) .bid 44 1, delta (some 7) .bid 44 1, delta (some 8) .unknown 44 1,
    delta (some 9) .bid 44 1, snapshot 6 []]

end DeltaAccountsExample

open DeltaAccountsExample in
/-- The replay stops half way: one delta is dropped as stale, one is replayed, and the two others
are dropped together. -/
theorem buffered_deltas_accounted_half_replayed :
    ∃ book, (({} : BookStore).applyAll events).find "KXBTC-YES" = some book ∧
      book.replayedDeltaCount = 1 ∧ book.droppedPendingDeltaCount = 3 ∧
      book.bufferedDeltaCount + BookStore.fullBufferRefusals "KXBTC-YES" {} events =
        book.replayedDeltaCount + book.droppedPendingDeltaCount + book.pendingDeltas.length := by
  obtain ⟨book, hfind, hreplayed, hdropped⟩ : ∃ book,
      (({} : BookStore).applyAll events).find "KXBTC-YES" = some book ∧
        book.replayedDeltaCount = 1 ∧ book.droppedPendingDeltaCount = 3 := ⟨_, rfl, rfl, rfl⟩
  exact ⟨book, hfind, hreplayed, hdropped, buffered_deltas_accounted hfind⟩

end TradingEngine
