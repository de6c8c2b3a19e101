import TradingEngine.Shards.BookRejects

/-!
# The representation invariant of the books

A book is in one of three modes. It waits for its first snapshot and buffers deltas, it has a
snapshot and applies them, or it is desynced and takes nothing but a snapshot. Snapshots, live
deltas, the buffer and the replay rewrite overlapping parts of the book, and each of their early
returns has to leave it in one of the modes: `BookState.Rep`.

`desync_count` counts the ways into the third mode. The replay of a snapshot leaves the mode and may
enter it again, but only from a book that was synced, since a desynced book has nothing to replay.
-/

namespace TradingEngine

open Std (ExtTreeMap TransCmp LawfulEqCmp)

/-! ## Levels -/

section Levels

variable {cmp : ℤ → ℤ → Ordering} [TransCmp cmp] [LawfulEqCmp cmp]

/-- Prices are not negative, and no level is used up. -/
def ValidLevels (levels : ExtTreeMap ℤ ℤ cmp) : Prop :=
  ∀ priceTicks qtyLots : ℤ, levels[priceTicks]? = some qtyLots → 0 ≤ priceTicks ∧ 0 < qtyLots

omit [LawfulEqCmp cmp] in
theorem validLevels_empty : ValidLevels (∅ : ExtTreeMap ℤ ℤ cmp) :=
  fun _ _ h ↦ absurd h (by simp)

theorem ValidLevels.insert {levels : ExtTreeMap ℤ ℤ cmp} {priceTicks qtyLots : ℤ}
    (h : ValidLevels levels) (hprice : 0 ≤ priceTicks) (hqty : 0 < qtyLots) :
    ValidLevels (levels.insert priceTicks qtyLots) := by
  intro price qty hlevel
  rw [ExtTreeMap.getElem?_insert] at hlevel
  split at hlevel
  · rename_i hsame
    obtain rfl := LawfulEqCmp.compare_eq_iff_eq.mp hsame
    obtain rfl := Option.some.inj hlevel
    exact ⟨hprice, hqty⟩
  · exact h price qty hlevel

omit [LawfulEqCmp cmp] in
theorem ValidLevels.erase {levels : ExtTreeMap ℤ ℤ cmp} (h : ValidLevels levels)
    (priceTicks : ℤ) : ValidLevels (levels.erase priceTicks) := by
  intro price qty hlevel
  rw [ExtTreeMap.getElem?_erase] at hlevel
  split at hlevel
  · exact absurd hlevel (by simp)
  · exact h price qty hlevel

theorem ValidLevels.moveLevel {levels : ExtTreeMap ℤ ℤ cmp} {priceTicks : ℤ}
    (h : ValidLevels levels) (hprice : 0 ≤ priceTicks) (deltaQtyLots : ℤ) :
    ValidLevels (BookState.moveLevel levels priceTicks deltaQtyLots) := by
  rw [BookState.moveLevel]
  split
  · exact h.erase priceTicks
  · rename_i hqty
    exact h.insert hprice (not_le.mp hqty)

/-- Also where loading stops early. -/
theorem ValidLevels.loadLevels (loaded : List Level) : ∀ {levels : ExtTreeMap ℤ ℤ cmp},
    ValidLevels levels → ValidLevels (BookState.loadLevels levels loaded).2 := by
  induction loaded with
  | nil => exact fun h ↦ h
  | cons level rest ih =>
    intro levels h
    rw [BookState.loadLevels]
    split
    · exact h
    · rename_i hvalid
      push Not at hvalid
      exact ih (h.insert hvalid.1 hvalid.2)

end Levels

namespace BookState

/-- **The representation invariant.** -/
structure Rep (book : BookState) : Prop where
  bids : ValidLevels book.bids
  asks : ValidLevels book.asks
  pending : book.pendingDeltas.length ≤ kMaxPendingDeltas
  waiting : book.pendingDeltas ≠ [] → book.desynced = false ∧ book.hasSnapshot = false
  desynced : book.desynced = true →
    book.hasSnapshot = false ∧ book.lastSeqId = none ∧ book.pendingDeltas = []

instance (book book' : BookState) : Decidable (book.JustDesynced book') :=
  inferInstanceAs (Decidable (_ ∧ _))

/-- One when the book went from synced to desynced. -/
def desyncsTo (book book' : BookState) : ℕ := if book.JustDesynced book' then 1 else 0

/-- What one event makes of a book. -/
structure Follows (book book' : BookState) : Prop where
  rep : book'.Rep
  marketTicker : book'.marketTicker = book.marketTicker
  desyncCount : book'.desyncCount = book.desyncCount + book.desyncsTo book'

/-- Levels and counters may have moved, but not the mode of the book. -/
structure Moves (book book' : BookState) : Prop where
  marketTicker : book'.marketTicker = book.marketTicker
  hasSnapshot : book'.hasSnapshot = book.hasSnapshot
  desynced : book'.desynced = book.desynced
  pendingDeltas : book'.pendingDeltas = book.pendingDeltas
  desyncCount : book'.desyncCount = book.desyncCount
  bids : ValidLevels book.bids → ValidLevels book'.bids
  asks : ValidLevels book.asks → ValidLevels book'.asks

variable {book book' : BookState}

theorem rep_fresh (marketTicker : String) : ({ marketTicker := marketTicker } : BookState).Rep where
  bids := validLevels_empty
  asks := validLevels_empty
  pending := Nat.zero_le _
  waiting h := absurd rfl h
  desynced h := absurd h (by simp)

theorem desyncsTo_of_desynced_eq (h : book'.desynced = book.desynced) :
    book.desyncsTo book' = 0 := by
  refine if_neg ?_
  rintro ⟨hsynced, hdesynced⟩
  exact absurd ((hdesynced.symm.trans h).trans hsynced) (by simp)

theorem Follows.reject (h : book.Follows book') : book.Follows book'.reject.2 where
  rep := ⟨h.rep.bids, h.rep.asks, h.rep.pending, h.rep.waiting, h.rep.desynced⟩
  marketTicker := h.marketTicker
  desyncCount := h.desyncCount

/-- The desync flag, its count and the market are all that matters of the book before. -/
theorem Follows.of_eq {mid : BookState} (h : mid.Follows book')
    (hmarket : mid.marketTicker = book.marketTicker) (hdesynced : mid.desynced = book.desynced)
    (hcount : mid.desyncCount = book.desyncCount) : book.Follows book' where
  rep := h.rep
  marketTicker := h.marketTicker.trans hmarket
  desyncCount := by
    have hsame : mid.JustDesynced book' ↔ book.JustDesynced book' := by
      rw [JustDesynced, JustDesynced, hdesynced]
    simp only [h.desyncCount, hcount, desyncsTo, hsame]

theorem Moves.refl (book : BookState) : book.Moves book :=
  ⟨rfl, rfl, rfl, rfl, rfl, id, id⟩

theorem Moves.trans {book'' : BookState} (h : book.Moves book') (h' : book'.Moves book'') :
    book.Moves book'' where
  marketTicker := h'.marketTicker.trans h.marketTicker
  hasSnapshot := h'.hasSnapshot.trans h.hasSnapshot
  desynced := h'.desynced.trans h.desynced
  pendingDeltas := h'.pendingDeltas.trans h.pendingDeltas
  desyncCount := h'.desyncCount.trans h.desyncCount
  bids hbids := h'.bids (h.bids hbids)
  asks hasks := h'.asks (h.asks hasks)

/-- A desynced book must not get a sequence id. -/
theorem Moves.follows (h : book.Moves book') (hrep : book.Rep)
    (hseq : book.desynced = true → book'.lastSeqId = book.lastSeqId) : book.Follows book' where
  rep :=
    { bids := h.bids hrep.bids
      asks := h.asks hrep.asks
      pending := h.pendingDeltas ▸ hrep.pending
      waiting := by
        rw [h.pendingDeltas, h.desynced, h.hasSnapshot]
        exact hrep.waiting
      desynced := by
        rw [h.desynced, h.hasSnapshot, h.pendingDeltas]
        intro hdesynced
        rw [hseq hdesynced]
        exact hrep.desynced hdesynced }
  marketTicker := h.marketTicker
  desyncCount := by rw [h.desyncCount, desyncsTo_of_desynced_eq h.desynced, Nat.add_zero]

/-- A synced book may. -/
theorem Moves.follows_of_synced (h : book.Moves book') (hrep : book.Rep)
    (hsynced : book.desynced = false) : book.Follows book' :=
  h.follows hrep fun hdesynced ↦ absurd (hsynced.symm.trans hdesynced) (by simp)

/-! ## The steps of an apply -/

/-- A book that was just marked is good, whatever was in it. -/
theorem rep_markDesynced (book : BookState) (droppedPendingCount : ℕ) :
    (book.markDesynced droppedPendingCount).Rep where
  bids := validLevels_empty
  asks := validLevels_empty
  pending := Nat.zero_le _
  waiting h := absurd rfl h
  desynced _ := ⟨rfl, rfl, rfl⟩

theorem follows_markDesynced (hsynced : book.desynced = false) (droppedPendingCount : ℕ) :
    book.Follows (book.markDesynced droppedPendingCount) := by
  refine ⟨rep_markDesynced book droppedPendingCount, rfl, ?_⟩
  rw [desyncsTo, if_pos ⟨hsynced, rfl⟩, markDesynced, hsynced]
  rfl

theorem moves_advanceSequenceIfPresent (book : BookState) (sequenceId : Option ℕ) :
    book.Moves (book.advanceSequenceIfPresent sequenceId).2 := by
  obtain ⟨_, hadv⟩ | ⟨_, _, _, hadv⟩ | ⟨_, _, _, _, _, hadv⟩ :=
    book.advanceSequenceIfPresent_cases sequenceId
  · rw [hadv]
    exact .refl book
  · rw [hadv]
    exact ⟨rfl, rfl, rfl, rfl, rfl, id, id⟩
  · rw [hadv]
    exact ⟨rfl, rfl, rfl, rfl, rfl, id, id⟩

theorem moves_applyDeltaData (book : BookState) (delta : DeltaData) :
    book.Moves (book.applyDeltaData delta).2 := by
  rw [applyDeltaData]
  split
  · exact .refl book
  · rename_i hprice
    have hbids := fun h : ValidLevels book.bids ↦
      h.moveLevel (not_lt.mp hprice) delta.deltaQtyLots
    have hasks := fun h : ValidLevels book.asks ↦
      h.moveLevel (not_lt.mp hprice) delta.deltaQtyLots
    cases delta.side with
    | unknown => exact .refl book
    | bid => exact ⟨rfl, rfl, rfl, rfl, rfl, hbids, id⟩
    | buy => exact ⟨rfl, rfl, rfl, rfl, rfl, hbids, id⟩
    | ask => exact ⟨rfl, rfl, rfl, rfl, rfl, id, hasks⟩
    | sell => exact ⟨rfl, rfl, rfl, rfl, rfl, id, hasks⟩

/-- Loading a snapshot leaves valid levels, also where it stops early. -/
theorem moves_applySnapshotData (book : BookState) (snapshot : SnapshotData) :
    book.Moves (book.applySnapshotData snapshot).2 ∧
      ValidLevels (book.applySnapshotData snapshot).2.bids ∧
      ValidLevels (book.applySnapshotData snapshot).2.asks ∧
      (book.applySnapshotData snapshot).2.lastSeqId = book.lastSeqId := by
  have hbids : ValidLevels (loadLevels (∅ : BidLevels) snapshot.bids).2 :=
    validLevels_empty.loadLevels snapshot.bids
  have hasks : ValidLevels (loadLevels (∅ : AskLevels) snapshot.asks).2 :=
    validLevels_empty.loadLevels snapshot.asks
  rw [applySnapshotData]
  dsimp only
  split
  · exact ⟨⟨rfl, rfl, rfl, rfl, rfl, fun _ ↦ hbids, fun _ ↦ hasks⟩, hbids, hasks, rfl⟩
  · exact ⟨⟨rfl, rfl, rfl, rfl, rfl, fun _ ↦ hbids, fun _ ↦ validLevels_empty⟩, hbids,
      validLevels_empty, rfl⟩

/-- The replay empties the buffer of a synced book. Between its rounds the rest of the buffer stands
beside a snapshot, so what its rounds keep is less than `Rep`. -/
theorem follows_replayFrom (pending : List PendingDelta) : ∀ {book : BookState},
    ValidLevels book.bids → ValidLevels book.asks → book.desynced = false →
      book.Follows (book.replayFrom pending).2 := by
  induction pending with
  | nil =>
    intro book hbids hasks hsynced
    refine ⟨⟨hbids, hasks, Nat.zero_le _, fun h ↦ absurd rfl h, fun h ↦ ?_⟩, rfl, ?_⟩
    · exact absurd (hsynced.symm.trans h) (by simp)
    · exact (congrArg (book.desyncCount + ·) (desyncsTo_of_desynced_eq rfl)).symm
  | cons first rest ih =>
    intro book hbids hasks hsynced
    have hadvanced := moves_advanceSequenceIfPresent { book with pendingDeltas := rest }
      first.sequenceId
    rw [replayFrom]
    dsimp only
    split
    · have happlied := hadvanced.trans (moves_applyDeltaData _ first.delta)
      have hstill := happlied.desynced.trans hsynced
      split
      · refine Follows.of_eq (ih ?_ ?_ ?_) happlied.marketTicker happlied.desynced
          happlied.desyncCount
        · exact happlied.bids hbids
        · exact happlied.asks hasks
        · exact hstill
      · exact Follows.of_eq (follows_markDesynced hstill _) happlied.marketTicker
          happlied.desynced happlied.desyncCount
    · refine Follows.of_eq (ih ?_ ?_ ?_) hadvanced.marketTicker hadvanced.desynced
        hadvanced.desyncCount
      · exact hadvanced.bids hbids
      · exact hadvanced.asks hasks
      · exact hadvanced.desynced.trans hsynced

/-! ## One event -/

theorem Follows.refl (h : book.Rep) : book.Follows book := (Moves.refl book).follows h fun _ ↦ rfl

/-- A snapshot syncs the book first. If the book was desynced, there is nothing to replay, and the
replay cannot desync it again. -/
theorem Rep.follows_replayPendingDeltas {mid : BookState} (h : book.Rep)
    (hsynced : mid.desynced = false) (hbids : ValidLevels mid.bids) (hasks : ValidLevels mid.asks)
    (hpending : mid.pendingDeltas = book.pendingDeltas)
    (hmarket : mid.marketTicker = book.marketTicker)
    (hcount : mid.desyncCount = book.desyncCount) : book.Follows mid.replayPendingDeltas.2 := by
  have hreplayed : mid.Follows mid.replayPendingDeltas.2 :=
    follows_replayFrom mid.pendingDeltas hbids hasks hsynced
  cases hbook : book.desynced with
  | false => exact hreplayed.of_eq hmarket (hsynced.trans hbook.symm) hcount
  | true =>
    have hnil : mid.pendingDeltas = [] := hpending.trans (h.desynced hbook).2.2
    refine ⟨hreplayed.rep, hreplayed.marketTicker.trans hmarket, ?_⟩
    rw [desyncsTo, if_neg fun hjust ↦ absurd (hbook.symm.trans hjust.1) (by simp),
      replayPendingDeltas, hnil]
    exact hcount

theorem Rep.follows_applySnapshot (h : book.Rep) (event : NormalizedEvent) :
    book.Follows (book.applySnapshot event).2 := by
  rw [applySnapshot]
  split
  · rename_i snapshot _
    obtain ⟨hloaded, hbids, hasks, hseq⟩ := moves_applySnapshotData book snapshot
    dsimp only
    split
    · split
      · exact h.follows_replayPendingDeltas rfl hbids hasks hloaded.pendingDeltas
          hloaded.marketTicker hloaded.desyncCount
      · exact Follows.reject (h.follows_replayPendingDeltas rfl hbids hasks hloaded.pendingDeltas
          hloaded.marketTicker hloaded.desyncCount)
    · exact (hloaded.follows h fun _ ↦ hseq).reject
  · exact (Follows.refl h).reject

theorem Rep.follows_applyDelta (h : book.Rep) (event : NormalizedEvent) :
    book.Follows (book.applyDelta event).2 := by
  rw [applyDelta]
  split
  · rename_i delta _
    split
    · exact (Follows.refl h).reject
    rename_i hdesynced
    have hsynced := Bool.eq_false_of_not_eq_true hdesynced
    split
    · -- live: the sequence first, then the level
      have hadvanced := book.moves_advanceSequenceIfPresent event.effectiveSequenceId
      have happlied := hadvanced.trans (moves_applyDeltaData _ delta)
      dsimp only
      split
      · split
        · exact Moves.follows_of_synced ⟨happlied.marketTicker, happlied.hasSnapshot,
            happlied.desynced, happlied.pendingDeltas, happlied.desyncCount, happlied.bids,
            happlied.asks⟩ h hsynced
        · exact (happlied.follows_of_synced h hsynced).reject
      · exact (hadvanced.follows_of_synced h hsynced).reject
    · rename_i hsnapshot
      split
      · exact (follows_markDesynced hsynced _).reject
      · rename_i hroom
        refine ⟨⟨h.bids, h.asks, ?_, fun _ ↦ ?_, fun hmarked ↦ absurd hmarked hdesynced⟩, rfl, ?_⟩
        · rw [List.length_append]
          exact not_le.mp hroom
        · exact ⟨hsynced, Bool.eq_false_of_not_eq_true hsnapshot⟩
        · exact (congrArg (book.desyncCount + ·) (desyncsTo_of_desynced_eq rfl)).symm
  · exact (Follows.refl h).reject

theorem Rep.follows_applyTrade (h : book.Rep) (event : NormalizedEvent) :
    book.Follows (book.applyTrade event).2 := by
  rw [applyTrade]
  split
  · split
    · exact (Follows.refl h).reject
    · rename_i hdesynced
      have hsynced := Bool.eq_false_of_not_eq_true hdesynced
      have hadvanced := book.moves_advanceSequenceIfPresent event.effectiveSequenceId
      dsimp only
      split
      · exact Moves.follows_of_synced ⟨hadvanced.marketTicker, hadvanced.hasSnapshot,
          hadvanced.desynced, hadvanced.pendingDeltas, hadvanced.desyncCount, hadvanced.bids,
          hadvanced.asks⟩ h hsynced
      · exact (hadvanced.follows_of_synced h hsynced).reject
  · exact (Follows.refl h).reject

/-- **What one event makes of a good book.** -/
theorem Rep.follows_applyEvent (h : book.Rep) (event : NormalizedEvent) :
    book.Follows (book.applyEvent event).2 := by
  rw [applyEvent]
  cases event.type with
  | snapshot => exact h.follows_applySnapshot event
  | delta => exact h.follows_applyDelta event
  | trade => exact h.follows_applyTrade event
  | heartbeat => exact (Follows.refl h).reject
  | status => exact (Follows.refl h).reject
  | unknown => exact (Follows.refl h).reject

end BookState

namespace BookStore

/-- How often the book of a market goes from synced to desynced while events are applied. -/
def desyncs (marketTicker : String) : BookStore → List NormalizedEvent → ℕ
  | _, [] => 0
  | store, event :: events =>
    (store.bookFor marketTicker).desyncsTo ((store.apply event).2.bookFor marketTicker) +
      desyncs marketTicker (store.apply event).2 events

/-- An event leaves every book in its state or applies to it. -/
theorem follows_apply (store : BookStore) (event : NormalizedEvent) {marketTicker : String}
    (h : (store.bookFor marketTicker).Rep) :
    (store.bookFor marketTicker).Follows ((store.apply event).2.bookFor marketTicker) := by
  by_cases hguard : event.marketTicker = "" ∨ event.type = .unknown
  · rw [apply, if_pos hguard]
    exact .refl h
  · by_cases hmarket : marketTicker = event.marketTicker
    · subst hmarket
      have hown : (store.apply event).2.bookFor event.marketTicker =
          ((store.bookFor event.marketTicker).applyEvent event).2 := by
        rw [bookFor, find_apply_self store hguard]
        rfl
      rw [hown]
      exact h.follows_applyEvent event
    · have hother : (store.apply event).2.bookFor marketTicker = store.bookFor marketTicker := by
        rw [bookFor, find_apply_of_ne store hmarket]
        rfl
      rw [hother]
      exact .refl h

/-- **A run**, from any store whose book of the market is good. -/
theorem follows_applyAll (marketTicker : String) (events : List NormalizedEvent) :
    ∀ {store : BookStore}, (store.bookFor marketTicker).Rep →
      ((store.applyAll events).bookFor marketTicker).Rep ∧
      ((store.applyAll events).bookFor marketTicker).marketTicker =
        (store.bookFor marketTicker).marketTicker ∧
      ((store.applyAll events).bookFor marketTicker).desyncCount =
        (store.bookFor marketTicker).desyncCount + desyncs marketTicker store events := by
  induction events with
  | nil => exact fun h ↦ ⟨h, rfl, rfl⟩
  | cons event events ih =>
    intro store h
    have hstep := store.follows_apply event h
    obtain ⟨hrep, hmarket, hcount⟩ := ih hstep.rep
    refine ⟨hrep, hmarket.trans hstep.marketTicker, ?_⟩
    rw [desyncs, ← Nat.add_assoc, ← hstep.desyncCount]
    exact hcount

/-- **The representation invariant holds of every book**, whatever events the store has seen. -/
theorem book_representation (events : List NormalizedEvent) {marketTicker : String}
    {book : BookState} (h : (applyAll {} events).find marketTicker = some book) :
    book.marketTicker = marketTicker ∧ book.Rep ∧
      book.desyncCount = desyncs marketTicker {} events := by
  have hfresh : (bookFor {} marketTicker).Rep := BookState.rep_fresh marketTicker
  obtain ⟨hrep, hmarket, hcount⟩ := follows_applyAll marketTicker events hfresh
  rw [bookFor, h] at hrep hmarket hcount
  exact ⟨hmarket, hrep, hcount.trans (Nat.zero_add _)⟩

/-- A delta with a negative price is buffered, and the replay trips over it. -/
def failedReplay : List NormalizedEvent :=
  [{ type := .delta, marketTicker := "KXBTC-YES", data := .delta { priceTicks := -1 } },
    { type := .snapshot, marketTicker := "KXBTC-YES", data := .snapshot {} }]

theorem book_representation_failedReplay :
    ∃ book, (applyAll {} failedReplay).find "KXBTC-YES" = some book ∧
      desyncs "KXBTC-YES" {} failedReplay = 1 ∧
      book.marketTicker = "KXBTC-YES" ∧ book.Rep ∧ book.desyncCount = 1 := by
  have hdesyncs : desyncs "KXBTC-YES" {} failedReplay = 1 := by decide
  have hfind : ((applyAll {} failedReplay).find "KXBTC-YES").isSome = true := by decide
  obtain ⟨book, hbook⟩ := Option.isSome_iff_exists.mp hfind
  obtain ⟨hmarket, hrep, hcount⟩ := book_representation failedReplay hbook
  exact ⟨book, hbook, hdesyncs, hmarket, hrep, hcount.trans hdesyncs⟩

end BookStore

end TradingEngine
