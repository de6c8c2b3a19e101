import TradingEngine.Shards.BookRejects

/-!
# The sequence policy of the books

Sequence ids are to be strictly increasing per book, where there are any: an event that is applied
moves the last sequence id of its book up, and an event without a sequence id leaves it alone.
Deltas and trades are compared with the last sequence id of their book before they are applied, and
so are the buffered deltas that a snapshot replays. The snapshot itself is not: its sequence id
takes the place of the old one, whatever that was (`snapshot_lowers_sequence`). `followsPolicy_iff`
says that this is the only way to leave the policy.

An event that is accepted makes several moves of the sequence id when it is a snapshot: its own, and
one for every buffered delta that it replays. All of them are to follow the policy, and so is the
event as a whole.
-/

namespace TradingEngine

/-- A change of the last sequence id of a book, and the sequence id that caused it. -/
structure SequenceMove where
  sequenceId : Option ℕ
  before : Option ℕ
  after : Option ℕ

/-- The move is strictly upwards; without a sequence id it is none. -/
def SequenceMove.Follows (move : SequenceMove) : Prop :=
  match move.sequenceId with
  | some _ => ∃ next, move.after = some next ∧ ∀ last, move.before = some last → last < next
  | none => move.after = move.before

namespace BookState

/-! ## The moves of an event -/

/-- The moves of the replay loop, one for every delta that it applies. -/
def replayMoves (book : BookState) : List PendingDelta → List SequenceMove
  | [] => []
  | pending :: rest =>
    let popped := { book with pendingDeltas := rest }
    let advanced := popped.advanceSequenceIfPresent pending.sequenceId
    if advanced.1 then
      let applied := advanced.2.applyDeltaData pending.delta
      if applied.1 then
        ⟨pending.sequenceId, book.lastSeqId, applied.2.lastSeqId⟩ ::
          replayMoves { applied.2 with
            deltaCount := applied.2.deltaCount + 1
            replayedDeltaCount := applied.2.replayedDeltaCount + 1 } rest
      else []
    else
      replayMoves { advanced.2 with
        droppedPendingDeltaCount := advanced.2.droppedPendingDeltaCount + 1 } rest

/-- The moves of an accepted event: as a whole, and for a snapshot its parts. A delta that is
buffered under its sequence id is not applied yet. -/
def moves (book : BookState) (event : NormalizedEvent) : List SequenceMove :=
  let whole : SequenceMove :=
    ⟨event.effectiveSequenceId, book.lastSeqId, (book.applyEvent event).2.lastSeqId⟩
  match event.type, event.data with
  | .snapshot, .snapshot snapshot =>
    whole :: ⟨event.effectiveSequenceId, book.lastSeqId, event.effectiveSequenceId⟩ ::
      ((book.applySnapshotData snapshot).2.installSnapshot event).replayMoves book.pendingDeltas
  | .delta, _ => if book.hasSnapshot ∨ event.effectiveSequenceId = none then [whole] else []
  | _, _ => [whole]

/-- A snapshot is newer than what the book has seen; without a sequence id, it meets a book that has
seen none, and buffers none. -/
def Advances (book : BookState) (event : NormalizedEvent) : Prop :=
  event.type = .snapshot →
    match event.effectiveSequenceId with
    | some next => ∀ last, book.lastSeqId = some last → last < next
    | none => book.lastSeqId = none ∧ ∀ pending ∈ book.pendingDeltas, pending.sequenceId = none

/-! ## Replaying -/

theorem applyDeltaData_lastSeqId (book : BookState) (delta : DeltaData) :
    (book.applyDeltaData delta).2.lastSeqId = book.lastSeqId := by
  rw [applyDeltaData]
  split
  · rfl
  · split <;> rfl

/-- The move of a sequence id that is let through. -/
theorem follows_of_advance {book : BookState} {sequenceId : Option ℕ}
    (h : (book.advanceSequenceIfPresent sequenceId).1 = true) :
    SequenceMove.Follows ⟨sequenceId, book.lastSeqId,
      (book.advanceSequenceIfPresent sequenceId).2.lastSeqId⟩ := by
  obtain ⟨rfl, hadv⟩ | ⟨next, rfl, hfresh, hadv⟩ | ⟨next, last, rfl, _, _, hadv⟩ :=
    book.advanceSequenceIfPresent_cases sequenceId
  · rw [hadv]
    rfl
  · rw [hadv]
    exact ⟨next, rfl, hfresh⟩
  · rw [hadv] at h
    exact absurd h (by simp)

theorem replayMoves_follow (pending : List PendingDelta) : ∀ book : BookState,
    ∀ move ∈ book.replayMoves pending, move.Follows := by
  induction pending with
  | nil =>
    intro book move hmove
    exact absurd hmove List.not_mem_nil
  | cons first rest ih =>
    intro book move hmove
    rw [replayMoves] at hmove
    dsimp only at hmove
    split at hmove
    · rename_i hadvanced
      split at hmove
      · rcases List.mem_cons.mp hmove with rfl | hmove
        · rw [applyDeltaData_lastSeqId]
          exact follows_of_advance hadvanced
        · exact ih _ move hmove
      · exact absurd hmove List.not_mem_nil
    · exact ih _ move hmove

/-- **One round of a replay that succeeds.** The delta is stale and leaves the last sequence id
where it is, or it is applied. -/
theorem replayFrom_cons {book : BookState} {first : PendingDelta} {rest : List PendingDelta}
    (h : (book.replayFrom (first :: rest)).1 = true) :
    ∃ book' : BookState, book.replayFrom (first :: rest) = book'.replayFrom rest ∧
      ((∃ next, first.sequenceId = some next) ∧ (∃ last, book.lastSeqId = some last) ∧
          book'.lastSeqId = book.lastSeqId ∨
        SequenceMove.Follows ⟨first.sequenceId, book.lastSeqId, book'.lastSeqId⟩) := by
  rw [replayFrom] at h ⊢
  dsimp only at h ⊢
  split at h
  · rename_i hadvanced
    rw [if_pos hadvanced]
    split at h
    · rename_i hvalid
      rw [if_pos hvalid]
      refine ⟨_, rfl, .inr ?_⟩
      dsimp only
      rw [applyDeltaData_lastSeqId]
      exact follows_of_advance hadvanced
    · exact absurd h (by simp)
  · rename_i hstale
    rw [if_neg hstale]
    refine ⟨_, rfl, .inl ?_⟩
    obtain ⟨_, hadv⟩ | ⟨_, _, _, hadv⟩ | ⟨next, last, hnext, hlast, _, hadv⟩ :=
      { book with pendingDeltas := rest }.advanceSequenceIfPresent_cases first.sequenceId
    · exact absurd (congrArg Prod.fst hadv) hstale
    · exact absurd (congrArg Prod.fst hadv) hstale
    · rw [hadv]
      exact ⟨⟨next, hnext⟩, ⟨last, hlast⟩, rfl⟩

/-- A replay does not move the last sequence id down. -/
theorem le_lastSeqId_replayFrom (pending : List PendingDelta) : ∀ book : BookState,
    (book.replayFrom pending).1 = true → ∀ last, book.lastSeqId = some last →
      ∃ next, (book.replayFrom pending).2.lastSeqId = some next ∧ last ≤ next := by
  induction pending with
  | nil => intro book _ last hlast; exact ⟨last, hlast, le_rfl⟩
  | cons first rest ih =>
    intro book h last hlast
    obtain ⟨book', heq, hmove⟩ := replayFrom_cons h
    rw [heq] at h ⊢
    rcases hmove with ⟨_, _, hsame⟩ | hfollows
    · exact ih book' h last (hsame.trans hlast)
    · cases hid : first.sequenceId with
      | none =>
        rw [hid] at hfollows
        exact ih book' h last (Eq.trans hfollows hlast)
      | some id =>
        rw [hid] at hfollows
        obtain ⟨next, hnext, hlt⟩ := hfollows
        obtain ⟨final, hfinal, hle⟩ := ih book' h next hnext
        exact ⟨final, hfinal, (hlt last hlast).le.trans hle⟩

/-- It leaves a book without one only if no delta brings one. -/
theorem lastSeqId_replayFrom_eq_none (pending : List PendingDelta) : ∀ book : BookState,
    (book.replayFrom pending).1 = true → ((book.replayFrom pending).2.lastSeqId = none ↔
      book.lastSeqId = none ∧ ∀ delta ∈ pending, delta.sequenceId = none) := by
  induction pending with
  | nil => intro book _; simp [replayFrom]
  | cons first rest ih =>
    intro book h
    obtain ⟨book', heq, hmove⟩ := replayFrom_cons h
    rw [heq] at h ⊢
    rw [ih book' h, List.forall_mem_cons]
    rcases hmove with ⟨⟨next, hnext⟩, ⟨last, hlast⟩, hsame⟩ | hfollows
    · rw [hsame, hlast]
      exact iff_of_false (by simp) (by simp)
    · cases hid : first.sequenceId with
      | none =>
        rw [hid] at hfollows
        have hsame : book'.lastSeqId = book.lastSeqId := hfollows
        rw [hsame, and_iff_right rfl]
      | some id =>
        rw [hid] at hfollows
        obtain ⟨next, hnext, _⟩ := hfollows
        rw [show book'.lastSeqId = some next from hnext]
        exact iff_of_false (by simp) (by simp)

/-! ## One event -/

/-- A snapshot that is accepted was loaded in full, and its replay succeeded. -/
theorem applySnapshot_accepted {book : BookState} {event : NormalizedEvent}
    {snapshot : SnapshotData} (hdata : event.data = .snapshot snapshot)
    (h : (book.applySnapshot event).1 = true) :
    (((book.applySnapshotData snapshot).2.installSnapshot event).replayFrom
        book.pendingDeltas).1 = true ∧
    (book.applySnapshot event).2 =
      (((book.applySnapshotData snapshot).2.installSnapshot event).replayFrom
        book.pendingDeltas).2 := by
  have hpending : ((book.applySnapshotData snapshot).2.installSnapshot event).pendingDeltas =
      book.pendingDeltas := by
    rw [installSnapshot]
    dsimp only [applySnapshotData]
    split <;> rfl
  have heq := applySnapshot_of_data hdata
    (Prod.mk.eta (p := book.applySnapshotData snapshot)).symm
  rw [replayPendingDeltas, hpending] at heq
  rw [heq] at h ⊢
  split at h
  · split at h
    · rename_i hloaded hreplayed
      rw [if_pos hloaded, if_pos hreplayed]
      exact ⟨hreplayed, rfl⟩
    · exact absurd h (by simp [reject])
  · exact absurd h (by simp [reject])

theorem follows_applyDelta {book : BookState} {event : NormalizedEvent}
    (hmove : book.hasSnapshot = true ∨ event.effectiveSequenceId = none)
    (h : (book.applyDelta event).1 = true) :
    SequenceMove.Follows ⟨event.effectiveSequenceId, book.lastSeqId,
      (book.applyDelta event).2.lastSeqId⟩ := by
  rw [applyDelta] at h ⊢
  split
  · rename_i delta hdata
    rw [hdata] at h
    dsimp only at h ⊢
    split at h
    · exact absurd h (by simp [reject])
    rename_i hsynced
    rw [if_neg hsynced]
    split at h
    · rename_i hsnapshot
      rw [if_pos hsnapshot]
      split at h
      · rename_i hadvanced
        rw [if_pos hadvanced]
        split at h
        · rename_i hvalid
          rw [if_pos hvalid]
          dsimp only
          rw [applyDeltaData_lastSeqId]
          exact follows_of_advance hadvanced
        · exact absurd h (by simp [reject])
      · exact absurd h (by simp [reject])
    · -- a delta without a sequence id is buffered
      rename_i hbuffered
      rw [if_neg hbuffered, hmove.resolve_left hbuffered]
      split at h
      · exact absurd h (by simp [reject])
      · rename_i hroom
        rw [if_neg hroom]
        rfl
  · rename_i hdata
    split at h
    · rename_i delta hdelta
      exact absurd hdelta (hdata delta)
    · exact absurd h (by simp [reject])

theorem follows_applyTrade {book : BookState} {event : NormalizedEvent}
    (h : (book.applyTrade event).1 = true) :
    SequenceMove.Follows ⟨event.effectiveSequenceId, book.lastSeqId,
      (book.applyTrade event).2.lastSeqId⟩ := by
  rw [applyTrade] at h ⊢
  split
  · rename_i trade hdata
    rw [hdata] at h
    dsimp only at h ⊢
    split at h
    · exact absurd h (by simp [reject])
    rename_i hsynced
    rw [if_neg hsynced]
    split at h
    · rename_i hadvanced
      rw [if_pos hadvanced]
      exact follows_of_advance hadvanced
    · exact absurd h (by simp [reject])
  · rename_i hdata
    split at h
    · rename_i trade htrade
      exact absurd htrade (hdata trade)
    · exact absurd h (by simp [reject])

theorem snapshot_follows_iff {book : BookState} {event : NormalizedEvent}
    {snapshot : SnapshotData} (htype : event.type = .snapshot)
    (hdata : event.data = .snapshot snapshot) (h : (book.applySnapshot event).1 = true) :
    (SequenceMove.Follows ⟨event.effectiveSequenceId, book.lastSeqId,
        (book.applySnapshot event).2.lastSeqId⟩ ∧
      SequenceMove.Follows ⟨event.effectiveSequenceId, book.lastSeqId,
        event.effectiveSequenceId⟩) ↔ book.Advances event := by
  obtain ⟨hreplayed, hbook⟩ := applySnapshot_accepted hdata h
  rw [hbook, Advances]
  have hnone := lastSeqId_replayFrom_eq_none book.pendingDeltas _ hreplayed
  have hmono := le_lastSeqId_replayFrom book.pendingDeltas _ hreplayed
  have hinstalled : ((book.applySnapshotData snapshot).2.installSnapshot event).lastSeqId =
      event.effectiveSequenceId := rfl
  rw [hinstalled] at hnone hmono
  cases hid : event.effectiveSequenceId with
  | some next =>
    constructor
    · rintro ⟨_, own, hown, hlt⟩ _
      obtain rfl := Option.some.inj hown
      exact hlt
    · intro hadvances
      obtain ⟨final, hfinal, hle⟩ := hmono next hid
      refine ⟨⟨final, hfinal, fun last hlast ↦ ?_⟩, next, rfl, hadvances htype⟩
      exact (hadvances htype last hlast).trans_le hle
  | none =>
    rw [hid, and_iff_right rfl] at hnone
    constructor
    · rintro ⟨hwhole, hown⟩ _
      have hbefore : book.lastSeqId = none := Eq.symm hown
      exact ⟨hbefore, hnone.mp (Eq.trans hwhole hbefore)⟩
    · intro hadvances
      obtain ⟨hbefore, hbuffered⟩ := hadvances htype
      refine ⟨?_, Eq.symm hbefore⟩
      exact (hnone.mpr hbuffered).trans hbefore.symm

/-- **An accepted event follows the policy** unless it is a snapshot that goes back. -/
theorem moves_follow_iff {book : BookState} {event : NormalizedEvent}
    (h : (book.applyEvent event).1 = true) :
    (∀ move ∈ book.moves event, move.Follows) ↔ book.Advances event := by
  rw [moves]
  cases htype : event.type with
  | snapshot =>
    rw [applyEvent, htype] at h ⊢
    dsimp only at h ⊢
    cases hdata : event.data with
    | snapshot snapshot =>
      dsimp only
      rw [List.forall_mem_cons, List.forall_mem_cons, ← and_assoc, and_iff_left]
      · exact snapshot_follows_iff htype hdata h
      · exact replayMoves_follow book.pendingDeltas _
    | monostate =>
      rw [applySnapshot, hdata] at h
      exact absurd h (by simp [reject])
    | delta _ =>
      rw [applySnapshot, hdata] at h
      exact absurd h (by simp [reject])
    | trade _ =>
      rw [applySnapshot, hdata] at h
      exact absurd h (by simp [reject])
  | delta =>
    refine iff_of_true ?_ fun hsnapshot ↦ absurd (htype.symm.trans hsnapshot) (by decide)
    rw [applyEvent, htype] at h ⊢
    dsimp only at h ⊢
    split
    · rename_i hmove
      exact List.forall_mem_singleton.mpr (follows_applyDelta hmove h)
    · exact fun move hmove ↦ absurd hmove List.not_mem_nil
  | trade =>
    refine iff_of_true ?_ fun hsnapshot ↦ absurd (htype.symm.trans hsnapshot) (by decide)
    rw [applyEvent, htype] at h ⊢
    exact List.forall_mem_singleton.mpr (follows_applyTrade h)
  | unknown => rw [applyEvent, htype] at h; exact absurd h (by simp [reject])
  | heartbeat => rw [applyEvent, htype] at h; exact absurd h (by simp [reject])
  | status => rw [applyEvent, htype] at h; exact absurd h (by simp [reject])

end BookState

/-! ## Runs -/

namespace BookStore

/-- Every accepted event of a run makes moves that follow the policy, on the book it is applied
to. -/
def FollowsPolicy (store : BookStore) : List NormalizedEvent → Prop
  | [] => True
  | event :: events =>
    ((store.apply event).1 = true →
      ∀ move ∈ (store.bookFor event.marketTicker).moves event, move.Follows) ∧
    FollowsPolicy (store.apply event).2 events

/-- No accepted snapshot of a run takes its book back. -/
def SnapshotsAdvance (store : BookStore) : List NormalizedEvent → Prop
  | [] => True
  | event :: events =>
    ((store.apply event).1 = true → (store.bookFor event.marketTicker).Advances event) ∧
    SnapshotsAdvance (store.apply event).2 events

theorem applyEvent_of_apply {store : BookStore} {event : NormalizedEvent}
    (h : (store.apply event).1 = true) :
    ((store.bookFor event.marketTicker).applyEvent event).1 = true := by
  by_cases hguard : event.marketTicker = "" ∨ event.type = .unknown
  · rw [apply, if_pos hguard] at h
    exact absurd h (by simp)
  · rw [← apply_fst store hguard]
    exact h

theorem followsPolicy_iff_of_store (events : List NormalizedEvent) : ∀ store : BookStore,
    store.FollowsPolicy events ↔ store.SnapshotsAdvance events := by
  induction events with
  | nil => intro store; exact Iff.rfl
  | cons event events ih =>
    intro store
    rw [FollowsPolicy, SnapshotsAdvance, ih]
    refine and_congr_left fun _ ↦ ?_
    exact imp_congr_right fun h ↦ BookState.moves_follow_iff (applyEvent_of_apply h)

/-- **The sequence policy.** A run follows it exactly when no accepted snapshot takes its book
back. -/
theorem followsPolicy_iff (events : List NormalizedEvent) :
    FollowsPolicy {} events ↔ SnapshotsAdvance {} events :=
  followsPolicy_iff_of_store events {}

open SampleEvents in
/-- A snapshot with sequence id 3 is accepted by a book that was at 5, and the book is at 3
afterwards. -/
theorem snapshot_lowers_sequence :
    (seededStore.apply (snapshot 3 [⟨100, 2⟩])).1 = true ∧
    (seededStore.bookFor "KXBTC-YES").desynced = false ∧
    (seededStore.bookFor "KXBTC-YES").lastSeqId = some 5 ∧
    ((seededStore.apply (snapshot 3 [⟨100, 2⟩])).2.bookFor "KXBTC-YES").lastSeqId = some 3 ∧
    ¬FollowsPolicy {} [snapshot 5 [⟨100, 2⟩], snapshot 3 [⟨100, 2⟩]] := by
  refine ⟨rfl, rfl, rfl, rfl, ?_⟩
  rw [followsPolicy_iff_of_store]
  rintro ⟨_, hback, _⟩
  exact absurd (hback rfl rfl 5 rfl) (by decide)

end BookStore

end TradingEngine
