import TradingEngine.Parsers.KalshiParser
import TradingEngine.Shards.BookRejects

/-!
# What the parser makes and what the books take

Parser and book both validate an event. They agree on prices and on the sides of deltas, and so the
deltas that a book has buffered are always replayed in full, when they come from the parser. They
disagree on one value: the parser lets a level with the quantity zero through, and the book refuses
a snapshot that has one. `accepts_parsed_iff` says that this is all: an event of the parser is
accepted as it should be, unless it is such a snapshot.
-/

namespace TradingEngine

open OnDemand (Value)

/-- The events that the parser makes out of frames. -/
def FromParser (iterate : String → Option Value) (event : NormalizedEvent) : Prop :=
  ∃ frame, KalshiParser.parse iterate frame = .ok event

namespace BookState

/-! ## Buffered deltas -/

/-- Every delta in the buffer can be applied. -/
def PendingValid (book : BookState) : Prop := ∀ pending ∈ book.pendingDeltas, pending.delta.Valid

theorem PendingValid.of_eq {book book' : BookState} (h : book.PendingValid)
    (heq : book'.pendingDeltas = book.pendingDeltas) : book'.PendingValid := by
  rw [PendingValid, heq]
  exact h

theorem PendingValid.of_nil {book : BookState} (h : book.pendingDeltas = []) :
    book.PendingValid := by
  intro pending hpending
  rw [h] at hpending
  exact absurd hpending List.not_mem_nil

theorem advanceSequenceIfPresent_pendingDeltas (book : BookState) (sequenceId : Option ℕ) :
    (book.advanceSequenceIfPresent sequenceId).2.pendingDeltas = book.pendingDeltas := by
  obtain ⟨_, h⟩ | ⟨_, _, _, h⟩ | ⟨_, _, _, _, _, h⟩ :=
    book.advanceSequenceIfPresent_cases sequenceId <;> rw [h]

theorem applyDeltaData_pendingDeltas (book : BookState) (delta : DeltaData) :
    (book.applyDeltaData delta).2.pendingDeltas = book.pendingDeltas := by
  rw [applyDeltaData]
  split
  · rfl
  · split <;> rfl

theorem applySnapshotData_pendingDeltas (book : BookState) (snapshot : SnapshotData) :
    (book.applySnapshotData snapshot).2.pendingDeltas = book.pendingDeltas := by
  rw [applySnapshotData]
  dsimp only
  split <;> rfl

/-- A replay of valid deltas succeeds. -/
theorem replayFrom_of_valid (pending : List PendingDelta) : ∀ book : BookState,
    (∀ delta ∈ pending, delta.delta.Valid) → (book.replayFrom pending).1 = true := by
  induction pending with
  | nil => intro book _; rfl
  | cons first rest ih =>
    intro book hvalid
    obtain ⟨hfirst, hrest⟩ := List.forall_mem_cons.mp hvalid
    rw [replayFrom]
    dsimp only
    split
    · rw [if_pos (applyDeltaData_of_valid _ hfirst)]
      exact ih _ hrest
    · exact ih _ hrest

theorem pendingValid_applySnapshot {book : BookState} {event : NormalizedEvent}
    (h : book.PendingValid) : (book.applySnapshot event).2.PendingValid := by
  rw [applySnapshot]
  split
  · dsimp only
    split
    · -- a replay leaves nothing in the buffer
      split
      · exact .of_nil (pendingDeltas_replayFrom _ _)
      · exact .of_nil (pendingDeltas_replayFrom _ _)
    · exact h.of_eq (applySnapshotData_pendingDeltas book _)
  · exact h

theorem pendingValid_applyDelta {book : BookState} {event : NormalizedEvent} {delta : DeltaData}
    (hdata : event.data = .delta delta) (hdelta : delta.Valid) (h : book.PendingValid) :
    (book.applyDelta event).2.PendingValid := by
  have hadvanced := advanceSequenceIfPresent_pendingDeltas book event.effectiveSequenceId
  rw [applyDelta, hdata]
  dsimp only
  split
  · exact h
  split
  · have happlied := (applyDeltaData_pendingDeltas
      (book.advanceSequenceIfPresent event.effectiveSequenceId).2 delta).trans hadvanced
    split
    · split
      · exact h.of_eq happlied
      · exact h.of_eq happlied
    · exact h.of_eq hadvanced
  split
  · exact .of_nil rfl
  · intro pending hpending
    rcases List.mem_append.mp hpending with hold | hnew
    · exact h pending hold
    · obtain rfl := List.mem_singleton.mp hnew
      exact hdelta

theorem pendingValid_applyTrade {book : BookState} {event : NormalizedEvent}
    (h : book.PendingValid) : (book.applyTrade event).2.PendingValid := by
  have hadvanced := advanceSequenceIfPresent_pendingDeltas book event.effectiveSequenceId
  rw [applyTrade]
  split
  · dsimp only
    split
    · exact h
    split
    · exact h.of_eq hadvanced
    · exact h.of_eq hadvanced
  · exact h

/-- **Only valid deltas are buffered**, when the parser makes them. -/
theorem pendingValid_applyEvent {frame : RouterFrame} {book : BookState} {event : NormalizedEvent}
    (hparsed : KalshiParser.Parsed frame event) (h : book.PendingValid) :
    (book.applyEvent event).2.PendingValid := by
  rw [applyEvent]
  rcases hparsed with ⟨_, htype, _, _, _⟩ | ⟨delta, htype, hdata, _, hprice, hside⟩ |
    ⟨_, htype, _, _⟩
  · rw [htype]
    exact pendingValid_applySnapshot h
  · rw [htype]
    exact pendingValid_applyDelta hdata ⟨hprice, hside⟩ h
  · rw [htype]
    exact pendingValid_applyTrade h

/-! ## Which events are accepted -/

/-- A snapshot is accepted when its levels are valid, if the buffer is. -/
theorem applySnapshot_iff_valid {book : BookState} {event : NormalizedEvent}
    {snapshot : SnapshotData} (hdata : event.data = .snapshot snapshot) (h : book.PendingValid) :
    (book.applySnapshot event).1 = true ↔ snapshot.Valid := by
  rw [applySnapshot, hdata]
  dsimp only
  by_cases hvalid : snapshot.Valid
  · obtain ⟨hloaded, hpending⟩ := applySnapshotData_of_valid book hvalid
    rw [if_pos hloaded]
    refine iff_of_true ?_ hvalid
    split
    · rfl
    · rename_i hreplayed
      exact absurd (replayFrom_of_valid _ _ (h.of_eq hpending)) hreplayed
  · rw [applySnapshotData_of_not_valid book hvalid]
    exact iff_of_false (by simp [reject]) hvalid

theorem advanceSequenceIfPresent_of_newer {book : BookState} {sequenceId : Option ℕ}
    (h : ∀ next ∈ sequenceId, ∀ last ∈ book.lastSeqId, last < next) :
    (book.advanceSequenceIfPresent sequenceId).1 = true := by
  obtain ⟨_, hadv⟩ | ⟨_, _, _, hadv⟩ | ⟨next, last, hnext, hlast, hle, _⟩ :=
    book.advanceSequenceIfPresent_cases sequenceId
  · rw [hadv]
  · rw [hadv]
  · exact absurd (h next hnext last hlast) (not_lt.mpr hle)

theorem applyDelta_of_newer {book : BookState} {event : NormalizedEvent} {delta : DeltaData}
    (hdata : event.data = .delta delta) (hdelta : delta.Valid) (hsynced : book.desynced = false)
    (hsnapshot : book.hasSnapshot = true)
    (hnewer : ∀ next ∈ event.effectiveSequenceId, ∀ last ∈ book.lastSeqId, last < next) :
    (book.applyDelta event).1 = true := by
  rw [applyDelta, hdata]
  dsimp only
  rw [if_neg (by rw [hsynced]; decide), if_pos hsnapshot,
    if_pos (advanceSequenceIfPresent_of_newer hnewer), if_pos (applyDeltaData_of_valid _ hdelta)]

theorem applyTrade_of_newer {book : BookState} {event : NormalizedEvent} {trade : TradeData}
    (hdata : event.data = .trade trade) (hsynced : book.desynced = false)
    (hnewer : ∀ next ∈ event.effectiveSequenceId, ∀ last ∈ book.lastSeqId, last < next) :
    (book.applyTrade event).1 = true := by
  rw [applyTrade, hdata]
  dsimp only
  rw [if_neg (by rw [hsynced]; decide), if_pos (advanceSequenceIfPresent_of_newer hnewer)]

end BookState

namespace BookStore

/-- What the books owe an event of the parser: a snapshot is accepted, and so is a delta or trade
that is newer than what its synced book has seen. -/
def AcceptsParsed (store : BookStore) (event : NormalizedEvent) : Prop :=
  (event.type = .snapshot → (store.apply event).1 = true) ∧
  (event.type = .delta ∨ event.type = .trade →
    (store.bookFor event.marketTicker).desynced = false →
    (store.bookFor event.marketTicker).hasSnapshot = true →
    (∀ next ∈ event.effectiveSequenceId, ∀ last ∈ (store.bookFor event.marketTicker).lastSeqId,
      last < next) → (store.apply event).1 = true)

/-- No level of the event has the quantity zero. -/
def NoEmptyLevel (event : NormalizedEvent) : Prop :=
  ∀ snapshot, event.data = .snapshot snapshot →
    ∀ level ∈ snapshot.bids ++ snapshot.asks, level.qtyLots ≠ 0

theorem valid_iff_noEmptyLevel {event : NormalizedEvent} {snapshot : SnapshotData}
    (hdata : event.data = .snapshot snapshot)
    (hlevels : ∀ level ∈ snapshot.bids ++ snapshot.asks, 0 ≤ level.priceTicks ∧ 0 ≤ level.qtyLots) :
    snapshot.Valid ↔ NoEmptyLevel event := by
  have hlevel : ∀ level ∈ snapshot.bids ++ snapshot.asks, level.Valid ↔ level.qtyLots ≠ 0 := by
    intro level hmem
    obtain ⟨hprice, hqty⟩ := hlevels level hmem
    rw [Level.Valid]
    omega
  rw [SnapshotData.Valid, ← List.forall_mem_append]
  constructor
  · rintro hvalid snapshot' hdata' level hmem
    obtain rfl : snapshot = snapshot' := EventData.snapshot.inj (hdata.symm.trans hdata')
    exact (hlevel level hmem).mp (hvalid level hmem)
  · intro hnonempty level hmem
    exact (hlevel level hmem).mpr (hnonempty snapshot hdata level hmem)

/-- **Parser and books agree, but for empty levels.** A store that has seen events of the parser
only, of whatever frames, accepts what the parser makes exactly when no level is empty. -/
theorem accepts_parsed_iff (iterate : String → Option Value) (store : BookStore)
    (h : machine.ReachesVia (fun _ event ↦ FromParser iterate event) {} store)
    (frame : RouterFrame) (hticker : frame.marketTicker ≠ "") (event : NormalizedEvent)
    (hparse : KalshiParser.parse iterate frame = .ok event) :
    store.AcceptsParsed event ↔ NoEmptyLevel event := by
  have hparsed := KalshiParser.parsed_of_parse hparse
  have hpending : (store.bookFor event.marketTicker).PendingValid := by
    refine forall_book_of_reachesVia (P := BookState.PendingValid) ?_ ?_ h event.marketTicker
    · intro _ pending hpending
      exact absurd hpending List.not_mem_nil
    · rintro book event ⟨frame, hframe⟩ hbook
      exact BookState.pendingValid_applyEvent (KalshiParser.parsed_of_parse hframe) hbook
  have hticker : event.marketTicker ≠ "" := by rw [hparsed.marketTicker]; exact hticker
  rw [AcceptsParsed]
  rcases hparsed with ⟨snapshot, htype, hdata, _, hlevels⟩ |
    ⟨delta, htype, hdata, _, hprice, hside⟩ | ⟨trade, htype, hdata, _⟩
  · rw [apply_fst store (by simp [hticker, htype]), BookState.applyEvent, htype]
    dsimp only
    rw [BookState.applySnapshot_iff_valid hdata hpending, valid_iff_noEmptyLevel hdata hlevels]
    simp
  · refine iff_of_true ⟨fun hsnapshot ↦ absurd (htype.symm.trans hsnapshot) (by decide), ?_⟩ ?_
    · intro _ hsynced hsnapshot hnewer
      rw [apply_fst store (by simp [hticker, htype]), BookState.applyEvent, htype]
      exact BookState.applyDelta_of_newer hdata ⟨hprice, hside⟩ hsynced hsnapshot hnewer
    · intro snapshot hsnapshot
      exact absurd (hdata.symm.trans hsnapshot) (by simp)
  · refine iff_of_true ⟨fun hsnapshot ↦ absurd (htype.symm.trans hsnapshot) (by decide), ?_⟩ ?_
    · intro _ hsynced hsnapshot hnewer
      rw [apply_fst store (by simp [hticker, htype]), BookState.applyEvent, htype]
      exact BookState.applyTrade_of_newer hdata hsynced hnewer
    · intro snapshot hsnapshot
      exact absurd (hdata.symm.trans hsnapshot) (by simp)

/-! ## Concrete messages -/

open SampleMessages in
/-- A library that reads a snapshot of `qty` lots and a delta. -/
def readsSnapshot (qty : ℕ) : String → Option Value :=
  reads [(snapshotText qty, snapshot qty), (deltaText, delta)]

def frameOf (sequenceId : ℕ) (text : String) : RouterFrame where
  exchange := .kalshi
  marketTicker := "KXBTC-YES"
  sequenceId := some sequenceId
  rawPayloadView := text

def snapshotFrame (qty : ℕ) : RouterFrame := frameOf 7 (SampleMessages.snapshotText qty)

/-- The event that the parser makes of it. -/
def parsedSnapshot (qty : ℕ) : NormalizedEvent where
  type := .snapshot
  eventMeta := { exchange := .kalshi, sequenceId := 7 }
  marketTicker := "KXBTC-YES"
  rawSequenceId := some 7
  data := .snapshot { bids := [⟨40, qty⟩] }

theorem parse_snapshotFrame (qty : ℕ) :
    KalshiParser.parse (readsSnapshot qty) (snapshotFrame qty) = .ok (parsedSnapshot qty) := by
  have hread : readsSnapshot qty (snapshotFrame qty).rawPayloadView =
      some (SampleMessages.snapshot qty) := List.lookup_cons_self
  rw [KalshiParser.parse, hread]
  rfl

/-- A delta has come before the snapshot, and is kept for it. The snapshot with five lots is taken,
and the delta with it. -/
theorem accepts_parsed_iff_five : ∃ store,
    machine.ReachesVia (fun _ event ↦ FromParser (readsSnapshot 5) event) {} store ∧
      (store.bookFor "KXBTC-YES").pendingDeltas.length = 1 ∧
      store.AcceptsParsed (parsedSnapshot 5) ∧ (store.apply (parsedSnapshot 5)).1 = true := by
  obtain ⟨waiting, hparse, hwaits, haccepted⟩ : ∃ waiting,
      KalshiParser.parse (readsSnapshot 5) (frameOf 8 SampleMessages.deltaText) = .ok waiting ∧
        ((apply {} waiting).2.bookFor "KXBTC-YES").pendingDeltas.length = 1 ∧
        ((apply {} waiting).2.apply (parsedSnapshot 5)).1 = true := ⟨_, rfl, rfl, rfl⟩
  have hreaches : machine.ReachesVia (fun _ event ↦ FromParser (readsSnapshot 5) event) {}
      (apply {} waiting).2 := .single waiting ⟨_, hparse⟩ rfl
  refine ⟨_, hreaches, hwaits, (accepts_parsed_iff (readsSnapshot 5) _ hreaches (snapshotFrame 5)
    (by decide) _ (parse_snapshotFrame 5)).mpr ?_, haccepted⟩
  rintro snapshot hdata level hlevel
  obtain rfl := EventData.snapshot.inj hdata
  obtain rfl := List.mem_singleton.mp hlevel
  decide

/-- A snapshot with a level of zero lots is parsed, and then refused. -/
theorem empty_level_refused :
    KalshiParser.parse (readsSnapshot 0) (snapshotFrame 0) = .ok (parsedSnapshot 0) ∧
    (parsedSnapshot 0).type = .snapshot ∧ (apply {} (parsedSnapshot 0)).1 = false ∧
    ¬AcceptsParsed {} (parsedSnapshot 0) := by
  refine ⟨parse_snapshotFrame 0, rfl, rfl, fun haccepts ↦ ?_⟩
  exact absurd (haccepts.1 rfl) (by decide)

end BookStore

end TradingEngine
