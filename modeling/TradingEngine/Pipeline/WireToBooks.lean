import TradingEngine.Lib.Thinned
import TradingEngine.Pipeline.LivePipeline

/-!
# From the wire to the books

A message is accepted by the sink, offered to the router, accepted by a shard queue and consumed by
the shard of its market. At each of these points messages may be lost or may still be waiting, and
at none of them are they reordered, changed or mixed up. So the book of a market is what a single
store makes of some of the messages that were pushed, in the order in which they were
(`wire_to_books`), whatever the interleaving of the threads and whatever the capacities.

The invariant keeps the losses as well, which is what the accounts of the pipeline rest on.
-/

namespace TradingEngine

/-! ## The invariant -/

/-- Whether a call that has returned, but has not been counted yet, was a success. -/
def RouteCall.successes : RouteCall → ℕ
  | .returned true => 1
  | _ => 0

def RouteCall.drops : RouteCall → ℕ
  | .returned false => 1
  | _ => 0

namespace LivePipeline

/-- The decoder can make nothing of this frame. -/
def Undecodable (config : LivePipelineParts) (frame : RawFrame) : Bool :=
  (config.route frame).isNone

/-- Frames lost between the router and the queues: undecodable ones, and those that found their
queue full. -/
def lostFrames (config : LivePipelineParts) (s : LivePipeline) (frames : List RawFrame) : ℕ :=
  s.sharded.droppedCount + frames.countP (Undecodable config)

structure Inv (config : LivePipelineParts) (s : LivePipeline) : Prop where
  ingest : ∃ items, s.ingest.Inv config.framePoolCapacity items
  sharded : ∃ items, s.sharded.Inv config.toShardedPipelineConfig items
  blank : s.ingest.IsBlank
  blankOffered : ∀ frame ∈ s.offered, frame.IsBlank
  /-- Every message pushed is accepted or dropped, but for the one in hand. -/
  pushed : ∃ done, Thinned done s.ingest.accepted s.ingest.droppedCount ∧
    (s.ingest.producer = .idle ∧ s.pushed = done ∨
      ∃ message, s.ingest.producer.Carries message ∧ s.pushed = done ++ [message])
  /-- The router is called with every payload routed, but for the one it is about to be called
  with. -/
  offered : s.ingest.consumer.IsRouting ∧ s.route = .entering ∧
        (∃ payload, s.ingest.routed = s.offered.map RawFrame.payload ++ [payload]) ∨
      ¬(s.ingest.consumer.IsRouting ∧ s.route = .entering) ∧
        s.ingest.routed = s.offered.map RawFrame.payload
  /-- Every frame offered is accepted or lost, but for the one in hand. -/
  inside : ∃ done, Thinned done s.sharded.accepted (s.lostFrames config done) ∧
    (s.route ≠ .dispatching ∧ s.sharded.router = .idle ∧ s.offered = done ∨
      ∃ frame, s.route = .dispatching ∧ s.sharded.router ≠ .idle ∧
        s.sharded.router.Carries frame ∧ Undecodable config frame = false ∧
        s.offered = done ++ [frame])
  decodable : ∀ frame ∈ s.sharded.accepted, Undecodable config frame = false
  outside : s.route ≠ .entering → s.ingest.consumer.IsRouting
  pumped : s.ingest.popped = s.before.ingestFramesPumped + s.ingest.total.popped
  successes : s.sharded.accepted.length =
    s.before.routeSuccess + s.ingest.total.routeSuccess + s.route.successes
  drops : s.offered.length = s.before.routeSuccess + s.ingest.total.routeSuccess +
    s.route.successes + s.before.routeDrop + s.ingest.total.routeDrop +
    s.route.drops + if s.route = .dispatching then 1 else 0

variable {config : LivePipelineParts} {s s' : LivePipeline}

theorem inv_create (hcapacity : config.framePoolCapacity < 2 ^ 32) :
    (create config).Inv config where
  ingest := ⟨[], LiveIngest.inv_create _ hcapacity⟩
  sharded := ⟨_, ShardedPipeline.inv_create⟩
  blank _ := ⟨rfl, rfl⟩
  blankOffered _ hframe := absurd hframe List.not_mem_nil
  pushed := ⟨[], .nil, .inl ⟨rfl, rfl⟩⟩
  offered := .inr ⟨fun h ↦ h.1, rfl⟩
  inside := ⟨[], .nil, .inl ⟨nofun, rfl, rfl⟩⟩
  decodable _ hframe := absurd hframe List.not_mem_nil
  outside h := absurd rfl h
  pumped := rfl
  successes := rfl
  drops := rfl

theorem Inv.sound (h : s.Inv config) : s.ingest.Sound config.framePoolCapacity := by
  obtain ⟨items, hinv⟩ := h.ingest
  exact hinv.sound

/-! ## Steps of the feed -/

theorem Inv.pushMessage {message : String} {ingest : LiveIngest} (h : s.Inv config)
    (hstep : s.ingest.step config.source (.pushMessage message) = some ingest) :
    { s with ingest := ingest, pushed := s.pushed ++ [message] }.Inv config := by
  obtain ⟨items, hingest⟩ := h.ingest
  have hinv := hingest.step hstep
  rw [LiveIngest.step] at hstep
  split at hstep
  · rename_i hidle
    obtain rfl := Option.some.inj hstep
    obtain ⟨done, hthin, ⟨-, hpushed⟩ | ⟨message', hcarries, -⟩⟩ := h.pushed
    · exact { h with ingest := hinv, pushed := ⟨done, hthin, .inr ⟨message, rfl, by rw [hpushed]⟩⟩ }
    · rw [hidle] at hcarries
      exact hcarries.elim
  · exact absurd hstep (by simp)

theorem Inv.producer {now : ℤ} {ingest : LiveIngest} (h : s.Inv config)
    (hstep : s.ingest.step config.source (.producer now) = some ingest) :
    { s with ingest := ingest }.Inv config := by
  obtain ⟨items, hingest⟩ := h.ingest
  have hinv := hingest.step hstep
  obtain ⟨done, hthin, ⟨hidle, -⟩ | ⟨message, hcarries, hpushed⟩⟩ := h.pushed
  · rw [LiveIngest.step, LiveIngest.pushMessageStep, hidle] at hstep
    exact absurd hstep (by simp)
  · obtain ⟨pool, queue, producer, droppedCount, accepted, rfl, hblank, heffect⟩ :=
      LiveIngest.pushMessageStep_cases hcarries hstep
    refine { h with ingest := hinv, blank := hblank h.blank, pushed := ?_ }
    rcases heffect with ⟨-, hcarries', rfl, rfl⟩ | ⟨rfl, rfl, rfl⟩ | ⟨rfl, rfl, rfl⟩
    · exact ⟨done, hthin, .inr ⟨message, hcarries', hpushed⟩⟩
    · exact ⟨_, hthin.lose message, .inl ⟨rfl, hpushed⟩⟩
    · exact ⟨_, hthin.keep message, .inl ⟨rfl, hpushed⟩⟩

/-! ## Steps of the pump -/

theorem Inv.pumpIngest {maxFrames : ℕ} {ingest : LiveIngest} (h : s.Inv config)
    (hstep : s.ingest.step config.source (.pumpIngest maxFrames) = some ingest) :
    { s with ingest := ingest }.Inv config := by
  obtain ⟨items, hingest⟩ := h.ingest
  have hinv := hingest.step hstep
  have hpumped := h.pumped
  have hsuccesses := h.successes
  have hdrops := h.drops
  rw [LiveIngest.step] at hstep
  split at hstep
  · rename_i hidle
    have houtside : s.route = .entering := by
      by_contra hroute
      have hrouting := h.outside hroute
      rw [hidle] at hrouting
      exact hrouting
    have hoffered : s.ingest.routed = s.offered.map RawFrame.payload := by
      rcases h.offered with ⟨hrouting, -, -⟩ | ⟨-, hoffered⟩
      · rw [hidle] at hrouting
        exact hrouting.elim
      · exact hoffered
    split at hstep
    · obtain rfl := Option.some.inj hstep
      exact h
    · obtain rfl := Option.some.inj hstep
      rw [LiveIngest.total, hidle] at hpumped hsuccesses hdrops
      exact { h with
        ingest := hinv
        offered := .inr ⟨fun hrouting ↦ hrouting.1, hoffered⟩
        outside := fun hroute ↦ absurd houtside hroute
        pumped := hpumped
        successes := hsuccesses
        drops := hdrops }
  · exact absurd hstep (by simp)

/-- The pump goes on outside the router. -/
theorem Inv.pumpOutside {ingest : LiveIngest} (h : s.Inv config)
    (houtside : ¬s.ingest.consumer.IsRouting)
    (hstep : s.ingest.pumpIngestStep false = some ingest) :
    { s with ingest := ingest }.Inv config := by
  obtain ⟨items, hingest⟩ := h.ingest
  have hinv := hingest.pumpIngestStep hstep
  have hroute : s.route = .entering := by
    by_contra hroute
    exact houtside (h.outside hroute)
  have hoffered : s.ingest.routed = s.offered.map RawFrame.payload := by
    rcases h.offered with ⟨hrouting, -, -⟩ | ⟨-, hoffered⟩
    · exact absurd hrouting houtside
    · exact hoffered
  obtain ⟨⟨hproducer, haccepted, hdropped, hslots⟩, heffect⟩ :=
    LiveIngest.pumpIngestStep_cases h.sound hstep
  have hblank : ingest.IsBlank := fun slot ↦ by
    rw [hslots]
    exact h.blank slot
  have hpushed := h.pushed
  rw [← hproducer, ← haccepted, ← hdropped] at hpushed
  have hpumped := h.pumped
  have hsuccesses := h.successes
  have hdrops := h.drops
  rcases heffect with ⟨-, hafter, hrouted, hpopped, htotal⟩ |
    ⟨-, hafter, hrouted, hpopped, htotal⟩ |
    ⟨-, hafter, hpopped, htotal, payload, hrouted⟩ | ⟨hrouting, -⟩
  · rw [← htotal, ← hpopped] at hpumped
    rw [← htotal] at hsuccesses hdrops
    exact ⟨hinv, h.sharded, hblank, h.blankOffered, hpushed,
      .inr ⟨fun hrouting ↦ hafter hrouting.1, hrouted.trans hoffered⟩, h.inside,
      h.decodable, fun hroute' ↦ absurd hroute hroute', hpumped, hsuccesses, hdrops⟩
  · refine ⟨hinv, h.sharded, hblank, h.blankOffered, hpushed,
      .inr ⟨fun hrouting ↦ hafter hrouting.1, hrouted.trans hoffered⟩, h.inside,
      h.decodable, fun hroute' ↦ absurd hroute hroute', ?_, ?_, ?_⟩
    · rw [hpopped, htotal, hpumped]
      rfl
    · rw [htotal]
      exact hsuccesses
    · rw [htotal]
      exact hdrops
  · rw [← htotal, ← hpopped] at hpumped
    rw [← htotal] at hsuccesses hdrops
    exact ⟨hinv, h.sharded, hblank, h.blankOffered, hpushed,
      .inl ⟨hafter, hroute, payload, by rw [hrouted, hoffered]⟩, h.inside,
      h.decodable, fun hroute' ↦ absurd hroute hroute', hpumped, hsuccesses, hdrops⟩
  · exact absurd hrouting houtside

/-- The frame that is routed carries the payload that the pump says it does. -/
theorem payload_of_entering {maxFrames slot : ℕ} {counts : PumpCounts} {ref : FrameRef}
    {payloads : List String} {payload : String} (h : s.Inv config)
    (hat : s.ingest.consumer = .routing maxFrames counts ref slot)
    (hrouted : s.ingest.routed = payloads ++ [payload]) :
    (s.ingest.pool.slots slot).payload = payload := by
  have hlast := h.sound.routing hat
  rw [hrouted, List.getLast?_concat] at hlast
  exact (Option.some.inj hlast).symm

/-- The router goes on while the pump waits for it. -/
theorem Inv.withRouter {sharded : ShardedPipeline} {offered : List RawFrame} {route : RouteCall}
    (h : s.Inv config) (hrouting : s.ingest.consumer.IsRouting) (hroute : route ≠ .entering)
    (hsharded : ∃ items, sharded.Inv config.toShardedPipelineConfig items)
    (hblank : ∀ frame ∈ offered, frame.IsBlank)
    (hoffered : s.ingest.routed = offered.map RawFrame.payload)
    (hinside : ∃ done, Thinned done sharded.accepted
        (sharded.droppedCount + done.countP (Undecodable config)) ∧
      (route ≠ .dispatching ∧ sharded.router = .idle ∧ offered = done ∨
        ∃ frame, route = .dispatching ∧ sharded.router ≠ .idle ∧ sharded.router.Carries frame ∧
          Undecodable config frame = false ∧ offered = done ++ [frame]))
    (hdecodable : ∀ frame ∈ sharded.accepted, Undecodable config frame = false)
    (hsuccesses : sharded.accepted.length =
      s.before.routeSuccess + s.ingest.total.routeSuccess + route.successes)
    (hdrops : offered.length = s.before.routeSuccess + s.ingest.total.routeSuccess +
      route.successes + s.before.routeDrop + s.ingest.total.routeDrop + route.drops +
      if route = .dispatching then 1 else 0) :
    { s with sharded := sharded, offered := offered, route := route }.Inv config :=
  { h with
    sharded := hsharded
    blankOffered := hblank
    offered := .inr ⟨fun hentering ↦ hroute hentering.2, hoffered⟩
    inside := hinside
    decodable := hdecodable
    outside := fun _ ↦ hrouting
    successes := hsuccesses
    drops := hdrops }

/-- Between its first step and its last the router has been called with every payload routed. -/
theorem Inv.offered_of_ne_entering (h : s.Inv config) (hroute : s.route ≠ .entering) :
    s.ingest.routed = s.offered.map RawFrame.payload := by
  rcases h.offered with ⟨-, hentering, -⟩ | ⟨-, hoffered⟩
  · exact absurd hentering hroute
  · exact hoffered

/-- The router is called with the frame in the slot. -/
theorem Inv.enterRouter {maxFrames slot : ℕ} {counts : PumpCounts} {ref : FrameRef}
    {sharded : ShardedPipeline} (h : s.Inv config)
    (hat : s.ingest.consumer = .routing maxFrames counts ref slot) (hroute : s.route = .entering)
    (hstep : s.sharded.step config.toShardedPipelineConfig
      (.route (s.ingest.pool.slots slot)) = some sharded) :
    { s with
      sharded := sharded
      offered := s.offered ++ [s.ingest.pool.slots slot]
      route := .after sharded.router false }.Inv config := by
  have hrouting : s.ingest.consumer.IsRouting := by
    rw [hat]
    trivial
  obtain ⟨items, hsharded⟩ := h.sharded
  obtain ⟨haccepted, hdropped, -, hrouter⟩ := ShardedPipeline.step_route hstep
  obtain ⟨payload, hrouted⟩ : ∃ payload,
      s.ingest.routed = s.offered.map RawFrame.payload ++ [payload] := by
    rcases h.offered with ⟨-, -, hrouted⟩ | ⟨hnot, -⟩
    · exact hrouted
    · exact absurd ⟨hrouting, hroute⟩ hnot
  have hoffered : s.ingest.routed =
      (s.offered ++ [s.ingest.pool.slots slot]).map RawFrame.payload := by
    rw [List.map_append, List.map_singleton, payload_of_entering h hat hrouted, hrouted]
  have hblank : ∀ frame ∈ s.offered ++ [s.ingest.pool.slots slot], frame.IsBlank := by
    intro frame hframe
    rcases List.mem_append.mp hframe with hold | hnew
    · exact h.blankOffered frame hold
    · rw [List.mem_singleton.mp hnew]
      exact h.blank slot
  have hsuccesses := h.successes
  have hdrops := h.drops
  rw [hroute] at hsuccesses hdrops
  obtain ⟨done, hthin, ⟨-, -, hdone⟩ | ⟨frame, hdispatching, -⟩⟩ := h.inside
  · rcases hrouter with ⟨hnone, hidle⟩ | ⟨hsome, hbusy, hcarries⟩
    · have hlost : Undecodable config (s.ingest.pool.slots slot) = true := by
        rw [Undecodable, hnone]
        rfl
      have hlose := hthin.lose (s.ingest.pool.slots slot)
      rw [lostFrames, Nat.add_assoc] at hlose
      rw [RouteCall.after_idle hidle]
      refine h.withRouter hrouting nofun (hsharded.step hstep) hblank hoffered
        ⟨_, ?_, .inl ⟨nofun, hidle, congrArg (· ++ [_]) hdone⟩⟩ (haccepted ▸ h.decodable) ?_ ?_
      · rw [haccepted, hdropped, List.countP_append, List.countP_singleton, hlost]
        exact hlose
      · rw [haccepted]
        exact hsuccesses
      · rw [List.length_append, hdrops]
        rfl
    · have hdecodable : Undecodable config (s.ingest.pool.slots slot) = false :=
        Option.isNone_eq_false_iff.mpr (Option.isSome_iff_ne_none.mpr hsome)
      rw [RouteCall.after_busy hbusy]
      refine h.withRouter hrouting nofun (hsharded.step hstep) hblank hoffered
        ⟨done, ?_, .inr ⟨_, rfl, hbusy, hcarries, hdecodable, congrArg (· ++ [_]) hdone⟩⟩
        (haccepted ▸ h.decodable) ?_ ?_
      · rw [haccepted, hdropped]
        exact hthin
      · rw [haccepted]
        exact hsuccesses
      · rw [List.length_append, hdrops]
        rfl
  · rw [hroute] at hdispatching
    exact absurd hdispatching (by simp)

/-- The router goes on with the frame in hand. -/
theorem Inv.dispatch {sharded : ShardedPipeline} (h : s.Inv config)
    (hroute : s.route = .dispatching)
    (hstep : s.sharded.step config.toShardedPipelineConfig .router = some sharded) :
    { s with
      sharded := sharded
      route := .after sharded.router (routeResult s.sharded.router) }.Inv config := by
  have hentered : s.route ≠ .entering := by
    rw [hroute]
    nofun
  have hrouting := h.outside hentered
  have hoffered := h.offered_of_ne_entering hentered
  obtain ⟨items, hsharded⟩ := h.sharded
  have hsuccesses := h.successes
  have hdrops := h.drops
  rw [hroute] at hsuccesses hdrops
  obtain ⟨done, hthin, ⟨hnot, -⟩ | ⟨frame, -, -, hcarries, hdecodable, hdone⟩⟩ := h.inside
  · exact absurd hroute hnot
  obtain ⟨-, ⟨haccepted, hdropped, hbusy, hcarries'⟩ | ⟨hdrop, haccepted, hdropped, hidle⟩ |
    ⟨hkept, haccepted, hdropped, hidle⟩⟩ := ShardedPipeline.step_router hcarries hstep
  · rw [RouteCall.after_busy hbusy]
    refine h.withRouter hrouting nofun (hsharded.step hstep) h.blankOffered hoffered
      ⟨done, ?_, .inr ⟨frame, rfl, hbusy, hcarries', hdecodable, hdone⟩⟩
      (haccepted ▸ h.decodable) ?_ hdrops
    · rw [haccepted, hdropped]
      exact hthin
    · rw [haccepted]
      exact hsuccesses
  · -- the frame is dropped
    have hlose := hthin.lose frame
    rw [lostFrames, Nat.add_right_comm] at hlose
    rw [RouteCall.after_idle hidle, hdrop]
    refine h.withRouter hrouting nofun (hsharded.step hstep) h.blankOffered hoffered
      ⟨_, ?_, .inl ⟨nofun, hidle, hdone⟩⟩ (haccepted ▸ h.decodable) ?_ hdrops
    · rw [haccepted, hdropped, List.countP_append, List.countP_singleton, hdecodable]
      exact hlose
    · rw [haccepted]
      exact hsuccesses
  · -- the frame is accepted
    have hresult : routeResult s.sharded.router = true := by
      cases hrouter : s.sharded.router with
      | drop => exact absurd hrouter hkept
      | idle => rfl
      | dispatch frame event => rfl
      | tryPush frame shardId call => rfl
    have hall : ∀ other ∈ sharded.accepted, Undecodable config other = false := by
      intro other hother
      rw [haccepted] at hother
      rcases List.mem_append.mp hother with hold | hnew
      · exact h.decodable other hold
      · rw [List.mem_singleton.mp hnew]
        exact hdecodable
    rw [RouteCall.after_idle hidle, hresult]
    refine h.withRouter hrouting nofun (hsharded.step hstep) h.blankOffered hoffered
      ⟨_, ?_, .inl ⟨nofun, hidle, hdone⟩⟩ hall ?_ ?_
    · rw [haccepted, hdropped, List.countP_append, List.countP_singleton, hdecodable]
      exact hthin.keep frame
    · rw [haccepted, List.length_append, hsuccesses]
      rfl
    · rw [hdrops]
      simp only [RouteCall.successes, RouteCall.drops, reduceCtorEq, if_true, if_false]
      omega

/-- The pump hears the answer of the router. -/
theorem Inv.leaveRouter {routed : Bool} {ingest : LiveIngest} (h : s.Inv config)
    (hroute : s.route = .returned routed) (hstep : s.ingest.pumpIngestStep routed = some ingest) :
    { s with ingest := ingest, route := .entering }.Inv config := by
  have hentered : s.route ≠ .entering := by
    rw [hroute]
    nofun
  have hrouting := h.outside hentered
  have hoffered := h.offered_of_ne_entering hentered
  obtain ⟨items, hinv⟩ := h.ingest
  obtain ⟨⟨hproducer, haccepted, hdropped, hslots⟩, heffect⟩ :=
    LiveIngest.pumpIngestStep_cases h.sound hstep
  have hblank : ingest.IsBlank := fun slot ↦ by
    rw [hslots]
    exact h.blank slot
  have hpushed := h.pushed
  rw [← hproducer, ← haccepted, ← hdropped] at hpushed
  have hsuccesses := h.successes
  have hdrops := h.drops
  rw [hroute] at hsuccesses hdrops
  obtain ⟨done, hthin, ⟨-, hidle, hdone⟩ | ⟨frame, hdispatching, -⟩⟩ := h.inside
  · rcases heffect with ⟨hnot, -⟩ | ⟨hnot, -⟩ | ⟨hnot, -⟩ | ⟨-, hafter, hrouted, hpopped, htotal⟩
    · exact absurd hrouting hnot
    · exact absurd hrouting hnot
    · exact absurd hrouting hnot
    · refine ⟨hinv.pumpIngestStep hstep, h.sharded, hblank, h.blankOffered, hpushed,
        .inr ⟨fun hentering ↦ hafter hentering.1, hrouted.trans hoffered⟩,
        ⟨done, hthin, .inl ⟨nofun, hidle, hdone⟩⟩, h.decodable,
        fun hentering ↦ absurd rfl hentering, ?_, ?_, ?_⟩
      · rw [hpopped, htotal, h.pumped]
        cases routed <;> rfl
      · rw [htotal, hsuccesses]
        cases routed <;> rfl
      · rw [htotal, hdrops]
        cases routed with
        | false => rfl
        | true =>
          simp only [RouteCall.successes, RouteCall.drops, reduceCtorEq, if_true, if_false]
          omega
  · rw [hroute] at hdispatching
    exact absurd hdispatching (by simp)

/-- **A step of the pump**, outside the router or inside. -/
theorem Inv.pumpStep (h : s.Inv config) (hstep : s.pumpStep config = some s') : s'.Inv config := by
  rw [LivePipeline.pumpStep] at hstep
  split at hstep
  · rename_i maxFrames counts ref slot hat
    rw [LivePipeline.routeStep] at hstep
    split at hstep
    · rename_i hroute
      obtain ⟨sharded, hsharded, rfl⟩ := Option.map_eq_some_iff.mp hstep
      exact h.enterRouter hat hroute hsharded
    · rename_i hroute
      obtain ⟨sharded, hsharded, rfl⟩ := Option.map_eq_some_iff.mp hstep
      exact h.dispatch hroute hsharded
    · rename_i routed hroute
      obtain ⟨ingest, hingest, rfl⟩ := Option.map_eq_some_iff.mp hstep
      exact h.leaveRouter hroute hingest
  · rename_i hnot
    obtain ⟨ingest, hingest, rfl⟩ := Option.map_eq_some_iff.mp hstep
    refine h.pumpOutside (fun hrouting ↦ ?_) hingest
    rcases hat : s.ingest.consumer with _ | _ | _ | _ | _ | ⟨maxFrames, counts, ref, slot⟩ | _ | _
    case routing => exact hnot maxFrames counts ref slot hat
    all_goals
      rw [hat] at hrouting
      exact hrouting

/-! ## Steps of the shards, and of `start` and `stop` -/

/-- A shard moves, or the thread that starts and stops them. -/
theorem Inv.withShards {sharded : ShardedPipeline} (h : s.Inv config)
    (hsharded : ∃ items, sharded.Inv config.toShardedPipelineConfig items)
    (haccepted : sharded.accepted = s.sharded.accepted)
    (hdropped : sharded.droppedCount = s.sharded.droppedCount)
    (hrouter : sharded.router = s.sharded.router) (control : LiveControl)
    (handled : ℕ → List NormalizedEvent) (consumed : ℕ → ℕ) :
    { s with
      sharded := sharded
      control := control
      handled := handled
      before := { s.before with consumed := consumed } }.Inv config := by
  obtain ⟨done, hthin, hdone⟩ := h.inside
  rw [lostFrames, ← haccepted, ← hdropped] at hthin
  rw [← hrouter] at hdone
  have hsuccesses := h.successes
  have hdecodable := h.decodable
  rw [← haccepted] at hsuccesses hdecodable
  exact { h with
    sharded := hsharded
    inside := ⟨done, hthin, hdone⟩
    decodable := hdecodable
    successes := hsuccesses }

theorem Inv.shardStep {shardId : ℕ} {handled : Bool} (h : s.Inv config)
    (hstep : s.shardStep config shardId handled = some s') : s'.Inv config := by
  obtain ⟨sharded, hsharded, rfl⟩ := Option.map_eq_some_iff.mp hstep
  obtain ⟨items, hinv⟩ := h.sharded
  obtain ⟨haccepted, hdropped, hrouter, -⟩ := ShardedPipeline.step_shard hsharded
  exact h.withShards (hinv.step hsharded) haccepted hdropped hrouter _ _ _

theorem Inv.startShard (h : s.Inv config) (shardId : ℕ) :
    (s.startShard config shardId).Inv config := by
  rw [LivePipeline.startShard]
  split
  · exact { h with }
  · rename_i sharded hstart
    obtain ⟨items, hinv⟩ := h.sharded
    obtain ⟨shard, -, rfl⟩ := ShardedPipeline.step_start hstart
    exact h.withShards (hinv.step hstart) rfl rfl rfl _ _ _

/-- What the counters showed is counted as from before. -/
theorem Inv.finishStart (h : s.Inv config) : s.finishStart.Inv config := by
  obtain ⟨items, hinv⟩ := h.ingest
  have hpumped := h.pumped
  have hsuccesses := h.successes
  have hdrops := h.drops
  simp only [LiveIngest.total] at hpumped hsuccesses hdrops
  refine { h with
    ingest := ⟨items, { hinv with failures := rfl }⟩
    pumped := ?_
    successes := ?_
    drops := ?_ }
  · simp only [LivePipeline.finishStart, LiveIngest.total]
    omega
  · simp only [LivePipeline.finishStart, LiveIngest.total]
    omega
  · change s.offered.length = s.before.routeSuccess + s.ingest.routeSuccess +
      (0 + s.ingest.consumer.unpublished.routeSuccess) + s.route.successes +
      (s.before.routeDrop + s.ingest.routeDrop) +
      (0 + s.ingest.consumer.unpublished.routeDrop) + s.route.drops +
      if s.route = .dispatching then 1 else 0
    omega

theorem Inv.controlStep (h : s.Inv config) (hstep : s.controlStep config = some s') :
    s'.Inv config := by
  cases controlMoves_of_controlStep hstep with
  | started shardId => exact h.startShard shardId
  | up => exact h.finishStart
  | passed control running => exact { h with }
  | asked control hrequest =>
    obtain ⟨items, hinv⟩ := h.sharded
    exact h.withShards (hinv.step hrequest) rfl rfl rfl _ _ _

/-- **One step** of any thread. -/
theorem Inv.step {input : LiveInput} (h : s.Inv config)
    (hstep : s.step config input = some s') : s'.Inv config := by
  cases input with
  | pushMessage message =>
    obtain ⟨ingest, hingest, rfl⟩ := Option.map_eq_some_iff.mp hstep
    exact h.pushMessage hingest
  | producer now =>
    obtain ⟨ingest, hingest, rfl⟩ := Option.map_eq_some_iff.mp hstep
    exact h.producer hingest
  | pumpIngest maxFrames =>
    rw [LivePipeline.step] at hstep
    split at hstep
    · obtain ⟨ingest, hingest, rfl⟩ := Option.map_eq_some_iff.mp hstep
      exact h.pumpIngest hingest
    · exact absurd hstep (by simp)
  | start =>
    obtain ⟨-, control, rfl⟩ := step_begin (.inl rfl) hstep
    exact { h with }
  | stop =>
    obtain ⟨-, control, rfl⟩ := step_begin (.inr rfl) hstep
    exact { h with }
  | pump => exact h.pumpStep hstep
  | control => exact h.controlStep hstep
  | shard shardId handled => exact h.shardStep hstep

theorem inv_of_reaches (hcapacity : config.framePoolCapacity < 2 ^ 32)
    (h : (machine config).Reaches (create config) s) : s.Inv config :=
  h.invariant (inv_create hcapacity) fun _ hinv _ hstep ↦ hinv.step hstep

end LivePipeline

/-! ## The time of arrival does not matter -/

/-- The event with another time of arrival. -/
def NormalizedEvent.receivedAt (recvNs : ℕ) (event : NormalizedEvent) : NormalizedEvent :=
  { event with eventMeta := { event.eventMeta with recvNs := recvNs } }

namespace KalshiParser

open OnDemand (Value)

variable (recvNs : ℕ) (event : NormalizedEvent)

theorem setSequenceFromRoot_receivedAt (root : Value) :
    setSequenceFromRoot root (event.receivedAt recvNs) =
      (setSequenceFromRoot root event).receivedAt recvNs := by
  rw [setSequenceFromRoot, setSequenceFromRoot]
  split <;> rfl

theorem setSequenceFromMsg_receivedAt (message : Value) :
    setSequenceFromMsg message (event.receivedAt recvNs) =
      (setSequenceFromMsg message event).receivedAt recvNs := by
  obtain ⟨type, eventMeta, marketTicker, rawSequenceId, data⟩ := event
  rw [setSequenceFromMsg, setSequenceFromMsg]
  split
  · rfl
  · cases rawSequenceId <;> rfl

theorem parseSnapshot_receivedAt (message : Value) :
    parseSnapshot message (event.receivedAt recvNs) =
      (parseSnapshot message event).map (NormalizedEvent.receivedAt recvNs) := by
  rw [parseSnapshot, parseSnapshot]
  change (if event.rawSequenceId = none then _ else _) = _
  split
  · rfl
  split
  · rfl
  split
  · rfl
  split
  · rfl
  split <;> rfl

theorem parseDelta_receivedAt (message : Value) (strict : Bool) :
    parseDelta message (event.receivedAt recvNs) strict =
      (parseDelta message event strict).map (NormalizedEvent.receivedAt recvNs) := by
  rw [parseDelta, parseDelta]
  change (if event.rawSequenceId = none then _ else _) = _
  split
  · rfl
  split
  · split
    · rfl
    split
    · rfl
    dsimp only
    split <;> rfl
  · rfl

theorem parseTrade_receivedAt (message : Value) (strict : Bool) :
    parseTrade message (event.receivedAt recvNs) strict =
      (parseTrade message event strict).map (NormalizedEvent.receivedAt recvNs) := by
  rw [parseTrade, parseTrade, setSequenceFromMsg_receivedAt]
  dsimp only
  split
  · split
    · rfl
    split <;> rfl
  · rfl

/-- The parser copies the time of arrival. -/
theorem parseObject_receivedAt (root : Value) (frame : RouterFrame) :
    parseObject root { frame with recvNs := recvNs } =
      (parseObject root frame).map (NormalizedEvent.receivedAt recvNs) := by
  have hevent : setSequenceFromRoot root (frameEvent { frame with recvNs := recvNs }) =
      (setSequenceFromRoot root (frameEvent frame)).receivedAt recvNs :=
    setSequenceFromRoot_receivedAt recvNs (frameEvent frame) root
  rw [parseObject, parseObject]
  split
  · rfl
  dsimp only
  rw [hevent]
  split
  · split
    · rfl
    split
    · exact parseSnapshot_receivedAt ..
    split
    · exact parseDelta_receivedAt ..
    · exact parseTrade_receivedAt ..
  · rfl

theorem parse_receivedAt (iterate : String → Option Value) (frame : RouterFrame) :
    parse iterate { frame with recvNs := recvNs } =
      (parse iterate frame).map (NormalizedEvent.receivedAt recvNs) := by
  rw [parse, parse]
  dsimp only
  split
  · rfl
  · exact parseObject_receivedAt ..

end KalshiParser

namespace LivePipeline

/-- What a message is routed as, when nothing but the message is known. -/
def routeMessage (config : LivePipelineParts) (message : String) : Option RoutedEvent :=
  config.route { payload := message }

/-- The market of a message. -/
def marketOf (config : LivePipelineParts) (message : String) : Option String :=
  (routeMessage config message).map fun event ↦ event.frame.marketTicker

/-- The event that a message stands for. -/
def decodeMessage (config : LivePipelineParts) (message : String) : Option NormalizedEvent :=
  (routeMessage config message).bind config.parse

/-- A blank frame is decoded from its payload alone. -/
theorem extract_of_isBlank {iterate : String → Option OnDemand.Value} {frame : RawFrame}
    (h : frame.IsBlank) :
    KalshiExtractor.extract iterate frame =
      { KalshiExtractor.extract iterate { payload := frame.payload } with
        recvTimestamp := frame.recvTimestamp
        source := frame.source } := by
  obtain ⟨recvTimestamp, source, payload, marketTicker, seqId⟩ := frame
  obtain ⟨rfl, rfl⟩ : marketTicker = "" ∧ seqId = none := h
  rw [KalshiExtractor.extract, KalshiExtractor.extract]
  simp only [ne_eq, not_true_eq_false, if_false]
  split
  · rfl
  split
  · rfl
  split
  · rfl
  split
  · rfl
  split
  · rfl
  split <;> rfl

theorem decode_of_isBlank {iterate : String → Option OnDemand.Value} {frame : RawFrame}
    (h : frame.IsBlank) (exchange : DecodeExchangeId) :
    resolveDecoder iterate exchange frame =
      { resolveDecoder iterate exchange { payload := frame.payload } with
        recvTimestamp := frame.recvTimestamp
        source := frame.source } := by
  cases exchange with
  | kalshi => exact extract_of_isBlank h
  | polymarket => rfl

/-- A routed event that arrives at another time is parsed to the event with that time. -/
theorem parse_routed_receivedAt (iterate : String → Option OnDemand.Value) (recvNs : ℕ)
    (event : RoutedEvent) :
    RoutedEventParser.parse iterate { event with frame := { event.frame with recvNs := recvNs } } =
      (RoutedEventParser.parse iterate event).map (NormalizedEvent.receivedAt recvNs) := by
  obtain ⟨routeKey, exchange, marketTicker, sequenceId, recvNs', rawPayload⟩ := event
  cases exchange with
  | kalshi =>
    exact KalshiParser.parse_receivedAt recvNs iterate
      { exchange := .kalshi, marketTicker, sequenceId, recvNs := recvNs',
        rawPayloadView := rawPayload }
  | polymarket => rfl
  | unknown => rfl

variable {config : LivePipelineParts} {s : LivePipeline} {frame : RawFrame}

theorem route_of_isBlank (h : frame.IsBlank) :
    config.route frame = (routeMessage config frame.payload).map fun event ↦
      { event with frame := { event.frame with recvNs := frame.recvTimestamp.toNat } } := by
  rw [routeMessage, ShardedPipelineConfig.route, ShardedPipelineConfig.route, Router.route,
    Router.route]
  have hdecode : config.router.decodeFn frame =
      { config.router.decodeFn { payload := frame.payload } with
        recvTimestamp := frame.recvTimestamp
        source := frame.source } := decode_of_isBlank h config.decodeExchange
  rw [hdecode]
  dsimp only
  split <;> rfl

theorem marketOf_of_isBlank (h : frame.IsBlank) (marketTicker : String) :
    ((config.route frame).any fun event ↦ event.frame.marketTicker = marketTicker) =
      decide (marketOf config frame.payload = some marketTicker) := by
  rw [route_of_isBlank h, marketOf]
  rcases routeMessage config frame.payload with _ | event
  · rfl
  · simp

theorem decode_frame (h : frame.IsBlank) :
    (config.route frame).bind config.parse =
      (decodeMessage config frame.payload).map
        (NormalizedEvent.receivedAt frame.recvTimestamp.toNat) := by
  rw [route_of_isBlank h, decodeMessage]
  rcases routeMessage config frame.payload with _ | event
  · rfl
  · simp only [Option.map_some, Option.bind_some, ShardedPipelineConfig.parse,
      parse_routed_receivedAt]
    rcases RoutedEventParser.parse config.iterate event with _ | _ <;> rfl

/-- **What a store makes of blank frames** it makes of their payloads. -/
theorem applyAll_frames (frames : List RawFrame) : ∀ store : BookStore,
    (∀ frame ∈ frames, frame.IsBlank) →
      store.applyAll (frames.filterMap fun frame ↦ (config.route frame).bind config.parse) =
        store.applyAll ((frames.map RawFrame.payload).filterMap (decodeMessage config)) := by
  induction frames with
  | nil => exact fun store _ ↦ rfl
  | cons frame frames ih =>
    intro store hblank
    have hrest := fun store ↦
      ih store fun other hother ↦ hblank other (List.mem_cons_of_mem _ hother)
    have hframe : (config.route frame).bind config.parse = _ :=
      decode_frame (hblank frame List.mem_cons_self)
    rw [List.map_cons, List.filterMap_cons, List.filterMap_cons, hframe]
    rcases decodeMessage config frame.payload with _ | event
    · exact hrest store
    · exact hrest (store.apply event).2

/-! ## The books are those of the messages -/

/-- The messages that a shard queue accepted. -/
def dispatched (s : LivePipeline) : List String := s.sharded.accepted.map RawFrame.payload

/-- The same, of one market. -/
def dispatchedOf (config : LivePipelineParts) (s : LivePipeline) (marketTicker : String) :
    List String :=
  s.dispatched.filter fun message ↦ marketOf config message = some marketTicker

/-- How many messages of a market its shard is done with. -/
def settledCount (config : LivePipelineParts) (s : LivePipeline) (marketTicker : String) : ℕ :=
  (s.sharded.settledOf config.toShardedPipelineConfig marketTicker).length

theorem Inv.isBlank_accepted (h : s.Inv config) : ∀ frame ∈ s.sharded.accepted, frame.IsBlank := by
  intro frame hframe
  obtain ⟨done, hthin, ⟨-, -, hdone⟩ | ⟨frame', -, -, -, -, hdone⟩⟩ := h.inside
  · exact h.blankOffered frame (hdone ▸ hthin.sublist.subset hframe)
  · exact h.blankOffered frame
      (hdone ▸ List.mem_append_left _ (hthin.sublist.subset hframe))

/-- The frames of a market are recognised by their payloads. -/
theorem Inv.framesOf_payload (h : s.Inv config) (marketTicker : String) :
    (s.sharded.framesOf config.toShardedPipelineConfig marketTicker).map RawFrame.payload =
      s.dispatchedOf config marketTicker := by
  rw [dispatchedOf, dispatched, ShardedPipeline.framesOf, List.filter_map]
  refine congrArg _ (List.filter_congr fun frame hframe ↦ ?_)
  exact marketOf_of_isBlank (h.isBlank_accepted frame hframe) marketTicker

/-- Messages reach the shards in the order in which they were pushed. -/
theorem Inv.dispatched_sublist (h : s.Inv config) : s.dispatched.Sublist s.pushed := by
  have haccepted : s.ingest.accepted.Sublist s.pushed := by
    obtain ⟨done, hthin, ⟨-, hdone⟩ | ⟨message, -, hdone⟩⟩ := h.pushed
    · exact hdone ▸ hthin.sublist
    · exact hdone ▸ hthin.sublist.trans (List.sublist_append_left _ _)
  have hoffered : (s.offered.map RawFrame.payload).Sublist s.ingest.routed := by
    rcases h.offered with ⟨-, -, payload, hrouted⟩ | ⟨-, hrouted⟩
    · rw [hrouted]
      exact List.sublist_append_left _ _
    · rw [hrouted]
  have hdispatched : s.sharded.accepted.Sublist s.offered := by
    obtain ⟨done, hthin, ⟨-, -, hdone⟩ | ⟨frame, -, -, -, -, hdone⟩⟩ := h.inside
    · exact hdone ▸ hthin.sublist
    · exact hdone ▸ hthin.sublist.trans (List.sublist_append_left _ _)
  exact (hdispatched.map RawFrame.payload).trans
    (hoffered.trans (h.sound.routed.sublist.trans haccepted))

end LivePipeline

/-- **From the wire to the books.** For every stream of messages, all capacities, every number of
shards and every interleaving of the threads, the messages that reach the shards are some of those
that were pushed, in order, and the book of a market is the one that a single store makes of the
first of them that are of this market. -/
theorem wire_to_books {config : LivePipelineParts} {s : LivePipeline}
    (hcapacity : config.framePoolCapacity < 2 ^ 32)
    (h : (LivePipeline.machine config).Reaches (.create config) s) :
    s.dispatched.Sublist s.pushed ∧ ∀ marketTicker,
      (s.sharded.shards (config.shardOf marketTicker)).books.find marketTicker =
        (BookStore.applyAll {} (((s.dispatchedOf config marketTicker).take
          (s.settledCount config marketTicker)).filterMap
            (LivePipeline.decodeMessage config))).find marketTicker ∧
      ∀ i ≠ config.shardOf marketTicker, (s.sharded.shards i).books.find marketTicker = none := by
  have hinv := LivePipeline.inv_of_reaches hcapacity h
  refine ⟨hinv.dispatched_sublist, fun marketTicker ↦ ?_⟩
  obtain ⟨items, hsharded⟩ := hinv.sharded
  have hsingle := hsharded.isSingleStore marketTicker
  refine ⟨?_, hsingle.elsewhere⟩
  have hblank : ∀ frame ∈ (s.sharded.framesOf config.toShardedPipelineConfig marketTicker).take
      (s.settledCount config marketTicker), frame.IsBlank := fun frame hframe ↦
    hinv.isBlank_accepted frame (List.mem_of_mem_filter (List.mem_of_mem_take hframe))
  rw [← hinv.framesOf_payload, ← List.map_take, ← LivePipeline.applyAll_frames _ _ hblank]
  exact hsingle.book

open SampleMessages in
/-- Two shards and two frames. The only message that can be decoded is a trade on market A, which
belongs to shard 1. -/
def wiredTrades : LivePipelineParts where
  hash := String.length
  iterate := reads [(tradeOnA, trade "A" 7 7)]
  shardCount := 2
  framePoolCapacity := 2
  frameQueueCapacity := 4

open SampleMessages in
/-- Of three messages, one cannot be decoded and one finds no frame. -/
def wireRun : List LiveInput :=
  .start :: List.replicate 3 .control ++
    .pushMessage "noise" :: List.replicate 12 (.producer 5) ++
    .pushMessage tradeOnA :: List.replicate 12 (.producer 6) ++
    .pushMessage tradeOnA :: List.replicate 2 (.producer 7) ++
    .pumpIngest 2 :: List.replicate 30 .pump ++ List.replicate 7 (.shard 1 true)

open SampleMessages in
theorem wire_to_books_trade : ∃ s,
    (LivePipeline.machine wiredTrades).Reaches (.create wiredTrades) s ∧
      s.pushed = ["noise", tradeOnA, tradeOnA] ∧ s.dispatched = [tradeOnA] ∧
      s.dispatched.Sublist s.pushed ∧
      ((s.sharded.shards 1).books.find "A").map BookState.tradeCount = some 1 ∧
      (s.sharded.shards 0).books.find "A" = none := by
  have hrun : ((LivePipeline.machine wiredTrades).runVia (fun _ _ ↦ True) (.create wiredTrades)
      wireRun).any (fun s ↦ s.pushed = ["noise", tradeOnA, tradeOnA] ∧ s.dispatched = [tradeOnA] ∧
        ((s.sharded.shards 1).books.find "A").map BookState.tradeCount = some 1) = true := by
    decide +kernel
  obtain ⟨s, hreaches, hlast⟩ := Machine.exists_of_runVia hrun
  obtain ⟨hpushed, hdispatched, htrade⟩ := of_decide_eq_true hlast
  obtain ⟨hsublist, hbooks⟩ := wire_to_books (by decide) hreaches
  exact ⟨s, hreaches, hpushed, hdispatched, hsublist, htrade, (hbooks "A").2 0 (by decide)⟩

end TradingEngine
