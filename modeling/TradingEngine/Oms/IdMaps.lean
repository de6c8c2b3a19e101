import TradingEngine.Oms.OrderLifecycle

/-!
# The two id maps of the core

Orders are kept under their client order ids, and `exchange_to_client_` leads from an exchange order
id back to a client order id. A submission writes only the first map. An accepted update writes both
at once, and may itself have been resolved through the second. `IdMaps` says how the maps fit
together, after any operations of the core, `reset` included.

Nothing keeps an exchange from giving one order id to two orders. The map then leads to the order
that was updated last, and the other order keeps an id that leads away from it. So the last part of
`id_maps_consistent` needs the history: which exchange order id an accepted update has carried, and
for which order.
-/

namespace TradingEngine

namespace OrderManagerCore

/-- Every key leads to its own order, and every id that leads somewhere leads to an order. -/
structure IdMaps (core : OrderManagerCore) : Prop where
  key : ∀ id order, core.inFlightOrders.lookup id = some order →
    id ≠ "" ∧ order.clientOrderId = id
  client : ∀ exchangeId id, core.exchangeToClient.lookup exchangeId = some id →
    id ∈ core.inFlightOrders
  exchange : ∀ id order exchangeId, core.inFlightOrders.lookup id = some order →
    order.exchangeOrderId = some exchangeId →
      exchangeId ≠ "" ∧ exchangeId ∈ core.exchangeToClient

variable {core core' : OrderManagerCore}

theorem idMaps_empty (horders : core.inFlightOrders = ∅) (hids : core.exchangeToClient = ∅) :
    core.IdMaps := by
  refine ⟨fun id order h ↦ ?_, fun exchangeId id h ↦ ?_, fun id order exchangeId h ↦ ?_⟩
  · rw [horders] at h
    exact absurd h (by simp)
  · rw [hids] at h
    exact absurd h (by simp)
  · rw [horders] at h
    exact absurd h (by simp)

theorem IdMaps.congr (h : core.IdMaps) (horders : core'.inFlightOrders = core.inFlightOrders)
    (hids : core'.exchangeToClient = core.exchangeToClient) : core'.IdMaps := by
  refine ⟨?_, ?_, ?_⟩
  · rw [horders]
    exact h.key
  · rw [horders, hids]
    exact h.client
  · rw [horders, hids]
    exact h.exchange

/-! ## One operation -/

/-- A new order has no exchange order id yet. -/
theorem IdMaps.track (h : core.IdMaps) {order : InFlightOrder} (hid : order.clientOrderId ≠ "")
    (hexchange : order.exchangeOrderId = none) : (core.track order).IdMaps := by
  refine ⟨?_, ?_, ?_⟩
  · intro id order' hid'
    rcases lookup_of_track hid' with ⟨rfl, rfl⟩ | hold
    · exact ⟨hid, rfl⟩
    · exact h.key id order' hold
  · intro exchangeId id hmap
    exact (AList.mem_insert core.inFlightOrders).mpr (.inr (h.client exchangeId id hmap))
  · intro id order' exchangeId hid' hsome
    rcases lookup_of_track hid' with ⟨rfl, rfl⟩ | hold
    · rw [hexchange] at hsome
      exact absurd hsome (by simp)
    · exact h.exchange id order' exchangeId hold hsome

/-- The exchange order id that an order has after an update: the one of the update, unless that is
missing or empty. -/
theorem exchangeOrderId_transitionOrder {order : InFlightOrder} {next : InFlightStatus} {now : ℕ}
    {update : OrderStateUpdate} {exchangeId : ExchangeOrderId}
    (h : (transitionOrder order next now update).exchangeOrderId = some exchangeId) :
    (update.exchangeOrderId = some exchangeId ∧ exchangeId ≠ "") ∨
      order.exchangeOrderId = some exchangeId := by
  rw [transitionOrder_exchangeOrderId] at h
  split at h
  · rename_i id hid
    split at h
    · rename_i hne
      obtain rfl := Option.some.inj h
      exact .inl ⟨hid, hne⟩
    · exact .inr h
  · exact .inr h

/-- Where an exchange order id leads after an update: to the order that was updated if the update
carried it, and where it led before otherwise. -/
theorem lookup_recordExchangeId {update : OrderStateUpdate} {clientOrderId id : ClientOrderId}
    {exchangeId : ExchangeOrderId}
    (h : (core.recordExchangeId update clientOrderId).lookup exchangeId = some id) :
    (update.exchangeOrderId = some exchangeId ∧ id = clientOrderId) ∨
      core.exchangeToClient.lookup exchangeId = some id := by
  rw [recordExchangeId] at h
  split at h
  · rename_i recorded hrecorded
    split at h
    · by_cases hid : exchangeId = recorded
      · rw [hid, AList.lookup_insert] at h
        exact .inl ⟨hid ▸ hrecorded, (Option.some.inj h).symm⟩
      · exact .inr ((AList.lookup_insert_ne hid).symm.trans h)
    · exact .inr h
  · exact .inr h

/-- What the map knows is never forgotten. -/
theorem mem_recordExchangeId {update : OrderStateUpdate} {clientOrderId : ClientOrderId}
    {exchangeId : ExchangeOrderId}
    (h : exchangeId ∈ core.exchangeToClient ∨
      update.exchangeOrderId = some exchangeId ∧ exchangeId ≠ "") :
    exchangeId ∈ core.recordExchangeId update clientOrderId := by
  rw [recordExchangeId]
  split
  · rename_i recorded hrecorded
    split
    · rw [AList.mem_insert]
      refine h.symm.imp_left fun hnew ↦ ?_
      exact Option.some.inj (hnew.1.symm.trans hrecorded)
    · rename_i hempty
      refine h.resolve_right fun hnew ↦ hempty ?_
      obtain rfl := Option.some.inj (hrecorded.symm.trans hnew.1)
      exact hnew.2
  · rename_i hnone
    refine h.resolve_right fun hnew ↦ ?_
    exact absurd (hnone.symm.trans hnew.1) (by simp)

/-- **An accepted update** writes both maps. -/
theorem IdMaps.applyTransition (h : core.IdMaps) {now : ℕ} {update : OrderStateUpdate}
    {next : InFlightStatus} {key : ClientOrderId} {order : InFlightOrder}
    (hlookup : core.inFlightOrders.lookup key = some order) :
    (core.applyTransition now update next key order).IdMaps := by
  obtain ⟨hkey, hid⟩ := h.key key order hlookup
  have hmem : key ∈ core.inFlightOrders := AList.lookup_isSome.mp (by rw [hlookup]; rfl)
  refine ⟨?_, ?_, ?_⟩
  · intro id order' hid'
    rw [lookup_applyTransition] at hid'
    split at hid'
    · rename_i hsame
      obtain rfl := Option.some.inj hid'
      rw [hsame, transitionOrder_clientOrderId]
      exact ⟨hkey, hid⟩
    · exact h.key id order' hid'
  · intro exchangeId id hmap
    rw [OrderManagerCore.applyTransition, AList.mem_insert]
    rcases lookup_recordExchangeId hmap with ⟨_, rfl⟩ | hold
    · exact .inl hid
    · exact .inr (h.client exchangeId id hold)
  · intro id order' exchangeId hid' hsome
    rw [lookup_applyTransition] at hid'
    split at hid'
    · obtain rfl := Option.some.inj hid'
      rcases exchangeOrderId_transitionOrder hsome with hnew | hold
      · exact ⟨hnew.2, mem_recordExchangeId (.inr hnew)⟩
      · obtain ⟨hne, hknown⟩ := h.exchange key order exchangeId hlookup hold
        exact ⟨hne, mem_recordExchangeId (.inl hknown)⟩
    · obtain ⟨hne, hknown⟩ := h.exchange id order' exchangeId hid' hsome
      exact ⟨hne, mem_recordExchangeId (.inl hknown)⟩

end OrderManagerCore

/-! ## Histories -/

open OrderManagerCore

/-- The operations of the core, `reset` included. -/
inductive CoreCall
  | reset
  | op (op : CoreOp)

def callMachine : Machine OrderManagerCore CoreCall where
  step core
    | .reset => some core.reset
    | .op op => coreMachine.step core op

/-- The exchange order id of an accepted update, with the order that the update was applied to. -/
def OrderManagerCore.carriedBy (core : OrderManagerCore) :
    CoreCall → List (ExchangeOrderId × ClientOrderId)
  | .op (.applyUpdateTransition now update) =>
    match core.applyUpdateTransition now update, core.matchOrder update, update.exchangeOrderId with
    | (.ok _, _), some (key, _), some exchangeId => [(exchangeId, key)]
    | _, _, _ => []
  | _ => []

/-- What an operation may do to the two maps. -/
inductive CallEffect (core : OrderManagerCore) (call : CoreCall) : OrderManagerCore → Prop
  | cleared {core' : OrderManagerCore} (horders : core'.inFlightOrders = ∅)
      (hids : core'.exchangeToClient = ∅) : CallEffect core call core'
  | same {core' : OrderManagerCore} (horders : core'.inFlightOrders = core.inFlightOrders)
      (hids : core'.exchangeToClient = core.exchangeToClient) : CallEffect core call core'
  | tracked {order : InFlightOrder} (hid : order.clientOrderId ≠ "")
      (hexchange : order.exchangeOrderId = none) : CallEffect core call (core.track order)
  | updated {now : ℕ} {update : OrderStateUpdate} {next : InFlightStatus} {key : ClientOrderId}
      {order : InFlightOrder} (hlookup : core.inFlightOrders.lookup key = some order)
      (hcarried : ∀ exchangeId, update.exchangeOrderId = some exchangeId →
        (exchangeId, key) ∈ core.carriedBy call) :
      CallEffect core call (core.applyTransition now update next key order)

/-- **An operation, in full**, as far as the maps go. -/
theorem callEffect_of_step {core core' : OrderManagerCore} {call : CoreCall}
    (h : callMachine.step core call = some core') : CallEffect core call core' := by
  rcases call with _ | ⟨requestId, intent⟩ | intent | ⟨intent, snapshot⟩ | ⟨now, update⟩
  · obtain rfl := Option.some.inj h
    exact .cleared rfl rfl
  · obtain rfl := Option.some.inj h
    obtain ⟨_, hcase⟩ | ⟨_, hcase⟩ | ⟨order, hadmission, hcase⟩ :=
      core.validateAndTrackSubmission_cases requestId intent
    · rw [hcase]
      exact .same rfl rfl
    · rw [hcase]
      exact .same rfl rfl
    · rw [hcase]
      obtain ⟨hid, ⟨_, _, rfl⟩ | ⟨_, _, _, _, horder⟩⟩ := admission_some hadmission
      · exact .tracked hid rfl
      · obtain ⟨_, rfl⟩ := replaceOrder_ok horder
        exact .tracked hid rfl
  · obtain rfl := Option.some.inj h
    rw [evaluateGlobalRisk, evaluateGlobalRiskWith]
    split
    · exact .same rfl rfl
    · exact .same rfl rfl
  · obtain rfl := Option.some.inj h
    rw [evaluatePortfolioRisk, evaluatePortfolioRiskWith]
    split
    · exact .same rfl rfl
    · exact .same rfl rfl
  · obtain rfl := Option.some.inj h
    obtain ⟨_, _, hcase, hsame, _⟩ | ⟨next, key, order, _, hmatch, _, hcase⟩ :=
      core.applyUpdateTransition_cases now update
    · rw [hcase]
      exact .same hsame.inFlightOrders hsame.exchangeToClient
    · rw [hcase]
      refine .updated (matchOrder_lookup hmatch) fun exchangeId hexchange ↦ ?_
      rw [carriedBy, hcase, hmatch, hexchange]
      exact List.mem_singleton_self _

theorem OrderManagerCore.IdMaps.of_effect {core core' : OrderManagerCore} {call : CoreCall}
    (h : core.IdMaps) (heffect : CallEffect core call core') : core'.IdMaps := by
  rcases heffect with ⟨horders, hids⟩ | ⟨horders, hids⟩ | ⟨hid, hexchange⟩ | ⟨hlookup, _⟩
  · exact idMaps_empty horders hids
  · exact h.congr horders hids
  · exact h.track hid hexchange
  · exact h.applyTransition hlookup

/-- A core that was just made. -/
def OrderManagerCore.create (globalRisk : GlobalRiskConfig) (portfolioRisk : PortfolioRiskConfig) :
    OrderManagerCore where
  globalRiskGate := globalRisk
  portfolioRiskGate := portfolioRisk

/-! ## Which order an exchange order id belongs to -/

/-- A core beside the exchange order ids that its accepted updates have carried. -/
structure TracedCore where
  core : OrderManagerCore
  carried : List (ExchangeOrderId × ClientOrderId) := []

def tracedCore : Machine TracedCore CoreCall where
  step t call := (callMachine.step t.core call).map fun core ↦
    { core := core, carried := t.carried ++ t.core.carriedBy call }

/-- Both maps know only what was carried. -/
structure TracedCore.Explained (t : TracedCore) : Prop where
  order : ∀ id order exchangeId, t.core.inFlightOrders.lookup id = some order →
    order.exchangeOrderId = some exchangeId → (exchangeId, id) ∈ t.carried
  map : ∀ exchangeId id, t.core.exchangeToClient.lookup exchangeId = some id →
    (exchangeId, id) ∈ t.carried

theorem TracedCore.Explained.step {t t' : TracedCore} {call : CoreCall} (h : t.Explained)
    (hmaps : t.core.IdMaps) (hstep : tracedCore.step t call = some t') : t'.Explained := by
  obtain ⟨core', hcore, rfl⟩ := Option.map_eq_some_iff.mp hstep
  -- what was carried stays carried
  have horder := fun id order exchangeId hid hsome ↦
    List.mem_append_left (t.core.carriedBy call) (h.order id order exchangeId hid hsome)
  have hmap := fun exchangeId id hknown ↦
    List.mem_append_left (t.core.carriedBy call) (h.map exchangeId id hknown)
  rcases callEffect_of_step hcore with ⟨horders, hids⟩ | ⟨horders, hids⟩ |
    @⟨order, hid, hexchange⟩ | @⟨now, update, next, key, order, hlookup, hcarried⟩
  · refine ⟨fun id order exchangeId hid ↦ ?_, fun exchangeId id hknown ↦ ?_⟩
    · rw [horders] at hid
      exact absurd hid (by simp)
    · rw [hids] at hknown
      exact absurd hknown (by simp)
  · refine ⟨?_, ?_⟩
    · rw [horders]
      exact horder
    · rw [hids]
      exact hmap
  · refine ⟨fun id order' exchangeId hid hsome ↦ ?_, hmap⟩
    rcases lookup_of_track hid with ⟨_, rfl⟩ | hold
    · exact absurd (hexchange.symm.trans hsome) (by simp)
    · exact horder id order' exchangeId hold hsome
  · refine ⟨fun id order' exchangeId hid hsome ↦ ?_, fun exchangeId id hknown ↦ ?_⟩
    · rw [lookup_applyTransition] at hid
      split at hid
      · rename_i hkey
        obtain rfl := Option.some.inj hid
        rw [hkey]
        rcases exchangeOrderId_transitionOrder hsome with ⟨hnew, _⟩ | hold
        · exact List.mem_append_right _ (hcarried exchangeId hnew)
        · exact horder key order exchangeId hlookup hold
      · exact horder id order' exchangeId hid hsome
    · rcases lookup_recordExchangeId hknown with ⟨hnew, rfl⟩ | hold
      · rw [(hmaps.key key order hlookup).2]
        exact List.mem_append_right _ (hcarried exchangeId hnew)
      · exact hmap exchangeId id hold

theorem idMaps_of_tracedCore_reaches {globalRisk : GlobalRiskConfig}
    {portfolioRisk : PortfolioRiskConfig} {t : TracedCore}
    (h : tracedCore.Reaches { core := .create globalRisk portfolioRisk } t) :
    t.core.IdMaps ∧ t.Explained := by
  refine h.invariant (P := fun t ↦ t.core.IdMaps ∧ t.Explained) ⟨idMaps_empty rfl rfl, ?_⟩ ?_
  · exact ⟨fun _ _ _ hid ↦ absurd hid (by simp [create]), fun _ _ hknown ↦
      absurd hknown (by simp [create])⟩
  · intro t call t' _ hinv _ hstep
    obtain ⟨core', hcore, heq⟩ := Option.map_eq_some_iff.mp hstep
    refine ⟨?_, hinv.2.step hinv.1 hstep⟩
    rw [← heq]
    exact hinv.1.of_effect (callEffect_of_step hcore)

/-- **The id maps stay consistent**, after any operations of the core with any arguments. And an
exchange order id that was only ever carried by updates of one order leads to that order. -/
theorem id_maps_consistent {globalRisk : GlobalRiskConfig} {portfolioRisk : PortfolioRiskConfig}
    {t : TracedCore} (h : tracedCore.Reaches { core := .create globalRisk portfolioRisk } t) :
    t.core.IdMaps ∧
      ∀ id order exchangeId, t.core.inFlightOrders.lookup id = some order →
        order.exchangeOrderId = some exchangeId →
        (∀ id₁ id₂, (exchangeId, id₁) ∈ t.carried → (exchangeId, id₂) ∈ t.carried → id₁ = id₂) →
        t.core.exchangeToClient.lookup exchangeId = some id := by
  obtain ⟨hmaps, hexplained⟩ := idMaps_of_tracedCore_reaches h
  refine ⟨hmaps, fun id order exchangeId hid hsome hone ↦ ?_⟩
  obtain ⟨_, hknown⟩ := hmaps.exchange id order exchangeId hid hsome
  obtain ⟨id', hid'⟩ := Option.isSome_iff_exists.mp (AList.lookup_isSome.mpr hknown)
  rw [hid', hone id' id (hexplained.map exchangeId id' hid')
    (hexplained.order id order exchangeId hid hsome)]

/-- An order is placed and acknowledged. -/
def SampleOrders.acknowledged : List CoreCall :=
  [.op (.validateAndTrackSubmission 1 (buy 10)), .op (.applyUpdateTransition 5 ack)]

open SampleOrders in
theorem id_maps_consistent_acknowledged :
    ∃ t, tracedCore.Reaches { core := .create {} {} } t ∧ t.carried = [("ex-1", "cl-1")] ∧
      t.core.IdMaps ∧ t.core.exchangeToClient.lookup "ex-1" = some "cl-1" := by
  have hrun : ∃ t, tracedCore.runVia (fun _ _ ↦ True) { core := .create {} {} } acknowledged =
      some t ∧ t.carried = [("ex-1", "cl-1")] ∧ ∃ order,
        t.core.inFlightOrders.lookup "cl-1" = some order ∧ order.exchangeOrderId = some "ex-1" :=
    ⟨_, rfl, rfl, _, rfl, rfl⟩
  obtain ⟨t, hrun, hcarried, order, horder, hexchange⟩ := hrun
  have hreaches := Machine.reachesVia_of_runVia hrun
  obtain ⟨hmaps, hleads⟩ := id_maps_consistent hreaches
  refine ⟨t, hreaches, hcarried, hmaps, hleads "cl-1" order "ex-1" horder hexchange ?_⟩
  intro id₁ id₂ h₁ h₂
  rw [hcarried, List.mem_singleton] at h₁ h₂
  exact (Prod.mk.inj (h₁.trans h₂.symm)).2

end TradingEngine
