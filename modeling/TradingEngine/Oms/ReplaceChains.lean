import Mathlib.Data.List.Nodup
import Mathlib.Logic.Relation
import Mathlib.Order.WellFounded
import TradingEngine.Oms.IdMaps

/-!
# Chains of replaces

A replace tracks a new order that names the order it stands in for, and may itself be replaced. The
target may be named through either id space, and is never checked against a chain. That following
the targets still comes to an end is owed to the order of the submissions: a target is tracked when
it is named, and the new order is not.

So the history is needed. `TrackedLog` is the core beside the client order ids it tracks, in the
order in which they were first tracked since the last `reset`.
-/

namespace TradingEngine

open OrderManagerCore

/-! ## The log -/

structure TrackedLog where
  core : OrderManagerCore
  tracked : List ClientOrderId := []

/-- The ids that `core'` tracks and `core` does not. -/
def OrderManagerCore.newIds (core core' : OrderManagerCore) : List ClientOrderId :=
  core'.inFlightOrders.keys.filter fun id ↦ id ∉ core.inFlightOrders

def trackedLog : Machine TrackedLog CoreCall where
  step t call := (callMachine.step t.core call).map fun core ↦
    { core
      tracked := match call with
        | .reset => []
        | .op _ => t.tracked ++ t.core.newIds core }

/-- `target` was tracked before `id` was. -/
def TrackedLog.Before (t : TrackedLog) (target id : ClientOrderId) : Prop :=
  ∃ earlier later, t.tracked = earlier ++ id :: later ∧ target ∈ earlier

/-- The order under `id` names `target` as the one it replaces. -/
def OrderManagerCore.Replaces (core : OrderManagerCore) (id target : ClientOrderId) : Prop :=
  ∃ order, core.inFlightOrders.lookup id = some order ∧
    order.replaceTargetClientOrderId = some target

namespace OrderManagerCore

theorem newIds_of_subset {core core' : OrderManagerCore}
    (h : ∀ id ∈ core'.inFlightOrders, id ∈ core.inFlightOrders) : core.newIds core' = [] := by
  rw [newIds, List.filter_eq_nil_iff]
  intro id hid
  simpa using h id hid

theorem newIds_track {core : OrderManagerCore} {order : InFlightOrder}
    (hfresh : order.clientOrderId ∉ core.inFlightOrders) :
    core.newIds (core.track order) = [order.clientOrderId] := by
  rw [newIds, track, AList.keys_insert, List.filter_cons_of_pos (by simpa using hfresh)]
  refine congrArg _ (List.filter_eq_nil_iff.mpr fun id hid ↦ ?_)
  have hold : id ∈ core.inFlightOrders := List.mem_of_mem_erase hid
  simpa using hold

end OrderManagerCore

/-! ## What a call does to the tracked orders -/

/-- An order as it is when it is first tracked: placed, or in the place of one that is tracked. -/
def InFlightOrder.Linked (core : OrderManagerCore) (order : InFlightOrder) : Prop :=
  (order.lastAction = .place ∧ order.replaceTargetClientOrderId = none) ∨
  (order.lastAction = .replace ∧ ∃ target ∈ core.inFlightOrders,
    order.replaceTargetClientOrderId = some target)

inductive OrdersEffect (core : OrderManagerCore) : OrderManagerCore → Prop
  | same {core' : OrderManagerCore} (horders : core'.inFlightOrders = core.inFlightOrders) :
      OrdersEffect core core'
  | tracked {order : InFlightOrder} (hfresh : order.clientOrderId ∉ core.inFlightOrders)
      (hlinked : order.Linked core) : OrdersEffect core (core.track order)
  | updated {core' : OrderManagerCore} {key : ClientOrderId} {order order' : InFlightOrder}
      (hlookup : core.inFlightOrders.lookup key = some order) (hevolves : order.Evolves order')
      (horders : core'.inFlightOrders = core.inFlightOrders.insert key order') :
      OrdersEffect core core'

theorem linked_of_admission {core : OrderManagerCore} {requestId : ℕ} {intent : OrderIntent}
    {order : InFlightOrder} (h : core.admission requestId intent = .ok (some order)) :
    order.clientOrderId ∉ core.inFlightOrders ∧ order.Linked core := by
  obtain ⟨_, ⟨haction, hfresh, rfl⟩ | ⟨haction, id, target, htarget, horder⟩⟩ := admission_some h
  · exact ⟨hfresh, .inl ⟨haction, rfl⟩⟩
  · obtain ⟨hfresh, rfl⟩ := replaceOrder_ok horder
    have htracked := (findTarget_ok htarget).2.1
    refine ⟨hfresh, .inr ⟨haction, id, ?_, rfl⟩⟩
    exact AList.lookup_isSome.mp (by rw [htracked]; rfl)

theorem ordersEffect_of_step {core core' : OrderManagerCore} {op : CoreOp}
    (h : coreMachine.step core op = some core') : OrdersEffect core core' := by
  cases op with
  | validateAndTrackSubmission requestId intent =>
    obtain rfl := Option.some.inj h
    obtain ⟨_, hcase⟩ | ⟨_, hcase⟩ | ⟨order, hadmission, hcase⟩ :=
      core.validateAndTrackSubmission_cases requestId intent
    · rw [hcase]
      exact .same rfl
    · rw [hcase]
      exact .same rfl
    · rw [hcase]
      obtain ⟨hfresh, hlinked⟩ := linked_of_admission hadmission
      exact .tracked hfresh hlinked
  | evaluateGlobalRisk intent =>
    obtain rfl := Option.some.inj h
    rw [evaluateGlobalRisk, evaluateGlobalRiskWith]
    split
    · exact .same rfl
    · exact .same rfl
  | evaluatePortfolioRisk intent snapshot =>
    obtain rfl := Option.some.inj h
    rw [evaluatePortfolioRisk, evaluatePortfolioRiskWith]
    split
    · exact .same rfl
    · exact .same rfl
  | applyUpdateTransition now update =>
    obtain rfl := Option.some.inj h
    obtain ⟨_, _, hcase, hsame, _⟩ | ⟨next, key, order, hstatus, hmatch, hcan, hcase⟩ :=
      core.applyUpdateTransition_cases now update
    · rw [hcase]
      exact .same hsame.inFlightOrders
    · rw [hcase]
      exact .updated (matchOrder_lookup hmatch) (.transition hstatus hcan) rfl

/-! ## The invariant -/

/-- The log holds the tracked ids, each once, and every order was placed or has its target before
it. -/
structure TrackedLog.Chained (t : TrackedLog) : Prop where
  nodup : t.tracked.Nodup
  mem : ∀ id, id ∈ t.tracked ↔ id ∈ t.core.inFlightOrders
  linked : ∀ id order, t.core.inFlightOrders.lookup id = some order →
    (order.lastAction = .place ∧ order.replaceTargetClientOrderId = none) ∨
    (order.lastAction = .replace ∧ ∃ target, order.replaceTargetClientOrderId = some target ∧
      t.Before target id)

namespace TrackedLog

variable {t : TrackedLog}

theorem Before.append {target id : ClientOrderId} (h : t.Before target id)
    (core : OrderManagerCore) (ids : List ClientOrderId) :
    Before { core, tracked := t.tracked ++ ids } target id := by
  obtain ⟨earlier, later, heq, hmem⟩ := h
  refine ⟨earlier, later ++ ids, ?_, hmem⟩
  dsimp only
  rw [heq, List.append_assoc, List.cons_append]

theorem chained_empty {core : OrderManagerCore} (h : core.inFlightOrders = ∅) :
    Chained { core, tracked := [] } := by
  refine ⟨List.nodup_nil, fun id ↦ ?_, fun id order hlookup ↦ ?_⟩
  · dsimp only
    rw [h]
    exact iff_of_false List.not_mem_nil (AList.notMem_empty id)
  · dsimp only at hlookup
    rw [h, AList.lookup_empty] at hlookup
    exact absurd hlookup (by simp)

/-- A call that tracks nothing new leaves the log alone. -/
theorem Chained.of_same (h : t.Chained) {core : OrderManagerCore}
    (horders : core.inFlightOrders = t.core.inFlightOrders) :
    Chained { core, tracked := t.tracked } := by
  refine ⟨h.nodup, fun id ↦ ?_, fun id order hlookup ↦ ?_⟩
  · rw [horders]
    exact h.mem id
  · rw [horders] at hlookup
    exact h.linked id order hlookup

theorem Chained.of_tracked (h : t.Chained) {order : InFlightOrder}
    (hfresh : order.clientOrderId ∉ t.core.inFlightOrders) (hlinked : order.Linked t.core) :
    Chained { core := t.core.track order, tracked := t.tracked ++ [order.clientOrderId] } := by
  have hnew : order.clientOrderId ∉ t.tracked := fun hmem ↦ hfresh ((h.mem _).mp hmem)
  refine ⟨?_, fun id ↦ ?_, fun id order' hlookup ↦ ?_⟩
  · exact List.Nodup.append h.nodup (List.nodup_singleton _) (List.disjoint_singleton.mpr hnew)
  · dsimp only [track]
    rw [List.mem_append, List.mem_singleton, AList.mem_insert, h.mem, or_comm]
  · obtain ⟨rfl, rfl⟩ | hold := lookup_of_track hlookup
    · -- the new order stands at the end of the log, and its target is somewhere in it
      rcases hlinked with hplace | ⟨haction, target, htracked, htarget⟩
      · exact .inl hplace
      · exact .inr ⟨haction, target, htarget, t.tracked, [], rfl, (h.mem target).mpr htracked⟩
    · rcases h.linked id order' hold with hplace | ⟨haction, target, htarget, hbefore⟩
      · exact .inl hplace
      · exact .inr ⟨haction, target, htarget, hbefore.append _ _⟩

/-- An update does not touch the links. -/
theorem Chained.of_updated (h : t.Chained) {core : OrderManagerCore} {key : ClientOrderId}
    {order order' : InFlightOrder} (hlookup : t.core.inFlightOrders.lookup key = some order)
    (hevolves : order.Evolves order')
    (horders : core.inFlightOrders = t.core.inFlightOrders.insert key order') :
    Chained { core, tracked := t.tracked } := by
  have hkey : key ∈ t.core.inFlightOrders := AList.lookup_isSome.mp (by rw [hlookup]; rfl)
  refine ⟨h.nodup, fun id ↦ ?_, fun id other hother ↦ ?_⟩
  · dsimp only
    rw [horders, AList.mem_insert, h.mem]
    refine ⟨.inr, ?_⟩
    rintro (rfl | hold)
    · exact hkey
    · exact hold
  · dsimp only at hother
    rw [horders] at hother
    by_cases hid : id = key
    · rw [hid, AList.lookup_insert] at hother
      obtain rfl := Option.some.inj hother
      rw [hevolves.lastAction, hevolves.replaceTarget, hid]
      exact h.linked key order hlookup
    · rw [AList.lookup_insert_ne hid] at hother
      exact h.linked id other hother

theorem Chained.step {t' : TrackedLog} {call : CoreCall} (h : t.Chained)
    (hstep : trackedLog.step t call = some t') : t'.Chained := by
  obtain ⟨core, hcore, rfl⟩ := Option.map_eq_some_iff.mp hstep
  cases call with
  | reset =>
    obtain rfl := Option.some.inj hcore
    exact chained_empty rfl
  | op op =>
    dsimp only
    rcases ordersEffect_of_step hcore with horders | ⟨hfresh, hlinked⟩ |
      ⟨hlookup, hevolves, horders⟩
    · rw [newIds_of_subset (fun id hid ↦ by rwa [horders] at hid), List.append_nil]
      exact h.of_same horders
    · rw [newIds_track hfresh]
      exact h.of_tracked hfresh hlinked
    · rw [newIds_of_subset, List.append_nil]
      · exact h.of_updated hlookup hevolves horders
      · intro id hid
        rw [horders, AList.mem_insert] at hid
        rcases hid with rfl | hid
        · exact AList.lookup_isSome.mp (by rw [hlookup]; rfl)
        · exact hid

/-! ## Following the targets -/

theorem Chained.before_of_replaces (h : t.Chained) {id target : ClientOrderId}
    (hreplaces : t.core.Replaces id target) : t.Before target id := by
  obtain ⟨order, hlookup, htarget⟩ := hreplaces
  rcases h.linked id order hlookup with ⟨_, hnone⟩ | ⟨_, target', htarget', hbefore⟩
  · exact absurd (hnone.symm.trans htarget) (by simp)
  · obtain rfl : target' = target := Option.some.inj (htarget'.symm.trans htarget)
    exact hbefore

/-- What was tracked before has the smaller place in the log. -/
theorem Chained.idxOf_lt (h : t.Chained) {id target : ClientOrderId}
    (hbefore : t.Before target id) :
    t.tracked.idxOf target < t.tracked.idxOf id := by
  obtain ⟨earlier, later, heq, hmem⟩ := hbefore
  have hnodup := h.nodup
  rw [heq] at hnodup ⊢
  have hnot : id ∉ earlier := fun hid ↦
    (List.nodup_append.mp hnodup).2.2 id hid id List.mem_cons_self rfl
  rw [List.idxOf_append_of_mem hmem, List.idxOf_append_of_notMem hnot, List.idxOf_cons_self,
    Nat.add_zero]
  exact List.idxOf_lt_length_of_mem hmem

theorem Chained.wellFounded (h : t.Chained) :
    WellFounded fun target id ↦ t.core.Replaces id target :=
  Subrelation.wf (fun hreplaces ↦ h.idxOf_lt (h.before_of_replaces hreplaces))
    (measure t.tracked.idxOf).wf

theorem Chained.mem_of_before (h : t.Chained) {id target : ClientOrderId}
    (hbefore : t.Before target id) : target ∈ t.core.inFlightOrders := by
  obtain ⟨earlier, later, heq, hmem⟩ := hbefore
  rw [← h.mem, heq]
  exact List.mem_append_left _ hmem

/-- Every chain ends at an order that was placed. -/
theorem Chained.exists_placed (h : t.Chained) (id : ClientOrderId)
    (hid : id ∈ t.core.inFlightOrders) :
    ∃ root order, Relation.ReflTransGen t.core.Replaces id root ∧
      t.core.inFlightOrders.lookup root = some order ∧ order.lastAction = .place := by
  induction id using h.wellFounded.induction with
  | _ id ih =>
    obtain ⟨order, hlookup⟩ := Option.isSome_iff_exists.mp (AList.lookup_isSome.mpr hid)
    rcases h.linked id order hlookup with ⟨hplace, _⟩ | ⟨_, target, htarget, hbefore⟩
    · exact ⟨id, order, .refl, hlookup, hplace⟩
    · have hreplaces : t.core.Replaces id target := ⟨order, hlookup, htarget⟩
      obtain ⟨root, order', hchain, hroot, hplace⟩ := ih target hreplaces (h.mem_of_before hbefore)
      exact ⟨root, order', .head hreplaces hchain, hroot, hplace⟩

end TrackedLog

/-- **Replace chains are well-founded** in every state the operations of the core lead to: a target
is another tracked order that was tracked before, following the targets comes to an end at an order
that was placed, and the orders that were placed are those without a target. -/
theorem replace_chains_well_founded {globalRisk : GlobalRiskConfig}
    {portfolioRisk : PortfolioRiskConfig} {t : TrackedLog}
    (h : trackedLog.Reaches { core := .create globalRisk portfolioRisk } t) :
    (∀ id target, t.core.Replaces id target →
      target ≠ id ∧ target ∈ t.core.inFlightOrders ∧ t.Before target id) ∧
    (WellFounded fun target id ↦ t.core.Replaces id target) ∧
    (∀ id, ¬Relation.TransGen t.core.Replaces id id) ∧
    (∀ id ∈ t.core.inFlightOrders, ∃ root order, Relation.ReflTransGen t.core.Replaces id root ∧
      t.core.inFlightOrders.lookup root = some order ∧ order.lastAction = .place) ∧
    ∀ id order, t.core.inFlightOrders.lookup id = some order →
      (order.replaceTargetClientOrderId = none ↔ order.lastAction = .place) := by
  have hchained : t.Chained :=
    h.invariant (TrackedLog.chained_empty rfl) fun _ hchained _ hstep ↦ hchained.step hstep
  refine ⟨?_, hchained.wellFounded, ?_, hchained.exists_placed, ?_⟩
  · intro id target hreplaces
    have hbefore := hchained.before_of_replaces hreplaces
    refine ⟨?_, hchained.mem_of_before hbefore, hbefore⟩
    rintro rfl
    exact lt_irrefl _ (hchained.idxOf_lt hbefore)
  · -- along a chain the place in the log goes down
    have hdown : ∀ id target, Relation.TransGen t.core.Replaces id target →
        t.tracked.idxOf target < t.tracked.idxOf id := by
      intro id target hchain
      induction hchain with
      | single hlink => exact hchained.idxOf_lt (hchained.before_of_replaces hlink)
      | tail _ hlink ih =>
        exact (hchained.idxOf_lt (hchained.before_of_replaces hlink)).trans ih
    exact fun id hcycle ↦ lt_irrefl _ (hdown id id hcycle)
  · intro id order hlookup
    rcases hchained.linked id order hlookup with ⟨hplace, hnone⟩ | ⟨haction, target, htarget, _⟩
    · exact iff_of_true hnone hplace
    · refine iff_of_false ?_ ?_
      · rw [htarget]
        exact Option.some_ne_none target
      · rw [haction]
        decide

namespace ReplaceChainsExample

open SampleOrders

/-- The first replace names its target by exchange order id, the second one by client order id. -/
def replaceFirst : OrderIntent :=
  { buy 10 with action := .replace, clientOrderId := "cl-2", targetExchangeOrderId := some "ex-1" }

def replaceSecond : OrderIntent :=
  { buy 10 with action := .replace, clientOrderId := "cl-3", targetClientOrderId := some "cl-2" }

def calls : List CoreCall :=
  acknowledged ++ [.op (.validateAndTrackSubmission 2 replaceFirst),
    .op (.validateAndTrackSubmission 3 replaceSecond)]

end ReplaceChainsExample

open ReplaceChainsExample in
theorem replace_chains_well_founded_two_replaces :
    ∃ t, trackedLog.Reaches { core := .create {} {} } t ∧ t.tracked = ["cl-1", "cl-2", "cl-3"] ∧
      t.core.Replaces "cl-3" "cl-2" ∧ t.core.Replaces "cl-2" "cl-1" ∧ t.Before "cl-2" "cl-3" := by
  have hrun : ∃ t, trackedLog.runVia (fun _ _ ↦ True) { core := .create {} {} } calls = some t ∧
      t.tracked = ["cl-1", "cl-2", "cl-3"] ∧ t.core.Replaces "cl-3" "cl-2" ∧
        t.core.Replaces "cl-2" "cl-1" :=
    ⟨_, rfl, rfl, ⟨_, rfl, rfl⟩, ⟨_, rfl, rfl⟩⟩
  obtain ⟨t, hrun, htracked, hsecond, hfirst⟩ := hrun
  have hreaches := Machine.reachesVia_of_runVia hrun
  obtain ⟨hlinks, _⟩ := replace_chains_well_founded hreaches
  exact ⟨t, hreaches, htracked, hsecond, hfirst, (hlinks _ _ hsecond).2.2⟩

end TradingEngine
