import TradingEngine.Apps.Trader
import TradingEngine.Oms.RequestIds

/-!
# The order in which requests go out

A cancel or replace acts on an order that some earlier request created, and the exchange should see
that request first. The queue is a line, so this holds as long as a dependent request stands in
line behind the request it depends on. Two things break it:

* a submission is validated and enqueued under different locks, so a cancel may enter the line
  before the place whose order it was validated against;
* the worker drops a request that a gate refuses or that cannot be sent, and goes on with the
  requests that depend on it.

`causallyOrdered_of_reaches` shows that there is nothing else: in every run in which a dependent
request enters the line behind its target and no target of a waiting request is dropped, what is
sent is in causal order.
-/

namespace TradingEngine

open OrderManagerCore

variable {Text : Type*}

/-- The requests that a request depends on, according to the history. -/
def targetsOf (log : List (LogEntry Text)) (requestId : ℕ) : List ℕ :=
  log.filterMap fun entry ↦
    match entry with
    | .accepted id (some target) => if id = requestId then some target else none
    | .accepted _ none | .sent _ _ | .applied _ _ => none

/-- Whenever a request was sent, the requests it depends on had been sent. The newest entry comes
first. -/
def CausallyOrdered : List (LogEntry Text) → Prop
  | [] => True
  | .sent requestId _ :: older =>
    (∀ target ∈ targetsOf older requestId, SentIn older target) ∧ CausallyOrdered older
  | .accepted _ _ :: older | .applied _ _ :: older => CausallyOrdered older

theorem targetsOf_accepted_of_ne (log : List (LogEntry Text)) {id requestId : ℕ} (target : Option ℕ)
    (h : id ≠ requestId) :
    targetsOf (.accepted id target :: log) requestId = targetsOf log requestId := by
  cases target with
  | none => rfl
  | some target => simp [targetsOf, h]

namespace OrderManager

variable {τ σ : Type*} {config : OrderManagerConfig Text τ σ} {s s' : OrderManager Text τ σ}
  {input : OrderManagerInput} {transport : τ} {sink : σ}

/-! ## The condition -/

/-- The intent that the next step of the worker drops. -/
def drops (config : OrderManagerConfig Text τ σ) (s : OrderManager Text τ σ) :
    Option PendingIntent :=
  match s.worker with
  | .draining (pending :: _) => if s.globalAllows pending then none else some pending
  | .gated pending _ => if s.portfolioAllows config pending then none else some pending
  | .cleared pending _ => if s.sends config pending then none else some pending
  | .draining [] | .notJoinable | .loop | .polling | .pumping | .exited => none

/-- The call that enters the line with this step. -/
def joins (s : OrderManager Text τ σ) : OrderManagerInput → Option PendingIntent
  | .submitEnqueue thread => (s.submits.lookup thread).bind SubmitCall.pending
  | _ => none

/-- A step that keeps dependent requests behind their targets: what enters the line finds its
targets in the line or sent, and what the worker drops is no target of a request in the line. -/
def KeepsLine (config : OrderManagerConfig Text τ σ) (s : OrderManager Text τ σ)
    (input : OrderManagerInput) : Prop :=
  (∀ pending ∈ s.joins input, ∀ target ∈ targetsOf s.log pending.requestId,
    s.Sent target ∨ ∃ ahead ∈ s.waiting, ahead.requestId = target) ∧
  (input.isWorker = true → ∀ dropped ∈ s.drops config, ∀ pending ∈ s.waiting,
    dropped.requestId ∉ targetsOf s.log pending.requestId)

instance (config : OrderManagerConfig Text τ σ) (s : OrderManager Text τ σ)
    (input : OrderManagerInput) : Decidable (s.KeepsLine config input) :=
  inferInstanceAs (Decidable ((∀ pending ∈ s.joins input, _) ∧
    (_ → ∀ dropped ∈ s.drops config, _)))

theorem drops_of_settles {pending : PendingIntent} (h : Settles config s s' pending) :
    s'.Sent pending.requestId ∨ s.drops config = some pending := by
  cases h with
  | rejected hrefused _ =>
    refine .inr ?_
    obtain ⟨hworker, hrefused⟩ | ⟨hworker, hrefused⟩ := hrefused
    · simp [drops, hworker, hrefused]
    · simp [drops, hworker, hrefused]
  | sent _ _ _ hlog =>
    rw [Sent, hlog]
    exact .inl (sentIn_cons.mpr (.inl rfl))
  | unsent hworker hfailed _ _ => exact .inr (by simp [drops, hworker, hfailed])

/-! ## The invariant -/

/-- Every request in the line has its targets sent or ahead of it. -/
def LineOrdered (s : OrderManager Text τ σ) : Prop :=
  ∀ ahead pending behind, s.waiting = ahead ++ pending :: behind →
    ∀ target ∈ targetsOf s.log pending.requestId,
      s.Sent target ∨ ∃ other ∈ ahead, other.requestId = target

/-- What a waiting request depends on was settled when it was accepted. -/
theorem targetsOf_of_effect (hwf : s.WellFormed) (h : Effect config s input s')
    {pending : PendingIntent} (hunsettled : s.Unsettled pending) :
    targetsOf s'.log pending.requestId = targetsOf s.log pending.requestId := by
  obtain hlog | ⟨_, _, hcall, _, hlog⟩ | ⟨_, _, _, _, _, _, _, hlog⟩ | ⟨_, _, _, _, hlog⟩ :=
    log_cases h
  · rw [hlog]
  · -- only an acceptance names targets, and it is about another request
    rw [hlog, targetsOf_accepted_of_ne]
    exact (hwf.ne_of_unsettled hcall hunsettled).symm
  · rw [hlog]
    rfl
  · rw [hlog]
    rfl

theorem lineOrdered_of_effect (hwf : s.WellFormed) (hs : s.LineOrdered)
    (hok : s.KeepsLine config input) (h : Effect config s input s') : s'.LineOrdered := by
  intro ahead pending behind hline target htarget
  obtain ⟨hkept, _⟩ | ⟨thread, joined, hinput, hcall, _, hpush, _, hlog⟩ |
    ⟨now, head, hinput, hpop, _, hsettles⟩ := waiting_cases h
  · have hline' : s.waiting = ahead ++ pending :: behind := hkept ▸ hline
    have hunsettled : s.Unsettled pending := .inl (by rw [hline']; simp)
    rw [targetsOf_of_effect hwf h hunsettled] at htarget
    exact (hs ahead pending behind hline' target htarget).imp_left (sent_of_effect h)
  · -- either it is the request that has just joined, or the line in front of that is as it was
    rw [hlog] at htarget
    rw [hpush] at hline
    obtain rfl | ⟨front, last, rfl⟩ := List.eq_nil_or_concat behind
    · obtain ⟨hahead, hjoined⟩ := List.append_inj' hline rfl
      obtain rfl : joined = pending := (List.cons.inj hjoined).1
      have hjoins : s.joins input = some joined := by rw [hinput, joins, hcall]; rfl
      have htargets := hok.1 joined hjoins target htarget
      exact hahead ▸ htargets.imp_left (sent_of_effect h)
    · rw [List.concat_eq_append, ← List.cons_append, ← List.append_assoc] at hline
      obtain ⟨hline, _⟩ := List.append_inj' hline rfl
      exact (hs ahead pending front hline target htarget).imp_left (sent_of_effect h)
  · -- the first of the line is gone, so everybody else had one more ahead
    have hline' : s.waiting = (head :: ahead) ++ pending :: behind := by
      rw [hpop, hline, List.cons_append]
    have hwaiting : pending ∈ s.waiting := by rw [hline']; simp
    rw [targetsOf_of_effect hwf h (.inl hwaiting)] at htarget
    obtain hsent | ⟨other, hother, hid⟩ := hs (head :: ahead) pending behind hline' target htarget
    · exact .inl (sent_of_effect h hsent)
    · obtain rfl | hother := List.mem_cons.mp hother
      · -- the target was first in line: it is sent now, for it may not be dropped
        obtain hsent | hdrops := drops_of_settles hsettles
        · exact .inl (hid ▸ hsent)
        · have hdropped := hok.2 (by rw [hinput]; rfl) other hdrops pending hwaiting
          rw [hid] at hdropped
          exact absurd htarget hdropped
      · exact .inr ⟨other, hother, hid⟩

/-- **What is sent is in causal order**, in every run in which a dependent request enters the line
behind its targets and no target of a waiting request is dropped. -/
theorem causallyOrdered_of_reaches
    (h : (machine config).ReachesVia (KeepsLine config) (init config transport sink) s) :
    CausallyOrdered s.log := by
  have hinv : CausallyOrdered s.log ∧ s.LineOrdered := by
    refine invariant_of_effect (P := fun s ↦ CausallyOrdered s.log ∧ s.LineOrdered) ?_ ?_ h
    · refine ⟨trivial, fun ahead pending behind hline ↦ ?_⟩
      cases ahead <;> cases hline
    · rintro s s' input hwf ⟨hlog, hline⟩ hok heffect
      refine ⟨?_, lineOrdered_of_effect hwf hline hok heffect⟩
      obtain hsame | ⟨_, _, _, _, hnew⟩ | ⟨pending, _, _, _, _, _, hpop, hnew⟩ |
        ⟨_, _, _, _, hnew⟩ := log_cases heffect
      · exact hsame ▸ hlog
      · exact hnew ▸ hlog
      · -- the request that is sent was first in line, with nobody ahead of it
        rw [hnew]
        refine ⟨fun target htarget ↦ ?_, hlog⟩
        obtain hsent | ⟨_, hnone, _⟩ := hline [] pending s'.waiting hpop target htarget
        · exact hsent
        · exact absurd hnone (by simp)
      · exact hnew ▸ hlog
  exact hinv.1

/-- A cancel that acts on the order `target`. -/
def cancelIntent (clientOrderId target : String) : OrderIntent where
  exchange := .kalshi
  action := .cancel
  clientOrderId := clientOrderId
  targetClientOrderId := some target

open Trader in
/-- A place and its cancel, one after the other. -/
theorem causallyOrdered_place_cancel :
    ∃ s, (machine unlimited).ReachesVia (KeepsLine unlimited) (init unlimited {} {}) s ∧
      s.Sent 1 ∧ s.Sent 2 ∧ targetsOf s.log 2 = [1] ∧ CausallyOrdered s.log := by
  have hrun : ∃ s, (machine unlimited).runVia (KeepsLine unlimited) (init unlimited {} {})
      ([.start] ++ submit 0 (placeIntent "c1" "KXBTC-YES" .buy 10 40)
        ++ submit 1 (cancelIntent "c2" "c1") ++ drain 2) = some s ∧
      s.Sent 1 ∧ s.Sent 2 ∧ targetsOf s.log 2 = [1] :=
    ⟨_, rfl, by decide, by decide, by decide⟩
  obtain ⟨s, hrun, hsent₁, hsent₂, htargets⟩ := hrun
  have hreaches := Machine.reachesVia_of_runVia hrun
  exact ⟨s, hreaches, hsent₁, hsent₂, htargets, causallyOrdered_of_reaches hreaches⟩

open Trader in
/-- A place that cannot be encoded, and its cancel: only the cancel goes out. -/
theorem cancel_sent_without_place :
    ∃ s, (machine unlimited).Reaches (init unlimited {} {}) s ∧ s.Sent 2 ∧
      targetsOf s.log 2 = [1] ∧ ¬s.Sent 1 ∧ ¬CausallyOrdered s.log := by
  have hrun : ∃ s, (machine unlimited).runVia (fun _ _ ↦ True) (init unlimited {} {})
      ([.start] ++ submit 0 { placeIntent "c1" "KXBTC-YES" .buy 10 40 with limitPriceTicks := none }
        ++ submit 1 (cancelIntent "c2" "c1") ++ drain 2) = some s ∧
      ∃ payload, s.log = [.sent 2 payload, .accepted 2 (some 1), .accepted 1 none] :=
    ⟨_, rfl, _, rfl⟩
  obtain ⟨s, hrun, payload, hlog⟩ := hrun
  refine ⟨s, Machine.reachesVia_of_runVia hrun, ?_, ?_, ?_, ?_⟩
  · rw [Sent, hlog]
    exact ⟨_, List.mem_cons_self, rfl⟩
  · rw [hlog]
    rfl
  · rw [Sent, hlog]
    rintro ⟨entry, hentry, hid⟩
    simp only [List.mem_cons, List.not_mem_nil, or_false] at hentry
    obtain rfl | rfl | rfl := hentry <;> cases hid
  · rw [hlog]
    rintro ⟨hordered, _⟩
    exact absurd (hordered 1 List.mem_cons_self)
      (by simp [SentIn, LogEntry.sentId, LogEntry.sentRequest])

end OrderManager

end TradingEngine
