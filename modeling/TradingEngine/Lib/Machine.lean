import Mathlib.Logic.Basic

/-!
# Executable machines and the states they reach

A machine is a partial step function: an input that is not enabled in a state has no successor.
Runs are described by a predicate `ok` on the state before a step and the input of the step, so
that "every run whose steps all meet a condition" is a notion of its own and not a hypothesis to
be threaded through every induction.

The one induction principle is `ReachesVia.invariant`. Its step hypothesis may use that the state
before the step was itself reached, which is how an invariant is proved on top of another.
-/

/-- A partial step function on states, driven by inputs. -/
structure Machine (σ ι : Type*) where
  /-- The successor state, or `none` when the input is not enabled. -/
  step : σ → ι → Option σ

namespace Machine

variable {σ ι : Type*} (M : Machine σ ι) {ok ok' : σ → ι → Prop} {s₀ s s' : σ}

/-- The states reached from `s₀` by steps that all meet `ok`. -/
inductive ReachesVia (ok : σ → ι → Prop) (s₀ : σ) : σ → Prop
  | refl : ReachesVia ok s₀ s₀
  | tail {s s' : σ} {i : ι} (hs : ReachesVia ok s₀ s) (hok : ok s i)
      (hstep : M.step s i = some s') : ReachesVia ok s₀ s'

/-- The states reached from `s₀` by any steps. -/
abbrev Reaches (s₀ s : σ) : Prop := M.ReachesVia (fun _ _ ↦ True) s₀ s

/-- Run a list of inputs, checking the condition before every step. -/
def runVia (ok : σ → ι → Prop) [∀ s i, Decidable (ok s i)] (s : σ) : List ι → Option σ
  | [] => some s
  | i :: is => if ok s i then (M.step s i).bind fun s' ↦ runVia ok s' is else none

/-- Run a list of inputs. -/
def run (s : σ) : List ι → Option σ
  | [] => some s
  | i :: is => (M.step s i).bind fun s' ↦ run s' is

variable {M}

/-- **The invariant rule.** What holds initially and is kept by every step that meets the
condition holds in every state reached. -/
theorem ReachesVia.invariant {P : σ → Prop} (h0 : P s₀)
    (hstep : ∀ {s i s'}, M.ReachesVia ok s₀ s → P s → ok s i → M.step s i = some s' → P s')
    (h : M.ReachesVia ok s₀ s) : P s := by
  induction h with
  | refl => exact h0
  | tail hs hok hnext ih => exact hstep hs ih hok hnext

theorem ReachesVia.trans {s₁ : σ} (h₁ : M.ReachesVia ok s₀ s₁) (h₂ : M.ReachesVia ok s₁ s) :
    M.ReachesVia ok s₀ s := by
  induction h₂ with
  | refl => exact h₁
  | tail _ hok hnext ih => exact .tail ih hok hnext

/-- One step is a run. -/
theorem ReachesVia.single (i : ι) (hok : ok s i) (hstep : M.step s i = some s') :
    M.ReachesVia ok s s' := .tail .refl hok hstep

/-- A run that meets a condition is a run. -/
theorem ReachesVia.forget (h : M.ReachesVia ok s₀ s) : M.Reaches s₀ s := by
  induction h with
  | refl => exact .refl
  | tail _ _ hnext ih => exact .tail ih trivial hnext

/-- **The projection rule.** When every step of a machine is a run of another one, as far as `f` can
tell, a run of the machine is. -/
theorem ReachesVia.project {τ κ : Type*} {N : Machine τ κ} {okN : τ → κ → Prop} (f : σ → τ)
    (hstep : ∀ {s i s'}, M.ReachesVia ok s₀ s → ok s i → M.step s i = some s' →
      N.ReachesVia okN (f s) (f s'))
    (h : M.ReachesVia ok s₀ s) : N.ReachesVia okN (f s₀) (f s) := by
  induction h with
  | refl => exact .refl
  | tail hs hok hnext ih => exact ih.trans (hstep hs hok hnext)

/-- **The lifting rule.** When `f` turns the steps of a machine into those of another one, a run of
the other one from a state that `f` gives is what `f` makes of a run of the machine. -/
theorem ReachesVia.lift {τ : Type*} {N : Machine τ ι} {okN : τ → ι → Prop} {t : τ} (f : σ → τ)
    (hstep : ∀ s i, N.step (f s) i = (M.step s i).map f) (hok : ∀ s i, okN (f s) i → ok s i)
    (h : N.ReachesVia okN (f s₀) t) : ∃ s, M.ReachesVia ok s₀ s ∧ f s = t := by
  induction h with
  | refl => exact ⟨s₀, .refl, rfl⟩
  | tail _ hokN hnext ih =>
    obtain ⟨s, hs, rfl⟩ := ih
    rw [hstep] at hnext
    obtain ⟨s', hs', rfl⟩ := Option.map_eq_some_iff.mp hnext
    exact ⟨s', .tail hs (hok s _ hokN) hs', rfl⟩

/-- A checked run that goes through reaches its last state. -/
theorem reachesVia_of_runVia [∀ s i, Decidable (ok s i)] :
    ∀ {is : List ι} {s : σ}, M.runVia ok s is = some s' → M.ReachesVia ok s s' := by
  intro is
  induction is with
  | nil =>
    intro s h
    obtain rfl : s = s' := Option.some.inj h
    exact .refl
  | cons i is ih =>
    intro s h
    rw [runVia] at h
    -- the run goes on only where the condition holds and the input is enabled
    split at h
    · rename_i hok
      obtain ⟨t, hst, hrun⟩ := Option.bind_eq_some_iff.mp h
      exact (ReachesVia.tail .refl hok hst).trans (ih hrun)
    · exact absurd h (by simp)

/-- The same for a property of the last state that is checked by evaluation. -/
theorem exists_of_runVia [∀ s i, Decidable (ok s i)] {is : List ι} {p : σ → Bool}
    (h : (M.runVia ok s is).any p = true) : ∃ s', M.ReachesVia ok s s' ∧ p s' = true := by
  obtain ⟨s', hrun, hp⟩ := (Option.any_eq_true p _).mp h
  exact ⟨s', reachesVia_of_runVia hrun, hp⟩

end Machine
