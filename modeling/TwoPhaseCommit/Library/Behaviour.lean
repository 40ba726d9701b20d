import TwoPhaseCommit.Library.TransitionSystem
import Mathlib.Data.Nat.Count
import Mathlib.Logic.Function.Iterate
import Mathlib.Data.Set.Finite.Lattice

/-! Infinite behaviours of a transition system, in which a step may also change
nothing: weak fairness, termination by a measure, and the number of changes. -/

set_option autoImplicit false

namespace Library

namespace TransitionSystem

variable {σ : Type}

structure Behaviour (system : TransitionSystem σ) (run : Nat → σ) : Prop where
  initial : system.initial (run 0)
  next : ∀ time, run (time + 1) = run time ∨ system.next (run time) (run (time + 1))

/-- A step of the action that changes the state. -/
def Changing (action : σ → σ → Prop) (state after : σ) : Prop :=
  action state after ∧ after ≠ state

def Enabled (action : σ → σ → Prop) (state : σ) : Prop := ∃ after, action state after

/-- An action that can change the state at every time from some time on, does so at one of them. -/
def WeaklyFair (action : σ → σ → Prop) (run : Nat → σ) : Prop :=
  ∀ start, (∀ time, start ≤ time → Enabled (Changing action) (run time)) →
    ∃ time, start ≤ time ∧ Changing action (run time) (run (time + 1))

/-- A property of the times that is never lost again. -/
def Stable (property : Nat → Prop) : Prop := ∀ time, property time → property (time + 1)

theorem Stable.mono {property : Nat → Prop} (stable : Stable property) {first last : Nat}
    (later : first ≤ last) (holds : property first) : property last := by
  induction last, later using Nat.le_induction with
  | base => exact holds
  | succ last _ ih => exact stable last ih

/-- What holds at one time and not at a later one is left in between. -/
theorem exists_leaving (property : Nat → Prop) {first last : Nat} (later : first ≤ last)
    (holds : property first) (lost : ¬ property last) :
    ∃ time, first ≤ time ∧ property time ∧ ¬ property (time + 1) := by
  by_contra never
  push Not at never
  exact lost (Nat.le_induction holds never last later)

/-- Finitely many stable properties that each come to hold, come to hold together. -/
theorem eventually_forall {ι : Type} [Finite ι] {property : ι → Nat → Prop}
    (stable : ∀ index, Stable (property index))
    (eventually : ∀ index, ∃ time, property index time) :
    ∃ time, ∀ index, property index time := by
  choose time holds using eventually
  obtain ⟨bound, above⟩ := (Set.finite_range time).bddAbove
  exact ⟨bound, fun index => (stable index).mono (above ⟨index, rfl⟩) (holds index)⟩

/-- A run that deals with the elements of a finite type one after the other. -/
theorem Steps.sweep {system : TransitionSystem σ} {ι : Type} [Finite ι] (stage : Set ι → σ)
    (next : ∀ seen index, index ∉ seen → system.next (stage seen) (stage (insert index seen))) :
    system.Steps (stage ∅) (stage Set.univ) := by
  refine Set.Finite.induction_on (motive := fun seen _ => system.Steps (stage ∅) (stage seen))
    Set.univ Set.finite_univ .refl ?_
  intro index seen fresh _ path
  exact path.trans (.single (next seen index fresh))

/-- Every initial state begins a weakly fair behaviour: one that changes whenever it can. -/
theorem exists_weaklyFair (system : TransitionSystem σ) {start : σ}
    (initial : system.initial start) :
    ∃ run, run 0 = start ∧ system.Behaviour run ∧ WeaklyFair system.next run := by
  have answers : ∀ state, ∃ after, Enabled (Changing system.next) state →
      Changing system.next state after := by
    intro state
    by_cases enabled : Enabled (Changing system.next) state
    · obtain ⟨after, step⟩ := enabled
      exact ⟨after, fun _ => step⟩
    · exact ⟨state, fun able => absurd able enabled⟩
  choose answer changes using answers
  classical
  let advance := fun state =>
    if Enabled (Changing system.next) state then answer state else state
  refine ⟨fun time => advance^[time] start, rfl, ⟨initial, fun time => ?_⟩, fun first always => ?_⟩
  · simp only [Function.iterate_succ_apply', advance]
    split
    · rename_i enabled
      exact .inr (changes _ enabled).1
    · exact .inl rfl
  · refine ⟨first, le_rfl, ?_⟩
    have enabled := always first le_rfl
    simp only [Function.iterate_succ_apply', advance, if_pos enabled]
    exact changes _ enabled

namespace Behaviour

variable {system : TransitionSystem σ} {run : Nat → σ}

theorem steps (behaviour : system.Behaviour run) {first last : Nat} (later : first ≤ last) :
    system.Steps (run first) (run last) := by
  induction last, later using Nat.le_induction with
  | base => exact .refl
  | succ last _ ih =>
      rcases behaviour.next last with same | step
      · rwa [same]
      · exact ih.trans (.single step)

theorem reachable (behaviour : system.Behaviour run) (time : Nat) : system.Reachable (run time) :=
  ⟨run 0, behaviour.initial, behaviour.steps time.zero_le⟩

theorem invariant (behaviour : system.Behaviour run) {holds : σ → Prop}
    (invariant : system.Invariant holds) (time : Nat) : holds (run time) :=
  invariant.reachable (behaviour.reachable time)

/-- Whatever every step keeps is stable along a behaviour. -/
theorem stable (behaviour : system.Behaviour run) (property : σ → Prop)
    (kept : ∀ {state after : σ}, property state → system.next state after → property after) :
    Stable fun time => property (run time) := by
  intro time holds
  rcases behaviour.next time with same | step
  · rwa [same]
  · exact kept holds step

section Measure

variable {property : σ → Prop}

/-- A weakly fair behaviour whose steps all lower a measure reaches a state
that no step leaves. -/
theorem exists_disabled (behaviour : system.Behaviour run) (fair : WeaklyFair system.next run)
    (invariant : system.Invariant property) (measure : σ → Nat)
    (decreases : ∀ {state after : σ}, property state → system.next state after →
      measure after < measure state) :
    ∃ time, property (run time) ∧ ¬ Enabled system.next (run time) := by
  have changing : ∀ {state after : σ}, property state → system.next state after →
      Changing system.next state after := by
    intro state after holds step
    refine ⟨step, fun same => ?_⟩
    have smaller := decreases holds step
    exact absurd smaller (by simp [same])
  have falls : ∀ {first last : Nat}, first ≤ last → measure (run last) ≤ measure (run first) := by
    intro first last later
    induction last, later using Nat.le_induction with
    | base => exact le_rfl
    | succ last _ ih =>
        rcases behaviour.next last with same | step
        · rwa [same]
        · exact (decreases (behaviour.invariant invariant last) step).le.trans ih
  have below : ∀ bound start, measure (run start) ≤ bound →
      ∃ time, property (run time) ∧ ¬ Enabled system.next (run time) := by
    intro bound
    induction bound with
    | zero =>
        intro start low
        refine ⟨start, behaviour.invariant invariant start, fun enabled => ?_⟩
        obtain ⟨after, step⟩ := enabled
        have smaller := decreases (behaviour.invariant invariant start) step
        omega
    | succ bound ih =>
        intro start low
        by_cases always : ∀ time, start ≤ time → Enabled system.next (run time)
        · obtain ⟨time, later, step, _⟩ := fair start fun time later =>
            (always time later).imp fun _ step => changing (behaviour.invariant invariant time) step
          have smaller := decreases (behaviour.invariant invariant time) step
          have before := falls later
          exact ih (time + 1) (by omega)
        · push Not at always
          obtain ⟨time, _, disabled⟩ := always
          exact ⟨time, behaviour.invariant invariant time, disabled⟩
  exact below _ 0 le_rfl

open Classical in
/-- How often the state has changed before a time. -/
noncomputable def changes (run : Nat → σ) (time : Nat) : Nat :=
  Nat.count (fun earlier => run (earlier + 1) ≠ run earlier) time

/-- As many changes as a measure has grown that every step raises by one. -/
theorem changes_eq (behaviour : system.Behaviour run) (invariant : system.Invariant property)
    (measure : σ → Nat) (raises : ∀ {state after : σ}, property state → system.next state after →
      measure after = measure state + 1) (time : Nat) :
    changes run time + measure (run 0) = measure (run time) := by
  induction time with
  | zero => simp [changes]
  | succ time ih =>
      rw [changes, Nat.count_succ, ← changes]
      rcases behaviour.next time with same | step
      · simpa [same] using ih
      · have raised := raises (behaviour.invariant invariant time) step
        rw [if_pos (by intro same; simp [same] at raised)]
        omega

end Measure

end Behaviour

end TransitionSystem

end Library
