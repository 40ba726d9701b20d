import Mathlib.Logic.Relation
import Mathlib.Tactic.Common

/-! Transition systems, their inductive invariants, and simulations in which one
concrete step is matched by finitely many abstract steps. -/

set_option autoImplicit false

namespace Library

structure TransitionSystem (σ : Type) where
  initial : σ → Prop
  next : σ → σ → Prop

namespace TransitionSystem

variable {σ τ : Type}

def Steps (system : TransitionSystem σ) : σ → σ → Prop :=
  Relation.ReflTransGen system.next

def Reachable (system : TransitionSystem σ) (state : σ) : Prop :=
  ∃ start, system.initial start ∧ system.Steps start state

section Steps

variable {system : TransitionSystem σ}

theorem Steps.refl {state : σ} : system.Steps state state := Relation.ReflTransGen.refl

theorem Steps.single {state after : σ} (step : system.next state after) :
    system.Steps state after :=
  Relation.ReflTransGen.single step

theorem Steps.trans {first second third : σ} (before : system.Steps first second)
    (after : system.Steps second third) : system.Steps first third :=
  Relation.ReflTransGen.trans before after

/-- What every step preserves is preserved by every run. -/
theorem Steps.preserves {property : σ → Prop}
    (preserved : ∀ {state after : σ}, property state → system.next state after → property after)
    {state after : σ} (path : system.Steps state after) (holds : property state) :
    property after := by
  induction path with
  | refl => exact holds
  | tail _ step ih => exact preserved ih step

/-- A transitive and reflexive relation that contains every step between states
with an inductive property contains every run between them. -/
theorem Steps.relates (property : σ → Prop) (relation : σ → σ → Prop)
    (preserved : ∀ {state after : σ}, property state → system.next state after → property after)
    (reflexive : ∀ state, relation state state)
    (transitive : ∀ {first second third : σ},
      relation first second → relation second third → relation first third)
    (contained : ∀ {state after : σ}, property state → system.next state after →
      relation state after)
    {state after : σ} (path : system.Steps state after) (holds : property state) :
    relation state after := by
  induction path with
  | refl => exact reflexive _
  | tail before step ih =>
      exact transitive ih (contained (Steps.preserves preserved before holds) step)

end Steps

/-- A predicate that holds initially and is preserved by every step. -/
structure Invariant (system : TransitionSystem σ) (holds : σ → Prop) : Prop where
  initial : ∀ {state}, system.initial state → holds state
  next : ∀ {state after}, holds state → system.next state after → holds after

theorem Invariant.reachable {system : TransitionSystem σ} {holds : σ → Prop}
    (invariant : system.Invariant holds) {state : σ} (reachable : system.Reachable state) :
    holds state := by
  obtain ⟨start, initial, path⟩ := reachable
  exact path.preserves invariant.next (invariant.initial initial)

/-- The concrete system maps into the abstract one along `view`: under an
invariant, every concrete step is a finite abstract run between the views. -/
structure Refinement (concrete : TransitionSystem σ) (abstract : TransitionSystem τ)
    (view : σ → τ) (property : σ → Prop) : Prop where
  initial : ∀ {state}, concrete.initial state → abstract.initial (view state)
  invariant : concrete.Invariant property
  next : ∀ {state after}, property state → concrete.next state after →
    abstract.Steps (view state) (view after)

/-- A forward simulation: related states stay related when the abstract system
answers every concrete step with a finite run. -/
structure Simulation (concrete : TransitionSystem σ) (abstract : TransitionSystem τ)
    (related : σ → τ → Prop) : Prop where
  initial : ∀ {state}, concrete.initial state →
    ∃ image, abstract.initial image ∧ related state image
  next : ∀ {state after image}, related state image → concrete.next state after →
    ∃ answer, abstract.Steps image answer ∧ related after answer

theorem Simulation.steps {concrete : TransitionSystem σ} {abstract : TransitionSystem τ}
    {related : σ → τ → Prop} (simulation : Simulation concrete abstract related)
    {state after : σ} {image : τ} (linked : related state image)
    (path : concrete.Steps state after) :
    ∃ answer, abstract.Steps image answer ∧ related after answer := by
  induction path with
  | refl => exact ⟨image, .refl, linked⟩
  | tail _ step ih =>
      obtain ⟨middle, before, linked⟩ := ih
      obtain ⟨answer, later, linked⟩ := simulation.next linked step
      exact ⟨answer, before.trans later, linked⟩

namespace Refinement

variable {concrete : TransitionSystem σ} {abstract : TransitionSystem τ} {view : σ → τ}
  {property : σ → Prop}

theorem steps (refinement : Refinement concrete abstract view property) {state after : σ}
    (holds : property state) (path : concrete.Steps state after) :
    abstract.Steps (view state) (view after) :=
  Steps.relates property (fun state after => abstract.Steps (view state) (view after))
    refinement.invariant.next (fun _ => .refl) Steps.trans refinement.next path holds

theorem simulation {υ : Type} {final : TransitionSystem υ} {related : τ → υ → Prop}
    (refinement : Refinement concrete abstract view property)
    (simulation : Simulation abstract final related) :
    Simulation concrete final fun state image => property state ∧ related (view state) image where
  initial := by
    intro state started
    obtain ⟨image, initial, linked⟩ := simulation.initial (refinement.initial started)
    exact ⟨image, initial, refinement.invariant.initial started, linked⟩
  next := by
    intro state after image related step
    obtain ⟨holds, linked⟩ := related
    obtain ⟨answer, path, linked⟩ := simulation.steps linked (refinement.next holds step)
    exact ⟨answer, path, refinement.invariant.next holds step, linked⟩

end Refinement

namespace Simulation

variable {concrete : TransitionSystem σ} {abstract : TransitionSystem τ} {related : σ → τ → Prop}

/-- A run of the concrete system, which may also stutter, has one abstract run
that stays related to it after every step. -/
theorem trace (simulation : Simulation concrete abstract related) {run : Nat → σ}
    (initial : concrete.initial (run 0))
    (steps : ∀ index, run (index + 1) = run index ∨ concrete.next (run index) (run (index + 1))) :
    ∃ image : Nat → τ, abstract.initial (image 0) ∧
      (∀ index, abstract.Steps (image index) (image (index + 1))) ∧
      ∀ index, related (run index) (image index) := by
  obtain ⟨start, started, linked⟩ := simulation.initial initial
  have answers : ∀ (index : Nat) (current : {state : τ // related (run index) state}),
      ∃ answer : {state : τ // related (run (index + 1)) state},
        abstract.Steps current.1 answer.1 := by
    intro index reached
    obtain ⟨current, linked⟩ := reached
    rcases steps index with same | step
    · exact ⟨⟨current, same ▸ linked⟩, .refl⟩
    · obtain ⟨answer, path, final⟩ := simulation.next linked step
      exact ⟨⟨answer, final⟩, path⟩
  choose answer path using answers
  let image : (index : Nat) → {state : τ // related (run index) state} :=
    fun index => Nat.rec ⟨start, linked⟩ answer index
  exact ⟨fun index => (image index).1, started, fun index => path index (image index),
    fun index => (image index).2⟩

end Simulation

/-! ## Finite runs laid end to end -/

section Executions

variable {next : σ → σ → Prop}

/-- A run as a function of time, of at least one step where steps may stutter. -/
theorem exists_path (stutter : ∀ state, next state state) {first last : σ}
    (run : Relation.ReflTransGen next first last) :
    ∃ (length : Nat) (path : Nat → σ), 0 < length ∧ path 0 = first ∧ path length = last ∧
      ∀ time < length, next (path time) (path (time + 1)) := by
  induction run with
  | refl => exact ⟨1, fun _ => first, Nat.one_pos, rfl, rfl, fun _ _ => stutter first⟩
  | @tail middle last _ step ih =>
      obtain ⟨length, path, positive, start, reached, steps⟩ := ih
      refine ⟨length + 1, fun time => if time ≤ length then path time else last, by omega,
        by simpa using start, if_neg (by omega), fun time before => ?_⟩
      by_cases inside : time < length
      · simpa [show time ≤ length by omega, show time + 1 ≤ length by omega] using
          steps time inside
      · obtain rfl : time = length := by omega
        simpa [reached, show ¬ time + 1 ≤ time by omega] using step

/-- Which run is under way at a time, and how far it has come. -/
def cursor (length : Nat → Nat) : Nat → Nat × Nat
  | 0 => (0, 0)
  | time + 1 =>
      let (index, offset) := cursor length time
      if offset + 1 < length index then (index, offset + 1) else (index + 1, 0)

def position (length : Nat → Nat) : Nat → Nat
  | 0 => 0
  | index + 1 => position length index + length index

section Cursor

variable {length : Nat → Nat} (positive : ∀ index, 0 < length index)

include positive in
theorem cursor_inside (time : Nat) : (cursor length time).2 < length (cursor length time).1 := by
  induction time with
  | zero => exact positive 0
  | succ time ih =>
      simp only [cursor]
      split
      · assumption
      · exact positive _

theorem cursor_add {time index : Nat} (begins : cursor length time = (index, 0)) (offset : Nat)
    (before : offset < length index) : cursor length (time + offset) = (index, offset) := by
  induction offset with
  | zero => exact begins
  | succ offset ih =>
      rw [← Nat.add_assoc, cursor, ih (by omega)]
      exact if_pos before

include positive in
theorem cursor_position (index : Nat) : cursor length (position length index) = (index, 0) := by
  induction index with
  | zero => rfl
  | succ index ih =>
      have positive := positive index
      have final := cursor_add ih (length index - 1) (by omega)
      rw [position, show position length index + length index =
        position length index + (length index - 1) + 1 by omega, cursor, final]
      exact if_neg (by omega)

end Cursor

/-- Infinitely many finite runs, each from where the one before ended, are one
infinite execution that passes through all their ends. -/
theorem exists_execution (stutter : ∀ state, next state state) {ends : Nat → σ}
    (runs : ∀ index, Relation.ReflTransGen next (ends index) (ends (index + 1))) :
    ∃ (trace : Nat → σ) (position : Nat → Nat), position 0 = 0 ∧
      (∀ index, position index < position (index + 1)) ∧
      (∀ index, trace (position index) = ends index) ∧
      ∀ time, next (trace time) (trace (time + 1)) := by
  choose length path positive start reached steps using
    fun index => exists_path stutter (runs index)
  refine ⟨fun time => path (cursor length time).1 (cursor length time).2, position length, rfl,
    fun index => Nat.lt_add_of_pos_right (positive index), fun index => ?_, fun time => ?_⟩
  · simp only [cursor_position positive, start]
  · have inside := cursor_inside positive time
    have step := steps _ _ inside
    simp only [cursor]
    split
    · exact step
    · rename_i complete
      have last : (cursor length time).2 + 1 = length (cursor length time).1 := by omega
      simpa only [last, reached, start] using step

end Executions

end TransitionSystem

end Library
