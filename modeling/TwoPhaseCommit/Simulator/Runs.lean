import TwoPhaseCommit.Simulator.StepProperties
import TwoPhaseCommit.Library.TransitionSystem

/-! Runs of the simulator: external events enqueued at any point, and steps in
between. The states inside the loops of `run` and `drain` are states of a run. -/

set_option autoImplicit false

namespace TwoPhaseCommit

/-- The arguments of `Simulator::new`. -/
structure Setup where
  nParticipants : UInt8
  seed : UInt64
  abortBias : ℚ
  participantAbortBias : ℚ
  deliveryDelay : DelayRange
  retransmitTimeout : Nat

namespace Setup

variable {ρ : Type} [ChaCha8Rng ρ]

def simulator (setup : Setup) : Simulator ρ :=
  Simulator.new setup.nParticipants setup.seed setup.abortBias setup.participantAbortBias
    setup.deliveryDelay setup.retransmitTimeout

def nodes (setup : Setup) : List NodeId := Simulator.nodeIds setup.nParticipants

end Setup

namespace Simulator

variable {ρ : Type} [ChaCha8Rng ρ]

/-- Which external events may be enqueued in a state, and for which time. -/
abbrev Environment (ρ : Type) := Simulator ρ → ExternalEvent → Nat → Prop

def anyEnvironment : Environment ρ := fun _ _ _ => True

/-- One public call, or one round of the loop in `drain` up to its next step. -/
inductive Next (environment : Environment ρ) (state : Simulator ρ) : Simulator ρ → Prop where
  | enqueueExternal {event : ExternalEvent} {atTime : Nat} :
      environment state event atTime →
      Next environment state (state.enqueueExternal event atTime)
  | step {stepped : Bool} {after : Simulator ρ} :
      state.step = .ok (stepped, after) → Next environment state after
  | injectProbe :
      state.eventQueue.isEmpty = true → Next environment state state.injectProbe

def system (setup : Setup) (environment : Environment ρ) :
    Library.TransitionSystem (Simulator ρ) where
  initial state := state = setup.simulator
  next := Next environment

def enqueueAll (state : Simulator ρ) (schedule : List (ExternalEvent × Nat)) : Simulator ρ :=
  schedule.foldl (fun state (event, atTime) => state.enqueueExternal event atTime) state

variable {setup : Setup} {environment : Environment ρ} {state after : Simulator ρ}

theorem steps_preserve {property : Simulator ρ → Prop}
    (preserved : ∀ {before later : Simulator ρ}, property before →
      Next environment before later → property later)
    (path : (system setup environment).Steps state after) (holds : property state) :
    property after :=
  Library.TransitionSystem.Steps.preserves preserved path holds

theorem isEmpty_of_step (stopped : state.step = .ok (false, after)) :
    state.eventQueue.isEmpty = true ∧ after = state := by
  obtain ⟨_, drained, same⟩ | ⟨stepped, _⟩ := step_stepped stopped
  · exact ⟨EventQueue.isEmpty_iff.mpr drained, same⟩
  · cases stepped

theorem run_steps {fuel : Nat} (ran : run fuel state = .ok (some after)) :
    (system setup environment).Steps state after := by
  induction fuel generalizing state with
  | zero => cases ran
  | succ fuel ih =>
      obtain ⟨⟨stepped, middle⟩, first, rest⟩ := bind_ok ran
      have path : (system setup environment).Steps state middle := .single (.step first)
      cases stepped with
      | true => exact path.trans (ih rest)
      | false =>
          cases rest
          exact path

theorem run_mono {fuel more : Nat} (ran : run fuel state = .ok (some after))
    (enough : fuel ≤ more) : run more state = .ok (some after) := by
  induction fuel generalizing state more with
  | zero => cases ran
  | succ fuel ih =>
      cases more with
      | zero => cases enough
      | succ more =>
          obtain ⟨⟨stepped, middle⟩, first, rest⟩ := bind_ok ran
          rw [run, first]
          cases stepped with
          | true => exact ih rest (Nat.le_of_succ_le_succ enough)
          | false => exact rest

theorem drainLoop_steps {rounds consecutiveEmpty : Nat} {quiescent : Bool}
    (drained : drainLoop rounds consecutiveEmpty state = .ok (quiescent, after)) :
    (system setup environment).Steps state after := by
  induction rounds generalizing consecutiveEmpty state with
  | zero =>
      cases drained
      exact .refl
  | succ rounds ih =>
      obtain ⟨⟨stepped, middle⟩, first, rest⟩ := bind_ok drained
      have path : (system setup environment).Steps state middle := .single (.step first)
      cases stepped with
      | true =>
          simp only [↓reduceIte] at rest
          split at rest
          · cases rest
            exact path
          · exact path.trans (ih rest)
      | false =>
          obtain ⟨empty, rfl⟩ := isEmpty_of_step first
          simp only [Bool.false_eq_true, ↓reduceIte] at rest
          split at rest
          · cases rest
            exact path
          · obtain ⟨⟨_, probed⟩, second, rest⟩ := bind_ok rest
            obtain ⟨⟨again, later⟩, third, rest⟩ := bind_ok rest
            have path : (system setup environment).Steps middle later :=
              .trans (.trans (.single (.injectProbe empty)) (.single (.step second)))
                (.single (.step third))
            dsimp only at rest
            split at rest
            · exact path.trans (ih rest)
            · split at rest
              · cases rest
                exact path
              · exact path.trans (ih rest)

theorem drain_steps {maxRounds : Nat} {quiescent : Bool}
    (drained : state.drain maxRounds = .ok (quiescent, after)) :
    (system setup environment).Steps state after :=
  drainLoop_steps drained

theorem enqueueAll_steps {schedule : List (ExternalEvent × Nat)} :
    (system setup anyEnvironment).Steps state (state.enqueueAll schedule) := by
  induction schedule generalizing state with
  | nil => exact .refl
  | cons entry rest ih =>
      have first : Next anyEnvironment state (state.enqueueExternal entry.1 entry.2) :=
        .enqueueExternal trivial
      exact .trans (.single first) ih

/-- The state after a step, or the same one when the step panics. -/
def advance (state : Simulator ρ) : Simulator ρ :=
  match state.step with
  | .ok (_, after) => after
  | .error _ => state

theorem advance_next : state.advance = state ∨ Next environment state state.advance := by
  unfold advance
  split
  · rename_i success
    exact .inr (.step success)
  · exact .inl rfl

theorem advance_steps : (system setup environment).Steps state state.advance := by
  have either : state.advance = state ∨ Next environment state state.advance := advance_next
  rcases either with same | next
  · rw [same]
    exact .refl
  · exact .single next

/-- The run that enqueues the schedule and then only steps. -/
def scheduledRun (setup : Setup) (schedule : List (ExternalEvent × Nat)) : Nat → Simulator ρ
  | 0 => setup.simulator
  | index + 1 =>
      match schedule[index]? with
      | some (event, atTime) => (scheduledRun setup schedule index).enqueueExternal event atTime
      | none => (scheduledRun setup schedule index).advance

theorem scheduledRun_next (setup : Setup) (schedule : List (ExternalEvent × Nat)) (index : Nat) :
    scheduledRun (ρ := ρ) setup schedule (index + 1) = scheduledRun setup schedule index ∨
      Next anyEnvironment (scheduledRun (ρ := ρ) setup schedule index)
        (scheduledRun setup schedule (index + 1)) := by
  rw [scheduledRun]
  split
  · exact .inr (.enqueueExternal trivial)
  · exact advance_next

/-- The schedule, enqueued at once, runs to an end within the fuel, and the state
that is left passes the test. -/
def runEndsIn (setup : Setup) (schedule : List (ExternalEvent × Nat)) (fuel : Nat)
    (test : Simulator ρ → Bool) : Bool :=
  match (setup.simulator.enqueueAll schedule).run fuel with
  | .ok (some state) => test state
  | .ok none | .error _ => false

theorem exists_run_of_runEndsIn {schedule : List (ExternalEvent × Nat)} {fuel : Nat}
    {test : Simulator ρ → Bool} (ended : runEndsIn setup schedule fuel test = true) :
    ∃ state, run fuel (setup.simulator.enqueueAll schedule) = .ok (some state) ∧
      test state = true := by
  unfold runEndsIn at ended
  split at ended
  · rename_i state ran
    exact ⟨state, ran, ended⟩
  · cases ended
  · cases ended

theorem reachable_of_runEndsIn {schedule : List (ExternalEvent × Nat)} {fuel : Nat}
    {test : Simulator ρ → Bool} (ended : runEndsIn setup schedule fuel test = true) :
    ∃ state, (system setup anyEnvironment).Reachable state ∧ test state = true := by
  obtain ⟨state, ran, passed⟩ := exists_run_of_runEndsIn ended
  exact ⟨state, ⟨_, rfl, .trans enqueueAll_steps (run_steps ran)⟩, passed⟩

end Simulator

/-- A setup of two participants in which every vote is for Commit. -/
def Setup.unanimous : Setup where
  nParticipants := 2
  seed := 0
  abortBias := 0
  participantAbortBias := 0
  deliveryDelay := { start := 0, stop := 1 }
  retransmitTimeout := 5

/-- A setup of two participants that both vote Abort. -/
def Setup.objecting : Setup :=
  { Setup.unanimous with participantAbortBias := 1 }

/-- A setup in which every message takes three units of time. -/
def Setup.slow : Setup :=
  { Setup.unanimous with
    deliveryDelay := { start := 2, stop := 3 }
    retransmitTimeout := 11 }

/-- The coordinator loses the votes in a crash and asks again once it has recovered. -/
def Setup.interruption : List (ExternalEvent × Nat) :=
  [(.startTransaction, 0), (.crash .coordinator, 2), (.recover .coordinator, 3), (.tickAll, 9)]

end TwoPhaseCommit
