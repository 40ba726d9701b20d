import TwoPhaseCommit.TlaRefinement
import TwoPhaseCommit.Simulator.Safety

/-! Without an abort bias of the coordinator every run of the simulator is a
behaviour of the TLA+ specification, although that knows no crashes. -/

set_option autoImplicit false

namespace TwoPhaseCommit

open Protocol

def ParticipantPhase.tla : ParticipantPhase → Tla.Phase
  | .waiting => .waiting
  | .voted _ => .voted
  | .decided _ _ => .decided

namespace Simulator

variable {ρ : Type} [ChaCha8Rng ρ] {setup : Setup} {environment : Environment ρ}

/-- The TLA+ state shows the phase and the decision of every actor and, but for the
acknowledgements, the messages that were sent. `Prepare` it sends to all at once. -/
structure Realizes (setup : Setup) (state : Simulator ρ)
    (image : Tla.State (setup.policy ρ).Node) : Prop where
  participant : ∀ n, ∃ participant, state.participants[n.1]? = some participant ∧
    image.participantPhase n = participant.phase.tla ∧
    image.decision n = .ofDecision participant.decision
  coordinatorDecision : image.coordinatorDecision = .ofDecision state.coordinator.decision
  decided : image.coordinatorPhase = .done ↔ state.coordinator.decision ≠ none
  prepare : ∀ n, Message.prepare n.1 ∈ state.sentMessages → .prepare n ∈ image.messages
  vote : ∀ n cast, .vote n (Vote.tla cast) ∈ image.messages ↔
    Message.vote n.1 cast ∈ state.sentMessages
  decision : ∀ n decided, .decision n (Decision.tla decided) ∈ image.messages ↔
    Message.decision n.1 decided ∈ state.sentMessages

theorem Consistent.realizes {state : Simulator ρ} {image : Tla.State (setup.policy ρ).Node}
    (consistent : Consistent setup state) (follows : Follows (setup.policy ρ) state.view image) :
    Realizes setup state image := by
  obtain ⟨sound, phase, votes, timed, rfl⟩ := follows
  exact {
    participant := by
      intro n
      obtain ⟨participant, found⟩ := consistent.exists_participant n.2
      refine ⟨participant, found, ?_, ?_⟩
      · simp only [State.tla, State.participantPhase, consistent.view_vote found,
          consistent.view_learned found, Participant.vote, Participant.decision]
        cases participant.phase <;> rfl
      · simp only [State.tla, consistent.view_learned found]
    coordinatorDecision := by
      simp only [State.tla, consistent.view_decision]
    decided := by
      rw [← consistent.view_decision]
      constructor
      · intro done undecided
        obtain ⟨voting | ⟨waiting, _⟩, _⟩ := timed.undecided undecided
        · cases done.symm.trans voting
        · cases done.symm.trans waiting
      · exact timed.decided
    prepare := fun n sent => Carries.prepare n (timed.not_waiting sent)
    vote := fun n cast => (carries_vote_iff n).trans (sound.vote_sent n.1 cast).symm
    decision := fun n decided => (carries_decision_iff n).trans
      ((and_iff_right n.2).symm.trans (sound.decision_sent n.1 decided).symm) }

instance : Finite (setup.policy ρ).Node := by
  have members : {node | node ∈ setup.nodes}.Finite := List.finite_toSet setup.nodes
  exact members.to_subtype

theorem tla_execution [LawfulChaCha8Rng ρ] (unbiased : setup.abortBias = 0)
    {run : Nat → Simulator ρ} (started : run 0 = setup.simulator)
    (steps : ∀ index, run (index + 1) = run index ∨
      Next environment (run index) (run (index + 1))) :
    ∃ (behaviour : Nat → Tla.State (setup.policy ρ).Node) (position : Nat → Nat),
      Tla.Spec behaviour ∧ position 0 = 0 ∧
      (∀ index, position index < position (index + 1)) ∧
      ∀ index, Realizes setup (run index) (behaviour (position index)) := by
  have steadfast : ¬ (setup.policy ρ).mayAbort := by
    simpa [Setup.policy, unbiased] using Coordinator.not_mayAbort_zero (ρ := ρ)
  have simulation := (refinement setup environment).simulation
    (tla_simulation (setup.policy ρ) steadfast)
  obtain ⟨image, initial, paths, linked⟩ := simulation.trace started steps
  have runs : ∀ index, Relation.ReflTransGen (fun s s' => s' = s ∨ Tla.Next s s')
      (image index) (image (index + 1)) := fun index =>
    Relation.ReflTransGen.mono (fun _ _ step => .inr step) _ _ (paths index)
  obtain ⟨behaviour, position, start, grows, passes, next⟩ :=
    Library.TransitionSystem.exists_execution (by exact fun _ => .inl rfl) runs
  refine ⟨behaviour, position, ⟨?_, next⟩, start, grows, fun index => ?_⟩
  · rw [← start, passes]
    exact initial
  · rw [passes]
    exact (linked index).1.realizes (linked index).2

theorem tla_execution_unanimous :
    ∃ (behaviour : Nat → Tla.State (Setup.unanimous.policy ForcedRng).Node),
      Tla.Spec behaviour ∧ ∃ time, (behaviour time).coordinatorDecision = .commit := by
  obtain ⟨behaviour, position, spec, _, _, realizes⟩ := tla_execution
    rfl rfl (scheduledRun_next (ρ := ForcedRng) .unanimous Setup.interruption)
  refine ⟨behaviour, spec, position 30, (realizes 30).coordinatorDecision.trans ?_⟩
  decide +kernel

end Simulator

end TwoPhaseCommit
