import TwoPhaseCommit.Simulator.Replay
import Mathlib.Algebra.Order.Ring.Rat

/-! An abort bias of one. Whether the coordinator or the participants are sure to object, no run
ever commits. -/

set_option autoImplicit false

namespace TwoPhaseCommit

theorem clamp_eq_one {bias : ℚ} (certain : 1 ≤ bias) : clamp bias 0 1 = 1 := by
  have above : ¬ bias < 0 := not_lt.mpr (le_trans zero_le_one certain)
  unfold clamp
  rw [if_neg above]
  split
  · rfl
  · rename_i below
    exact le_antisymm (not_lt.mp below) certain

variable {ρ : Type} [ChaCha8Rng ρ] [CertainChaCha8Rng ρ]

theorem Participant.coin_eq_abort {self : Participant ρ} (certain : 1 ≤ self.config.abortBias) :
    self.coin = .abort := by
  rw [coin, clamp_eq_one certain, CertainChaCha8Rng.randomBool_one, if_pos rfl]

namespace Coordinator

variable {self : Coordinator ρ} {msg : Message} {atTime : Nat}

/-- The vote that completes the tally meets the coin flip, and loses it. -/
private theorem receiveVote_abandons (certain : 1 ≤ self.config.abortBias) {last : Nat}
    {votes : Std.ExtTreeMap NodeId Vote} (phase : self.phase = .voting last votes)
    (sender : ActorId) (vote : Vote) :
    (self.receiveVote last votes sender vote atTime).1.decision ≠ some .commit := by
  have undecided : self.decision ≠ some .commit := by
    rw [decision, phase]
    exact fun same => by cases same
  unfold receiveVote
  cases sender with
  | coordinator => exact undecided
  | node node =>
      simp only
      split
      · exact undecided
      · simp only [tryDecide, clamp_eq_one certain, CertainChaCha8Rng.randomBool_one]
        split
        · simp [trySendDecision, decision, CoordinatorPhase.decision]
        · split
          · simp [trySendDecision, decision, CoordinatorPhase.decision]
          · simp [trySendDecision, decision, CoordinatorPhase.decision]

theorem receive_abandons (certain : 1 ≤ self.config.abortBias)
    (undecided : self.decision ≠ some .commit) :
    (self.receive msg atTime).1.decision ≠ some .commit := by
  unfold receive
  split
  · exact fun same => by cases same
  · rename_i phase
    exact receiveVote_abandons certain phase _ _
  · rename_i phase
    exact receiveVote_abandons certain phase _ _
  · rename_i verdict last acks _ phase
    have other : some verdict ≠ some Decision.commit := by
      rw [decision, phase] at undecided
      exact undecided
    unfold receiveAck
    cases msg.from with
    | coordinator => exact undecided
    | node node =>
        simp only
        split <;> exact other
  · exact undecided

omit [CertainChaCha8Rng ρ] in
theorem Ticked.abandons {after : Coordinator ρ} {outgoing : List Message}
    (ticked : Ticked self atTime after outgoing) (undecided : self.decision ≠ some .commit) :
    after.decision ≠ some .commit := by
  cases ticked with
  | idle _ | awaitsAcks _ _ => exact undecided
  | aborts _ _ | resendsPrepare _ _ | awaitsVotes _ _ => exact fun same => by cases same
  | sendsDecision phase | resendsDecision phase _ =>
      rw [decision, phase] at undecided
      exact undecided

private theorem onMessage_abandons (certain : 1 ≤ self.config.abortBias)
    (undecided : self.decision ≠ some .commit) :
    (self.onMessage msg atTime).1.decision ≠ some .commit := by
  have ticked := self.tick_ticked atTime
  have still : 1 ≤ (self.tick atTime).1.config.abortBias :=
    ticked.sameSetup.abortBias.symm ▸ certain
  exact receive_abandons still (ticked.abandons undecided)

/-- No sequence of calls makes a coordinator commit that is sure to object. -/
theorem run_abandons (certain : 1 ≤ self.config.abortBias)
    (durable : self.durableState.decision = self.decision)
    (undecided : self.decision ≠ some .commit) (calls : List Call) :
    (machine.run self calls).decision ≠ some .commit := by
  have preserved : 1 ≤ (machine.run self calls).config.abortBias ∧
      (machine.run self calls).durableState.decision = (machine.run self calls).decision ∧
      (machine.run self calls).decision ≠ some .commit := by
    apply Library.Machine.run_preserves fun state : Coordinator ρ =>
      1 ≤ state.config.abortBias ∧ state.durableState.decision = state.decision ∧
        state.decision ≠ some .commit
    · intro state call _ holds
      obtain ⟨certain, durable, undecided⟩ := holds
      have called := machine_called state call
      refine ⟨?_, (called.upholds durable).durable, ?_⟩
      · rw [called.sameSetup.abortBias]
        exact certain
      · cases call with
        | onMessage msg atTime => exact onMessage_abandons certain undecided
        | tick atTime => exact (state.tick_ticked atTime).abandons undecided
        | recover atTime =>
            change (state.recover atTime).decision ≠ some .commit
            rw [recover_decision _ durable]
            exact undecided
    · exact ⟨certain, durable, undecided⟩
  exact preserved.2.2

end Coordinator

namespace Simulator

variable {setup : Setup} {environment : Environment ρ} {state : Simulator ρ}

omit [CertainChaCha8Rng ρ] in
/-- Every participant starts with the bias of the setup. -/
theorem simulator_abortBias {node : NodeId} {origin : Participant ρ}
    (created : setup.simulator.participants[node]? = some origin) :
    origin.config.abortBias = setup.participantAbortBias := by
  obtain ⟨seed, rfl⟩ := simulator_participant created
  rfl

theorem undecided_of_coordinator (certain : 1 ≤ setup.abortBias)
    (reachable : (system setup environment).Reachable state) :
    state.coordinator.decision ≠ some .commit := by
  rw [(replay reachable).coordinator.state]
  apply Coordinator.run_abandons
  · exact certain
  · rfl
  · exact fun same => by cases same

theorem undecided_of_participants (certain : 1 ≤ setup.participantAbortBias)
    (participants : 1 ≤ setup.nParticipants)
    (reachable : (system setup environment).Reachable state) :
    state.coordinator.decision ≠ some .commit := by
  intro committed
  have consistent := consistent_of_reachable reachable
  obtain ⟨node, member⟩ := List.exists_mem_of_ne_nil _ (nodes_ne_nil participants)
  obtain ⟨origin, created⟩ := (simulator_consistent (ρ := ρ)).exists_participant member
  rw [← consistent.view_decision] at committed
  have coin := consistent.coin_of_vote (consistent.sound.unanimous committed node member) created
  rw [← simulator_abortBias created] at certain
  cases coin.symm.trans (Participant.coin_eq_abort certain)

/-- A bias of one forces the outcome: if the coordinator or the participants are sure to object,
nobody decides for Commit and no message says so, however the run goes. -/
theorem certain_abort (certain : 1 ≤ setup.abortBias ∨
      (1 ≤ setup.participantAbortBias ∧ 1 ≤ setup.nParticipants))
    (reachable : (system setup environment).Reachable state) :
    state.coordinator.decision ≠ some .commit ∧
      (∀ {node : NodeId} {participant : Participant ρ},
        state.participants[node]? = some participant → participant.decision ≠ some .commit) ∧
      ∀ node, .decision node .commit ∉ state.sentMessages := by
  have consistent := consistent_of_reachable reachable
  have undecided : state.coordinator.decision ≠ some .commit := by
    rcases certain with certain | ⟨certain, participants⟩
    · exact undecided_of_coordinator certain reachable
    · exact undecided_of_participants certain participants reachable
  refine ⟨undecided, ?_, ?_⟩
  · intro node participant found told
    exact undecided (consistent.decision_of_participant found told)
  · intro node sent
    have decided := ((consistent.sound.decision_sent node .commit).mp sent).2
    rw [consistent.view_decision] at decided
    exact undecided decided

theorem certain_abort_objecting : ∃ state : Simulator ForcedRng,
    state.coordinator.phase = .done .abort ∧
      ∀ node, .decision node .commit ∉ state.sentMessages := by
  have ended : runEndsIn (ρ := ForcedRng) .objecting [(.startTransaction, 0)] 20
      (fun state => decide (state.coordinator.phase = .done .abort)) = true := by
    decide +kernel
  obtain ⟨state, reachable, aborted⟩ := reachable_of_runEndsIn ended
  refine ⟨state, of_decide_eq_true aborted, ?_⟩
  exact (certain_abort (.inr (by decide +kernel)) reachable).2.2

end Simulator

end TwoPhaseCommit
