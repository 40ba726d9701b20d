import TwoPhaseCommit.Simulator.Safety

/-! Without an abort bias of the coordinator the coin flips of the participants
alone determine the decision, whatever the schedule. -/

set_option autoImplicit false

namespace TwoPhaseCommit

open Protocol

variable {ρ : Type} [ChaCha8Rng ρ]

namespace Simulator

variable {setup left right : Setup} {environment leftEnvironment rightEnvironment : Environment ρ}
  {state leftState rightState : Simulator ρ}

/-- The first coin flip of every participant yields Commit. -/
def AllCoinsCommit (ρ : Type) [ChaCha8Rng ρ] (setup : Setup) : Prop :=
  ∀ {node : NodeId} {participant : Participant ρ},
    setup.simulator.participants[node]? = some participant → participant.coin = .commit

theorem Consistent.coin_of_vote (consistent : Consistent setup state) {node : NodeId} {vote : Vote}
    (cast : state.view.vote node = some vote) {origin : Participant ρ}
    (found : setup.simulator.participants[node]? = some origin) : origin.coin = vote := by
  obtain ⟨other, same, coin⟩ := consistent.sound.allowed node vote cast
  cases found.symm.trans same
  exact coin

theorem Consistent.exists_objection [LawfulChaCha8Rng ρ] (consistent : Consistent setup state)
    (unbiased : setup.abortBias = 0) (decided : state.coordinator.decision = some .abort) :
    ∃ node ∈ setup.nodes, state.view.vote node = some .abort := by
  rw [← consistent.view_decision] at decided
  rcases consistent.sound.objection decided with bias | objection
  · exact absurd (unbiased ▸ bias) (Coordinator.not_mayAbort_zero (ρ := ρ))
  · exact objection

theorem Consistent.commit_iff_allCoinsCommit [LawfulChaCha8Rng ρ]
    (consistent : Consistent setup state) (unbiased : setup.abortBias = 0) {decision : Decision}
    (decided : state.coordinator.decision = some decision) :
    decision = .commit ↔ AllCoinsCommit ρ setup := by
  cases decision with
  | commit =>
      rw [← consistent.view_decision] at decided
      refine iff_of_true rfl fun {node origin} found => consistent.coin_of_vote ?_ found
      refine consistent.sound.unanimous decided node ?_
      exact (simulator_staffed.managed node).mp (Library.OrderedMap.mem_iff_exists.mpr ⟨_, found⟩)
  | abort =>
      refine iff_of_false nofun fun commit => ?_
      obtain ⟨node, member, objection⟩ := consistent.exists_objection unbiased decided
      obtain ⟨origin, found⟩ := (simulator_consistent (ρ := ρ)).exists_participant member
      cases (commit found).symm.trans (consistent.coin_of_vote objection found)

/-- Delays, the timeout and the coordinator's bias do not reach the participants. -/
theorem simulator_participants_eq (nodes : left.nParticipants = right.nParticipants)
    (seed : left.seed = right.seed)
    (bias : left.participantAbortBias = right.participantAbortBias) :
    (left.simulator (ρ := ρ)).participants = right.simulator.participants := by
  obtain ⟨_, _, _, _, _, _⟩ := left
  cases nodes
  cases seed
  cases bias
  rfl

theorem decision_independent_of_schedule [LawfulChaCha8Rng ρ]
    (nodes : left.nParticipants = right.nParticipants) (seed : left.seed = right.seed)
    (bias : left.participantAbortBias = right.participantAbortBias)
    (leftUnbiased : left.abortBias = 0) (rightUnbiased : right.abortBias = 0)
    (leftReachable : (system left leftEnvironment).Reachable leftState)
    (rightReachable : (system right rightEnvironment).Reachable rightState)
    {leftDecision rightDecision : Decision}
    (leftDecided : leftState.coordinator.decision = some leftDecision)
    (rightDecided : rightState.coordinator.decision = some rightDecision) :
    leftDecision = rightDecision ∧ (leftDecision = .commit ↔
      ∀ {node : NodeId} {participant : Participant ρ},
        left.simulator.participants[node]? = some participant → participant.coin = .commit) := by
  have ours := (consistent_of_reachable leftReachable).commit_iff_allCoinsCommit leftUnbiased
    leftDecided
  have theirs := (consistent_of_reachable rightReachable).commit_iff_allCoinsCommit rightUnbiased
    rightDecided
  have same : AllCoinsCommit ρ left ↔ AllCoinsCommit ρ right := by
    simp only [AllCoinsCommit, simulator_participants_eq nodes seed bias]
  refine ⟨?_, ours⟩
  have agree := ours.trans (same.trans theirs.symm)
  cases leftDecision <;> cases rightDecision <;> simp_all

/-- Other delays, another timeout, and no crash where the other run has one. -/
theorem decision_independent_of_schedule_unanimous :
    ∃ (left right : Simulator ForcedRng) (leftDecision rightDecision : Decision),
      .drop 2 (.vote ⟨0⟩ .commit) ∈ left.actionLog ∧
      .deliver 6 (.vote ⟨0⟩ .commit) ∈ right.actionLog ∧
      left.coordinator.decision = some leftDecision ∧
      right.coordinator.decision = some rightDecision ∧ leftDecision = rightDecision := by
  obtain ⟨left, _, leftReachable, _, lost, leftDecided, _⟩ := unanimous_recovers
  have ended : runEndsIn (ρ := ForcedRng) .slow [(.startTransaction, 0)] 20 (fun state =>
      decide (.deliver 6 (.vote ⟨0⟩ .commit) ∈ state.actionLog) &&
      decide (state.coordinator.decision ≠ none)) = true := by
    decide +kernel
  obtain ⟨right, rightReachable, passed⟩ := reachable_of_runEndsIn ended
  obtain ⟨delivered, decided⟩ := Bool.and_eq_true_iff.mp passed
  obtain ⟨decision, rightDecided⟩ := Option.ne_none_iff_exists'.mp (of_decide_eq_true decided)
  refine ⟨left, right, .commit, decision, lost, of_decide_eq_true delivered, leftDecided,
    rightDecided, (decision_independent_of_schedule ?_ ?_ ?_ ?_ ?_ leftReachable rightReachable
      leftDecided rightDecided).1⟩ <;> rfl

/-! ## Validity of an abort -/

/-- Crashes, lost messages and timeouts alone never cause an abort. -/
theorem abort_validity [LawfulChaCha8Rng ρ] (unbiased : setup.abortBias = 0)
    (reachable : (system setup environment).Reachable state)
    (aborted : state.coordinator.decision = some .abort ∨
      (∃ (node : NodeId) (participant : Participant ρ),
        state.participants[node]? = some participant ∧ participant.decision = some .abort) ∨
      ∃ msg, state.InFlight msg ∧ msg.messageType = .decisionAbort) :
    ∃ (node : NodeId) (participant : Participant ρ),
      state.participants[node]? = some participant ∧
        participant.durableState.vote = some .abort := by
  have consistent := consistent_of_reachable reachable
  have decided : state.coordinator.decision = some .abort := by
    rcases aborted with decided | ⟨node, participant, found, told⟩ | ⟨msg, inFlight, type⟩
    · exact decided
    · exact consistent.decision_of_participant found told
    · rw [← consistent.valid.durable]
      exact consistent.decision_of_inFlight inFlight
        (show msg.messageType = Decision.abort.messageType from type)
  obtain ⟨node, _, objection⟩ := consistent.exists_objection unbiased decided
  exact ⟨node, Option.bind_eq_some_iff.mp objection⟩

theorem abort_validity_objecting : ∃ state : Simulator ForcedRng,
    state.coordinator.decision = some .abort ∧
      ∃ (node : NodeId) (participant : Participant ForcedRng),
        state.participants[node]? = some participant ∧
          participant.durableState.vote = some .abort := by
  have ended : runEndsIn (ρ := ForcedRng) .objecting
      [(.startTransaction, 0), (.crash .coordinator, 1), (.recover .coordinator, 3), (.tickAll, 9)]
      20 (fun state => decide (state.coordinator.decision = some .abort)) = true := by
    decide +kernel
  obtain ⟨state, reachable, aborted⟩ := reachable_of_runEndsIn ended
  have decided := of_decide_eq_true aborted
  exact ⟨state, decided, abort_validity rfl reachable (.inl decided)⟩

end Simulator

end TwoPhaseCommit
