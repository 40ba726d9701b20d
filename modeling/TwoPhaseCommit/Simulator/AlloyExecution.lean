import TwoPhaseCommit.AlloyRefinement
import TwoPhaseCommit.Simulator.Safety

/-! Every run of the simulator has an execution of the Alloy model that agrees with
it after every step. -/

set_option autoImplicit false

namespace TwoPhaseCommit

open Protocol

/-! ## The message an atom stands for -/

section Source

variable {members : Set NodeId}

def Alloy.MessageType.source : Alloy.MessageType → TwoPhaseCommit.MessageType
  | .prepare => .prepare
  | .voteCommit => .voteCommit
  | .voteAbort => .voteAbort
  | .decCommit => .decisionCommit
  | .decAbort => .decisionAbort

def Alloy.Actor.source : Alloy.Actor {node : NodeId // node ∈ members} → ActorId
  | .node n => .node n.1
  | .coordinator => .coordinator

def Alloy.Message.source (m : Alloy.Message {node : NodeId // node ∈ members}) :
    TwoPhaseCommit.Message :=
  ⟨m.messageType.source, m.origin.source, m.dest.source⟩

end Source

namespace Protocol

variable {policy : Policy} {state : State} {image : Alloy.State policy.Node}

/-- Every message of the protocol but the acknowledgements is in the Alloy network. -/
theorem Linked.exists_source (linked : Linked policy state image) {msg : Message}
    (sent : msg ∈ state.sent) (notAck : msg.messageType ≠ .ack) :
    ∃ m ∈ image.sent, m.source = msg := by
  obtain ⟨sound, phase, received, fits, rfl⟩ := linked
  have formed := sound.wellFormed msg sent
  cases formed with
  | @prepare node member =>
      exact ⟨.prepare ⟨node, member⟩, .prepare _ (fits.not_waiting sent), rfl⟩
  | @vote node vote member =>
      refine ⟨.vote ⟨node, member⟩ vote, .vote ((sound.vote_sent node vote).mp sent), ?_⟩
      cases vote <;> rfl
  | @decision node decision member =>
      refine ⟨.decision ⟨node, member⟩ decision,
        .decision ((sound.decision_sent node decision).mp sent).2, ?_⟩
      cases decision <;> rfl
  | ack _ => exact absurd rfl notAck

end Protocol

namespace Simulator

variable {ρ : Type} [ChaCha8Rng ρ] {setup : Setup} {environment : Environment ρ}

/-- The Alloy state shows the votes and decisions of the actors, and every message
that is not an acknowledgement. -/
structure Matches (setup : Setup) (state : Simulator ρ)
    (image : Alloy.State (setup.policy ρ).Node) : Prop where
  votedCommit : ∀ n, n ∈ image.votedCommit ↔ ∃ participant,
    state.participants[n.1]? = some participant ∧ participant.vote = some .commit
  votedAbort : ∀ n, n ∈ image.votedAbort ↔ ∃ participant,
    state.participants[n.1]? = some participant ∧ participant.vote = some .abort
  participantCommitted : ∀ n, n ∈ image.participantCommitted ↔ ∃ participant,
    state.participants[n.1]? = some participant ∧ participant.decision = some .commit
  participantAborted : ∀ n, n ∈ image.participantAborted ↔ ∃ participant,
    state.participants[n.1]? = some participant ∧ participant.decision = some .abort
  decision : image.decision = state.coordinator.decision
  sent : ∀ msg ∈ state.sentMessages, msg.messageType ≠ .ack → ∃ m ∈ image.sent, m.source = msg

theorem Consistent.matches {state : Simulator ρ} {image : Alloy.State (setup.policy ρ).Node}
    (consistent : Consistent setup state) (linked : Linked (setup.policy ρ) state.view image) :
    Matches setup state image := by
  have sent := fun (msg : Message) (listed : msg ∈ state.sentMessages) =>
    linked.exists_source (show msg ∈ state.view.sent from listed)
  obtain ⟨_, phase, received, _, rfl⟩ := linked
  have votes : ∀ (n : (setup.policy ρ).Node) (vote : Vote), state.view.vote n.1 = some vote ↔
      ∃ participant, state.participants[n.1]? = some participant ∧
        participant.vote = some vote := by
    intro n vote
    obtain ⟨participant, found⟩ := consistent.exists_participant n.2
    simp [consistent.view_vote found, found]
  have decisions : ∀ (n : (setup.policy ρ).Node) (decision : Decision),
      state.view.learned n.1 = some decision ↔
        ∃ participant, state.participants[n.1]? = some participant ∧
          participant.decision = some decision := by
    intro n decision
    obtain ⟨participant, found⟩ := consistent.exists_participant n.2
    simp [consistent.view_learned found, found]
  exact {
    votedCommit := fun n => votes n .commit
    votedAbort := fun n => votes n .abort
    participantCommitted := fun n => decisions n .commit
    participantAborted := fun n => decisions n .abort
    decision := consistent.view_decision
    sent := sent }

theorem alloy_execution {run : Nat → Simulator ρ} (started : run 0 = setup.simulator)
    (steps : ∀ index, run (index + 1) = run index ∨
      Next environment (run index) (run (index + 1))) :
    ∃ (messages : Set (Alloy.Message (setup.policy ρ).Node))
      (image : Nat → Alloy.State (setup.policy ρ).Node),
      Alloy.MessagePopulation messages ∧ (image 0).init ∧
      (∀ index, (Alloy.system messages).Steps (image index) (image (index + 1))) ∧
      (∀ index, Matches setup (run index) (image index)) ∧
      ∃ (trace : Nat → Alloy.State (setup.policy ρ).Node) (position : Nat → Nat),
        position 0 = 0 ∧ (∀ index, position index < position (index + 1)) ∧
        (∀ index, trace (position index) = image index) ∧
        ∀ time, Alloy.Transition messages (trace time) (trace (time + 1)) := by
  have simulation := (refinement setup environment).simulation
    (alloy_simulation (setup.policy ρ))
  obtain ⟨image, initial, paths, linked⟩ := simulation.trace started steps
  refine ⟨_, image, Alloy.population_messagePopulation, initial, paths,
    fun index => (linked index).1.matches (linked index).2, ?_⟩
  refine Library.TransitionSystem.exists_execution (fun state => ?_) fun index =>
    Relation.ReflTransGen.mono (fun _ _ step => step.1) _ _ (paths index)
  exact ⟨subset_rfl, .inr ⟨rfl, ⟨rfl, rfl, rfl, rfl⟩, ⟨rfl, rfl⟩, rfl, rfl⟩⟩

theorem alloy_execution_unanimous :
    ∃ (messages : Set (Alloy.Message (Setup.unanimous.policy ForcedRng).Node))
      (image : Nat → Alloy.State (Setup.unanimous.policy ForcedRng).Node),
      Alloy.MessagePopulation messages ∧ (image 0).init ∧
      (∀ index, (Alloy.system messages).Steps (image index) (image (index + 1))) ∧
      (image 9).decision = none ∧ (image 30).decision = some .commit := by
  obtain ⟨messages, image, population, initial, paths, agree, _⟩ := alloy_execution
    rfl (scheduledRun_next (ρ := ForcedRng) .unanimous Setup.interruption)
  refine ⟨messages, image, population, initial, paths, (agree 9).decision.trans ?_,
    (agree 30).decision.trans ?_⟩
  · decide +kernel
  · decide +kernel

end Simulator

end TwoPhaseCommit
