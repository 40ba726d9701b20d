import TwoPhaseCommit.Simulator.Crashes
import TwoPhaseCommit.Simulator.Safety

/-! The protocol blocks. When the coordinator is down before it has decided, nobody learns a
decision until it recovers or a StartTransaction reaches it. -/

set_option autoImplicit false

namespace TwoPhaseCommit

/-- The external events that a crashed coordinator reacts to. -/
def ExternalEvent.rouses : ExternalEvent → Bool
  | .startTransaction | .recover .coordinator => true
  | .tick _ | .tickAll | .crash _ | .recover (.node _) => false

namespace Simulator

open Protocol

variable {ρ : Type} [ChaCha8Rng ρ] {setup : Setup} {environment : Environment ρ}
  {state after : Simulator ρ}

/-- Nothing that would rouse the coordinator is queued. -/
def NothingRouses (state : Simulator ρ) : Prop :=
  ∀ item ∈ state.eventQueue.pending, ∀ event, item.event = .external event → event.rouses = false

/-- Any external event but one that rouses the coordinator. -/
def leaderless : Environment ρ := fun _ event _ => event.rouses = false

/-- The coordinator went down undecided and stays down. -/
structure Blocked (setup : Setup) (leader : Coordinator ρ) (state : Simulator ρ) : Prop extends
    Faithful setup state where
  down : state.isOperating .coordinator = false
  same : state.coordinator = leader
  nothingRouses : NothingRouses state

private theorem Stepped.coordinator_eq (stepped : Stepped state after)
    (consistent : Consistent setup state) (down : state.isOperating .coordinator = false)
    (nothingRouses : NothingRouses state) : after.coordinator = state.coordinator := by
  cases stepped with
  | drops _ _ _ => rfl
  | @handles popped queue delivered observations middle outgoing pops reaches dispatched =>
      have allowed := nothingRouses popped pops.mem
      obtain ⟨_, _, genuine⟩ := consistent.taken pops delivered
      have arrives : (state.taken popped queue delivered).Reaches popped.event := by
        cases kind : popped.event with
        | external event => trivial
        | internal event =>
            rw [kind] at reaches
            exact reaches
      rw [sendAll_coordinator]
      apply dispatched.coordinator_eq genuine arrives down
      · intro start
        cases allowed _ start
      · intro recovers
        cases allowed _ recovers

theorem Blocked.next {leader : Coordinator ρ} (blocked : Blocked setup leader state)
    (next : Next leaderless state after) : Blocked setup leader after := by
  have faithful := blocked.toFaithful.next next
  have enqueued : ∀ {event : ExternalEvent} (clock atTime : Nat), event.rouses = false →
      NothingRouses ({ state with clock := clock }.enqueueExternal event atTime) := by
    intro event clock atTime allowed item queued other same
    rcases List.mem_cons.mp queued with rfl | earlier
    · cases same
      exact allowed
    · exact blocked.nothingRouses item earlier other same
  cases next with
  | enqueueExternal allowed => exact ⟨faithful, blocked.down, blocked.same, enqueued _ _ allowed⟩
  | injectProbe _ => exact ⟨faithful, blocked.down, blocked.same, enqueued _ _ rfl⟩
  | step success =>
      obtain ⟨_, _, rfl⟩ | ⟨_, stepped⟩ := step_stepped success
      · exact blocked
      · obtain ⟨popped, advances⟩ := stepped.advances
        have allowed := blocked.nothingRouses popped advances.mem
        refine ⟨faithful, ?_, ?_, ?_⟩
        · rw [advances.isOperating]
          refine .inr ⟨blocked.down, fun recovers => ?_⟩
          cases allowed _ recovers
        · rw [stepped.coordinator_eq blocked.toConsistent blocked.down blocked.nothingRouses]
          exact blocked.same
        · intro item queued event same
          rcases advances.queued item queued with earlier | ⟨msg, delivery, _⟩
          · exact blocked.nothingRouses item earlier event same
          · cases same.symm.trans delivery

/-- A coordinator that goes down before it has decided blocks everyone: in every later state, as
long as nothing rouses it, nobody is told a decision. -/
theorem blocking (participants : 1 ≤ setup.nParticipants)
    (reachable : (system setup environment).Reachable state)
    (crashed : state.isOperating .coordinator = false)
    (undecided : state.coordinator.decision = none) (nothingRouses : NothingRouses state)
    (path : (system setup leaderless).Steps state after) :
    after.isOperating .coordinator = false ∧ after.coordinator = state.coordinator ∧
      (∀ node decision, .decision node decision ∉ after.sentMessages) ∧
      (∀ {node : NodeId} {participant : Participant ρ},
        after.participants[node]? = some participant → participant.decision = none) ∧
      after.allDecided = false := by
  have faithful := (faithful_invariant setup environment).reachable reachable
  have blocked : Blocked setup state.coordinator after :=
    steps_preserve Blocked.next path ⟨faithful, crashed, rfl, nothingRouses⟩
  have pending : after.coordinator.decision = none := blocked.same ▸ undecided
  have uninformed : ∀ {node : NodeId} {participant : Participant ρ},
      after.participants[node]? = some participant → participant.decision = none := by
    intro node participant found
    rw [Option.eq_none_iff_forall_ne_some]
    intro decision told
    cases pending.symm.trans (blocked.toConsistent.decision_of_participant found told)
  refine ⟨blocked.down, blocked.same, fun node decision sent => ?_, uninformed, ?_⟩
  · have decided := ((blocked.sound.decision_sent node decision).mp sent).2
    rw [blocked.toConsistent.view_decision] at decided
    cases pending.symm.trans decided
  · rw [← Bool.not_eq_true, blocked.toFaithful.allDecided_iff]
    intro all
    obtain ⟨node, member⟩ := List.exists_mem_of_ne_nil _ (nodes_ne_nil participants)
    obtain ⟨participant, found⟩ := blocked.toConsistent.exists_participant member
    exact all found (uninformed found)

/-- Both participants have voted for Commit, and no number of ticks tells them the outcome. -/
theorem blocking_unanimous : ∃ state after : Simulator ForcedRng,
    (∀ node ∈ Setup.unanimous.nodes,
      (state.participants[node]?.bind (·.vote)) = some Vote.commit) ∧
    (system .unanimous leaderless).Steps state after ∧ after.allDecided = false := by
  have ended : runEndsIn (ρ := ForcedRng) .unanimous
      [(.startTransaction, 0), (.crash .coordinator, 1)] 20 (fun state =>
        decide (∀ node ∈ Setup.unanimous.nodes,
          (state.participants[node]?.bind (·.vote)) = some Vote.commit) &&
        !state.isOperating .coordinator && decide (state.coordinator.decision = none) &&
        state.eventQueue.isEmpty) = true := by
    decide +kernel
  obtain ⟨state, reachable, passed⟩ := reachable_of_runEndsIn ended
  simp only [Bool.and_eq_true, decide_eq_true_eq, Bool.not_eq_true'] at passed
  obtain ⟨⟨⟨voted, crashed⟩, undecided⟩, drained⟩ := passed
  have nothingRouses : NothingRouses state := by
    intro item queued
    rw [EventQueue.isEmpty_iff.mp drained] at queued
    cases queued
  have ticked : Next leaderless state (state.enqueueExternal .tickAll 9) := .enqueueExternal rfl
  have path : (system .unanimous leaderless).Steps state
      (state.enqueueExternal .tickAll 9).advance := .trans (.single ticked) advance_steps
  obtain ⟨_, _, _, _, waiting⟩ :=
    blocking (by decide) reachable crashed undecided nothingRouses path
  exact ⟨state, _, voted, path, waiting⟩

end Simulator

end TwoPhaseCommit
