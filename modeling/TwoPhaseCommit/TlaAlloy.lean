import TwoPhaseCommit.TlaProperties
import TwoPhaseCommit.AlloyProperties

/-! The TLA+ specification refines the Alloy model. A vote to abort is there
received and acted on in two steps. -/

set_option autoImplicit false

namespace TwoPhaseCommit

variable {Participant : Type}

/-! ## The messages of the two models -/

namespace Alloy

def MessageType.tla : MessageType → Tla.Value
  | .prepare => .prepare
  | .voteCommit => .voteCommit
  | .voteAbort => .voteAbort
  | .decCommit => .commit
  | .decAbort => .abort

def Actor.tla : Actor Participant → Tla.Actor Participant
  | .coordinator => .coordinator
  | .node n => .participant n

def Message.tla (m : Message Participant) : Tla.Message Participant :=
  ⟨m.messageType.tla, m.origin.tla, m.dest.tla⟩

private theorem MessageType.tla_injective : MessageType.tla.Injective := by
  intro left right same
  cases left <;> cases right <;> first | rfl | cases same

private theorem Actor.tla_injective : Function.Injective
    (Actor.tla : Actor Participant → Tla.Actor Participant) := by
  intro left right same
  cases left <;> cases right <;> cases same <;> rfl

theorem Message.tla_injective : Function.Injective
    (Message.tla : Message Participant → Tla.Message Participant) := by
  intro left right same
  obtain ⟨_, _, _⟩ := left
  obtain ⟨_, _, _⟩ := right
  obtain ⟨type, origin, dest⟩ := Tla.Message.mk.inj same
  obtain rfl := MessageType.tla_injective type
  obtain rfl := Actor.tla_injective origin
  obtain rfl := Actor.tla_injective dest
  rfl

end Alloy

def Vote.tla : Vote → Tla.Value
  | .commit => .voteCommit
  | .abort => .voteAbort

def Decision.tla : Decision → Tla.Value
  | .commit => .commit
  | .abort => .abort

section Messages

variable {m : Alloy.Message Participant} {p : Participant}

theorem Alloy.Message.tla_eq_prepare_iff : m.tla = .prepare p ↔ m = .prepare p :=
  ⟨fun same => Alloy.Message.tla_injective same, fun same => same ▸ rfl⟩

theorem Alloy.Message.tla_eq_vote_iff {cast : Vote} :
    m.tla = .vote p cast.tla ↔ m = .vote p cast := by
  have image : (Alloy.Message.vote p cast).tla = .vote p cast.tla := by cases cast <;> rfl
  rw [← image]
  exact Alloy.Message.tla_injective.eq_iff

theorem Alloy.Message.tla_eq_decision_iff {decided : Decision} :
    m.tla = .decision p decided.tla ↔ m = .decision p decided := by
  have image : (Alloy.Message.decision p decided).tla = .decision p decided.tla := by
    cases decided <;> rfl
  rw [← image]
  exact Alloy.Message.tla_injective.eq_iff

end Messages

theorem Tla.Value.IsVote.exists_vote {v : Tla.Value} (isVote : v.IsVote) :
    ∃ cast : Vote, v = cast.tla := by
  rcases isVote with rfl | rfl
  · exact ⟨.commit, rfl⟩
  · exact ⟨.abort, rfl⟩

/-! ## The image of a state -/

namespace Tla

/-- `VOTED` is no phase of the coordinator. -/
def Phase.alloy : Phase → Alloy.Phase
  | .waiting => .waiting
  | .voting => .voting
  | .decided => .decided
  | .done => .done
  | .voted => .done

def Value.alloy : Value → Option Decision
  | .commit => some .commit
  | .abort => some .abort
  | _ => Option.none

def State.alloy (s : State Participant) : Alloy.State Participant where
  sent := {m | m.tla ∈ s.messages}
  phase := s.coordinatorPhase.alloy
  decision := s.coordinatorDecision.alloy
  votesReceived := {p | s.votes p ≠ .none}
  commitVotes := {p | s.votes p = .voteCommit}
  votedCommit := {p | .vote p .voteCommit ∈ s.messages}
  votedAbort := {p | .vote p .voteAbort ∈ s.messages}
  participantCommitted := {p | s.decision p = .commit}
  participantAborted := {p | s.decision p = .abort}

section Steps

open Alloy (population)

variable {s s' : State Participant}

private abbrev Answer (left right : Alloy.State Participant) : Prop :=
  (Alloy.system (population Participant)).Steps left right

private theorem answer {left right : Alloy.State Participant} (grows : left.sent ⊆ right.sent)
    (acts : Alloy.Acts (population Participant) left right) : Answer left right :=
  .single ⟨⟨grows, .inl acts⟩, acts⟩

private theorem alloy_sent_mono (grows : s.messages ⊆ s'.messages) :
    s.alloy.sent ⊆ s'.alloy.sent :=
  fun _ sent => grows sent

private theorem sendPrepare_alloy (waiting : s.coordinatorPhase = .waiting) :
    Answer s.alloy (State.alloy { s with
      messages := s.messages ∪ {msg | ∃ p, msg = .prepare p}
      coordinatorPhase := .voting }) := by
  refine answer (alloy_sent_mono Set.subset_union_left) (.sendPrepare ?_)
  refine ⟨by simp [State.alloy, waiting, Phase.alloy], ?_, rfl, rfl, ⟨rfl, rfl⟩, ⟨?_, ?_⟩, rfl, rfl⟩
  · ext m
    simp [State.alloy, population, Alloy.Message.populates_prepare_iff,
      Alloy.Message.tla_eq_prepare_iff]
  · simp [State.alloy, eq_comm]
  · simp [State.alloy, eq_comm]

private theorem decide_alloy {d : Decision} (voting : s.coordinatorPhase = .voting)
    (unanimous : d = .commit → ∀ p, s.votes p = .voteCommit) :
    Answer s.alloy (State.alloy { s with
      coordinatorPhase := .decided
      coordinatorDecision := d.tla }) := by
  refine answer subset_rfl (.decide d ⟨by simp [State.alloy, voting, Phase.alloy], fun commit => ?_,
    rfl, by cases d <;> rfl, ⟨rfl, rfl⟩, rfl, ⟨rfl, rfl⟩, rfl, rfl⟩)
  exact Set.eq_univ_of_forall (unanimous commit)

private theorem sendDecision_alloy {d : Decision} (decided : s.coordinatorPhase = .decided)
    (taken : s.coordinatorDecision = d.tla) :
    Answer s.alloy (State.alloy { s with
      messages := s.messages ∪ {msg | ∃ p, msg = .decision p s.coordinatorDecision}
      coordinatorPhase := .done }) := by
  have sent : (State.alloy { s with
        messages := s.messages ∪ {msg | ∃ p, msg = .decision p s.coordinatorDecision}
        coordinatorPhase := .done }).sent = s.alloy.sent ∪
      {m | m ∈ population Participant ∧ m.messageType = .ofDecision d ∧
        m.origin = .coordinator} := by
    ext m
    simp [State.alloy, population, Alloy.Message.populates_decision_iff, taken,
      Alloy.Message.tla_eq_decision_iff]
  have image : s.alloy.decision = some d := by
    cases d <;> simp [State.alloy, taken, Decision.tla, Value.alloy]
  refine answer (alloy_sent_mono Set.subset_union_left) (.sendDecision
    ⟨by simp [State.alloy, decided, Phase.alloy], fun commit => ?_, fun abort => ?_, rfl, rfl,
      ⟨rfl, rfl⟩, ⟨?_, ?_⟩, rfl, rfl⟩)
  · obtain rfl : d = .commit := Option.some.inj (image.symm.trans commit)
    exact sent
  · cases d with
    | commit => exact absurd image abort
    | abort => exact sent
  · simp [State.alloy]
  · simp [State.alloy]

section Participant

variable [DecidableEq Participant] {p : Participant}

private theorem receiveVote_alloy (cast : Vote) (sound : Sound s)
    (voting : s.coordinatorPhase = .voting) (unread : s.votes p = .none)
    (sent : .vote p cast.tla ∈ s.messages) :
    Answer s.alloy (State.alloy { s with votes := Function.update s.votes p cast.tla }) := by
  have available : (s.alloy.voteFrom p).Nonempty := by
    refine ⟨.vote p cast, ?_, ?_, rfl, rfl⟩
    · cases cast <;> exact sent
    · cases cast <;> simp [Alloy.Message.vote, Alloy.MessageType.ofVote]
  have commit : (∃ m ∈ s.alloy.sent, m.messageType = .voteCommit ∧ m.origin = .node p ∧
      m.dest = .coordinator) ↔ cast = .commit := by
    constructor
    · intro listed
      obtain ⟨⟨_, _, _⟩, listed, rfl, rfl, rfl⟩ := listed
      have same := sound.single p _ _ listed sent
      cases cast with
      | commit => rfl
      | abort => cases same
    · intro same
      subst same
      exact ⟨.vote p .commit, sent, rfl, rfl, rfl⟩
  have received : {q | Function.update s.votes p cast.tla q ≠ .none} =
      {q | s.votes q ≠ .none} ∪ {p} := by
    ext q
    by_cases same : q = p
    · subst same
      cases cast <;> simp [Vote.tla]
    · simp [same]
  refine answer subset_rfl (.receiveVote p ⟨by simp [State.alloy, voting, Phase.alloy], ?_,
    available, received, fun voted => ?_, fun objected => ?_, rfl, rfl, rfl, ⟨rfl, rfl⟩, rfl, rfl⟩)
  · simp [State.alloy, unread]
  · obtain rfl := commit.mp voted
    ext q
    by_cases same : q = p
    · simp [State.alloy, same, Vote.tla]
    · simp [State.alloy, same]
  · have objects : cast = .abort := by
      cases cast with
      | commit => exact absurd (commit.mpr rfl) objected
      | abort => rfl
    subst objects
    ext q
    by_cases same : q = p
    · simp [State.alloy, same, Vote.tla, unread]
    · simp [State.alloy, same]

private theorem vote_alloy (sound : Sound s) {cast : Vote} {source : Actor Participant}
    (waiting : s.participantPhase p = .waiting)
    (asked : ⟨.prepare, source, .participant p⟩ ∈ s.messages) :
    Answer s.alloy (State.alloy { s with
      messages := s.messages ∪ {.vote p cast.tla}
      participantPhase := Function.update s.participantPhase p .voted }) := by
  have silent : ∀ v, .vote p v ∉ s.messages := fun v sent => (sound.voted sent).2 waiting
  have begun : s.coordinatorPhase ≠ .waiting := by
    generalize shape : (⟨.prepare, source, .participant p⟩ : Message Participant) = msg at asked
    cases sound.messages msg asked with
    | prepare _ begun => exact begun
    | vote _ _ =>
        obtain ⟨_, _, wrong⟩ := Message.mk.inj shape
        cases wrong
    | decision _ done => simp [done]
  have sent : (State.alloy { s with
        messages := s.messages ∪ {.vote p cast.tla}
        participantPhase := Function.update s.participantPhase p .voted }).sent = s.alloy.sent ∪
      {m | m ∈ population Participant ∧ m.messageType = .ofVote cast ∧ m.origin = .node p ∧
        m.dest = .coordinator} := by
    ext m
    simp [State.alloy, population, Alloy.Message.populates_vote_iff, Alloy.Message.tla_eq_vote_iff]
  have unvoted : p ∉ s.alloy.hasVoted := by
    simp [Alloy.State.hasVoted, State.alloy, silent]
  have invited : (s.alloy.prepareFor p).Nonempty :=
    ⟨.prepare p, sound.prepared begun p, rfl, rfl⟩
  refine answer (alloy_sent_mono Set.subset_union_left) (.vote p
    ⟨unvoted, invited, ?_, ⟨rfl, rfl⟩, rfl, rfl, rfl, rfl⟩)
  cases cast with
  | commit =>
      exact .inl ⟨sent, by ext q; simp [State.alloy, Vote.tla], by simp [State.alloy, Vote.tla]⟩
  | abort =>
      exact .inr ⟨sent, by ext q; simp [State.alloy, Vote.tla], by simp [State.alloy, Vote.tla]⟩

private theorem receiveDecision_alloy (sound : Sound s) {d : Value} {source : Actor Participant}
    (unaware : s.decision p = .none) (sent : ⟨d, source, .participant p⟩ ∈ s.messages)
    (type : d = .commit ∨ d = .abort) :
    Answer s.alloy (State.alloy { s with
      decision := Function.update s.decision p d
      participantPhase := Function.update s.participantPhase p .decided }) := by
  obtain ⟨done, taken⟩ := sound.decided sent type
  have announced := sound.announced done p
  rw [taken] at announced
  have undecided : p ∉ s.alloy.participantDecided := by
    simp [Alloy.State.participantDecided, State.alloy, unaware]
  have commit : (∃ m ∈ s.alloy.sent, m.messageType = .decCommit ∧ m.dest = .node p) ↔
      d = .commit := by
    constructor
    · intro listed
      obtain ⟨⟨_, _, _⟩, listed, rfl, rfl⟩ := listed
      exact taken.symm.trans (sound.decided listed (.inl rfl)).2
    · intro same
      subst same
      exact ⟨.decision p .commit, announced, rfl, rfl⟩
  have available : (s.alloy.decisionFor p).Nonempty := by
    rcases type with rfl | rfl
    · exact ⟨.decision p .commit, announced, .inl rfl, rfl, rfl⟩
    · exact ⟨.decision p .abort, announced, .inr rfl, rfl, rfl⟩
  refine answer subset_rfl (.receiveDecision p ⟨undecided, available,
    fun some => ?_, fun none => ?_,
    ⟨rfl, rfl⟩, rfl, rfl, rfl, rfl, rfl⟩)
  · obtain rfl := commit.mp some
    constructor
    all_goals
      ext q
      by_cases same : q = p <;> simp [State.alloy, same, unaware]
  · obtain rfl := type.resolve_left (commit.not.mp none)
    constructor
    all_goals
      ext q
      by_cases same : q = p <;> simp [State.alloy, same, unaware]

private theorem Acts.alloy (sound : Sound s) (acts : Acts s s') : Answer s.alloy s'.alloy := by
  cases acts with
  | sendPrepare waiting => exact sendPrepare_alloy waiting
  | receiveCommit voting unread sent =>
      exact receiveVote_alloy .commit sound voting unread sent
  | @receiveAbort p voting unread sent =>
      have received := receiveVote_alloy .abort sound voting unread sent
      exact received.trans (decide_alloy (d := .abort)
        (s := { s with votes := Function.update s.votes p .voteAbort }) voting nofun)
  | decide voting unanimous => exact decide_alloy (d := .commit) voting fun _ => unanimous
  | sendDecision decided =>
      cases (sound.coordinator.resolve_left (by simp [decided])).2 with
      | commit taken _ => exact sendDecision_alloy (d := .commit) decided taken
      | abort _ taken _ => exact sendDecision_alloy (d := .abort) decided taken
  | vote waiting asked isVote =>
      obtain ⟨cast, rfl⟩ := isVote.exists_vote
      exact vote_alloy sound waiting asked
  | receiveDecision _ unaware sent type => exact receiveDecision_alloy sound unaware sent type

end Participant

end Steps

section Refinement

theorem init_alloy : (State.init : State Participant).alloy.init := by
  refine ⟨?_, rfl, rfl, ?_, ?_, ?_, ?_, ?_, ?_⟩ <;>
  · ext
    simp [State.alloy, State.init]

variable [DecidableEq Participant]

theorem alloy_refinement : (system Participant).Refinement
    (Alloy.system (Alloy.population Participant)) State.alloy Sound where
  initial := by
    intro s same
    subst same
    exact init_alloy
  invariant := sound_invariant
  next sound step := (acts_of_next step).alloy sound

/-- A behaviour of the TLA+ specification is a trace of the Alloy model in which
further states may stand between the images of its states. -/
theorem spec_alloy {run : Nat → State Participant} (spec : Spec run) :
    ∃ (trace : Nat → Alloy.State Participant) (position : Nat → Nat),
      Alloy.MessagePopulation (Alloy.population Participant) ∧
      Alloy.Trace (Alloy.population Participant) trace ∧ position 0 = 0 ∧
      (∀ index, position index < position (index + 1)) ∧
      ∀ index, trace (position index) = (run index).alloy := by
  have paths : ∀ index, Relation.ReflTransGen (Alloy.Transition (Alloy.population Participant))
      (run index).alloy (run (index + 1)).alloy := by
    intro index
    have path := alloy_refinement.steps (spec.invariant sound_invariant index)
      (spec.steps index.le_succ)
    exact Relation.ReflTransGen.mono (fun _ _ step => step.1) _ _ path
  obtain ⟨trace, position, start, grows, passes, steps⟩ :=
    Library.TransitionSystem.exists_execution
      (fun s => ⟨subset_rfl, .inr (Alloy.stutter_iff.mpr rfl)⟩) paths
  refine ⟨trace, position, Alloy.population_messagePopulation, ⟨?_, steps⟩, start, grows, passes⟩
  rw [← start, passes, show run 0 = .init from spec.initial]
  exact init_alloy

theorem spec_alloy_fin_three : ∃ run : Nat → State (Fin 3), FairSpec run ∧
    ∃ (trace : Nat → Alloy.State (Fin 3)) (position : Nat → Nat),
      Alloy.Trace (Alloy.population (Fin 3)) trace ∧
      ∀ index, trace (position index) = (run index).alloy := by
  obtain ⟨run, fairSpec⟩ := exists_fairSpec (Fin 3)
  obtain ⟨trace, position, _, traced, _, _, passes⟩ := spec_alloy fairSpec.1
  exact ⟨run, fairSpec, trace, position, traced, passes⟩

end Refinement

end Tla

end TwoPhaseCommit
