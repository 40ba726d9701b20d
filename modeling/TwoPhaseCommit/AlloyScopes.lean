import TwoPhaseCommit.AlloyRefinement
import TwoPhaseCommit.Library.Behaviour

/-! The Alloy model is not vacuous at any scope: whatever the nodes vote, every
decision that the votes allow is reached by all of them. -/

set_option autoImplicit false

namespace TwoPhaseCommit.Alloy

variable {Node : Type}

theorem stutter_iff {s s' : State Node} : stutter s s' ↔ s' = s := by
  constructor
  · intro same
    obtain ⟨_, _, _, _, _, _, _, _, _⟩ := s'
    obtain ⟨rfl, ⟨rfl, rfl, rfl, rfl⟩, ⟨rfl, rfl⟩, rfl, rfl⟩ := same
    rfl
  · intro same
    subst same
    exact ⟨rfl, ⟨rfl, rfl, rfl, rfl⟩, ⟨rfl, rfl⟩, rfl, rfl⟩

/-- The coordinator is done, every node has voted and every node has decided. -/
def Complete (s : State Node) : Prop :=
  s.phase = .done ∧ s.hasVoted = Set.univ ∧ s.participantDecided = Set.univ

variable (cast : Node → Vote)

/-- A state in which the nodes vote as `cast` says: those in `voted` have voted, the votes
of those in `received` are counted, and those in `learned` know the decision. -/
def scene (phase : Phase) (decision : Option Decision) (voted received learned : Set Node) :
    State Node where
  sent := {m | phase ≠ .waiting ∧ (∃ n, m = .prepare n) ∨ (∃ n ∈ voted, m = .vote n (cast n)) ∨
    phase = .done ∧ ∃ n d, decision = some d ∧ m = .decision n d}
  phase := phase
  decision := decision
  votesReceived := received
  commitVotes := {n | n ∈ received ∧ cast n = .commit}
  votedCommit := {n | n ∈ voted ∧ cast n = .commit}
  votedAbort := {n | n ∈ voted ∧ cast n = .abort}
  participantCommitted := {n | n ∈ learned ∧ decision = some .commit}
  participantAborted := {n | n ∈ learned ∧ decision = some .abort}

section Steps

variable {cast} {n : Node} {voted received learned : Set Node} {d : Decision}

private theorem actStep {s s' : State Node} (grows : s.sent ⊆ s'.sent)
    (acts : Acts (population Node) s s') : (system (population Node)).next s s' :=
  ⟨⟨grows, .inl acts⟩, acts⟩

private theorem scene_sendPrepare : (system (population Node)).next
    (scene cast .waiting none ∅ ∅ ∅) (scene cast .voting none ∅ ∅ ∅) := by
  have sent : (scene cast .voting none ∅ ∅ ∅).sent = (scene cast .waiting none ∅ ∅ ∅).sent ∪
      {m | m ∈ population Node ∧ m.messageType = .prepare ∧ m.origin = .coordinator} := by
    ext m
    simp [scene, population, Message.populates_prepare_iff]
  exact actStep (sent ▸ Set.subset_union_left) (.sendPrepare
    ⟨rfl, sent, rfl, rfl, ⟨rfl, rfl⟩, ⟨rfl, rfl⟩, rfl, rfl⟩)

private theorem scene_vote (fresh : n ∉ voted) : (system (population Node)).next
    (scene cast .voting none voted ∅ ∅) (scene cast .voting none (insert n voted) ∅ ∅) := by
  have sent : (scene cast .voting none (insert n voted) ∅ ∅).sent =
      (scene cast .voting none voted ∅ ∅).sent ∪ {m | m ∈ population Node ∧
        m.messageType = .ofVote (cast n) ∧ m.origin = .node n ∧ m.dest = .coordinator} := by
    ext m
    simp [scene, population, Message.populates_vote_iff]
    tauto
  have unvoted : n ∉ (scene cast .voting none voted ∅ ∅).hasVoted := by
    simp [State.hasVoted, scene, fresh]
  have invited : ((scene cast .voting none voted ∅ ∅).prepareFor n).Nonempty :=
    ⟨.prepare n, .inl ⟨by simp, n, rfl⟩, rfl, rfl⟩
  have votes : ∀ other : Vote, {m | m ∈ insert n voted ∧ cast m = other} =
      {m | m ∈ voted ∧ cast m = other} ∪ {m | m = n ∧ cast n = other} := by
    intro other
    ext m
    by_cases same : m = n <;> simp [same, or_comm]
  refine actStep (sent ▸ Set.subset_union_left) (.vote n
    ⟨unvoted, invited, ?_, ⟨rfl, rfl⟩, rfl, rfl, rfl, rfl⟩)
  cases value : cast n with
  | commit =>
      rw [value] at sent
      exact .inl ⟨sent, (votes .commit).trans (by simp [scene, value]),
        (votes .abort).trans (by simp [scene, value])⟩
  | abort =>
      rw [value] at sent
      exact .inr ⟨sent, (votes .abort).trans (by simp [scene, value]),
        (votes .commit).trans (by simp [scene, value])⟩

private theorem scene_receiveVote (unread : n ∉ received) : (system (population Node)).next
    (scene cast .voting none .univ received ∅)
    (scene cast .voting none .univ (insert n received) ∅) := by
  have available : ((scene cast .voting none .univ received ∅).voteFrom n).Nonempty := by
    refine ⟨.vote n (cast n), .inr (.inl ⟨n, trivial, rfl⟩), ?_, rfl, rfl⟩
    cases cast n
    · exact .inl rfl
    · exact .inr rfl
  have commit : (∃ m ∈ (scene cast .voting none .univ received ∅).sent,
      m.messageType = .voteCommit ∧ m.origin = .node n ∧ m.dest = .coordinator) ↔
      cast n = .commit := by
    constructor
    · intro listed
      obtain ⟨m, listed, type, origin, _⟩ := listed
      rcases listed with ⟨_, other, rfl⟩ | ⟨other, _, rfl⟩ | ⟨wrong, _⟩
      · cases type
      · obtain rfl : other = n := by simpa [Message.vote] using origin
        cases value : cast other with
        | commit => rfl
        | abort => simp [Message.vote, value, MessageType.ofVote] at type
      · cases wrong
    · intro agreed
      exact ⟨.vote n (cast n), .inr (.inl ⟨n, trivial, rfl⟩), by simp [Message.vote, agreed,
        MessageType.ofVote], rfl, rfl⟩
  refine actStep subset_rfl (.receiveVote n ⟨rfl, unread, available, ?_, fun voted => ?_,
    fun objected => ?_, rfl, rfl, rfl, ⟨rfl, rfl⟩, rfl, rfl⟩)
  · exact (Set.insert_eq n received).trans (Set.union_comm ..)
  · have agreed := commit.mp voted
    ext m
    by_cases same : m = n <;> simp [scene, same, agreed]
  · have objects := commit.not.mp objected
    ext m
    by_cases same : m = n <;> simp [scene, same, objects]

private theorem scene_decide (allowed : d = .commit → ∀ n, cast n = .commit) :
    (system (population Node)).next
      (scene cast .voting none .univ .univ ∅) (scene cast .decided (some d) .univ .univ ∅) := by
  have sent : (scene cast .decided (some d) .univ .univ ∅).sent =
      (scene cast .voting none .univ .univ ∅).sent := by
    ext m
    simp [scene]
  refine actStep sent.superset (.decide d ⟨rfl, fun commit => ?_, rfl, rfl, ⟨rfl, rfl⟩, sent,
    ⟨rfl, rfl⟩, ?_, ?_⟩)
  · exact Set.eq_univ_of_forall fun n => ⟨trivial, allowed commit n⟩
  · simp [scene]
  · simp [scene]

private theorem scene_sendDecision : (system (population Node)).next
    (scene cast .decided (some d) .univ .univ ∅) (scene cast .done (some d) .univ .univ ∅) := by
  have sent : (scene cast .done (some d) .univ .univ ∅).sent =
      (scene cast .decided (some d) .univ .univ ∅).sent ∪ {m | m ∈ population Node ∧
        m.messageType = .ofDecision d ∧ m.origin = .coordinator} := by
    ext m
    simp [scene, population, Message.populates_decision_iff, or_assoc]
  refine actStep (sent ▸ Set.subset_union_left) (.sendDecision
    ⟨rfl, fun commit => ?_, fun abort => ?_, rfl, rfl, ⟨rfl, rfl⟩, ⟨rfl, rfl⟩, rfl, rfl⟩)
  · cases commit
    exact sent
  · cases d with
    | commit => exact absurd rfl abort
    | abort => exact sent

private theorem scene_learn (unaware : n ∉ learned) : (system (population Node)).next
    (scene cast .done (some d) .univ .univ learned)
    (scene cast .done (some d) .univ .univ (insert n learned)) := by
  have undecided : n ∉ (scene cast .done (some d) .univ .univ learned).participantDecided := by
    simp [State.participantDecided, scene, unaware]
  have announced : .decision n d ∈ (scene cast .done (some d) .univ .univ learned).sent :=
    .inr (.inr ⟨rfl, n, d, rfl, rfl⟩)
  have available : ((scene cast .done (some d) .univ .univ learned).decisionFor n).Nonempty := by
    refine ⟨.decision n d, announced, ?_, rfl, rfl⟩
    cases d
    · exact .inl rfl
    · exact .inr rfl
  have commit : (∃ m ∈ (scene cast .done (some d) .univ .univ learned).sent,
      m.messageType = .decCommit ∧ m.dest = .node n) ↔ d = .commit := by
    constructor
    · intro listed
      obtain ⟨m, listed, type, dest⟩ := listed
      rcases listed with ⟨_, other, rfl⟩ | ⟨other, _, rfl⟩ | ⟨_, other, found, same, rfl⟩
      · cases type
      · cases dest
      · obtain rfl := Option.some.inj same
        cases d with
        | commit => rfl
        | abort => cases type
    · intro same
      subst same
      exact ⟨.decision n .commit, announced, rfl, rfl⟩
  refine actStep subset_rfl (.receiveDecision n ⟨undecided, available, fun some => ?_,
    fun none => ?_, ⟨rfl, rfl⟩, rfl, rfl, rfl, rfl, rfl⟩)
  · obtain rfl := commit.mp some
    exact ⟨by ext m; simp [scene, or_comm], by simp [scene]⟩
  · have abort : d = .abort := by
      cases d with
      | commit => exact absurd (commit.mpr rfl) none
      | abort => rfl
    subst abort
    exact ⟨by ext m; simp [scene, or_comm], by simp [scene]⟩

end Steps

section Scopes

variable [Finite Node] {d : Decision}

open Library.TransitionSystem

private theorem scene_steps (allowed : d = .commit → ∀ n, cast n = .commit) :
    (system (population Node)).Steps (scene cast .waiting none ∅ ∅ ∅)
      (scene cast .done (some d) .univ .univ .univ) := by
  have voted := Steps.sweep (fun voted => scene cast .voting none voted ∅ ∅)
    fun _ _ => scene_vote
  have received := Steps.sweep (fun received => scene cast .voting none .univ received ∅)
    fun _ _ => scene_receiveVote
  have learned := Steps.sweep (fun learned => scene cast .done (some d) .univ .univ learned)
    fun _ _ => scene_learn
  have decided := (Steps.single (scene_decide allowed)).trans (.single scene_sendDecision)
  exact (Steps.single scene_sendPrepare).trans
    (voted.trans (received.trans (decided.trans learned)))

theorem exists_complete_trace (allowed : d = .commit → ∀ n, cast n = .commit) :
    ∃ (run : Nat → State Node) (time : Nat), Trace (population Node) run ∧
      Complete (run time) ∧ (run time).decision = some d ∧
      (run time).votedCommit = {n | cast n = .commit} ∧
      (run time).votedAbort = {n | cast n = .abort} ∧
      (d = .commit → (run time).participantCommitted = Set.univ) ∧
      (d = .abort → (run time).participantAborted = Set.univ) := by
  let first := scene cast .waiting none ∅ ∅ ∅
  let last := scene cast .done (some d) .univ .univ .univ
  let ends : Nat → State Node := fun index => if index = 0 then first else last
  have runs : ∀ index, Relation.ReflTransGen (Transition (population Node))
      (ends index) (ends (index + 1)) := by
    intro index
    by_cases initial : index = 0
    · subst initial
      exact Relation.ReflTransGen.mono (fun _ _ step => step.1) _ _ (scene_steps cast allowed)
    · simp only [ends, initial, if_false, Nat.succ_ne_zero]
      exact .refl
  obtain ⟨run, position, start, _, passes, next⟩ :=
    exists_execution (fun s => ⟨subset_rfl, .inr (stutter_iff.mpr rfl)⟩) runs
  have initial : run 0 = first := by
    rw [← start, passes]
    rfl
  have complete : run (position 1) = last := passes 1
  refine ⟨run, position 1, ⟨?_, next⟩, ?_⟩
  · rw [initial]
    refine ⟨?_, rfl, rfl, rfl, ?_, ?_, ?_, ?_, ?_⟩ <;> simp [first, scene]
  rw [complete]
  refine ⟨⟨rfl, Set.eq_univ_of_forall fun n => ?_, Set.eq_univ_of_forall fun n => ?_⟩, rfl, ?_, ?_,
    fun commit => ?_, fun abort => ?_⟩
  · cases value : cast n with
    | commit => exact .inl ⟨trivial, value⟩
    | abort => exact .inr ⟨trivial, value⟩
  · cases d with
    | commit => exact .inl ⟨trivial, rfl⟩
    | abort => exact .inr ⟨trivial, rfl⟩
  · simp [last, scene]
  · simp [last, scene]
  · simp [last, scene, commit]
  · simp [last, scene, abort]

end Scopes

end TwoPhaseCommit.Alloy
