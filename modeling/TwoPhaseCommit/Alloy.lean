import TwoPhaseCommit.Types
import TwoPhaseCommit.Library.TransitionSystem
import Mathlib.Data.Set.Insert

/-! The Alloy model of the repository, over any type of nodes. A `var` field is a
component of the state, a primed name the component of the second state, and
each predicate is the conjunction of its lines. `Message` atoms are determined by
their fields, and the atoms that exist are a set. -/

set_option autoImplicit false

namespace TwoPhaseCommit.Alloy

inductive Actor (Node : Type) where
  | node (node : Node)
  | coordinator
  deriving DecidableEq, Repr

inductive Phase where
  | waiting
  | voting
  | decided
  | done
  deriving DecidableEq, Repr

inductive MessageType where
  | prepare
  | voteCommit
  | voteAbort
  | decCommit
  | decAbort
  deriving DecidableEq, Repr

structure Message (Node : Type) where
  messageType : MessageType
  origin : Actor Node
  dest : Actor Node
  deriving DecidableEq, Repr

structure State (Node : Type) where
  /-- The ever-growing network. -/
  sent : Set (Message Node)
  phase : Phase
  decision : Option Decision
  votesReceived : Set Node
  commitVotes : Set Node
  votedCommit : Set Node
  votedAbort : Set Node
  participantCommitted : Set Node
  participantAborted : Set Node

variable {Node : Type}

namespace State

def hasVoted (s : State Node) : Set Node := s.votedCommit ∪ s.votedAbort

def participantDecided (s : State Node) : Set Node :=
  s.participantCommitted ∪ s.participantAborted

def prepareFor (s : State Node) (n : Node) : Set (Message Node) :=
  {m | m ∈ s.sent ∧ m.messageType = .prepare ∧ m.dest = .node n}

def voteFrom (s : State Node) (n : Node) : Set (Message Node) :=
  {m | m ∈ s.sent ∧ (m.messageType = .voteCommit ∨ m.messageType = .voteAbort) ∧
    m.origin = .node n ∧ m.dest = .coordinator}

def decisionFor (s : State Node) (n : Node) : Set (Message Node) :=
  {m | m ∈ s.sent ∧ (m.messageType = .decCommit ∨ m.messageType = .decAbort) ∧
    m.dest = .node n ∧ m.origin = .coordinator}

def init (s : State Node) : Prop :=
  s.sent = ∅ ∧ s.phase = .waiting ∧ s.decision = none ∧ s.votesReceived = ∅ ∧
    s.commitVotes = ∅ ∧ s.votedCommit = ∅ ∧ s.votedAbort = ∅ ∧ s.participantCommitted = ∅ ∧
    s.participantAborted = ∅

end State

variable (messages : Set (Message Node)) (s s' : State Node)

/-! ## Frame conditions -/

def unchangedSent : Prop := s'.sent = s.sent

def unchangedCoordPhase : Prop := s'.phase = s.phase

def unchangedCoordDecision : Prop := s'.decision = s.decision

def unchangedCoordVotes : Prop :=
  s'.votesReceived = s.votesReceived ∧ s'.commitVotes = s.commitVotes

def unchangedCoordinator : Prop :=
  unchangedCoordPhase s s' ∧ unchangedCoordDecision s s' ∧ unchangedCoordVotes s s'

def unchangedVotes : Prop := s'.votedCommit = s.votedCommit ∧ s'.votedAbort = s.votedAbort

def unchangedParticipantDecision : Prop :=
  s'.participantCommitted = s.participantCommitted ∧
    s'.participantAborted = s.participantAborted

def unchangedParticipant : Prop := unchangedVotes s s' ∧ unchangedParticipantDecision s s'

/-! ## Event predicates -/

def coordinatorSendPrepare : Prop :=
  s.phase = .waiting ∧
  s'.sent = s.sent ∪ {m | m ∈ messages ∧ m.messageType = .prepare ∧ m.origin = .coordinator} ∧
  s'.phase = .voting ∧
  unchangedCoordDecision s s' ∧ unchangedCoordVotes s s' ∧ unchangedParticipant s s'

def participantVote (n : Node) : Prop :=
  n ∉ s.hasVoted ∧ (s.prepareFor n).Nonempty ∧
  ((s'.sent = s.sent ∪ {m | m ∈ messages ∧ m.messageType = .voteCommit ∧ m.origin = .node n ∧
        m.dest = .coordinator} ∧
      s'.votedCommit = s.votedCommit ∪ {n} ∧ s'.votedAbort = s.votedAbort) ∨
    (s'.sent = s.sent ∪ {m | m ∈ messages ∧ m.messageType = .voteAbort ∧ m.origin = .node n ∧
        m.dest = .coordinator} ∧
      s'.votedAbort = s.votedAbort ∪ {n} ∧ s'.votedCommit = s.votedCommit)) ∧
  unchangedParticipantDecision s s' ∧ unchangedCoordinator s s'

def coordinatorReceiveVote (n : Node) : Prop :=
  s.phase = .voting ∧ n ∉ s.votesReceived ∧ (s.voteFrom n).Nonempty ∧
  s'.votesReceived = s.votesReceived ∪ {n} ∧
  ((∃ m ∈ s.sent, m.messageType = .voteCommit ∧ m.origin = .node n ∧ m.dest = .coordinator) →
    s'.commitVotes = s.commitVotes ∪ {n}) ∧
  (¬ (∃ m ∈ s.sent, m.messageType = .voteCommit ∧ m.origin = .node n ∧ m.dest = .coordinator) →
    s'.commitVotes = s.commitVotes) ∧
  unchangedCoordPhase s s' ∧ unchangedCoordDecision s s' ∧ unchangedSent s s' ∧
  unchangedParticipant s s'

def coordinatorDecide (d : Decision) : Prop :=
  s.phase = .voting ∧ (d = .commit → s.commitVotes = Set.univ) ∧
  s'.phase = .decided ∧ s'.decision = some d ∧
  unchangedCoordVotes s s' ∧ unchangedSent s s' ∧ unchangedParticipant s s'

def coordinatorSendDecision : Prop :=
  s.phase = .decided ∧
  (s.decision = some .commit → s'.sent = s.sent ∪
    {m | m ∈ messages ∧ m.messageType = .decCommit ∧ m.origin = .coordinator}) ∧
  (s.decision ≠ some .commit → s'.sent = s.sent ∪
    {m | m ∈ messages ∧ m.messageType = .decAbort ∧ m.origin = .coordinator}) ∧
  s'.phase = .done ∧
  unchangedCoordDecision s s' ∧ unchangedCoordVotes s s' ∧ unchangedParticipant s s'

def participantReceiveDecision (n : Node) : Prop :=
  n ∉ s.participantDecided ∧ (s.decisionFor n).Nonempty ∧
  ((∃ m ∈ s.sent, m.messageType = .decCommit ∧ m.dest = .node n) →
    s'.participantCommitted = s.participantCommitted ∪ {n} ∧
      s'.participantAborted = s.participantAborted) ∧
  (¬ (∃ m ∈ s.sent, m.messageType = .decCommit ∧ m.dest = .node n) →
    s'.participantAborted = s.participantAborted ∪ {n} ∧
      s'.participantCommitted = s.participantCommitted) ∧
  unchangedVotes s s' ∧ unchangedSent s s' ∧ unchangedCoordinator s s'

def stutter : Prop := unchangedSent s s' ∧ unchangedCoordinator s s' ∧ unchangedParticipant s s'

/-! ## Traces -/

/-- An event predicate other than `stutter` holds. -/
inductive Acts : Prop where
  | sendPrepare : coordinatorSendPrepare messages s s' → Acts
  | vote (n : Node) : participantVote messages s s' n → Acts
  | receiveVote (n : Node) : coordinatorReceiveVote s s' n → Acts
  | decide (d : Decision) : coordinatorDecide s s' d → Acts
  | sendDecision : coordinatorSendDecision messages s s' → Acts
  | receiveDecision (n : Node) : participantReceiveDecision s s' n → Acts

/-- The transition relation of the fact `traces`, with the fact `messagesNeverLost`. -/
def Transition : Prop := s.sent ⊆ s'.sent ∧ (Acts messages s s' ∨ stutter s s')

/-- The fact `messagePopulation`. -/
def MessagePopulation : Prop := ∀ n : Node,
  (∃! m, m ∈ messages ∧ m.messageType = .prepare ∧ m.origin = .coordinator ∧ m.dest = .node n) ∧
  (∃! m, m ∈ messages ∧ m.messageType = .voteCommit ∧ m.origin = .node n ∧
    m.dest = .coordinator) ∧
  (∃! m, m ∈ messages ∧ m.messageType = .voteAbort ∧ m.origin = .node n ∧
    m.dest = .coordinator) ∧
  (∃! m, m ∈ messages ∧ m.messageType = .decCommit ∧ m.origin = .coordinator ∧
    m.dest = .node n) ∧
  (∃! m, m ∈ messages ∧ m.messageType = .decAbort ∧ m.origin = .coordinator ∧ m.dest = .node n)

/-- The transitions that are one of the six protocol actions. -/
def system : Library.TransitionSystem (State Node) where
  initial := State.init
  next s s' := Transition messages s s' ∧ Acts messages s s'

/-- The facts `init`, `messagesNeverLost` and `traces`. -/
structure Trace (run : Nat → State Node) : Prop where
  init : (run 0).init
  next : ∀ time, Transition messages (run time) (run (time + 1))

/-! ## Asserts -/

def Agreement (s : State Node) : Prop :=
  ∀ p1 ∈ s.participantDecided, ∀ p2 ∈ s.participantDecided, p1 ≠ p2 →
    (p1 ∈ s.participantCommitted ↔ p2 ∈ s.participantCommitted)

def Validity (s : State Node) : Prop := s.decision = some .commit → s.commitVotes = Set.univ

def Termination (run : Nat → State Node) : Prop :=
  ∃ time, (run time).participantDecided = Set.univ

/-- The six clauses of `fairness`, in their order. -/
structure Fairness (run : Nat → State Node) : Prop where
  sendPrepare : ∀ time, (run time).phase = .waiting →
    ∃ later ≥ time, coordinatorSendPrepare messages (run later) (run (later + 1))
  vote : ∀ n time, n ∉ (run time).hasVoted ∧ ((run time).prepareFor n).Nonempty →
    ∃ later ≥ time, participantVote messages (run later) (run (later + 1)) n
  receiveVote : ∀ n, (∃ time, ∀ later ≥ time, (run later).phase = .voting ∧
      n ∉ (run later).votesReceived ∧ ((run later).voteFrom n).Nonempty) →
    ∃ time, coordinatorReceiveVote (run time) (run (time + 1)) n
  decide : ∀ time, (run time).phase = .voting →
    ∃ later ≥ time, ∃ d, coordinatorDecide (run later) (run (later + 1)) d
  sendDecision : ∀ time, (run time).phase = .decided →
    ∃ later ≥ time, coordinatorSendDecision messages (run later) (run (later + 1))
  receiveDecision : ∀ n time,
    n ∉ (run time).participantDecided ∧ ((run time).decisionFor n).Nonempty →
    ∃ later ≥ time, participantReceiveDecision (run later) (run (later + 1)) n

end TwoPhaseCommit.Alloy
