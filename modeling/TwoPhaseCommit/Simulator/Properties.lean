import TwoPhaseCommit.Types

/-! Safety invariants checked after every simulator step, over the votes and
decisions observed on the wire. An `assert_eq!` that fails is a `Panic`. -/

set_option autoImplicit false

namespace TwoPhaseCommit

def NodeId.debugList (nodes : List NodeId) : String :=
  "[" ++ ", ".intercalate (nodes.map fun node => s!"NodeId({node.id})") ++ "]"

def Vote.debug : Vote → String
  | .commit => "Commit"
  | .abort => "Abort"

/-- The assertions of the recorders, with the conflicting values they print. -/
inductive Conflict where
  | votes (node : NodeId) (existing vote : Vote)
  | coordinatorDecisions (existing decision : Decision)
  | participantDecisions (node : NodeId) (existing decision : Decision)
  deriving DecidableEq, Repr

/-- Wire-level observations collected during simulation. -/
structure Observations where
  votes : Std.ExtTreeMap NodeId Vote
  coordinatorDecision : Option Decision
  participantDecisions : Std.ExtTreeMap NodeId Decision
  deriving DecidableEq

namespace Observations

def new : Observations where
  votes := ∅
  coordinatorDecision := none
  participantDecisions := ∅

def recordVote (self : Observations) (node : NodeId) (vote : Vote) :
    Except Conflict Observations :=
  match self.votes[node]? with
  | some existing =>
      if existing = vote then .ok self else .error (.votes node existing vote)
  | none => .ok { self with votes := self.votes.insert node vote }

def recordCoordinatorDecision (self : Observations) (decision : Decision) :
    Except Conflict Observations :=
  match self.coordinatorDecision with
  | some existing =>
      if existing = decision then .ok self
      else .error (.coordinatorDecisions existing decision)
  | none => .ok { self with coordinatorDecision := some decision }

def recordParticipantDecision (self : Observations) (node : NodeId) (decision : Decision) :
    Except Conflict Observations :=
  match self.participantDecisions[node]? with
  | some existing =>
      if existing = decision then .ok self
      else .error (.participantDecisions node existing decision)
  | none =>
      .ok { self with participantDecisions := self.participantDecisions.insert node decision }

/-- Record any relevant observations from a sent message. -/
def recordSent (self : Observations) (msg : Message) : Except Conflict Observations :=
  match msg.messageType, msg.from with
  | .voteCommit, .node id => self.recordVote id .commit
  | .voteAbort, .node id => self.recordVote id .abort
  | .decisionCommit, .coordinator => self.recordCoordinatorDecision .commit
  | .decisionAbort, .coordinator => self.recordCoordinatorDecision .abort
  | _, _ => .ok self

/-- Record any relevant observations from a delivered message. -/
def recordDelivered (self : Observations) (msg : Message) : Except Conflict Observations :=
  match msg.messageType, msg.to with
  | .decisionCommit, .node id => self.recordParticipantDecision id .commit
  | .decisionAbort, .node id => self.recordParticipantDecision id .abort
  | _, _ => .ok self

end Observations

/-- AC1: all participants that have received a decision must agree. -/
def checkAgreement (obs : Observations) : Except String Unit :=
  if obs.participantDecisions.size < 2 then .ok ()
  else
    let committed := (obs.participantDecisions.toList.filter (·.2 = .commit)).map (·.1)
    let aborted := (obs.participantDecisions.toList.filter (·.2 = .abort)).map (·.1)
    if !committed.isEmpty && !aborted.isEmpty then
      let committedText := NodeId.debugList committed
      let abortedText := NodeId.debugList aborted
      .error s!"Agreement violated: committed={committedText}, aborted={abortedText}"
    else .ok ()

/-- AC2 in the commit direction, abort safety in the abort direction. -/
def checkValidity (obs : Observations) : Except String Unit :=
  match obs.coordinatorDecision with
  | some .commit =>
      match obs.votes.toList.find? (·.2 ≠ .commit) with
      | some (node, vote) =>
          let voteText := vote.debug
          .error s!"Validity violated: coordinator committed but Node({node.id}) voted {voteText}"
      | none => .ok ()
  | some .abort =>
      match obs.participantDecisions.toList.find? (·.2 = .commit) with
      | some (node, _) =>
          .error s!"Validity violated: coordinator aborted but Node({node.id}) committed"
      | none => .ok ()
  | none => .ok ()

/-- Check all safety invariants. Returns the first violation found, if any. -/
def checkAllInvariants (obs : Observations) : Except String Unit := do
  checkAgreement obs
  checkValidity obs

/-- Whether every participant in `participants` has received a decision. -/
def allDecided (obs : Observations) (participants : List NodeId) : Bool :=
  participants.all obs.participantDecisions.contains

end TwoPhaseCommit
