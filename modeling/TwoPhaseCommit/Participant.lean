import TwoPhaseCommit.Rand
import TwoPhaseCommit.StateMachine

/-! The participant state machine. A participant may learn the decision before
it has voted, and answers duplicates of Prepare and of the decision again. -/

set_option autoImplicit false

namespace TwoPhaseCommit

/-- The participant's phase. In `decided` the vote is `none` when the decision
arrived before Prepare. -/
inductive ParticipantPhase where
  | waiting
  | voted (vote : Vote)
  | decided (vote : Option Vote) (decision : Decision)
  deriving DecidableEq, Repr

/-- Simulation configuration. -/
structure Participant.Config (ρ : Type) where
  rng : ρ
  abortBias : ℚ

/-- Durable state that survives crashes. -/
structure Participant.DurableState where
  vote : Option Vote
  decision : Option Decision
  deriving DecidableEq, Repr

structure Participant (ρ : Type) where
  id : NodeId
  phase : ParticipantPhase
  durableState : Participant.DurableState
  config : Participant.Config ρ

namespace ParticipantPhase

def vote : ParticipantPhase → Option Vote
  | .voted vote => some vote
  | .decided vote _ => vote
  | .waiting => none

def decision : ParticipantPhase → Option Decision
  | .decided _ decision => some decision
  | .waiting | .voted _ => none

end ParticipantPhase

namespace Participant

variable {ρ : Type} [ChaCha8Rng ρ]

def new (id : NodeId) (rngSeed : UInt64) (abortBias : ℚ) : Participant ρ where
  id := id
  phase := .waiting
  durableState := { vote := none, decision := none }
  config := { rng := ChaCha8Rng.seedFromU64 rngSeed, abortBias := abortBias }

/-- A participant with a deterministic vote. -/
def withFixedVote (id : NodeId) (vote : Vote) : Participant ρ :=
  let abortBias := match vote with
    | .commit => 0
    | .abort => 1
  new id 0 abortBias

def vote (self : Participant ρ) : Option Vote :=
  self.phase.vote

/-- The decision received from the coordinator, if any. -/
def decision (self : Participant ρ) : Option Decision :=
  self.phase.decision

def makeAck (self : Participant ρ) : Message :=
  { messageType := .ack, «from» := .node self.id, «to» := .coordinator }

def makeVoteMsg (self : Participant ρ) (vote : Vote) : Message :=
  { messageType := vote.messageType, «from» := .node self.id, «to» := .coordinator }

/-- No-op: the participant is purely reactive. -/
def tick (self : Participant ρ) (_atTime : Nat) : Participant ρ × List Message :=
  (self, [])

/-- The coin flip of the first Prepare. -/
def castVote (self : Participant ρ) : Participant ρ × List Message :=
  let (flip, rng) := ChaCha8Rng.randomBool self.config.rng (clamp self.config.abortBias 0 1)
  let vote := if flip then Vote.abort else Vote.commit
  ({ self with
      durableState := { self.durableState with vote := some vote }
      phase := .voted vote
      config := { self.config with rng := rng } },
    [self.makeVoteMsg vote])

/-- The first decision message: the vote of the current phase is kept. -/
def learn (self : Participant ρ) (decision : Decision) : Participant ρ × List Message :=
  ({ self with
      durableState := { self.durableState with decision := some decision }
      phase := .decided self.phase.vote decision },
    [self.makeAck])

/-- What `onMessage` does after its implicit tick. -/
def receive (self : Participant ρ) (msg : Message) : Participant ρ × List Message :=
  match msg.messageType, self.phase with
  | .prepare, .waiting => self.castVote
  | .prepare, .voted vote => (self, [self.makeVoteMsg vote])
  | .decisionCommit, .waiting | .decisionCommit, .voted _ => self.learn .commit
  | .decisionAbort, .waiting | .decisionAbort, .voted _ => self.learn .abort
  | .decisionCommit, .decided _ _ | .decisionAbort, .decided _ _ => (self, [self.makeAck])
  | _, _ => (self, [])

def onMessage (self : Participant ρ) (msg : Message) (atTime : Nat) :
    Participant ρ × List Message :=
  let (self, ticked) := self.tick atTime
  let (self, received) := self.receive msg
  (self, ticked ++ received)

def recover (self : Participant ρ) (_atTime : Nat) : Participant ρ :=
  match self.durableState.decision, self.durableState.vote with
  | some decision, vote => { self with phase := .decided vote decision }
  | none, some vote => { self with phase := .voted vote }
  | none, none => { self with phase := .waiting }

def isQuiescent (self : Participant ρ) : Bool :=
  match self.phase with
  | .decided _ _ | .waiting => true
  | .voted _ => false

instance : StateMachine (Participant ρ) where
  onMessage := onMessage
  tick := tick
  recover := recover
  isQuiescent := isQuiescent

end Participant

end TwoPhaseCommit
