import TwoPhaseCommit.Rand
import TwoPhaseCommit.StateMachine

/-! The coordinator state machine: `Waiting`, `Voting`, `Decided`,
`AwaitingAcks`, `Done`, with retransmission on `tick` and recovery from the
durable decision. -/

set_option autoImplicit false

namespace TwoPhaseCommit

/-- Coordinator protocol phase. `voting` holds the time of the last Prepare and
the votes so far, `awaitingAcks` the time of the last decision message and the
acknowledgements so far. -/
inductive CoordinatorPhase where
  | waiting
  | voting (lastPrepareTime : Nat) (votes : Std.ExtTreeMap NodeId Vote)
  | decided (decision : Decision)
  | awaitingAcks (decision : Decision) (lastDecisionTime : Nat) (acks : Std.ExtTreeSet NodeId)
  | done (decision : Decision)
  deriving DecidableEq

/-- Simulation configuration. -/
structure Coordinator.Config (ρ : Type) where
  rng : ρ
  abortBias : ℚ
  retransmitTimeout : Nat

/-- Durable state that survives crashes. -/
structure Coordinator.DurableState where
  decision : Option Decision
  deriving DecidableEq

structure Coordinator (ρ : Type) where
  nodes : List NodeId
  phase : CoordinatorPhase
  durableState : Coordinator.DurableState
  config : Coordinator.Config ρ

namespace CoordinatorPhase

def decision : CoordinatorPhase → Option Decision
  | .decided decision | .done decision => some decision
  | .awaitingAcks decision _ _ => some decision
  | .waiting | .voting _ _ => none

end CoordinatorPhase

namespace Coordinator

variable {ρ : Type} [ChaCha8Rng ρ]

def new (nodes : List NodeId) (rngSeed : UInt64) (abortBias : ℚ) (retransmitTimeout : Nat) :
    Coordinator ρ where
  nodes := nodes
  phase := .waiting
  durableState := { decision := none }
  config := {
    rng := ChaCha8Rng.seedFromU64 rngSeed
    abortBias := abortBias
    retransmitTimeout := retransmitTimeout }

/-- The decision this coordinator reached, if any. -/
def decision (self : Coordinator ρ) : Option Decision :=
  self.phase.decision

def messageTo (messageType : MessageType) (node : NodeId) : Message :=
  { messageType := messageType, «from» := .coordinator, «to» := .node node }

/-- Transition to `decided` if a decision can be made: on any Abort vote, or
when all votes are in, then subject to the `abortBias` coin flip. -/
def tryDecide (self : Coordinator ρ) : Coordinator ρ :=
  match self.phase with
  | .voting _ votes =>
      let hasAbort := votes.toList.any fun (_, vote) => vote == .abort
      let allIn := votes.size == self.nodes.length
      if hasAbort then
        { self with phase := .decided .abort }
      else if allIn then
        let (flip, rng) :=
          ChaCha8Rng.randomBool self.config.rng (clamp self.config.abortBias 0 1)
        { self with
          phase := .decided (if flip then .abort else .commit)
          config := { self.config with rng := rng } }
      else self
  | _ => self

/-- In `decided`, write the decision to durable storage, broadcast it and move
to `awaitingAcks`. No-op in any other phase. -/
def trySendDecision (self : Coordinator ρ) (atTime : Nat) : Coordinator ρ × List Message :=
  match self.phase with
  | .decided decision =>
      ({ self with
          durableState := { decision := some decision }
          phase := .awaitingAcks decision atTime ∅ },
        self.nodes.map (messageTo decision.messageType))
  | _ => (self, [])

/-- Spontaneous abort and retransmission. -/
def tick (self : Coordinator ρ) (atTime : Nat) : Coordinator ρ × List Message :=
  match self.phase with
  | .voting lastPrepareTime votes =>
      let (abort, rng) :=
        ChaCha8Rng.randomBool self.config.rng (clamp (self.config.abortBias / 10) 0 1)
      let self := { self with config := { self.config with rng := rng } }
      if abort then
        { self with phase := .decided .abort }.trySendDecision atTime
      else if atTime - lastPrepareTime ≥ self.config.retransmitTimeout then
        ({ self with phase := .voting atTime votes },
          (self.nodes.filter fun node => !votes.contains node).map (messageTo .prepare))
      else (self, [])
  | .decided _ => self.trySendDecision atTime
  | .awaitingAcks decision lastDecisionTime acks =>
      if atTime - lastDecisionTime ≥ self.config.retransmitTimeout then
        ({ self with phase := .awaitingAcks decision atTime acks },
          (self.nodes.filter fun node => !acks.contains node).map
            (messageTo decision.messageType))
      else (self, [])
  | .waiting | .done _ => (self, [])

/-- The vote arm of `onMessage`: a vote from a node whose vote is not recorded
yet is recorded, and the decision it completes is broadcast at once. -/
def receiveVote (self : Coordinator ρ) (lastPrepareTime : Nat)
    (votes : Std.ExtTreeMap NodeId Vote) (sender : ActorId) (vote : Vote) (atTime : Nat) :
    Coordinator ρ × List Message :=
  match sender with
  | .node node =>
      if votes.contains node then (self, [])
      else
        { self with phase := .voting lastPrepareTime (votes.insert node vote) }.tryDecide
          |>.trySendDecision atTime
  | .coordinator => (self, [])

def receiveAck (self : Coordinator ρ) (decision : Decision) (lastDecisionTime : Nat)
    (acks : Std.ExtTreeSet NodeId) (sender : ActorId) : Coordinator ρ :=
  match sender with
  | .node node =>
      let acks := acks.insert node
      if acks.size = self.nodes.length then { self with phase := .done decision }
      else { self with phase := .awaitingAcks decision lastDecisionTime acks }
  | .coordinator => self

/-- What `onMessage` does after its implicit tick. -/
def receive (self : Coordinator ρ) (msg : Message) (atTime : Nat) :
    Coordinator ρ × List Message :=
  match msg.messageType, self.phase with
  | .startTransaction, .waiting =>
      ({ self with phase := .voting atTime ∅ }, self.nodes.map (messageTo .prepare))
  | .voteCommit, .voting lastPrepareTime votes =>
      self.receiveVote lastPrepareTime votes msg.from .commit atTime
  | .voteAbort, .voting lastPrepareTime votes =>
      self.receiveVote lastPrepareTime votes msg.from .abort atTime
  | .ack, .awaitingAcks decision lastDecisionTime acks =>
      (self.receiveAck decision lastDecisionTime acks msg.from, [])
  | _, _ => (self, [])

def onMessage (self : Coordinator ρ) (msg : Message) (atTime : Nat) :
    Coordinator ρ × List Message :=
  let (self, ticked) := self.tick atTime
  let (self, received) := self.receive msg atTime
  (self, ticked ++ received)

def isQuiescent (self : Coordinator ρ) : Bool :=
  match self.phase with
  | .done _ | .waiting => true
  | _ => false

/-- Restore the phase from durable storage: `decided` with the durable decision,
otherwise `voting` with cleared votes, backdated so that the next tick sends. -/
def recover (self : Coordinator ρ) (atTime : Nat) : Coordinator ρ :=
  match self.durableState.decision with
  | some decision => { self with phase := .decided decision }
  | none => { self with phase := .voting (atTime - self.config.retransmitTimeout) ∅ }

instance : StateMachine (Coordinator ρ) where
  onMessage := onMessage
  tick := tick
  recover := recover
  isQuiescent := isQuiescent

end Coordinator

end TwoPhaseCommit
