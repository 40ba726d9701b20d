import TwoPhaseCommit.Library.Behaviour
import Mathlib.Data.Set.Insert
import Mathlib.Logic.Function.Basic

/-! The TLA+ specification of the repository, over any type of participants. A
variable is a component of the state, a primed variable the component of the
second state, and each action is the conjunction of its lines. -/

set_option autoImplicit false

namespace TwoPhaseCommit.Tla

/-- The message types, which are also the values of votes and decisions, and `NONE`. -/
inductive Value where
  | prepare
  | voteCommit
  | voteAbort
  | commit
  | abort
  | none
  deriving DecidableEq, Repr

inductive Phase where
  | waiting
  | voting
  | voted
  | decided
  | done
  deriving DecidableEq, Repr

inductive Actor (Participant : Type) where
  | coordinator
  | participant (p : Participant)
  deriving DecidableEq, Repr

structure Message (Participant : Type) where
  type : Value
  source : Actor Participant
  destination : Actor Participant
  deriving DecidableEq, Repr

structure State (Participant : Type) where
  messages : Set (Message Participant)
  coordinatorPhase : Phase
  coordinatorDecision : Value
  participantPhase : Participant → Phase
  votes : Participant → Value
  decision : Participant → Value

variable {Participant : Type}

def State.init : State Participant where
  messages := ∅
  coordinatorPhase := .waiting
  coordinatorDecision := .none
  participantPhase _ := .waiting
  votes _ := .none
  decision _ := .none

/-! ## Coordinator actions -/

section Coordinator

variable (s s' : State Participant)

def coordinatorSendPrepare : Prop :=
  s.coordinatorPhase = .waiting ∧
  s'.messages = s.messages ∪ {msg | ∃ p, msg = ⟨.prepare, .coordinator, .participant p⟩} ∧
  s'.coordinatorPhase = .voting ∧
  s'.coordinatorDecision = s.coordinatorDecision ∧ s'.participantPhase = s.participantPhase ∧
  s'.votes = s.votes ∧ s'.decision = s.decision

def coordinatorReceiveVote [DecidableEq Participant] (p : Participant) : Prop :=
  s.coordinatorPhase = .voting ∧
  s.votes p = .none ∧
  (∃ msg ∈ s.messages,
    (msg.type = .voteCommit ∨ msg.type = .voteAbort) ∧
    msg.source = .participant p ∧
    msg.destination = .coordinator ∧
    s'.votes = Function.update s.votes p msg.type ∧
    if msg.type = .voteAbort then
      s'.coordinatorPhase = .decided ∧ s'.coordinatorDecision = .abort
    else
      s'.coordinatorPhase = s.coordinatorPhase ∧
        s'.coordinatorDecision = s.coordinatorDecision) ∧
  s'.messages = s.messages ∧ s'.participantPhase = s.participantPhase ∧ s'.decision = s.decision

def coordinatorDecide : Prop :=
  s.coordinatorPhase = .voting ∧
  (∀ p, s.votes p = .voteCommit) ∧
  s'.coordinatorPhase = .decided ∧
  s'.coordinatorDecision = .commit ∧
  s'.messages = s.messages ∧ s'.participantPhase = s.participantPhase ∧ s'.votes = s.votes ∧
  s'.decision = s.decision

def coordinatorSendDecision : Prop :=
  s.coordinatorPhase = .decided ∧
  s'.messages = s.messages ∪
    {msg | ∃ p, msg = ⟨s.coordinatorDecision, .coordinator, .participant p⟩} ∧
  s'.coordinatorPhase = .done ∧
  s'.coordinatorDecision = s.coordinatorDecision ∧ s'.participantPhase = s.participantPhase ∧
  s'.votes = s.votes ∧ s'.decision = s.decision

end Coordinator

/-! ## Participant actions -/

section Participant

variable [DecidableEq Participant] (s s' : State Participant)

def participantVote (p : Participant) : Prop :=
  s.participantPhase p = .waiting ∧
  (∃ msg ∈ s.messages, msg.type = .prepare ∧ msg.destination = .participant p) ∧
  (∃ v : Value, (v = .voteCommit ∨ v = .voteAbort) ∧
    s'.messages = s.messages ∪ {⟨v, .participant p, .coordinator⟩} ∧
    s'.participantPhase = Function.update s.participantPhase p .voted) ∧
  s'.coordinatorPhase = s.coordinatorPhase ∧ s'.coordinatorDecision = s.coordinatorDecision ∧
  s'.votes = s.votes ∧ s'.decision = s.decision

def participantReceiveDecision (p : Participant) : Prop :=
  (s.participantPhase p = .voted ∨ s.participantPhase p = .waiting) ∧
  s.decision p = .none ∧
  (∃ msg ∈ s.messages,
    (msg.type = .commit ∨ msg.type = .abort) ∧
    msg.destination = .participant p ∧
    s'.decision = Function.update s.decision p msg.type ∧
    s'.participantPhase = Function.update s.participantPhase p .decided) ∧
  s'.messages = s.messages ∧ s'.coordinatorPhase = s.coordinatorPhase ∧
  s'.coordinatorDecision = s.coordinatorDecision ∧ s'.votes = s.votes

/-! ## Specifications -/

def Next : Prop :=
  coordinatorSendPrepare s s' ∨
  (∃ p, coordinatorReceiveVote s s' p) ∨
  coordinatorDecide s s' ∨
  coordinatorSendDecision s s' ∨
  (∃ p, participantVote s s' p) ∨
  (∃ p, participantReceiveDecision s s' p)

variable (Participant) in
def system : Library.TransitionSystem (State Participant) where
  initial s := s = .init
  next := Next

def Spec (run : Nat → State Participant) : Prop := (system Participant).Behaviour run

def FairSpec (run : Nat → State Participant) : Prop :=
  Spec run ∧ Library.TransitionSystem.WeaklyFair Next run

end Participant

/-! ## Properties -/

/-- The set `Message` of the type invariant. -/
def Message.Typed (msg : Message Participant) : Prop :=
  ((msg.type = .prepare ∨ msg.type = .commit ∨ msg.type = .abort) ∧
    msg.source = .coordinator ∧ ∃ p, msg.destination = .participant p) ∨
  ((msg.type = .voteCommit ∨ msg.type = .voteAbort) ∧
    (∃ p, msg.source = .participant p) ∧ msg.destination = .coordinator)

structure TypeCheck (s : State Participant) : Prop where
  messages : ∀ msg ∈ s.messages, msg.Typed
  coordinatorPhase : s.coordinatorPhase = .waiting ∨ s.coordinatorPhase = .voting ∨
    s.coordinatorPhase = .decided ∨ s.coordinatorPhase = .done
  coordinatorDecision : s.coordinatorDecision = .none ∨ s.coordinatorDecision = .commit ∨
    s.coordinatorDecision = .abort
  participantPhase : ∀ p, s.participantPhase p = .waiting ∨ s.participantPhase p = .voted ∨
    s.participantPhase p = .decided
  votes : ∀ p, s.votes p = .none ∨ s.votes p = .voteCommit ∨ s.votes p = .voteAbort
  decision : ∀ p, s.decision p = .none ∨ s.decision p = .commit ∨ s.decision p = .abort

def Agreement (s : State Participant) : Prop :=
  ∀ p1 p2, s.decision p1 ≠ .none ∧ s.decision p2 ≠ .none → s.decision p1 = s.decision p2

def Consistency (s : State Participant) : Prop :=
  s.coordinatorDecision = .commit → ∀ p, s.votes p = .voteCommit

def Termination (run : Nat → State Participant) : Prop :=
  ∃ time, ∀ p, (run time).decision p ≠ .none

end TwoPhaseCommit.Tla
