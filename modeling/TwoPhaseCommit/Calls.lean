import TwoPhaseCommit.StateMachine
import TwoPhaseCommit.Library.Machine

/-! Sequences of calls of one actor, with any messages from any senders and any
times. -/

set_option autoImplicit false

namespace TwoPhaseCommit

/-- A call of one of the methods that change the actor. -/
inductive Call where
  | onMessage (msg : Message) (atTime : Nat)
  | tick (atTime : Nat)
  | recover (atTime : Nat)
  deriving DecidableEq, Repr

namespace Call

def time : Call → Nat
  | .onMessage _ atTime | .tick atTime | .recover atTime => atTime

def isRecover : Call → Bool
  | .recover _ => true
  | .onMessage _ _ | .tick _ => false

def message? : Call → Option Message
  | .onMessage msg _ => some msg
  | .tick _ | .recover _ => none

/-- The call hands over a message of this type from this node. -/
def Delivers (call : Call) (type : MessageType) (node : NodeId) : Prop :=
  ∃ msg atTime, call = .onMessage msg atTime ∧ msg.messageType = type ∧ msg.from = .node node

theorem Delivers.node_eq {call : Call} {first second : MessageType} {left right : NodeId}
    (delivers : call.Delivers first left) (again : call.Delivers second right) :
    left = right ∧ first = second := by
  obtain ⟨msg, atTime, rfl, rfl, sender⟩ := delivers
  obtain ⟨other, _, same, rfl, likewise⟩ := again
  cases same
  cases sender.symm.trans likewise
  exact ⟨rfl, rfl⟩

end Call

/-- The actor as a machine whose inputs are the calls. -/
def StateMachine.machine {σ : Type} [StateMachine σ] : Library.Machine σ Call (List Message) where
  step self
    | .onMessage msg atTime => StateMachine.onMessage self msg atTime
    | .tick atTime => StateMachine.tick self atTime
    | .recover atTime => (StateMachine.recover self atTime, [])

end TwoPhaseCommit
