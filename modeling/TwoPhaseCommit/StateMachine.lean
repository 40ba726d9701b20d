import TwoPhaseCommit.Types

/-! The interface shared by the coordinator and the participants. -/

set_option autoImplicit false

namespace TwoPhaseCommit

/-- A protocol actor driven by the simulator. A method that mutates the actor
and returns the outgoing messages is a function to the pair of both. -/
class StateMachine (σ : Type) where
  /-- Handle an inbound message and return any messages to send in response. -/
  onMessage : σ → Message → Nat → σ × List Message
  /-- Advance time. May produce spontaneous messages. -/
  tick : σ → Nat → σ × List Message
  /-- Restore state from durable storage after a crash. -/
  recover : σ → Nat → σ
  /-- Whether the actor is in a terminal state, where `tick` returns nothing. -/
  isQuiescent : σ → Bool

end TwoPhaseCommit
