import Mathlib.Tactic.Common

/-! Core types shared by the coordinator, the participants and the simulator.
Times, timeouts and sequence numbers are natural numbers, so a run whose clock
would overflow `u64` is outside the model. -/

set_option autoImplicit false

namespace TwoPhaseCommit

/-- Identifier for a participant node. The coordinator has its own identifier. -/
structure NodeId where
  id : UInt8
  deriving DecidableEq, Repr

instance : Ord NodeId := ⟨compareOn NodeId.id⟩

/-- A participant's vote on whether to commit or abort the transaction. -/
inductive Vote where
  | commit
  | abort
  deriving DecidableEq, Repr

/-- The coordinator's final decision about the transaction. -/
inductive Decision where
  | commit
  | abort
  deriving DecidableEq, Repr

/-- Identifier for a protocol actor. -/
inductive ActorId where
  | coordinator
  | node (id : NodeId)
  deriving DecidableEq, Repr

/-- The derived order puts the coordinator before every node. -/
def ActorId.key : ActorId → Option NodeId
  | .coordinator => none
  | .node id => some id

instance : Ord ActorId := ⟨compareOn ActorId.key⟩

/-- Messages exchanged during the protocol. -/
inductive MessageType where
  | startTransaction
  | prepare
  | voteCommit
  | voteAbort
  | decisionCommit
  | decisionAbort
  | ack
  deriving DecidableEq, Repr

instance : Ord MessageType := ⟨compareOn MessageType.ctorIdx⟩

/-- A message in transit between two actors. -/
structure Message where
  messageType : MessageType
  «from» : ActorId
  «to» : ActorId
  deriving DecidableEq, Repr

instance : Ord Message :=
  ⟨compareLex (compareOn Message.messageType)
    (compareLex (compareOn Message.from) (compareOn Message.to))⟩

def Vote.messageType : Vote → MessageType
  | .commit => .voteCommit
  | .abort => .voteAbort

def Decision.messageType : Decision → MessageType
  | .commit => .decisionCommit
  | .abort => .decisionAbort

@[simp] theorem Vote.messageType_inj {left right : Vote} :
    left.messageType = right.messageType ↔ left = right := by
  cases left <;> cases right <;> decide

@[simp] theorem Decision.messageType_inj {left right : Decision} :
    left.messageType = right.messageType ↔ left = right := by
  cases left <;> cases right <;> decide

@[simp] theorem Vote.messageType_ne_decision {vote : Vote} {decision : Decision} :
    vote.messageType ≠ decision.messageType := by
  cases vote <;> cases decision <;> decide

@[simp] theorem Decision.messageType_ne_vote {vote : Vote} {decision : Decision} :
    decision.messageType ≠ vote.messageType :=
  Vote.messageType_ne_decision.symm

/-! ## Lawful orders -/

private theorem eq_of_compareOn {α β : Type} [Ord β] [Std.LawfulEqOrd β] {key : α → β}
    (injective : ∀ {left right : α}, key left = key right → left = right)
    {left right : α} (same : compareOn key left right = .eq) : left = right :=
  injective (Std.LawfulEqOrd.eq_of_compare same)

instance : Std.TransOrd NodeId :=
  inferInstanceAs (Std.TransCmp (compareOn NodeId.id))

instance : Std.LawfulEqOrd NodeId where
  eq_of_compare := eq_of_compareOn fun {left right} same => by
    cases left
    cases right
    exact congrArg NodeId.mk same

theorem ActorId.key_injective {left right : ActorId} (same : left.key = right.key) :
    left = right := by
  cases left <;> cases right <;> simp_all [ActorId.key]

instance : Std.TransOrd ActorId :=
  inferInstanceAs (Std.TransCmp (compareOn ActorId.key))

instance : Std.LawfulEqOrd ActorId where
  eq_of_compare := eq_of_compareOn ActorId.key_injective

theorem MessageType.ctorIdx_injective {left right : MessageType}
    (same : left.ctorIdx = right.ctorIdx) : left = right := by
  cases left <;> cases right <;> first | rfl | cases same

instance : Std.TransOrd MessageType :=
  inferInstanceAs (Std.TransCmp (compareOn MessageType.ctorIdx))

instance : Std.LawfulEqOrd MessageType where
  eq_of_compare := eq_of_compareOn MessageType.ctorIdx_injective

instance : Std.TransOrd Message :=
  inferInstanceAs (Std.TransCmp (compareLex (compareOn Message.messageType)
    (compareLex (compareOn Message.from) (compareOn Message.to))))

instance : Std.LawfulEqOrd Message where
  eq_of_compare {left right} same := by
    obtain ⟨types, senders, recipients⟩ : compareOn Message.messageType left right = .eq ∧
        compareOn Message.from left right = .eq ∧ compareOn Message.to left right = .eq := by
      simpa only [compareLex_eq_eq] using (show compareLex (compareOn Message.messageType)
        (compareLex (compareOn Message.from) (compareOn Message.to)) left right = .eq from same)
    cases left
    cases right
    simp only [Message.mk.injEq]
    exact ⟨Std.LawfulEqOrd.eq_of_compare types,
      Std.LawfulEqOrd.eq_of_compare senders,
      Std.LawfulEqOrd.eq_of_compare recipients⟩

end TwoPhaseCommit
