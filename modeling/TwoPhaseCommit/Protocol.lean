import TwoPhaseCommit.Types
import TwoPhaseCommit.Library.TransitionSystem
import Mathlib.Data.Set.Insert
import Mathlib.Logic.Function.Basic

/-! Two-phase commit with durable records, without clocks, phases or crashes:
what the participants and the coordinator promise, and what they may send. The
network only grows, so loss, duplication and reordering need no steps, and a
crash is the loss of the coordinator's tallies. -/

set_option autoImplicit false

namespace TwoPhaseCommit

namespace Message

def prepare (node : NodeId) : Message := ⟨.prepare, .coordinator, .node node⟩

def vote (node : NodeId) (vote : Vote) : Message := ⟨vote.messageType, .node node, .coordinator⟩

def decision (node : NodeId) (decision : Decision) : Message :=
  ⟨decision.messageType, .coordinator, .node node⟩

def ack (node : NodeId) : Message := ⟨.ack, .node node, .coordinator⟩

end Message

namespace Protocol

/-- The participants, whether the coordinator may abort on its own, and the
votes each participant may cast. -/
structure Policy where
  members : Set NodeId
  mayAbort : Prop
  mayVote : NodeId → Vote → Prop

/-- `vote`, `learned` and `decision` are the durable records of the participants
and of the coordinator; `tally` and `acked` are the coordinator's volatile ones. -/
structure State where
  vote : NodeId → Option Vote
  learned : NodeId → Option Decision
  decision : Option Decision
  tally : NodeId → Option Vote
  acked : Set NodeId
  sent : Set Message

def State.start : State where
  vote _ := none
  learned _ := none
  decision := none
  tally _ := none
  acked := ∅
  sent := ∅

/-- The tally supports the decision, or the coordinator aborts on its own. -/
def Justified (policy : Policy) (state : State) : Decision → Prop
  | .commit => ∀ node ∈ policy.members, state.tally node = some .commit
  | .abort => policy.mayAbort ∨ ∃ node ∈ policy.members, state.tally node = some .abort

def announcement (policy : Policy) (decision : Decision) : Set Message :=
  {msg | ∃ node ∈ policy.members, msg = .decision node decision}

inductive Step (policy : Policy) (state : State) : State → Prop where
  | prepare {node : NodeId} :
      node ∈ policy.members → state.decision = none →
      Step policy state { state with sent := insert (.prepare node) state.sent }
  | castVote {node : NodeId} {vote : Vote} :
      .prepare node ∈ state.sent → state.vote node = none → state.learned node = none →
      policy.mayVote node vote →
      Step policy state { state with
        vote := Function.update state.vote node (some vote)
        sent := insert (.vote node vote) state.sent }
  | tallyVote {node : NodeId} {vote : Vote} :
      .vote node vote ∈ state.sent → state.decision = none →
      Step policy state { state with tally := Function.update state.tally node (some vote) }
  | decide {decision : Decision} :
      state.decision = none → Justified policy state decision →
      Step policy state { state with
        decision := some decision
        tally := fun _ => none
        sent := state.sent ∪ announcement policy decision }
  | learn {node : NodeId} {decision : Decision} :
      .decision node decision ∈ state.sent → state.learned node = none →
      Step policy state { state with
        learned := Function.update state.learned node (some decision)
        sent := insert (.ack node) state.sent }
  | tallyAck {node : NodeId} :
      .ack node ∈ state.sent →
      Step policy state { state with acked := insert node state.acked }
  | forget :
      Step policy state { state with tally := fun _ => none, acked := ∅ }

def system (policy : Policy) : Library.TransitionSystem State where
  initial state := state = .start
  next := Step policy

end Protocol

end TwoPhaseCommit
