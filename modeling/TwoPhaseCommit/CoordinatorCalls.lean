import TwoPhaseCommit.Calls
import TwoPhaseCommit.CoordinatorProperties

/-! Any sequence of calls of the coordinator, with messages from any senders and at
any times: there is one decision, and it is durable before anyone hears of it. -/

set_option autoImplicit false

namespace TwoPhaseCommit.Coordinator

variable {ρ : Type} [ChaCha8Rng ρ] {self after start : Coordinator ρ} {call : Call}
  {outgoing : List Message}

def machine : Library.Machine (Coordinator ρ) Call (List Message) := StateMachine.machine

/-- Every outcome of one call. -/
inductive Called (self : Coordinator ρ) : Call → Coordinator ρ → List Message → Prop where
  | receives {msg : Message} {atTime : Nat} {middle after : Coordinator ρ}
      {ticked received : List Message} :
      Ticked self atTime middle ticked → Received middle msg atTime after received →
      Called self (.onMessage msg atTime) after (ticked ++ received)
  | ticks {atTime : Nat} {after : Coordinator ρ} {outgoing : List Message} :
      Ticked self atTime after outgoing → Called self (.tick atTime) after outgoing
  | recovers {atTime : Nat} : Called self (.recover atTime) (self.recover atTime) []

theorem machine_called (self : Coordinator ρ) (call : Call) :
    Called self call (machine.next self call) (machine.output self call) := by
  cases call with
  | onMessage msg atTime =>
      exact .receives (self.tick_ticked atTime) ((self.tick atTime).1.receive_received msg atTime)
  | tick atTime => exact .ticks (self.tick_ticked atTime)
  | recover atTime => exact .recovers

theorem Called.sameSetup (called : Called self call after outgoing) : SameSetup self after := by
  cases called with
  | receives ticked received => exact ticked.sameSetup.trans received.sameSetup
  | ticks ticked => exact ticked.sameSetup
  | recovers => exact self.recover_sameSetup _

theorem run_sameSetup (start : Coordinator ρ) (calls : List Call) :
    SameSetup start (machine.run start calls) := by
  apply Library.Machine.run_preserves (SameSetup start)
  · exact fun call _ same => same.trans (machine_called _ call).sameSetup
  · exact ⟨rfl, rfl, rfl⟩

/-! ## The decision -/

theorem Called.upholds (called : Called self call after outgoing)
    (durable : self.durableState.decision = self.decision) : Upholds self after outgoing := by
  cases called with
  | receives ticked received =>
      have first := ticked.upholds durable
      exact first.trans (received.upholds first.durable)
  | ticks ticked => exact ticked.upholds durable
  | recovers => exact recover_upholds _ durable

/-- What holds of the phase and the durable record goes on to hold, and so does a decision. -/
theorem run_upholds (durable : self.durableState.decision = self.decision) (calls : List Call) :
    (machine.run self calls).durableState.decision = (machine.run self calls).decision ∧
      ∀ {decision : Decision}, self.decision = some decision →
        (machine.run self calls).decision = some decision := by
  apply Library.Machine.run_preserves fun state : Coordinator ρ =>
    state.durableState.decision = state.decision ∧
      ∀ {decision : Decision}, self.decision = some decision → state.decision = some decision
  · intro state call _ holds
    have upheld := (machine_called state call).upholds holds.1
    exact ⟨upheld.durable, fun decided => upheld.stays (holds.2 decided)⟩
  · exact ⟨durable, id⟩

/-- From this state on there is one decision, durable before anyone hears of it. -/
structure Steadfast (self : Coordinator ρ) : Prop where
  durable : self.durableState.decision = self.decision
  stays : ∀ {decision : Decision}, self.decision = some decision → ∀ calls : List Call,
    (machine.run self calls).decision = some decision
  announces : ∀ call : Call, ∀ msg ∈ machine.output self call, ∀ {decision : Decision},
    msg.messageType = decision.messageType →
      (machine.next self call).durableState.decision = some decision ∧
        ∀ calls : List Call, (machine.run (machine.next self call) calls).decision = some decision

theorem run_steadfast (nodes : List NodeId) (rngSeed : UInt64) (abortBias : ℚ)
    (retransmitTimeout : Nat) (calls : List Call) :
    Steadfast (machine.run (new nodes rngSeed abortBias retransmitTimeout : Coordinator ρ)
      calls) := by
  let start : Coordinator ρ := new nodes rngSeed abortBias retransmitTimeout
  have recorded : start.durableState.decision = start.decision := rfl
  have durable := (run_upholds recorded calls).1
  refine ⟨durable, fun decided more => (run_upholds durable more).2 decided, ?_⟩
  intro call msg sent decision type
  have upheld := (machine_called _ call).upholds durable
  have decided := upheld.announced msg sent type
  exact ⟨upheld.durable.trans decided, fun more => (run_upholds upheld.durable more).2 decided⟩

/-! ## The calls of one transaction -/

def startCall : Call := .onMessage ⟨.startTransaction, .coordinator, .coordinator⟩ 0

def voteCall (node : NodeId) : Call := .onMessage ⟨.voteCommit, .node node, .coordinator⟩ 0

def ackCall (node : NodeId) : Call := .onMessage ⟨.ack, .node node, .coordinator⟩ 0

end TwoPhaseCommit.Coordinator
