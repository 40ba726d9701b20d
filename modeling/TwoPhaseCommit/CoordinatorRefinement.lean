import TwoPhaseCommit.CoordinatorProperties
import TwoPhaseCommit.ProtocolProperties

/-! Every call of a coordinator whose messages are backed by the network is a
run of the protocol between the views of its state. -/

set_option autoImplicit false

namespace TwoPhaseCommit

section View

variable {ρ : Type}

/-- The votes the coordinator has recorded and not yet discarded. -/
def Coordinator.tally (self : Coordinator ρ) : NodeId → Option Vote :=
  match self.phase with
  | .voting _ votes => fun node => votes[node]?
  | _ => fun _ => none

/-- The nodes whose acknowledgements are recorded. `done` has all of them. -/
def Coordinator.acked (self : Coordinator ρ) : Set NodeId :=
  match self.phase with
  | .awaitingAcks _ _ acks => {node | node ∈ acks}
  | .done _ => {node | node ∈ self.nodes}
  | _ => ∅

namespace Protocol.State

/-- The protocol state with the records of a coordinator put in. -/
def withCoordinator (state : State) (coordinator : Coordinator ρ) : State :=
  { state with
    decision := coordinator.durableState.decision
    tally := coordinator.tally
    acked := coordinator.acked }

end Protocol.State

end View

open Protocol

namespace Coordinator

variable {ρ : Type} [ChaCha8Rng ρ] {policy : Policy} {state : State} {self after : Coordinator ρ}

/-- The policy describes this coordinator. -/
structure Follows (policy : Policy) (coordinator : Coordinator ρ) : Prop where
  members : ∀ node, node ∈ policy.members ↔ node ∈ coordinator.nodes
  mayAbort : MayAbort ρ coordinator.config.abortBias → policy.mayAbort

theorem Follows.sameSetup (follows : Follows policy self) (same : SameSetup self after) :
    Follows policy after where
  members node := by rw [same.nodes, follows.members]
  mayAbort := by rw [same.abortBias]; exact follows.mayAbort

private theorem prepares {nodes : List NodeId} (members : ∀ node ∈ nodes, node ∈ policy.members)
    (undecided : state.decision = none) :
    (system policy).Steps state (state.send (nodes.map (messageTo .prepare))) := by
  induction nodes generalizing state with
  | nil => simpa using .refl
  | cons node rest ih =>
      rw [List.map_cons, State.send_cons]
      have step : Step policy state { state with sent := insert (.prepare node) state.sent } :=
        .prepare (members node (.head _)) undecided
      exact .trans (.single step)
        (ih (fun other member => members other (.tail _ member)) undecided)

private theorem broadcast_eq_announcement (follows : Follows policy self) (decision : Decision) :
    {msg | msg ∈ self.nodes.map (messageTo decision.messageType)} =
      announcement policy decision := by
  ext msg
  simp only [Set.mem_ofPred_eq, List.mem_map, announcement, follows.members, messageTo,
    Message.decision, eq_comm]

private theorem announces (follows : Follows policy self) {last : Nat}
    {votes : Std.ExtTreeMap NodeId Vote} (phase : self.phase = .voting last votes)
    (undecided : self.durableState.decision = none) (decision : Decision)
    (justified : Justified policy (state.withCoordinator self) decision) (atTime : Nat) (rng : ρ) :
    (system policy).Steps (state.withCoordinator self)
      ((state.withCoordinator (self.announced decision atTime rng)).send
        (self.nodes.map (messageTo decision.messageType))) := by
  have path : (system policy).Steps (state.withCoordinator self) _ :=
    .single (.decide undecided justified)
  convert path using 1
  simp only [State.send, broadcast_eq_announcement follows, State.withCoordinator, acked, phase,
    announced, tally, State.mk.injEq, true_and, and_true]
  simp

private theorem reannounces (follows : Follows policy self)
    (sound : Sound policy (state.withCoordinator self)) {decision : Decision}
    (decided : self.durableState.decision = some decision) {nodes : List NodeId}
    (managed : ∀ node ∈ nodes, node ∈ self.nodes) :
    (state.withCoordinator self).send (nodes.map (messageTo decision.messageType)) =
      state.withCoordinator self := by
  refine State.send_of_subset fun msg member => ?_
  obtain ⟨node, listed, rfl⟩ := List.mem_map.mp member
  exact (sound.decision_sent node decision).mpr
    ⟨(follows.members node).mpr (managed node listed), decided⟩

theorem Ticked.refines (state : State) {atTime : Nat} {outgoing : List Message}
    (ticked : Ticked self atTime after outgoing) (valid : self.Valid)
    (follows : Follows policy self) (sound : Sound policy (state.withCoordinator self)) :
    (system policy).Steps (state.withCoordinator self)
      ((state.withCoordinator after).send outgoing) := by
  cases ticked with
  | idle _ => simpa using .refl
  | aborts phase drawn =>
      exact announces follows phase (valid.undecided phase) .abort
        (Or.inl (follows.mayAbort drawn)) atTime _
  | @resendsPrepare last votes rng phase _ =>
      have view : state.withCoordinator { self with
          phase := .voting atTime votes
          config := { self.config with rng := rng } } = state.withCoordinator self := by
        simp [State.withCoordinator, tally, acked, phase]
      rw [view]
      refine prepares (fun node listed => ?_) (valid.undecided phase)
      exact (follows.members node).mpr (List.mem_of_mem_filter listed)
  | @awaitsVotes last votes rng phase _ =>
      rw [State.send_nil]
      convert Library.TransitionSystem.Steps.refl using 1
      simp [State.withCoordinator, tally, acked, phase]
  | @sendsDecision decision phase =>
      have decided : self.durableState.decision = some decision := by
        rw [valid.durable, Coordinator.decision, phase]
        rfl
      have view : state.withCoordinator (self.announced decision atTime self.config.rng) =
          state.withCoordinator self := by
        simp only [State.withCoordinator, announced, decided, tally, acked, phase, State.mk.injEq,
          true_and, and_true]
        simp
      rw [view, reannounces follows sound decided fun _ => id]
      exact .refl
  | @resendsDecision decision last acks phase _ =>
      have decided : self.durableState.decision = some decision := by
        rw [valid.durable, Coordinator.decision, phase]
        rfl
      have view : state.withCoordinator { self with
          phase := .awaitingAcks decision atTime acks } = state.withCoordinator self := by
        simp [State.withCoordinator, tally, acked, phase]
      rw [view, reannounces follows sound decided fun _ listed => List.mem_of_mem_filter listed]
      exact .refl
  | awaitsAcks _ _ => simpa using .refl

/-- The votes and acknowledgements a message carries were really sent. -/
structure Backed (state : State) (msg : Message) : Prop where
  vote : ∀ {node vote}, msg.messageType = Vote.messageType vote → msg.from = .node node →
    .vote node vote ∈ state.sent
  ack : ∀ {node}, msg.messageType = .ack → msg.from = .node node → .ack node ∈ state.sent

omit [ChaCha8Rng ρ] in
private theorem tallies {last : Nat} {votes : Std.ExtTreeMap NodeId Vote}
    (phase : self.phase = .voting last votes) (undecided : self.durableState.decision = none)
    {node : NodeId} {vote : Vote} (cast : .vote node vote ∈ state.sent) :
    Step policy (state.withCoordinator self) (state.withCoordinator
      { self with phase := .voting last (votes.insert node vote) }) := by
  have step : Step policy (state.withCoordinator self) _ := .tallyVote cast undecided
  convert step using 1
  simp only [State.withCoordinator, tally, acked, phase, State.mk.injEq, true_and, and_true]
  funext other
  rw [Library.OrderedMap.getElem?_insert]
  simp [Function.update_apply]

private theorem verdict_justified {votes : Std.ExtTreeMap NodeId Vote}
    (inside : ∀ node ∈ votes, node ∈ self.nodes) (follows : Follows policy self) {last : Nat}
    (phase : self.phase = .voting last votes) {decision : Decision}
    (verdict : self.Verdict votes decision) :
    Justified policy (state.withCoordinator self) decision := by
  have counted : (state.withCoordinator self).tally = fun node => votes[node]? := by
    funext node
    simp [State.withCoordinator, tally, phase]
  cases decision with
  | commit =>
      obtain ⟨full, unanimous⟩ := verdict
      intro node member
      have present : node ∈ votes := Library.OrderedMap.mem_of_size_eq inside full
        ((follows.members node).mp member)
      obtain ⟨vote, found⟩ := Library.OrderedMap.mem_iff_exists.mp present
      rw [counted, ← unanimous node vote found]
      exact found
  | abort =>
      rcases verdict with ⟨node, objection⟩ | drawn
      · have present := Library.OrderedMap.mem_iff_exists.mpr ⟨_, objection⟩
        refine .inr ⟨node, (follows.members node).mpr (inside node present), ?_⟩
        rw [counted]
        exact objection
      · exact .inl (follows.mayAbort drawn)

omit [ChaCha8Rng ρ] in
private theorem acknowledges {decision : Decision} {last : Nat} {acks : Std.ExtTreeSet NodeId}
    (phase : self.phase = .awaitingAcks decision last acks) {node : NodeId}
    (acknowledged : .ack node ∈ state.sent) :
    Step policy (state.withCoordinator self) (state.withCoordinator
      { self with phase := .awaitingAcks decision last (acks.insert node) }) := by
  have step : Step policy (state.withCoordinator self) _ := .tallyAck acknowledged
  convert step using 1
  simp only [State.withCoordinator, tally, acked, phase, State.mk.injEq, true_and, and_true]
  ext other
  simp [eq_comm (a := other)]

theorem Received.refines (state : State) {msg : Message} {atTime : Nat} {outgoing : List Message}
    (received : Received self msg atTime after outgoing) (valid : self.Valid)
    (follows : Follows policy self) (managed : ∀ node, msg.from = .node node → node ∈ self.nodes)
    (backed : Backed state msg) :
    (system policy).Steps (state.withCoordinator self)
      ((state.withCoordinator after).send outgoing) := by
  cases received with
  | starts phase _ =>
      have view : state.withCoordinator { self with phase := .voting atTime ∅ } =
          state.withCoordinator self := by
        simp [State.withCoordinator, tally, acked, phase]
      have undecided : self.durableState.decision = none := by
        rw [valid.durable, Coordinator.decision, phase]
        rfl
      rw [view]
      exact prepares (fun node listed => (follows.members node).mpr listed) undecided
  | recordsVote phase type sender _ _ =>
      rw [State.send_nil]
      exact .single (tallies phase (valid.undecided phase) (backed.vote type sender))
  | @decides last votes node vote decision rng phase type sender fresh verdict =>
      let counted := { self with phase := .voting last (votes.insert node vote) }
      have same : SameSetup self counted := ⟨rfl, rfl, rfl⟩
      have inside : ∀ other ∈ votes.insert node vote, other ∈ counted.nodes := by
        intro other present
        rcases Library.OrderedMap.mem_insert.mp present with rfl | present
        · exact managed _ sender
        · exact (valid.voting phase).1 other present
      have tallied : Step policy (state.withCoordinator self) (state.withCoordinator counted) :=
        tallies phase (valid.undecided phase) (backed.vote type sender)
      have justified : Justified policy (state.withCoordinator counted) decision :=
        verdict_justified inside (follows.sameSetup same) rfl verdict
      have announced : (system policy).Steps (state.withCoordinator counted) _ :=
        announces (follows.sameSetup same) rfl (valid.undecided phase) decision justified atTime rng
      exact .trans (.single tallied) announced
  | recordsAck phase type sender _ =>
      rw [State.send_nil]
      exact .single (acknowledges phase (backed.ack type sender))
  | @completes decision last acks node phase type sender full =>
      have inside : ∀ other ∈ acks.insert node, other ∈ self.nodes := by
        intro other present
        rcases Library.OrderedSet.mem_insert.mp present with rfl | present
        · exact managed _ sender
        · exact (valid.awaiting phase).1 other present
      have view : state.withCoordinator { self with phase := .done decision } =
          state.withCoordinator { self with
            phase := .awaitingAcks decision last (acks.insert node) } := by
        simp only [State.withCoordinator, tally, acked, State.mk.injEq, true_and, and_true]
        ext other
        exact ⟨fun member => Library.OrderedSet.mem_of_size_eq inside full member, inside other⟩
      rw [State.send_nil, view]
      exact .single (acknowledges phase (backed.ack type sender))
  | ignores _ => simpa using .refl

theorem onMessage_refines (state : State) {msg : Message} (atTime : Nat) (valid : self.Valid)
    (follows : Follows policy self) (sound : Sound policy (state.withCoordinator self))
    (managed : ∀ node, msg.from = .node node → node ∈ self.nodes) (backed : Backed state msg) :
    (system policy).Steps (state.withCoordinator self)
      ((state.withCoordinator (self.onMessage msg atTime).1).send
        (self.onMessage msg atTime).2) := by
  have ticked := self.tick_ticked atTime
  have received := (self.tick atTime).1.receive_received msg atTime
  have same := ticked.sameSetup
  have known : Backed (state.send (self.tick atTime).2) msg :=
    ⟨fun type sender => .inl (backed.vote type sender),
      fun type sender => .inl (backed.ack type sender)⟩
  have path := received.refines _ (ticked.valid valid) (follows.sameSetup same)
    (by rw [same.nodes]; exact managed) known
  have joined : ((state.send (self.tick atTime).2).withCoordinator
      (self.onMessage msg atTime).1).send ((self.tick atTime).1.receive msg atTime).2 =
        (state.withCoordinator (self.onMessage msg atTime).1).send (self.onMessage msg atTime).2 :=
    State.send_send (state.withCoordinator (self.onMessage msg atTime).1) _ _
  rw [← joined]
  exact (ticked.refines state valid follows sound).trans path

omit [ChaCha8Rng ρ] in
theorem recover_refines (state : State) (atTime : Nat) :
    (system policy).Steps (state.withCoordinator self)
      (state.withCoordinator (self.recover atTime)) := by
  have path : (system policy).Steps (state.withCoordinator self) _ := .single .forget
  convert path using 1
  unfold recover
  split
  · simp [State.withCoordinator, tally, acked]
  · simp [State.withCoordinator, tally, acked]

end Coordinator

end TwoPhaseCommit
