import TwoPhaseCommit.CoordinatorProperties
import TwoPhaseCommit.Protocol

/-! What the coordinator waits for, and that every answer brings it closer. The
facts serve two ends: that nothing it waits for is lost, and that it cannot wait
and retransmit forever. -/

set_option autoImplicit false

namespace TwoPhaseCommit

/-- The node that exchanges this message with the coordinator. -/
def Message.node? (msg : Message) : Option NodeId :=
  match msg.from, msg.to with
  | .coordinator, .node node => some node
  | .node node, .coordinator => some node
  | _, _ => none

inductive Message.Answer (node : NodeId) : Message → Prop where
  | vote {vote : Vote} : Answer node (.vote node vote)
  | ack : Answer node (.ack node)

theorem Message.Answer.node?_eq {node : NodeId} {msg : Message} (answer : Answer node msg) :
    msg.node? = some node := by
  cases answer <;> rfl

namespace CoordinatorPhase

/-- How much of the protocol is left. -/
def rank : CoordinatorPhase → Nat
  | .waiting => 4
  | .voting _ _ => 3
  | .decided _ => 2
  | .awaitingAcks _ _ _ => 1
  | .done _ => 0

/-- The node has given the answer that the phase collects, if it collects any. -/
def recorded : CoordinatorPhase → NodeId → Bool
  | .voting _ votes, node => votes.contains node
  | .awaitingAcks _ _ acks, node => acks.contains node
  | .waiting, _ | .decided _, _ | .done _, _ => true

/-- The messages of the exchange that the phase is about. -/
def asks : CoordinatorPhase → MessageType → Bool
  | .voting _ _, .prepare | .voting _ _, .voteCommit | .voting _ _, .voteAbort => true
  | .awaitingAcks _ _ _, .decisionCommit | .awaitingAcks _ _ _, .decisionAbort
  | .awaitingAcks _ _ _, .ack => true
  | _, _ => false

/-- The message belongs to the exchange with a node that has not answered. -/
def wants (phase : CoordinatorPhase) (msg : Message) : Bool :=
  phase.asks msg.messageType && msg.node?.any fun node => !phase.recorded node

/-- When the phase last sent the messages that it repeats. -/
def lastSent? : CoordinatorPhase → Option Nat
  | .voting last _ => some last
  | .awaitingAcks _ last _ => some last
  | .waiting | .decided _ | .done _ => none

def NotSentAfter (phase : CoordinatorPhase) (clock : Nat) : Prop :=
  ∀ last, phase.lastSent? = some last → last ≤ clock

theorem asks_eq_of_rank_eq {phase other : CoordinatorPhase} (same : phase.rank = other.rank) :
    phase.asks = other.asks := by
  funext type
  cases phase <;> cases other <;> first | (cases type <;> rfl) | cases same

theorem wants_iff {phase : CoordinatorPhase} {msg : Message} : phase.wants msg = true ↔
    phase.asks msg.messageType = true ∧
      ∃ node, msg.node? = some node ∧ phase.recorded node = false := by
  simp [wants, Option.any_eq_true]

@[simp] theorem asks_awaitingAcks_decision {decision other : Decision} {last : Nat}
    {acks : Std.ExtTreeSet NodeId} :
    (awaitingAcks decision last acks).asks other.messageType = true := by
  cases other <;> rfl

end CoordinatorPhase

namespace Coordinator

variable {ρ : Type}

theorem ne_waiting_iff {self : Coordinator ρ} : self.phase ≠ .waiting ↔ self.phase.rank < 4 := by
  cases self.phase <;> simp [CoordinatorPhase.rank]

def unrecorded (self : Coordinator ρ) : Nat :=
  self.nodes.countP fun node => !self.phase.recorded node

/-- The coordinator is in the same phase, with the same answers. -/
structure Keeps (before after : Coordinator ρ) : Prop where
  nodes : after.nodes = before.nodes
  rank : after.phase.rank = before.phase.rank
  recorded : after.phase.recorded = before.phase.recorded

theorem Keeps.trans {first second third : Coordinator ρ} (before : Keeps first second)
    (after : Keeps second third) : Keeps first third :=
  ⟨after.nodes.trans before.nodes, after.rank.trans before.rank,
    after.recorded.trans before.recorded⟩

theorem Keeps.wants {before after : Coordinator ρ} (keeps : Keeps before after) :
    after.phase.wants = before.phase.wants := by
  funext msg
  simp only [CoordinatorPhase.wants, CoordinatorPhase.asks_eq_of_rank_eq keeps.rank, keeps.recorded]

theorem Keeps.unrecorded {before after : Coordinator ρ} (keeps : Keeps before after) :
    after.unrecorded = before.unrecorded := by
  simp only [Coordinator.unrecorded, keeps.nodes, keeps.recorded]

/-- For every node without an answer, a message of the exchange is on its way. -/
structure Awaited (coordinator : Coordinator ρ) (inFlight : Message → Prop) : Prop where
  announced : ∀ decision, coordinator.phase ≠ .decided decision
  exchange : ∀ node ∈ coordinator.nodes, coordinator.phase.recorded node = false →
    ∃ msg, inFlight msg ∧ coordinator.phase.asks msg.messageType = true ∧ msg.node? = some node

theorem Awaited.imp {self : Coordinator ρ} {inFlight more : Message → Prop}
    (awaited : Awaited self inFlight)
    (wider : ∀ msg, inFlight msg → self.phase.asks msg.messageType = true → more msg) :
    Awaited self more where
  announced := awaited.announced
  exchange node member missing := by
    obtain ⟨msg, sent, asked, exchanged⟩ := awaited.exchange node member missing
    exact ⟨msg, wider msg sent asked, asked, exchanged⟩

theorem Awaited.mono {self : Coordinator ρ} {inFlight more : Message → Prop}
    (awaited : Awaited self inFlight) (wider : ∀ msg, inFlight msg → more msg) :
    Awaited self more :=
  awaited.imp fun msg sent _ => wider msg sent

theorem Awaited.keeps {self after : Coordinator ρ} {inFlight : Message → Prop}
    (awaited : Awaited self inFlight) (keeps : Keeps self after) : Awaited after inFlight where
  announced decision phase := by
    have rank := keeps.rank
    rw [phase] at rank
    cases before : self.phase with
    | decided other => exact awaited.announced other before
    | waiting | voting _ _ | awaitingAcks _ _ _ | done _ =>
        simp [before, CoordinatorPhase.rank] at rank
  exchange node member missing := by
    rw [CoordinatorPhase.asks_eq_of_rank_eq keeps.rank]
    exact awaited.exchange node (keeps.nodes ▸ member) (keeps.recorded ▸ missing)

theorem awaited_of_broadcast {self : Coordinator ρ} {outgoing : List Message}
    (type : MessageType) (announced : ∀ decision, self.phase ≠ .decided decision)
    (asked : self.phase.asks type = true)
    (sent : ∀ node ∈ self.nodes, self.phase.recorded node = false →
      messageTo type node ∈ outgoing) : Awaited self (· ∈ outgoing) where
  announced := announced
  exchange node member missing := ⟨_, sent node member missing, asked, rfl⟩

private theorem wants_messageTo {self : Coordinator ρ} {msg : Message} (type : MessageType)
    (asked : self.phase.asks type = true)
    (sent : msg ∈ (self.nodes.filter fun node => !self.phase.recorded node).map
      (messageTo type)) : self.phase.wants msg = true := by
  obtain ⟨node, listed, rfl⟩ := List.mem_map.mp sent
  have missing := (List.mem_filter.mp listed).2
  exact CoordinatorPhase.wants_iff.mpr ⟨asked, node, rfl, by simpa using missing⟩

section Calls

variable [ChaCha8Rng ρ] {self after : Coordinator ρ} {atTime : Nat} {outgoing : List Message}

/-- A tick keeps the phase and asks only nodes that have not answered, or makes
progress on its own. -/
theorem Ticked.progress (ticked : Ticked self atTime after outgoing) :
    (Keeps self after ∧ ∀ msg ∈ outgoing, self.phase.wants msg = true) ∨
      after.phase.rank < self.phase.rank := by
  cases ticked with
  | idle _ => exact .inl ⟨⟨rfl, rfl, rfl⟩, nofun⟩
  | aborts phase _ => exact .inr (by simp [announced, phase, CoordinatorPhase.rank])
  | resendsPrepare phase _ =>
      refine .inl ⟨⟨rfl, by simp [phase, CoordinatorPhase.rank], ?_⟩, fun msg sent => ?_⟩
      · rw [phase]
        rfl
      · apply wants_messageTo .prepare
        · rw [phase]
          rfl
        · rw [phase]
          exact sent
  | awaitsVotes phase _ =>
      refine .inl ⟨⟨rfl, by simp [phase, CoordinatorPhase.rank], ?_⟩, nofun⟩
      rw [phase]
  | sendsDecision phase => exact .inr (by simp [announced, phase, CoordinatorPhase.rank])
  | @resendsDecision decision _ _ phase _ =>
      refine .inl ⟨⟨rfl, by simp [phase, CoordinatorPhase.rank], ?_⟩, fun msg sent => ?_⟩
      · rw [phase]
        rfl
      · apply wants_messageTo decision.messageType
        · rw [phase]
          exact CoordinatorPhase.asks_awaitingAcks_decision
        · rw [phase]
          exact sent
  | awaitsAcks _ _ => exact .inl ⟨⟨rfl, rfl, rfl⟩, nofun⟩

omit [ChaCha8Rng ρ] in
private theorem announced_awaited (self : Coordinator ρ) (decision : Decision) (atTime : Nat)
    (rng : ρ) : Awaited (self.announced decision atTime rng)
      (· ∈ self.nodes.map (messageTo decision.messageType)) := by
  apply awaited_of_broadcast decision.messageType
  · exact nofun
  · exact CoordinatorPhase.asks_awaitingAcks_decision
  · exact fun node member _ => List.mem_map_of_mem member

theorem Ticked.awaited (ticked : Ticked self atTime after outgoing) :
    Awaited after (· ∈ outgoing) ∨ Keeps self after ∧ outgoing = [] := by
  cases ticked with
  | idle _ => exact .inr ⟨⟨rfl, rfl, rfl⟩, rfl⟩
  | aborts _ _ => exact .inl (announced_awaited self .abort _ _)
  | resendsPrepare _ _ =>
      left
      apply awaited_of_broadcast .prepare
      · exact nofun
      · rfl
      · intro node member missing
        apply List.mem_map_of_mem
        exact List.mem_filter.mpr ⟨member, by simpa [CoordinatorPhase.recorded] using missing⟩
  | awaitsVotes phase _ =>
      refine .inr ⟨⟨rfl, by simp [phase, CoordinatorPhase.rank], ?_⟩, rfl⟩
      rw [phase]
  | sendsDecision _ => exact .inl (announced_awaited self _ _ _)
  | @resendsDecision decision _ _ _ _ =>
      left
      apply awaited_of_broadcast decision.messageType
      · exact nofun
      · exact CoordinatorPhase.asks_awaitingAcks_decision
      · intro node member missing
        apply List.mem_map_of_mem
        exact List.mem_filter.mpr ⟨member, by simpa [CoordinatorPhase.recorded] using missing⟩
  | awaitsAcks _ _ => exact .inr ⟨⟨rfl, rfl, rfl⟩, rfl⟩

/-! ## Answers -/

variable {msg : Message} {node : NodeId}

omit [ChaCha8Rng ρ] in
private theorem wants_of_not_accepts (answer : Message.Answer node msg)
    (ignored : ¬ self.Accepts msg) : self.phase.wants msg = false := by
  rw [← Bool.not_eq_true, CoordinatorPhase.wants_iff, answer.node?_eq]
  intro wanted
  obtain ⟨asked, other, same, missing⟩ := wanted
  cases same
  apply ignored
  cases answer with
  | @vote vote =>
      cases vote <;> cases phase : self.phase <;>
        simp_all [CoordinatorPhase.asks, CoordinatorPhase.recorded, Accepts, Message.vote,
          Vote.messageType, ← Std.ExtTreeMap.contains_iff_mem]
  | ack =>
      cases phase : self.phase <;>
        simp_all [CoordinatorPhase.asks, CoordinatorPhase.recorded, Accepts, Message.ack]

omit [ChaCha8Rng ρ] in
private theorem unrecorded_lt (nodes : after.nodes = self.nodes)
    (recorded : ∀ other, after.phase.recorded other = true ↔
      other = node ∨ self.phase.recorded other = true)
    (member : node ∈ self.nodes) (missing : self.phase.recorded node = false) :
    after.unrecorded < self.unrecorded := by
  unfold unrecorded
  rw [nodes]
  apply Library.countP_lt _ member
  · simp [recorded]
  · simp [missing]
  · intro other _ absent
    rw [Bool.not_eq_true', ← Bool.not_eq_true] at absent ⊢
    exact fun known => absent ((recorded other).mpr (.inr known))

/-- An answer is of no interest and changes nothing, or is recorded, or completes
the phase. -/
theorem Received.progress (received : Received self msg atTime after outgoing)
    (answer : Message.Answer node msg) (member : node ∈ self.nodes) :
    (Keeps self after ∧ self.phase.wants msg = false ∧ outgoing = []) ∨
      (after.phase.rank = self.phase.rank ∧ after.unrecorded < self.unrecorded) ∨
      after.phase.rank < self.phase.rank := by
  cases received with
  | starts _ type =>
      cases answer with
      | @vote vote => cases vote <;> cases type
      | ack => cases type
  | @recordsVote last votes voter vote phase type sender fresh _ =>
      obtain rfl : voter = node := by cases answer <;> cases sender <;> rfl
      refine .inr (.inl ⟨by simp [phase, CoordinatorPhase.rank], ?_⟩)
      refine unrecorded_lt rfl (fun other => ?_) member ?_
      · simp only [phase, CoordinatorPhase.recorded, Std.ExtTreeMap.contains_iff_mem]
        exact Library.OrderedMap.mem_insert
      · simpa [phase, CoordinatorPhase.recorded, ← Std.ExtTreeMap.contains_iff_mem] using fresh
  | decides phase _ _ _ _ => exact .inr (.inr (by simp [announced, phase, CoordinatorPhase.rank]))
  | @recordsAck decision last acks acknowledger phase type sender _ =>
      obtain rfl : acknowledger = node := by cases answer <;> cases sender <;> rfl
      have recorded : ∀ other, (acks.insert acknowledger).contains other = true ↔
          other = acknowledger ∨ acks.contains other = true := by
        intro other
        rw [Std.ExtTreeSet.contains_iff_mem, Std.ExtTreeSet.contains_iff_mem]
        exact Library.OrderedSet.mem_insert
      cases known : acks.contains acknowledger with
      | true =>
          refine .inl ⟨⟨rfl, by simp [phase, CoordinatorPhase.rank], ?_⟩, ?_, rfl⟩
          · funext other
            rw [Bool.eq_iff_iff, phase]
            refine (recorded other).trans (or_iff_right_of_imp fun same => ?_)
            exact same ▸ known
          · simp [CoordinatorPhase.wants, answer.node?_eq, phase, CoordinatorPhase.recorded, known]
      | false =>
          refine .inr (.inl ⟨by simp [phase, CoordinatorPhase.rank], ?_⟩)
          refine unrecorded_lt rfl (fun other => ?_) member ?_
          · rw [phase]
            exact recorded other
          · rw [phase]
            exact known
  | completes phase _ _ _ => exact .inr (.inr (by simp [phase, CoordinatorPhase.rank]))
  | ignores ignored => exact .inl ⟨⟨rfl, rfl, rfl⟩, wants_of_not_accepts answer ignored, rfl⟩

theorem Received.rank_le (received : Received self msg atTime after outgoing) :
    after.phase.rank ≤ self.phase.rank := by
  cases received with
  | starts phase _ | recordsVote phase _ _ _ _ | decides phase _ _ _ _ | recordsAck phase _ _ _
  | completes phase _ _ _ => simp [phase, announced, CoordinatorPhase.rank]
  | ignores _ => exact Nat.le_refl _

/-- The whole call: an answer that makes no progress was not wanted, and then
everything that is sent is wanted. -/
theorem onMessage_progress (self : Coordinator ρ) (atTime : Nat)
    (answer : Message.Answer node msg) (member : node ∈ self.nodes) :
    (Keeps self (self.onMessage msg atTime).1 ∧ self.phase.wants msg = false ∧
        ∀ sent ∈ (self.onMessage msg atTime).2, self.phase.wants sent = true) ∨
      ((self.onMessage msg atTime).1.phase.rank = self.phase.rank ∧
        (self.onMessage msg atTime).1.unrecorded < self.unrecorded) ∨
      (self.onMessage msg atTime).1.phase.rank < self.phase.rank := by
  have ticked := self.tick_ticked atTime
  have received := (self.tick atTime).1.receive_received msg atTime
  rcases ticked.progress with ⟨keeps, wanted⟩ | advanced
  · rcases received.progress answer (keeps.nodes ▸ member) with
      ⟨kept, useless, silent⟩ | ⟨rank, recorded⟩ | advanced
    · refine .inl ⟨keeps.trans kept, keeps.wants ▸ useless, fun sent listed => ?_⟩
      rcases List.mem_append.mp listed with listed | listed
      · exact wanted sent listed
      · cases silent ▸ listed
    · exact .inr (.inl ⟨rank.trans keeps.rank, keeps.unrecorded ▸ recorded⟩)
    · exact .inr (.inr (keeps.rank ▸ advanced))
  · exact .inr (.inr (Nat.lt_of_le_of_lt received.rank_le advanced))

omit [ChaCha8Rng ρ] in
/-- The exchange with a node that has not answered goes on, unless the message
that arrives is part of it. -/
private theorem Awaited.others {inFlight rest : Message → Prop} (awaited : Awaited self inFlight)
    (answers : ∀ node, msg.node? = some node → Message.Answer node msg)
    (remains : ∀ other, inFlight other → other = msg ∨ rest other) (member : node ∈ self.nodes)
    (missing : self.phase.recorded node = false) :
    (self.phase.wants msg = true ∧ Message.Answer node msg) ∨
      ∃ other, rest other ∧ self.phase.asks other.messageType = true ∧
        other.node? = some node := by
  obtain ⟨other, sent, asked, exchanged⟩ := awaited.exchange node member missing
  rcases remains other sent with rfl | remaining
  · left
    constructor
    · exact CoordinatorPhase.wants_iff.mpr ⟨asked, node, exchanged, missing⟩
    · exact answers node exchanged
  · exact .inr ⟨other, remaining, asked, exchanged⟩

omit [ChaCha8Rng ρ] in
private theorem Awaited.records {inFlight rest : Message → Prop} {sender : NodeId}
    (awaited : Awaited self inFlight)
    (answers : ∀ node, msg.node? = some node → Message.Answer node msg)
    (remains : ∀ other, inFlight other → other = msg ∨ rest other)
    (sent : msg.from = .node sender) (nodes : after.nodes = self.nodes)
    (rank : after.phase.rank = self.phase.rank)
    (announced : ∀ decision, after.phase ≠ .decided decision)
    (recorded : ∀ other, after.phase.recorded other = true ↔
      other = sender ∨ self.phase.recorded other = true) : Awaited after rest where
  announced := announced
  exchange node member missing := by
    have absent : ¬ (node = sender ∨ self.phase.recorded node = true) := by
      rw [← recorded, missing]
      exact Bool.false_ne_true
    rw [CoordinatorPhase.asks_eq_of_rank_eq rank]
    rcases awaited.others answers remains (nodes ▸ member)
      (Bool.not_eq_true _ ▸ fun known => absent (.inr known)) with ⟨_, answer⟩ | other
    · have same : msg.from = .node node := by cases answer <;> rfl
      rw [sent] at same
      cases same
      exact absurd (.inl rfl) absent
    · exact other

theorem Received.awaited {inFlight rest : Message → Prop}
    (received : Received self msg atTime after outgoing) (awaited : Awaited self inFlight)
    (answers : ∀ node, msg.node? = some node → Message.Answer node msg)
    (remains : ∀ other, inFlight other → other = msg ∨ rest other) :
    Awaited after fun other => other ∈ outgoing ∨ rest other := by
  cases received with
  | starts _ _ =>
      apply Awaited.mono _ fun other (listed : other ∈ _) => Or.inl listed
      apply awaited_of_broadcast .prepare
      · exact fun decision => nofun
      · rfl
      · exact fun node member _ => List.mem_map_of_mem member
  | recordsVote phase _ sender _ _ =>
      apply Awaited.mono _ fun other (remaining : rest other) => Or.inr remaining
      apply awaited.records answers remains sender
      · rfl
      · simp [phase, CoordinatorPhase.rank]
      · exact fun decision => nofun
      · intro other
        simp only [phase, CoordinatorPhase.recorded, Std.ExtTreeMap.contains_iff_mem]
        exact Library.OrderedMap.mem_insert
  | decides _ _ _ _ _ => exact (announced_awaited self _ _ _).mono fun _ => .inl
  | recordsAck phase _ sender _ =>
      apply Awaited.mono _ fun other (remaining : rest other) => Or.inr remaining
      apply awaited.records answers remains sender
      · rfl
      · simp [phase, CoordinatorPhase.rank]
      · exact fun decision => nofun
      · intro other
        simp only [phase, CoordinatorPhase.recorded, Std.ExtTreeSet.contains_iff_mem]
        exact Library.OrderedSet.mem_insert
  | completes _ _ _ _ =>
      refine ⟨fun decision => nofun, fun node _ missing => ?_⟩
      cases missing
  | ignores ignored =>
      refine ⟨awaited.announced, fun node member missing => ?_⟩
      rcases awaited.others answers remains member missing with ⟨wanted, answer⟩ | other
      · rw [wants_of_not_accepts answer ignored] at wanted
        cases wanted
      · obtain ⟨other, remaining, exchanged⟩ := other
        exact ⟨other, .inr remaining, exchanged⟩

/-- Of what a tick sends only the messages of a new phase are needed. -/
theorem Ticked.exchange {inFlight : Message → Prop}
    (ticked : Ticked self atTime after outgoing) (awaited : Awaited self inFlight) :
    Awaited after fun other =>
      after.phase.rank < self.phase.rank ∧ other ∈ outgoing ∨ inFlight other := by
  rcases ticked.progress with ⟨keeps, _⟩ | advanced
  · exact (awaited.keeps keeps).mono fun other sent => .inr sent
  · rcases ticked.awaited with sent | ⟨keeps, _⟩
    · exact sent.mono fun other listed => .inl ⟨advanced, listed⟩
    · exact absurd keeps.rank advanced.ne

theorem Received.silent_or_advances (received : Received self msg atTime after outgoing) :
    outgoing = [] ∨ after.phase.rank < self.phase.rank := by
  cases received with
  | starts phase _ | decides phase _ _ _ _ => simp [phase, announced, CoordinatorPhase.rank]
  | recordsVote _ _ _ _ _ | recordsAck _ _ _ _ | completes _ _ _ _ | ignores _ => exact .inl rfl

/-- A message that arrives leaves nobody unasked, by what was in flight already or
by what is sent at the change of the phase. -/
theorem onMessage_exchange {inFlight : Message → Prop} (msg : Message)
    (rest : Message → Prop) (atTime : Nat)
    (awaited : Awaited self inFlight)
    (answers : ∀ node, msg.node? = some node → Message.Answer node msg)
    (remains : ∀ other, inFlight other → other = msg ∨ rest other) :
    Awaited (self.onMessage msg atTime).1 fun other =>
      (self.onMessage msg atTime).1.phase.rank < self.phase.rank ∧
        other ∈ (self.onMessage msg atTime).2 ∨ rest other := by
  have received := (self.tick atTime).1.receive_received msg atTime
  have ticked := (self.tick_ticked atTime).exchange awaited
  have falls : (self.tick atTime).1.phase.rank ≤ self.phase.rank := by
    rcases (self.tick_ticked atTime).progress with ⟨keeps, _⟩ | advanced
    · exact keeps.rank.le
    · exact advanced.le
  have arrives : ∀ other, ((self.tick atTime).1.phase.rank < self.phase.rank ∧
      other ∈ (self.tick atTime).2 ∨ inFlight other) → other = msg ∨
        ((self.tick atTime).1.phase.rank < self.phase.rank ∧ other ∈ (self.tick atTime).2 ∨
          rest other) := by
    intro other sent
    rcases sent with early | sent
    · exact .inr (.inl early)
    · exact (remains other sent).imp_right .inr
  refine (received.awaited ticked answers arrives).mono fun other sent => ?_
  rcases sent with listed | ⟨advanced, listed⟩ | remaining
  · rcases received.silent_or_advances with silent | advanced
    · rw [silent] at listed
      cases listed
    · exact .inl ⟨Nat.lt_of_lt_of_le advanced falls, List.mem_append_right _ listed⟩
  · exact .inl ⟨Nat.lt_of_le_of_lt received.rank_le advanced, List.mem_append_left _ listed⟩
  · exact .inr remaining

theorem onMessage_of_waiting (waiting : self.phase = .waiting)
    (other : msg.messageType ≠ .startTransaction) (atTime : Nat) :
    self.onMessage msg atTime = (self, []) := by
  have idle : self.tick atTime = (self, []) := by simp only [tick, waiting]
  simp only [onMessage, idle, receive, waiting]
  cases type : msg.messageType with
  | startTransaction => exact absurd type other
  | prepare | voteCommit | voteAbort | decisionCommit | decisionAbort | ack => rfl

theorem Ticked.silent_of_waiting (ticked : Ticked self atTime after outgoing)
    (waiting : after.phase = .waiting) : self.phase = .waiting ∧ outgoing = [] := by
  cases ticked with
  | idle _ => exact ⟨waiting, rfl⟩
  | awaitsAcks _ _ => exact ⟨waiting, rfl⟩
  | aborts _ _ | resendsPrepare _ _ | awaitsVotes _ _ | sendsDecision _ | resendsDecision _ _ =>
      cases waiting

theorem onMessage_silent_of_waiting {msg : Message}
    (waiting : (self.onMessage msg atTime).1.phase = .waiting) :
    self.phase = .waiting ∧ (self.onMessage msg atTime).2 = [] := by
  have ticked := self.tick_ticked atTime
  have received := (self.tick atTime).1.receive_received msg atTime
  change self.phase = .waiting ∧
    (self.tick atTime).2 ++ ((self.tick atTime).1.receive msg atTime).2 = []
  change ((self.tick atTime).1.receive msg atTime).1.phase = .waiting at waiting
  generalize ((self.tick atTime).1.receive msg atTime).1 = after at received waiting
  generalize ((self.tick atTime).1.receive msg atTime).2 = answers at received ⊢
  cases received with
  | ignores _ =>
      obtain ⟨before, silent⟩ := ticked.silent_of_waiting waiting
      rw [silent]
      exact ⟨before, rfl⟩
  | starts _ _ | recordsVote _ _ _ _ _ | decides _ _ _ _ _ | recordsAck _ _ _ _
  | completes _ _ _ _ => cases waiting

/-! ## What is left when nothing is in flight -/

omit [ChaCha8Rng ρ] in
/-- A coordinator that has every answer it collects has finished or not begun. -/
theorem Valid.quiescent_of_recorded (valid : self.Valid) (managed : self.nodes ≠ [])
    (nodup : self.nodes.Nodup) (announced : ∀ decision, self.phase ≠ .decided decision)
    (recorded : ∀ node ∈ self.nodes, self.phase.recorded node = true) :
    self.isQuiescent = true := by
  unfold isQuiescent
  cases phase : self.phase with
  | waiting => rfl
  | done _ => rfl
  | decided decision => exact absurd phase (announced decision)
  | voting last votes =>
      obtain ⟨contained, undecided⟩ := valid.voting phase
      rw [phase] at recorded
      refine absurd (Library.OrderedMap.size_eq contained nodup fun node member => ?_)
        (undecided managed).1
      exact Std.ExtTreeMap.contains_iff_mem.mp (recorded node member)
  | awaitingAcks decision last acks =>
      obtain ⟨contained, incomplete⟩ := valid.awaiting phase
      rw [phase] at recorded
      refine absurd (Library.OrderedSet.size_eq contained nodup fun node member => ?_)
        (incomplete managed)
      exact Std.ExtTreeSet.contains_iff_mem.mp (recorded node member)

omit [ChaCha8Rng ρ] in
theorem Awaited.quiescent (awaited : Awaited self fun _ => False) (valid : self.Valid)
    (managed : self.nodes ≠ []) (nodup : self.nodes.Nodup) : self.isQuiescent = true := by
  apply valid.quiescent_of_recorded managed nodup awaited.announced
  intro node member
  rw [← Bool.not_eq_false]
  intro missing
  obtain ⟨_, never, _⟩ := awaited.exchange node member missing
  exact never

/-! ## Retransmission -/

theorem Ticked.notSentAfter (ticked : Ticked self atTime after outgoing)
    (past : self.phase.NotSentAfter atTime) : after.phase.NotSentAfter atTime := by
  have now : ∀ last, some atTime = some last → last ≤ atTime := fun last same =>
    Nat.le_of_eq (Option.some.inj same).symm
  cases ticked with
  | idle _ | awaitsAcks _ _ => exact past
  | awaitsVotes phase _ =>
      rw [phase] at past
      exact past
  | aborts _ _ | resendsPrepare _ _ | sendsDecision _ | resendsDecision _ _ => exact now

theorem Received.notSentAfter (received : Received self msg atTime after outgoing)
    (past : self.phase.NotSentAfter atTime) : after.phase.NotSentAfter atTime := by
  have now : ∀ last, some atTime = some last → last ≤ atTime := fun last same =>
    Nat.le_of_eq (Option.some.inj same).symm
  cases received with
  | ignores _ => exact past
  | starts _ _ | decides _ _ _ _ _ => exact now
  | recordsVote phase _ _ _ _ | recordsAck phase _ _ _ =>
      rw [phase] at past
      exact past
  | completes _ _ _ _ => exact fun _ => nofun

theorem onMessage_notSentAfter (msg : Message) (past : self.phase.NotSentAfter atTime) :
    (self.onMessage msg atTime).1.phase.NotSentAfter atTime :=
  ((self.tick atTime).1.receive_received msg atTime).notSentAfter
    ((self.tick_ticked atTime).notSentAfter past)

omit [ChaCha8Rng ρ] in
theorem recover_notSentAfter (self : Coordinator ρ) (atTime : Nat) :
    (self.recover atTime).phase.NotSentAfter atTime := by
  unfold recover
  split
  · exact fun _ => nofun
  · intro last same
    cases same
    exact Nat.sub_le _ _

end Calls

end Coordinator

end TwoPhaseCommit
