import TwoPhaseCommit.Coordinator
import TwoPhaseCommit.Library.OrderedMap

/-! Everything one call can do to the coordinator: an inversion of `tick` and of
the message arms, and the facts every call keeps. -/

set_option autoImplicit false

namespace TwoPhaseCommit.Coordinator

variable {ρ : Type} [ChaCha8Rng ρ]

def announced (self : Coordinator ρ) (decision : Decision) (atTime : Nat) (rng : ρ) :
    Coordinator ρ :=
  { self with
    durableState := { decision := some decision }
    phase := .awaitingAcks decision atTime ∅
    config := { self.config with rng := rng } }

/-- The coin flip by which the coordinator may abort came up true at some
probability it uses. -/
def MayAbort (ρ : Type) [ChaCha8Rng ρ] (abortBias : ℚ) : Prop :=
  ∃ generator : ρ, (ChaCha8Rng.randomBool generator (clamp (abortBias / 10) 0 1)).1 = true ∨
    (ChaCha8Rng.randomBool generator (clamp abortBias 0 1)).1 = true

theorem not_mayAbort_zero [LawfulChaCha8Rng ρ] : ¬ MayAbort ρ 0 := by
  have scaled : clamp (0 / 10) 0 1 = 0 := by decide +kernel
  have unscaled : clamp 0 0 1 = 0 := by decide
  intro drawn
  rcases drawn with ⟨generator, drawn | drawn⟩
  · rw [scaled, LawfulChaCha8Rng.randomBool_zero] at drawn
    cases drawn
  · rw [unscaled, LawfulChaCha8Rng.randomBool_zero] at drawn
    cases drawn

/-- Every outcome of one tick. -/
inductive Ticked (self : Coordinator ρ) (atTime : Nat) :
    Coordinator ρ → List Message → Prop where
  | idle : self.isQuiescent = true → Ticked self atTime self []
  | aborts {last : Nat} {votes : Std.ExtTreeMap NodeId Vote} {rng : ρ} :
      self.phase = .voting last votes → MayAbort ρ self.config.abortBias →
      Ticked self atTime (self.announced .abort atTime rng)
        (self.nodes.map (messageTo .decisionAbort))
  | resendsPrepare {last : Nat} {votes : Std.ExtTreeMap NodeId Vote} {rng : ρ} :
      self.phase = .voting last votes → self.config.retransmitTimeout ≤ atTime - last →
      Ticked self atTime
        { self with phase := .voting atTime votes, config := { self.config with rng := rng } }
        ((self.nodes.filter fun node => !votes.contains node).map (messageTo .prepare))
  | awaitsVotes {last : Nat} {votes : Std.ExtTreeMap NodeId Vote} {rng : ρ} :
      self.phase = .voting last votes → atTime - last < self.config.retransmitTimeout →
      Ticked self atTime
        { self with phase := .voting last votes, config := { self.config with rng := rng } } []
  | sendsDecision {decision : Decision} :
      self.phase = .decided decision →
      Ticked self atTime (self.announced decision atTime self.config.rng)
        (self.nodes.map (messageTo decision.messageType))
  | resendsDecision {decision : Decision} {last : Nat} {acks : Std.ExtTreeSet NodeId} :
      self.phase = .awaitingAcks decision last acks →
      self.config.retransmitTimeout ≤ atTime - last →
      Ticked self atTime { self with phase := .awaitingAcks decision atTime acks }
        ((self.nodes.filter fun node => !acks.contains node).map
          (messageTo decision.messageType))
  | awaitsAcks {decision : Decision} {last : Nat} {acks : Std.ExtTreeSet NodeId} :
      self.phase = .awaitingAcks decision last acks →
      atTime - last < self.config.retransmitTimeout →
      Ticked self atTime self []

theorem tick_ticked (self : Coordinator ρ) (atTime : Nat) :
    Ticked self atTime (self.tick atTime).1 (self.tick atTime).2 := by
  cases phase : self.phase with
  | waiting =>
      simp only [tick, phase]
      exact .idle (by simp [isQuiescent, phase])
  | voting last votes =>
      simp only [tick, phase, trySendDecision, Decision.messageType]
      split
      · rename_i drawn
        exact .aborts phase ⟨self.config.rng, .inl drawn⟩
      · split
        · rename_i due
          exact .resendsPrepare phase due
        · rename_i early
          exact .awaitsVotes phase (Nat.lt_of_not_le early)
  | decided decision =>
      simp only [tick, phase, trySendDecision]
      exact .sendsDecision phase
  | awaitingAcks decision last acks =>
      simp only [tick, phase]
      split
      · rename_i due
        exact .resendsDecision phase due
      · rename_i early
        exact .awaitsAcks phase (Nat.lt_of_not_le early)
  | done decision =>
      simp only [tick, phase]
      exact .idle (by simp [isQuiescent, phase])

/-- What a set of votes lets the coordinator decide. -/
def Verdict (self : Coordinator ρ) (votes : Std.ExtTreeMap NodeId Vote) : Decision → Prop
  | .commit => votes.size = self.nodes.length ∧
      ∀ (node : NodeId) (vote : Vote), votes[node]? = some vote → vote = .commit
  | .abort => (∃ node : NodeId, votes[node]? = some Vote.abort) ∨
      MayAbort ρ self.config.abortBias

def Undecided (self : Coordinator ρ) (votes : Std.ExtTreeMap NodeId Vote) : Prop :=
  votes.size ≠ self.nodes.length ∧
    ∀ (node : NodeId) (vote : Vote), votes[node]? = some vote → vote = .commit

/-- The messages on which the coordinator acts in its current phase. -/
def Accepts (self : Coordinator ρ) (msg : Message) : Prop :=
  match msg.messageType, self.phase with
  | .startTransaction, .waiting => True
  | .voteCommit, .voting _ votes | .voteAbort, .voting _ votes =>
      ∃ node, msg.from = .node node ∧ node ∉ votes
  | .ack, .awaitingAcks _ _ _ => ∃ node, msg.from = .node node
  | _, _ => False

/-- Every outcome of the message arms. -/
inductive Received (self : Coordinator ρ) (msg : Message) (atTime : Nat) :
    Coordinator ρ → List Message → Prop where
  | starts :
      self.phase = .waiting → msg.messageType = .startTransaction →
      Received self msg atTime { self with phase := .voting atTime ∅ }
        (self.nodes.map (messageTo .prepare))
  | recordsVote {last : Nat} {votes : Std.ExtTreeMap NodeId Vote} {node : NodeId} {vote : Vote} :
      self.phase = .voting last votes → msg.messageType = vote.messageType →
      msg.from = .node node → node ∉ votes → self.Undecided (votes.insert node vote) →
      Received self msg atTime { self with phase := .voting last (votes.insert node vote) } []
  | decides {last : Nat} {votes : Std.ExtTreeMap NodeId Vote} {node : NodeId} {vote : Vote}
      {decision : Decision} {rng : ρ} :
      self.phase = .voting last votes → msg.messageType = vote.messageType →
      msg.from = .node node → node ∉ votes → self.Verdict (votes.insert node vote) decision →
      Received self msg atTime (self.announced decision atTime rng)
        (self.nodes.map (messageTo decision.messageType))
  | recordsAck {decision : Decision} {last : Nat} {acks : Std.ExtTreeSet NodeId}
      {node : NodeId} :
      self.phase = .awaitingAcks decision last acks → msg.messageType = .ack →
      msg.from = .node node → (acks.insert node).size ≠ self.nodes.length →
      Received self msg atTime
        { self with phase := .awaitingAcks decision last (acks.insert node) } []
  | completes {decision : Decision} {last : Nat} {acks : Std.ExtTreeSet NodeId}
      {node : NodeId} :
      self.phase = .awaitingAcks decision last acks → msg.messageType = .ack →
      msg.from = .node node → (acks.insert node).size = self.nodes.length →
      Received self msg atTime { self with phase := .done decision } []
  | ignores : ¬ self.Accepts msg → Received self msg atTime self []

theorem any_abort_eq_true_iff (votes : Std.ExtTreeMap NodeId Vote) :
    (votes.toList.any fun (_, vote) => vote == .abort) = true ↔
      ∃ node : NodeId, votes[node]? = some Vote.abort := by
  simp only [List.any_eq_true, Prod.exists, beq_iff_eq,
    Std.ExtTreeMap.mem_toList_iff_getElem?_eq_some]
  exact ⟨fun ⟨node, vote, found, same⟩ => ⟨node, same ▸ found⟩,
    fun ⟨node, found⟩ => ⟨node, .abort, found, rfl⟩⟩

private theorem all_commit_of_not_any_abort {votes : Std.ExtTreeMap NodeId Vote}
    (none : ¬ ∃ node : NodeId, votes[node]? = some Vote.abort) (node : NodeId) (vote : Vote)
    (found : votes[node]? = some vote) : vote = .commit := by
  cases vote with
  | commit => rfl
  | abort => exact absurd ⟨node, found⟩ none

private theorem receiveVote_received {self : Coordinator ρ} {msg : Message} {atTime last : Nat}
    {votes : Std.ExtTreeMap NodeId Vote} (phase : self.phase = .voting last votes) (vote : Vote)
    (type : msg.messageType = vote.messageType) :
    Received self msg atTime (self.receiveVote last votes msg.from vote atTime).1
      (self.receiveVote last votes msg.from vote atTime).2 := by
  unfold receiveVote
  cases sender : msg.from with
  | coordinator =>
      exact .ignores (by cases vote <;> simp_all [Accepts, Vote.messageType])
  | node node =>
      simp only
      split
      · rename_i present
        exact .ignores (by cases vote <;> simp_all [Accepts, Vote.messageType])
      · rename_i absent
        have fresh : node ∉ votes := by rwa [← Std.ExtTreeMap.contains_iff_mem]
        simp only [tryDecide]
        split
        · rename_i objection
          simp only [trySendDecision]
          exact .decides phase type sender fresh
            (Or.inl ((any_abort_eq_true_iff _).mp objection))
        · rename_i unopposed
          have unanimous := all_commit_of_not_any_abort
            (fun objection => unopposed ((any_abort_eq_true_iff _).mpr objection))
          split
          · rename_i full
            simp only [trySendDecision]
            split
            · rename_i drawn
              exact .decides phase type sender fresh (Or.inr ⟨self.config.rng, .inr drawn⟩)
            · exact .decides phase type sender fresh ⟨by simpa using full, unanimous⟩
          · rename_i missing
            simp only [trySendDecision]
            exact .recordsVote phase type sender fresh ⟨by simpa using missing, unanimous⟩

private theorem receiveAck_received {self : Coordinator ρ} {msg : Message} {atTime last : Nat}
    {decision : Decision} {acks : Std.ExtTreeSet NodeId}
    (phase : self.phase = .awaitingAcks decision last acks) (type : msg.messageType = .ack) :
    Received self msg atTime (self.receiveAck decision last acks msg.from) [] := by
  unfold receiveAck
  cases sender : msg.from with
  | coordinator => exact .ignores (by simp_all [Accepts])
  | node node =>
      simp only
      split
      · rename_i full
        exact .completes phase type sender full
      · rename_i missing
        exact .recordsAck phase type sender missing

theorem receive_received (self : Coordinator ρ) (msg : Message) (atTime : Nat) :
    Received self msg atTime (self.receive msg atTime).1 (self.receive msg atTime).2 := by
  unfold receive
  split
  · rename_i type phase
    exact .starts phase type
  · rename_i type phase
    exact receiveVote_received phase .commit type
  · rename_i type phase
    exact receiveVote_received phase .abort type
  · rename_i type phase
    exact receiveAck_received phase type
  · rename_i noStart noCommit noAbort noAck
    refine .ignores ?_
    unfold Accepts
    split
    · exact fun _ => noStart ‹_› ‹_›
    · exact fun _ => noCommit _ _ ‹_› ‹_›
    · exact fun _ => noAbort _ _ ‹_› ‹_›
    · exact fun _ => noAck _ _ _ ‹_› ‹_›
    · exact id

/-! ## What no call changes -/

/-- The fields that are set once, by `new`. -/
structure SameSetup (before after : Coordinator ρ) : Prop where
  nodes : after.nodes = before.nodes
  abortBias : after.config.abortBias = before.config.abortBias
  retransmitTimeout : after.config.retransmitTimeout = before.config.retransmitTimeout

omit [ChaCha8Rng ρ] in
theorem SameSetup.trans {first second third : Coordinator ρ} (before : SameSetup first second)
    (after : SameSetup second third) : SameSetup first third :=
  ⟨after.nodes.trans before.nodes, after.abortBias.trans before.abortBias,
    after.retransmitTimeout.trans before.retransmitTimeout⟩

theorem Ticked.sameSetup {self after : Coordinator ρ} {atTime : Nat} {outgoing : List Message}
    (ticked : Ticked self atTime after outgoing) : SameSetup self after := by
  cases ticked <;> exact ⟨rfl, rfl, rfl⟩

theorem Received.sameSetup {self after : Coordinator ρ} {msg : Message} {atTime : Nat}
    {outgoing : List Message} (received : Received self msg atTime after outgoing) :
    SameSetup self after := by
  cases received <;> exact ⟨rfl, rfl, rfl⟩

theorem tick_sameSetup (self : Coordinator ρ) (atTime : Nat) :
    SameSetup self (self.tick atTime).1 :=
  (self.tick_ticked atTime).sameSetup

theorem onMessage_sameSetup (self : Coordinator ρ) (msg : Message) (atTime : Nat) :
    SameSetup self (self.onMessage msg atTime).1 :=
  (self.tick_sameSetup atTime).trans ((self.tick atTime).1.receive_received msg atTime).sameSetup

omit [ChaCha8Rng ρ] in
theorem recover_sameSetup (self : Coordinator ρ) (atTime : Nat) :
    SameSetup self (self.recover atTime) := by
  unfold recover
  split <;> exact ⟨rfl, rfl, rfl⟩

/-! ## The phase and the durable decision -/

/-- A call leaves the phase and the durable record in agreement, keeps a decision,
and announces no other. -/
structure Upholds (before after : Coordinator ρ) (outgoing : List Message) : Prop where
  durable : after.durableState.decision = after.decision
  stays : ∀ {decision : Decision}, before.decision = some decision →
    after.decision = some decision
  announced : ∀ msg ∈ outgoing, ∀ {decision : Decision},
    msg.messageType = decision.messageType → after.decision = some decision

omit [ChaCha8Rng ρ] in
theorem Upholds.trans {first second third : Coordinator ρ} {earlier later : List Message}
    (before : Upholds first second earlier) (after : Upholds second third later) :
    Upholds first third (earlier ++ later) where
  durable := after.durable
  stays decided := after.stays (before.stays decided)
  announced msg sent decision type := by
    rcases List.mem_append.mp sent with sent | sent
    · exact after.stays (before.announced msg sent type)
    · exact after.announced msg sent type

section Upholds

variable {self after : Coordinator ρ} {atTime : Nat} {outgoing : List Message}

omit [ChaCha8Rng ρ] in
private theorem Upholds.of_eq (recorded : self.durableState.decision = self.decision)
    (durable : after.durableState.decision = self.durableState.decision)
    (phase : after.decision = self.decision)
    (known : ∀ msg ∈ outgoing, ∀ {decision : Decision},
      msg.messageType = decision.messageType → after.decision = some decision) :
    Upholds self after outgoing where
  durable := by rw [durable, phase, recorded]
  stays decided := phase.trans decided
  announced := known

omit [ChaCha8Rng ρ] in
private theorem upholds_of_silent (recorded : self.durableState.decision = self.decision)
    (durable : after.durableState.decision = self.durableState.decision)
    (phase : after.decision = self.decision) : Upholds self after [] := by
  apply Upholds.of_eq recorded durable phase
  intro msg sent
  cases sent

omit [ChaCha8Rng ρ] in
private theorem announced_upholds (decided : Decision) (rng : ρ)
    (compatible : ∀ {decision : Decision}, self.decision = some decision → decision = decided) :
    Upholds self (self.announced decided atTime rng)
      (self.nodes.map (messageTo decided.messageType)) where
  durable := rfl
  stays before := congrArg some (compatible before).symm
  announced msg sent decision type := by
    obtain ⟨node, _, rfl⟩ := List.mem_map.mp sent
    obtain rfl := Decision.messageType_inj.mp type
    rfl

theorem Ticked.upholds (ticked : Ticked self atTime after outgoing)
    (durable : self.durableState.decision = self.decision) : Upholds self after outgoing := by
  cases ticked with
  | idle _ | awaitsAcks _ _ =>
      apply upholds_of_silent durable
      · rfl
      · rfl
  | awaitsVotes phase _ =>
      apply upholds_of_silent durable
      · rfl
      · rw [Coordinator.decision, Coordinator.decision, phase]
  | aborts phase _ =>
      apply announced_upholds .abort
      intro decision decided
      rw [Coordinator.decision, phase] at decided
      cases decided
  | resendsPrepare phase _ =>
      apply Upholds.of_eq durable
      · rfl
      · rw [Coordinator.decision, Coordinator.decision, phase]
        rfl
      · intro msg sent decision type
        obtain ⟨node, _, rfl⟩ := List.mem_map.mp sent
        cases decision <;> cases type
  | @sendsDecision announced phase =>
      apply announced_upholds announced
      intro decision decided
      rw [Coordinator.decision, phase] at decided
      exact (Option.some.inj decided).symm
  | @resendsDecision announced _ _ phase _ =>
      apply Upholds.of_eq durable
      · rfl
      · rw [Coordinator.decision, Coordinator.decision, phase]
        rfl
      · intro msg sent decision type
        obtain ⟨node, _, rfl⟩ := List.mem_map.mp sent
        obtain rfl := Decision.messageType_inj.mp type
        rfl

theorem Received.upholds {msg : Message} (received : Received self msg atTime after outgoing)
    (durable : self.durableState.decision = self.decision) : Upholds self after outgoing := by
  cases received with
  | starts phase _ =>
      apply Upholds.of_eq durable
      · rfl
      · rw [Coordinator.decision, Coordinator.decision, phase]
        rfl
      · intro msg sent decision type
        obtain ⟨node, _, rfl⟩ := List.mem_map.mp sent
        cases decision <;> cases type
  | recordsVote phase _ _ _ _ | recordsAck phase _ _ _ | completes phase _ _ _ =>
      apply upholds_of_silent durable
      · rfl
      · rw [Coordinator.decision, Coordinator.decision, phase]
        rfl
  | @decides _ _ _ _ announced _ phase _ _ _ _ =>
      apply announced_upholds announced
      intro decision decided
      rw [Coordinator.decision, phase] at decided
      cases decided
  | ignores _ =>
      apply upholds_of_silent durable
      · rfl
      · rfl

omit [ChaCha8Rng ρ] in
theorem recover_decision (atTime : Nat)
    (durable : self.durableState.decision = self.decision) :
    (self.recover atTime).decision = self.decision := by
  rw [← durable]
  unfold recover
  split
  · rename_i stored
    rw [stored]
    rfl
  · rename_i stored
    rw [stored]
    rfl

omit [ChaCha8Rng ρ] in
theorem recover_upholds (atTime : Nat) (durable : self.durableState.decision = self.decision) :
    Upholds self (self.recover atTime) [] := by
  apply upholds_of_silent durable
  · unfold recover
    split <;> rfl
  · exact recover_decision atTime durable

end Upholds

/-! ## The phase, the durable decision and the quorums -/

/-- The durable decision is the one of the phase, and the tallies are of managed
nodes and not complete. -/
structure Valid (coordinator : Coordinator ρ) : Prop where
  durable : coordinator.durableState.decision = coordinator.decision
  voting : ∀ {last votes}, coordinator.phase = .voting last votes →
    (∀ node ∈ votes, node ∈ coordinator.nodes) ∧
      (coordinator.nodes ≠ [] → coordinator.Undecided votes)
  awaiting : ∀ {decision last acks}, coordinator.phase = .awaitingAcks decision last acks →
    (∀ node ∈ acks, node ∈ coordinator.nodes) ∧
      (coordinator.nodes ≠ [] → acks.size ≠ coordinator.nodes.length)

omit [ChaCha8Rng ρ] in
private theorem empty_votes_undecided {self : Coordinator ρ} (managed : self.nodes ≠ []) :
    self.Undecided ∅ := by
  refine ⟨?_, by simp⟩
  simpa [eq_comm, List.length_eq_zero_iff] using managed

theorem new_valid (nodes : List NodeId) (rngSeed : UInt64) (abortBias : ℚ)
    (retransmitTimeout : Nat) :
    (new nodes rngSeed abortBias retransmitTimeout : Coordinator ρ).Valid where
  durable := rfl
  voting phase := by cases phase
  awaiting phase := by cases phase

omit [ChaCha8Rng ρ] in
theorem announced_valid (self : Coordinator ρ) (decision : Decision) (atTime : Nat) (rng : ρ) :
    (self.announced decision atTime rng).Valid where
  durable := rfl
  voting phase := by cases phase
  awaiting phase := by
    cases phase
    refine ⟨by simp, fun managed => ?_⟩
    simpa [announced, eq_comm, List.length_eq_zero_iff] using managed

omit [ChaCha8Rng ρ] in
theorem Valid.undecided {self : Coordinator ρ} (valid : self.Valid) {last : Nat}
    {votes : Std.ExtTreeMap NodeId Vote} (phase : self.phase = .voting last votes) :
    self.durableState.decision = none := by
  rw [valid.durable, decision, phase]
  rfl

theorem Ticked.valid {self after : Coordinator ρ} {atTime : Nat} {outgoing : List Message}
    (ticked : Ticked self atTime after outgoing) (valid : self.Valid) : after.Valid := by
  have durable := (ticked.upholds valid.durable).durable
  cases ticked with
  | idle _ | awaitsAcks _ _ => exact valid
  | aborts _ _ | sendsDecision _ => exact self.announced_valid _ _ _
  | resendsPrepare phase _ | awaitsVotes phase _ =>
      refine ⟨durable, fun same => ?_, nofun⟩
      cases same
      exact valid.voting phase
  | resendsDecision phase _ =>
      refine ⟨durable, nofun, fun same => ?_⟩
      cases same
      exact valid.awaiting phase

theorem Received.valid {self after : Coordinator ρ} {msg : Message} {atTime : Nat}
    {outgoing : List Message} (received : Received self msg atTime after outgoing)
    (valid : self.Valid) (managed : ∀ node, msg.from = .node node → node ∈ self.nodes) :
    after.Valid := by
  have durable := (received.upholds valid.durable).durable
  cases received with
  | starts _ _ =>
      refine ⟨durable, fun same => ?_, nofun⟩
      cases same
      exact ⟨by simp, empty_votes_undecided⟩
  | recordsVote phase _ sender _ undecided =>
      refine ⟨durable, fun same => ?_, nofun⟩
      cases same
      refine ⟨fun node present => ?_, fun _ => undecided⟩
      rcases Library.OrderedMap.mem_insert.mp present with rfl | present
      · exact managed _ sender
      · exact (valid.voting phase).1 node present
  | decides _ _ _ _ _ => exact self.announced_valid _ _ _
  | recordsAck phase _ sender incomplete =>
      refine ⟨durable, nofun, fun same => ?_⟩
      cases same
      refine ⟨fun node present => ?_, fun _ => incomplete⟩
      rcases Library.OrderedSet.mem_insert.mp present with rfl | present
      · exact managed _ sender
      · exact (valid.awaiting phase).1 node present
  | completes _ _ _ _ => exact ⟨durable, nofun, nofun⟩
  | ignores _ => exact valid

omit [ChaCha8Rng ρ] in
theorem recover_valid {self : Coordinator ρ} (atTime : Nat) : (self.recover atTime).Valid := by
  unfold recover
  split
  · rename_i decision durable
    exact ⟨durable, nofun, nofun⟩
  · rename_i durable
    refine ⟨durable, fun same => ?_, nofun⟩
    cases same
    exact ⟨by simp, empty_votes_undecided⟩

theorem onMessage_valid {self : Coordinator ρ} (valid : self.Valid) {msg : Message}
    (managed : ∀ node, msg.from = .node node → node ∈ self.nodes) (atTime : Nat) :
    (self.onMessage msg atTime).1.Valid := by
  refine ((self.tick atTime).1.receive_received msg atTime).valid
    ((self.tick_ticked atTime).valid valid) ?_
  rw [(self.tick_sameSetup atTime).nodes]
  exact managed

end TwoPhaseCommit.Coordinator
