import TwoPhaseCommit.Simulator.Refinement

/-! Safety of every run, with crashes and recoveries: agreement, validity of a
commit, and durable state behind every message on the wire. -/

set_option autoImplicit false

namespace TwoPhaseCommit.Simulator

open Protocol

variable {ρ : Type} [ChaCha8Rng ρ] {setup : Setup} {environment : Environment ρ}
  {state after : Simulator ρ}

omit [ChaCha8Rng ρ] in
/-- A delivery of the message is in the event queue. -/
def InFlight (state : Simulator ρ) (msg : Message) : Prop :=
  ∃ item ∈ state.eventQueue.pending, ∃ recipient, item.event = .internal (.deliver recipient msg)

/-! ## Reading the view -/

section View

variable {node : NodeId} {participant : Participant ρ}

theorem Consistent.view_vote (consistent : Consistent setup state)
    (found : state.participants[node]? = some participant) :
    state.view.vote node = participant.vote := by
  simp [view, found, (consistent.participant found).valid.vote]

theorem Consistent.view_learned (consistent : Consistent setup state)
    (found : state.participants[node]? = some participant) :
    state.view.learned node = participant.decision := by
  simp [view, found, (consistent.participant found).valid.decision]

theorem Consistent.view_decision (consistent : Consistent setup state) :
    state.view.decision = state.coordinator.decision :=
  consistent.valid.durable

theorem Consistent.exists_participant (consistent : Consistent setup state)
    (managed : node ∈ setup.nodes) :
    ∃ participant, state.participants[node]? = some participant :=
  Library.OrderedMap.mem_iff_exists.mp ((consistent.managed node).mpr managed)

theorem Consistent.mem_nodes (consistent : Consistent setup state)
    (found : state.participants[node]? = some participant) : node ∈ setup.nodes :=
  (consistent.managed node).mp (Library.OrderedMap.mem_iff_exists.mpr ⟨_, found⟩)

theorem Consistent.sent_of_inFlight (consistent : Consistent setup state) {msg : Message}
    (inFlight : state.InFlight msg) : msg ∈ state.view.sent := by
  obtain ⟨item, queued, recipient, event⟩ := inFlight
  have listed := List.mem_map_of_mem (f := (·.event)) queued
  rw [event] at listed
  exact (consistent.queued listed).2

end View

/-! ## Agreement -/

theorem extends_of_steps (consistent : Consistent setup state)
    (path : (system setup environment).Steps state after) :
    Consistent setup after ∧ Extends state.view after.view :=
  ⟨path.preserves (refinement setup environment).invariant.next consistent,
    steps_extends ((refinement setup environment).steps consistent path)⟩

theorem Consistent.decision_of_participant (consistent : Consistent setup state) {node : NodeId}
    {participant : Participant ρ} {decision : Decision}
    (found : state.participants[node]? = some participant)
    (decided : participant.decision = some decision) :
    state.coordinator.decision = some decision := by
  rw [← consistent.view_decision]
  exact consistent.sound.learned node decision (by rw [consistent.view_learned found, decided])

theorem agreement (reachable : (system setup environment).Reachable state)
    (path : (system setup environment).Steps state after) :
    (∀ {first second : NodeId} {left right : Participant ρ} {ours theirs : Decision},
      state.participants[first]? = some left → state.participants[second]? = some right →
      left.decision = some ours → right.decision = some theirs → ours = theirs) ∧
    ∀ {node : NodeId} {participant : Participant ρ} {decision : Decision},
      state.participants[node]? = some participant → participant.decision = some decision →
      state.coordinator.decision = some decision ∧
        ∃ later, after.participants[node]? = some later ∧ later.decision = some decision := by
  have consistent := consistent_of_reachable reachable
  obtain ⟨afterwards, grows⟩ := extends_of_steps consistent path
  constructor
  · intro first second left right ours theirs foundLeft foundRight decidedLeft decidedRight
    have mine := consistent.decision_of_participant foundLeft decidedLeft
    have other := consistent.decision_of_participant foundRight decidedRight
    exact Option.some.inj (mine.symm.trans other)
  · intro node participant decision found decided
    refine ⟨consistent.decision_of_participant found decided, ?_⟩
    obtain ⟨later, present⟩ := afterwards.exists_participant (consistent.mem_nodes found)
    refine ⟨later, present, ?_⟩
    rw [← afterwards.view_learned present]
    exact grows.learned node decision (by rw [consistent.view_learned found, decided])

/-- The transaction commits in spite of the crash of the coordinator, and goes on when a participant
crashes that has learned the decision. -/
theorem unanimous_recovers : ∃ state after : Simulator ForcedRng,
    (system .unanimous anyEnvironment).Reachable state ∧
      (system .unanimous anyEnvironment).Steps state after ∧
      .drop 2 (.vote ⟨0⟩ .commit) ∈ state.actionLog ∧
      state.coordinator.decision = some .commit ∧
      (∃ participant, state.participants[(⟨0⟩ : NodeId)]? = some participant ∧
        participant.decision = some .commit) ∧
      .externalEvent 20 (.crash (.node ⟨0⟩)) ∈ after.actionLog := by
  have ended : runEndsIn (ρ := ForcedRng) .unanimous Setup.interruption 40 (fun state =>
      decide (.drop 2 (.vote ⟨0⟩ .commit) ∈ state.actionLog) &&
      decide (state.coordinator.decision = some .commit) &&
      (state.participants[(⟨0⟩ : NodeId)]?).any (fun participant =>
        decide (participant.decision = some .commit)) &&
      match (state.enqueueExternal (.crash (.node ⟨0⟩)) 20).step with
      | .ok (_, after) => decide (.externalEvent 20 (.crash (.node ⟨0⟩)) ∈ after.actionLog)
      | .error _ => false) = true := by
    decide +kernel
  obtain ⟨state, reachable, passed⟩ := reachable_of_runEndsIn ended
  simp only [Bool.and_eq_true, decide_eq_true_eq, Option.any_eq_true] at passed
  obtain ⟨⟨⟨lost, committed⟩, told⟩, crashes⟩ := passed
  split at crashes
  · rename_i after success
    have first : Next anyEnvironment state (state.enqueueExternal (.crash (.node ⟨0⟩)) 20) :=
      .enqueueExternal trivial
    exact ⟨state, after, reachable, .trans (.single first) (.single (.step success)), lost,
      committed, told, of_decide_eq_true crashes⟩
  · cases crashes

theorem agreement_unanimous : ∃ state after : Simulator ForcedRng,
    .drop 2 (.vote ⟨0⟩ .commit) ∈ state.actionLog ∧
    (∀ {first second : NodeId} {left right : Participant ForcedRng} {ours theirs : Decision},
      state.participants[first]? = some left → state.participants[second]? = some right →
      left.decision = some ours → right.decision = some theirs → ours = theirs) ∧
    .externalEvent 20 (.crash (.node ⟨0⟩)) ∈ after.actionLog ∧
    ∃ later, after.participants[(⟨0⟩ : NodeId)]? = some later ∧ later.decision = some .commit := by
  obtain ⟨state, after, reachable, path, lost, _, ⟨participant, found, told⟩, crashed⟩ :=
    unanimous_recovers
  obtain ⟨agree, stays⟩ := agreement reachable path
  exact ⟨state, after, lost, agree, crashed, (stays found told).2⟩

/-! ## The end of the protocol -/

/-- The decision is on durable storage everywhere, and no participant knows another. -/
structure Settled (setup : Setup) (state : Simulator ρ) (decision : Decision) : Prop where
  coordinator : state.coordinator.durableState.decision = some decision
  managed : ∀ node, node ∈ state.participants ↔ node ∈ setup.nodes
  participant : ∀ {node : NodeId} {participant : Participant ρ},
    state.participants[node]? = some participant →
      participant.durableState.decision = some decision ∧ participant.decision = some decision

/-- `done` counts acknowledgements, and only a durable decision is ever acknowledged. -/
theorem Consistent.learned_of_done (consistent : Consistent setup state) {decision : Decision}
    (done : state.coordinator.phase = .done decision) {node : NodeId}
    (member : node ∈ setup.nodes) : state.view.learned node = some decision := by
  have acknowledged : node ∈ state.view.acked := by
    simpa [view, Coordinator.acked, done, consistent.nodes] using member
  obtain ⟨learned, known⟩ :=
    Option.ne_none_iff_exists'.mp (consistent.sound.acked node acknowledged)
  have announced := consistent.sound.learned node learned known
  rw [consistent.view_decision, Coordinator.decision, done] at announced
  cases announced
  exact known

theorem done_settled (reachable : (system setup environment).Reachable state)
    {decision : Decision} (done : state.coordinator.phase = .done decision)
    (path : (system setup environment).Steps state after) : Settled setup after decision := by
  have consistent := consistent_of_reachable reachable
  obtain ⟨afterwards, grows⟩ := extends_of_steps consistent path
  have decided : state.view.decision = some decision := by
    rw [consistent.view_decision, Coordinator.decision, done]
    rfl
  constructor
  · exact grows.decision decision decided
  · exact afterwards.managed
  · intro node participant found
    have known := grows.learned node decision
      (consistent.learned_of_done done (afterwards.mem_nodes found))
    rw [afterwards.view_learned found] at known
    exact ⟨(afterwards.participant found).valid.decision.trans known, known⟩

theorem done_settled_unanimous : ∃ state : Simulator ForcedRng,
    state.coordinator.phase = .done .commit ∧
      Settled .unanimous (state.enqueueAll [(.crash (.node ⟨1⟩), 9)]) .commit := by
  have ended : runEndsIn (ρ := ForcedRng) .unanimous [(.startTransaction, 0)] 20
      (fun state => decide (state.coordinator.phase = .done .commit)) = true := by
    decide +kernel
  obtain ⟨state, reachable, done⟩ := reachable_of_runEndsIn ended
  have phase := of_decide_eq_true done
  exact ⟨state, phase, done_settled reachable phase enqueueAll_steps⟩

/-! ## Validity of a commit -/

theorem Consistent.unanimous (consistent : Consistent setup state)
    (committed : state.coordinator.decision = some .commit) {node : NodeId}
    {participant : Participant ρ} (found : state.participants[node]? = some participant) :
    participant.vote = some .commit := by
  rw [← consistent.view_vote found]
  exact consistent.sound.unanimous (by rw [consistent.view_decision, committed]) node
    (consistent.mem_nodes found)

theorem Consistent.decision_of_inFlight (consistent : Consistent setup state) {msg : Message}
    {decision : Decision} (inFlight : state.InFlight msg)
    (type : msg.messageType = decision.messageType) :
    state.coordinator.durableState.decision = some decision := by
  have sent := consistent.sent_of_inFlight inFlight
  obtain ⟨node, _, rfl⟩ := (consistent.sound.wellFormed _ sent).eq_decision type
  exact ((consistent.sound.decision_sent node decision).mp sent).2

theorem Consistent.vote_of_inFlight (consistent : Consistent setup state) {msg : Message}
    {vote : Vote} (inFlight : state.InFlight msg) (type : msg.messageType = vote.messageType) :
    ∃ node participant, msg.from = .node node ∧ state.participants[node]? = some participant ∧
      participant.vote = some vote := by
  have sent := consistent.sent_of_inFlight inFlight
  obtain ⟨node, member, rfl⟩ := (consistent.sound.wellFormed _ sent).eq_vote type
  obtain ⟨participant, found⟩ := consistent.exists_participant member
  refine ⟨node, participant, rfl, found, ?_⟩
  rw [← consistent.view_vote found]
  exact (consistent.sound.vote_sent node vote).mp sent

theorem commit_validity (reachable : (system setup environment).Reachable state)
    (committed : state.coordinator.decision = some .commit ∨
      state.coordinator.durableState.decision = some .commit ∨
      (∃ msg, state.InFlight msg ∧ msg.messageType = .decisionCommit) ∨
      ∃ (node : NodeId) (participant : Participant ρ),
        state.participants[node]? = some participant ∧ participant.decision = some .commit) :
    (∀ node, node ∈ state.participants ↔ node ∈ setup.nodes) ∧
    (∀ {node : NodeId} {participant : Participant ρ},
      state.participants[node]? = some participant →
        participant.vote = some .commit ∧ participant.durableState.vote = some .commit) ∧
    ∀ msg, state.InFlight msg → msg.messageType ≠ .voteAbort := by
  have consistent := consistent_of_reachable reachable
  have decided : state.coordinator.decision = some .commit := by
    rcases committed with decided | durable | ⟨msg, inFlight, type⟩ |
      ⟨node, participant, found, told⟩
    · exact decided
    · rw [← consistent.valid.durable, durable]
    · rw [← consistent.valid.durable]
      exact consistent.decision_of_inFlight inFlight
        (show msg.messageType = Decision.commit.messageType from type)
    · exact consistent.decision_of_participant found told
  refine ⟨consistent.managed, fun {node participant} found => ?_, fun msg inFlight type => ?_⟩
  · have voted := consistent.unanimous decided found
    exact ⟨voted, by rw [(consistent.participant found).valid.vote, voted]⟩
  · obtain ⟨node, participant, _, found, voted⟩ :=
      consistent.vote_of_inFlight inFlight (show msg.messageType = Vote.abort.messageType from type)
    cases (consistent.unanimous decided found).symm.trans voted

theorem commit_validity_unanimous : ∃ state : Simulator ForcedRng,
    .drop 2 (.vote ⟨0⟩ .commit) ∈ state.actionLog ∧
    (∀ node, node ∈ state.participants ↔ node ∈ Setup.unanimous.nodes) ∧
    ∀ {node : NodeId} {participant : Participant ForcedRng},
      state.participants[node]? = some participant → participant.vote = some .commit := by
  obtain ⟨state, _, reachable, _, lost, decided, _⟩ := unanimous_recovers
  obtain ⟨managed, unanimous, _⟩ := commit_validity reachable (.inl decided)
  exact ⟨state, lost, managed, fun found => (unanimous found).1⟩

/-! ## Durable state behind every promise -/

/-- Call `recover` on the actors that are given a time. -/
def recoverWhere (self : Simulator ρ) (time? : ActorId → Option Nat) : Simulator ρ :=
  { self with
    coordinator :=
      match time? .coordinator with
      | some atTime => self.coordinator.recover atTime
      | none => self.coordinator
    participants := self.participants.map fun node participant =>
      match time? (.node node) with
      | some atTime => participant.recover atTime
      | none => participant }

theorem Consistent.recoverWhere_eq (consistent : Consistent setup state)
    (time? : ActorId → Option Nat) :
    (state.recoverWhere time?).coordinator.decision = state.coordinator.decision ∧
      (state.recoverWhere time?).participants = state.participants := by
  constructor
  · simp only [recoverWhere]
    cases time? .coordinator with
    | some atTime => exact Coordinator.recover_decision atTime consistent.valid.durable
    | none => rfl
  · refine Std.ExtTreeMap.ext_getElem? fun node => ?_
    simp only [recoverWhere, Std.ExtTreeMap.getElem?_map]
    cases found : state.participants[node]? with
    | none => rfl
    | some participant =>
        cases time? (.node node) with
        | some atTime =>
            simp [Participant.recover_eq_self (consistent.participant found).valid]
        | none => rfl

omit [ChaCha8Rng ρ] in
private theorem exists_of_view_vote {node : NodeId} {vote : Vote}
    (cast : state.view.vote node = some vote) :
    ∃ participant, state.participants[node]? = some participant ∧
      participant.durableState.vote = some vote :=
  Option.bind_eq_some_iff.mp cast

theorem Consistent.durable_of_learned (consistent : Consistent setup state) {node : NodeId}
    (learned : state.view.learned node ≠ none) :
    ∃ participant decision, state.participants[node]? = some participant ∧
      participant.durableState.decision = some decision ∧
      state.coordinator.durableState.decision = some decision := by
  obtain ⟨decision, known⟩ := Option.ne_none_iff_exists'.mp learned
  obtain ⟨participant, found, durable⟩ := Option.bind_eq_some_iff.mp known
  exact ⟨participant, decision, found, durable, consistent.sound.learned node decision known⟩

theorem write_ahead (reachable : (system setup environment).Reachable state) :
    (∀ {msg : Message} {node : NodeId} {vote : Vote}, state.InFlight msg →
      msg.messageType = vote.messageType → msg.from = .node node →
        ∃ participant, state.participants[node]? = some participant ∧
          participant.durableState.vote = some vote) ∧
    (∀ {msg : Message} {decision : Decision}, state.InFlight msg →
      msg.messageType = decision.messageType →
        state.coordinator.durableState.decision = some decision) ∧
    (∀ {msg : Message} {node : NodeId}, state.InFlight msg → msg.messageType = .ack →
      msg.from = .node node →
        ∃ participant decision, state.participants[node]? = some participant ∧
          participant.durableState.decision = some decision ∧
          state.coordinator.durableState.decision = some decision) ∧
    (∀ {last : Nat} {votes : Std.ExtTreeMap NodeId Vote} {node : NodeId} {vote : Vote},
      state.coordinator.phase = .voting last votes → votes[node]? = some vote →
        ∃ participant, state.participants[node]? = some participant ∧
          participant.durableState.vote = some vote) ∧
    (∀ {decision : Decision} {last : Nat} {acks : Std.ExtTreeSet NodeId} {node : NodeId},
      state.coordinator.phase = .awaitingAcks decision last acks → node ∈ acks →
        ∃ participant, state.participants[node]? = some participant ∧
          participant.durableState.decision = some decision ∧
          state.coordinator.durableState.decision = some decision) ∧
    ∀ time? : ActorId → Option Nat,
      (state.recoverWhere time?).coordinator.decision = state.coordinator.decision ∧
      ∀ {node : NodeId} {participant : Participant ρ},
        state.participants[node]? = some participant →
          ∃ recovered, (state.recoverWhere time?).participants[node]? = some recovered ∧
            recovered.vote = participant.vote ∧
            recovered.decision = participant.decision := by
  have consistent := consistent_of_reachable reachable
  refine ⟨?_, consistent.decision_of_inFlight, ?_, ?_, ?_, fun time? => ?_⟩
  · intro msg node vote inFlight type sender
    obtain ⟨voter, participant, same, found, voted⟩ := consistent.vote_of_inFlight inFlight type
    obtain rfl : voter = node := by simpa using same.symm.trans sender
    exact ⟨participant, found, by rw [(consistent.participant found).valid.vote, voted]⟩
  · intro msg node inFlight type sender
    have sent := consistent.sent_of_inFlight inFlight
    obtain ⟨learner, _, rfl⟩ := (consistent.sound.wellFormed _ sent).eq_ack type
    obtain rfl : learner = node := by simpa [Message.ack] using sender
    exact consistent.durable_of_learned ((consistent.sound.ack_sent learner).mp sent)
  · intro last votes node vote phase counted
    refine exists_of_view_vote (consistent.sound.tally node vote ?_)
    simpa [view, Coordinator.tally, phase] using counted
  · intro decision last acks node phase acknowledged
    have learned := consistent.sound.acked node
      (by simpa [view, Coordinator.acked, phase] using acknowledged)
    obtain ⟨participant, known, found, durable, decided⟩ := consistent.durable_of_learned learned
    obtain rfl : known = decision := by
      simpa [consistent.valid.durable, Coordinator.decision, phase, CoordinatorPhase.decision]
        using decided.symm
    exact ⟨participant, found, durable, decided⟩
  · obtain ⟨decision, participants⟩ := consistent.recoverWhere_eq time?
    exact ⟨decision, fun found => ⟨_, participants ▸ found, rfl, rfl⟩⟩

theorem write_ahead_unanimous : ∃ state after : Simulator ForcedRng,
    .drop 2 (.vote ⟨0⟩ .commit) ∈ state.actionLog ∧
    (∀ time? : ActorId → Option Nat,
      (state.recoverWhere time?).coordinator.decision = some .commit) ∧
    .externalEvent 20 (.crash (.node ⟨0⟩)) ∈ after.actionLog ∧
    ∀ time? : ActorId → Option Nat,
      (after.recoverWhere time?).coordinator.decision = after.coordinator.decision := by
  obtain ⟨state, after, ⟨new, initial, before⟩, path, lost, decided, _, crashed⟩ :=
    unanimous_recovers
  obtain ⟨_, _, _, _, _, recovered⟩ := write_ahead ⟨new, initial, before⟩
  obtain ⟨_, _, _, _, _, later⟩ := write_ahead ⟨new, initial, before.trans path⟩
  exact ⟨state, after, lost, fun time? => (recovered time?).1.trans decided, crashed,
    fun time? => (later time?).1⟩

end TwoPhaseCommit.Simulator
