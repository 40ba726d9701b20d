import TwoPhaseCommit.CoordinatorPatience
import TwoPhaseCommit.Simulator.Latency

/-! No message is sent twice while no actor crashes and the retransmission timeout is longer
than a round trip: within every phase each question is delivered once, to a participant that
has not answered it, and the answers arrive before the coordinator would ask again. -/

set_option autoImplicit false

namespace TwoPhaseCommit

open Protocol

/-- When a message of the exchange of the phase is due, if it is part of one. -/
def CoordinatorPhase.deadline (phase : CoordinatorPhase) (latency : Nat) (msg : Message) : Nat :=
  match phase.lastSent? with
  | some last => last + (msg.messageType.stage + phase.rank - 3) * latency
  | none => 0

theorem CoordinatorPhase.lastSent_of_asks {phase : CoordinatorPhase} {type : MessageType}
    (asked : phase.asks type = true) : ∃ last, phase.lastSent? = some last := by
  cases phase with
  | voting last _ | awaitingAcks _ last _ => exact ⟨last, rfl⟩
  | waiting | decided _ | done _ => cases asked

/-! ## The messages in the queue -/

def Event.message? : Event → Option Message
  | .internal (.deliver _ msg) => some msg
  | .external _ => none

def EventQueue.messages (self : EventQueue) : List Message :=
  self.pending.filterMap fun item => item.event.message?

theorem EventQueue.Pops.messages {self rest : EventQueue} {popped : TimestampedEvent}
    (pops : self.Pops popped rest) :
    self.messages.Perm (popped.event.message?.toList ++ rest.messages) := by
  have perm := pops.perm.filterMap fun item => item.event.message?
  rw [List.filterMap_cons] at perm
  unfold EventQueue.messages
  cases kind : popped.event.message? with
  | none => simpa [kind] using perm
  | some msg => simpa [kind] using perm

namespace Simulator

variable {ρ : Type} [ChaCha8Rng ρ] {setup : Setup} {environment : Environment ρ}
  {state middle after : Simulator ρ} {event : Event} {outgoing : List Message}

omit [ChaCha8Rng ρ] in
theorem mem_messages {msg : Message} : msg ∈ state.eventQueue.messages ↔ state.InFlight msg := by
  rw [EventQueue.messages, List.mem_filterMap]
  refine exists_congr fun item => and_congr_right fun _ => ?_
  cases item.event with
  | external event => simp [Event.message?]
  | internal event =>
      obtain ⟨recipient, other⟩ := event
      simp [Event.message?]

theorem sendAll_messages (self : Simulator ρ) (outgoing : List Message) :
    (self.sendAll outgoing).eventQueue.messages = outgoing.reverse ++ self.eventQueue.messages := by
  obtain ⟨scheduled, pending, events, _⟩ := self.sendAll_pending outgoing
  have news : scheduled.filterMap (fun item => item.event.message?) = outgoing.reverse := by
    have same := congrArg (List.filterMap Event.message?) events
    rw [List.filterMap_map, ← List.map_reverse, List.filterMap_map] at same
    exact same.trans List.filterMap_some
  rw [EventQueue.messages, pending, List.filterMap_append, news]
  rfl

/-! ## Rounds -/

/-- Without crashes and before the timeout, an event is a call of the coordinator that sends
nothing or the messages of a new phase, or a delivery to a participant. -/
private theorem Dispatched.unhurried (dispatched : Dispatched state event middle outgoing)
    (operating : ∀ actor, state.isOperating actor = true)
    (early : state.coordinator.Early state.clock)
    (announced : ∀ decision, state.coordinator.phase ≠ .decided decision) :
    (Coordinator.Unhurried state.coordinator state.clock middle.coordinator outgoing ∧
        middle.participants = state.participants) ∨
      ∃ node msg participant, event = .internal (.deliver (.node node) msg) ∧
        state.participants[node]? = some participant ∧
        middle = { state with participants :=
          state.participants.insert node (participant.onMessage msg state.clock).1 } ∧
        outgoing = (participant.onMessage msg state.clock).2 := by
  cases dispatched with
  | coordinatorReceives _ =>
      exact .inl ⟨Coordinator.onMessage_unhurried _ _ early announced, rfl⟩
  | coordinatorTicks _ _ => exact .inl ⟨Coordinator.tick_unhurried _ early announced, rfl⟩
  | participantReceives found => exact .inr ⟨_, _, _, rfl, found, rfl, rfl⟩
  | rests _ _ | nodeTicks | nobodyReceives _ | crashes | staysUp _ =>
      exact .inl ⟨.waits (.refl _), rfl⟩
  | coordinatorRecovers down | participantRecovers down _ =>
      cases (operating _).symm.trans down

/-- Within every phase, a question is due after one delay and its answer after two. -/
private theorem Dispatched.keeps_round {popped : TimestampedEvent} {queue : EventQueue}
    {delivered : Observations}
    (dispatched : Dispatched (state.taken popped queue delivered) popped.event middle outgoing)
    (undisturbed : Undisturbed setup state) (pops : state.eventQueue.Pops popped queue)
    (early : state.coordinator.Early popped.timestamp)
    (awaited : state.coordinator.Awaited
      (DueBy (state.coordinator.phase.deadline setup.latency) state)) :
    middle.coordinator.Awaited
      (DueOnceSent setup (middle.coordinator.phase.deadline setup.latency) middle outgoing) := by
  obtain ⟨staffed, sound, genuine⟩ := undisturbed.toConsistent.taken pops delivered
  have operating := undisturbed.nobodyCrashes.operating
  have changes : ∀ last, middle.coordinator.phase.lastSent? = some last →
      (state.coordinator.phase.lastSent? = some last ∧
        middle.coordinator.phase.rank = state.coordinator.phase.rank) ∨
      last = popped.timestamp ∧
        middle.coordinator.phase.rank < state.coordinator.phase.rank := by
    intro last sent
    rcases dispatched.unhurried operating early awaited.announced with
      ⟨unhurried, _⟩ | ⟨_, _, _, _, _, rfl, _⟩
    · exact unhurried.lastSent sent
    · exact .inl ⟨sent, rfl⟩
  have questions : state.coordinator.Awaited fun msg =>
      state.coordinator.phase.asks msg.messageType = true ∧
        DueBy (state.coordinator.phase.deadline setup.latency) state msg :=
    awaited.imp fun msg due asks => ⟨asks, due⟩
  have spread := dispatched.exchange staffed sound genuine operating questions
    fun msg due => (DueBy.pops pops due.2).imp_right (And.intro due.1)
  have rest : middle.eventQueue = queue := dispatched.eventQueue
  have clock : middle.clock = popped.timestamp := dispatched.clock
  refine spread.imp fun msg sent asked => ?_
  obtain ⟨last, same⟩ := CoordinatorPhase.lastSent_of_asks asked
  have now := CoordinatorPhase.stage_of_asks asked
  rcases changes last same with ⟨kept, rank⟩ | ⟨rfl, advanced⟩
  · -- The phase goes on: what was due still is, and an answer takes one more delay.
    have limit : middle.coordinator.phase.deadline setup.latency =
        state.coordinator.phase.deadline setup.latency := by
      funext other
      simp only [CoordinatorPhase.deadline, same, kept, rank]
    rw [limit]
    rcases sent with ⟨_, item, queued, due⟩ | ⟨listed, earlier⟩
    · exact .inl ⟨item, rest ▸ queued, due⟩
    · refine .inr ⟨listed, ?_⟩
      rw [clock]
      rcases earlier with advanced | ⟨question, ⟨asks, due⟩, _, next⟩
      · exact absurd rank advanced.ne
      · have first := due.le pops
        have before := CoordinatorPhase.stage_of_asks asks
        have stages : msg.messageType.stage + state.coordinator.phase.rank - 3 =
            question.messageType.stage + state.coordinator.phase.rank - 3 + 1 := by omega
        simp only [CoordinatorPhase.deadline, kept] at first ⊢
        rw [stages, Nat.succ_mul]
        omega
  · -- A new phase begins, and nothing of an earlier one belongs to it.
    have listed : msg ∈ outgoing := by
      rcases sent with ⟨asks, _⟩ | ⟨listed, _⟩
      · have before := CoordinatorPhase.stage_of_asks asks
        omega
      · exact listed
    refine .inr ⟨listed, ?_⟩
    have stages := Nat.mul_le_mul_right setup.latency
      (by omega : 1 ≤ msg.messageType.stage + middle.coordinator.phase.rank - 3)
    rw [clock]
    simp only [CoordinatorPhase.deadline, same]
    omega

/-! ## What is sent is new -/

/-- A question in the queue has not been answered. -/
structure Unanswered (view : State) (msg : Message) : Prop where
  vote : ∀ node, msg = .prepare node → view.vote node = none
  learned : ∀ node decision, msg = .decision node decision → view.learned node = none

/-- What an event sends is new, and the questions in the queue are still to be answered. -/
structure Fresh (state middle : Simulator ρ) (outgoing rest : List Message) : Prop where
  nodup : outgoing.Nodup
  unsent : ∀ msg ∈ outgoing, msg ∉ state.sentMessages
  unanswered : ∀ msg, msg ∈ outgoing ∨ msg ∈ rest → Unanswered middle.view msg

private theorem nodup_broadcast (setup : Setup) (type : MessageType) :
    (setup.nodes.map (Coordinator.messageTo type)).Nodup := by
  apply (nodes_nodup setup).map
  intro first second same
  exact ActorId.node.inj (congrArg Message.to same)

private theorem fresh_of_unhurried {rest : List Message}
    (unhurried : Coordinator.Unhurried state.coordinator state.clock middle.coordinator outgoing)
    (participants : middle.participants = state.participants) (staffed : Staffed setup state)
    (sound : Sound (setup.policy ρ) state.view)
    (silent : state.coordinator.phase = .waiting → state.sentMessages = [])
    (unanswered : ∀ msg ∈ rest, Unanswered state.view msg) :
    Fresh state middle outgoing rest := by
  have vote : middle.view.vote = state.view.vote := by simp only [view, participants]
  have learned : middle.view.learned = state.view.learned := by simp only [view, participants]
  have old : ∀ msg ∈ rest, Unanswered middle.view msg := by
    intro msg queued
    obtain ⟨noVote, noDecision⟩ := unanswered msg queued
    exact ⟨vote ▸ noVote, learned ▸ noDecision⟩
  cases unhurried with
  | waits _ =>
      refine ⟨.nil, fun _ listed => absurd listed List.not_mem_nil, fun msg either => ?_⟩
      exact old msg (either.resolve_left List.not_mem_nil)
  | starts waiting _ =>
      have nothing : ∀ msg, msg ∉ state.view.sent := by
        intro msg sent
        have listed : msg ∈ state.sentMessages := sent
        rw [silent waiting] at listed
        cases listed
      rw [staffed.nodes]
      refine ⟨nodup_broadcast setup _, fun msg _ => nothing msg, fun msg either => ?_⟩
      refine either.elim (fun listed => ?_) (old msg)
      obtain ⟨node, member, rfl⟩ := List.mem_map.mp listed
      constructor
      · intro other same
        cases same
        rw [vote, Option.eq_none_iff_forall_ne_some]
        intro cast voted
        exact nothing _ ((sound.vote_sent node cast).mpr voted)
      · intro other decision same
        have type := congrArg Message.messageType same
        cases decision <;> cases type
  | @decides decision _ undecided _ _ =>
      have unknown : state.view.decision = none := staffed.valid.durable.trans undecided
      rw [staffed.nodes]
      refine ⟨nodup_broadcast setup _, fun msg listed sent => ?_, fun msg either => ?_⟩
      · obtain ⟨node, member, rfl⟩ := List.mem_map.mp listed
        have announced := ((sound.decision_sent node decision).mp sent).2
        cases unknown.symm.trans announced
      · refine either.elim (fun listed => ?_) (old msg)
        obtain ⟨node, member, rfl⟩ := List.mem_map.mp listed
        constructor
        · intro other same
          have type := congrArg Message.messageType same
          cases decision <;> cases type
        · intro other learnt same
          cases congrArg Message.to same
          rw [learned, Option.eq_none_iff_forall_ne_some]
          intro known told
          cases unknown.symm.trans (sound.learned node known told)

/-- An answer is no question. -/
private theorem unanswered_of_answer {node : NodeId} {msg : Message}
    (answer : Message.Answer node msg) (view : State) : Unanswered view msg := by
  constructor
  · intro other same
    cases answer <;> cases congrArg Message.to same
  · intro other decision same
    cases answer <;> cases congrArg Message.to same

/-- A participant that answers a question answers no other one. -/
private theorem Unanswered.withParticipant {view : State} {node : NodeId} {msg other : Message}
    {after : Participant ρ} (unanswered : Unanswered view other)
    (sound : Sound (setup.policy ρ) view) (sent : msg ∈ view.sent) (queued : other ∈ view.sent)
    (different : other ≠ msg) (id : after.id = node)
    (vote : after.durableState.vote = view.vote node ∨ msg = .prepare node)
    (learned : after.durableState.decision = view.learned node ∨
      ∃ decision, msg = .decision node decision) :
    Unanswered (view.withParticipant after) other := by
  subst id
  constructor
  · intro node same
    by_cases self : node = after.id
    · subst self
      rcases vote with kept | rfl
      · simpa [State.withParticipant, kept] using unanswered.vote _ same
      · exact absurd same different
    · simpa [State.withParticipant, self] using unanswered.vote _ same
  · intro node decision same
    by_cases self : node = after.id
    · subst self
      rcases learned with kept | ⟨told, rfl⟩
      · simpa [State.withParticipant, kept] using unanswered.learned _ _ same
      · subst same
        have first := ((sound.decision_sent _ _).mp sent).2
        have second := ((sound.decision_sent _ _).mp queued).2
        cases first.symm.trans second
        exact absurd rfl different
    · simpa [State.withParticipant, self] using unanswered.learned _ _ same

/-- A question is delivered to a participant that has not answered it, and only once. -/
private theorem fresh_of_received {node : NodeId} {msg : Message} {participant : Participant ρ}
    {rest : List Message} (found : state.participants[node]? = some participant)
    (staffed : Staffed setup state) (sound : Sound (setup.policy ρ) state.view)
    (genuine : Genuine state (.internal (.deliver (.node node) msg)))
    (asked : Unanswered state.view msg)
    (unanswered : ∀ other ∈ rest, Unanswered state.view other ∧ other ∈ state.sentMessages ∧
      other ≠ msg) :
    Fresh state { state with participants :=
        state.participants.insert node (participant.onMessage msg state.clock).1 }
      (participant.onMessage msg state.clock).2 rest := by
  have member := staffed.participant found
  have vote : state.view.vote node = participant.durableState.vote := by simp [view, found]
  have learned : state.view.learned node = participant.durableState.decision := by
    simp [view, found]
  have question := sound_question sound genuine.2 genuine.1.symm
  have formed := sound.wellFormed msg genuine.2
  have received := participant.onMessage_received msg state.clock
  generalize (participant.onMessage msg state.clock).1 = after at received ⊢
  generalize (participant.onMessage msg state.clock).2 = outgoing at received ⊢
  have id : after.id = node :=
    (received.descends ⟨rfl, rfl, fun _ => rfl⟩).id.trans member.id
  have rests : (after.durableState.vote = state.view.vote node ∨ msg = .prepare node) →
      (after.durableState.decision = state.view.learned node ∨
        ∃ decision, msg = .decision node decision) →
      ∀ other ∈ rest, Unanswered (state.view.withParticipant after) other := by
    intro vote learned other queued
    obtain ⟨unanswered, sent, different⟩ := unanswered other queued
    exact unanswered.withParticipant sound genuine.2 sent different id vote learned
  have view : Simulator.view { state with participants := state.participants.insert node after } =
      state.view.withParticipant after := view_insert id
  have answers : ∀ reply, Message.Answer participant.id reply →
      ∀ other ∈ [reply], Unanswered (state.view.withParticipant after) other := by
    intro reply answer other listed
    obtain rfl := List.mem_singleton.mp listed
    exact unanswered_of_answer answer _
  cases received with
  | casts _ type =>
      obtain ⟨other, _, rfl⟩ := formed.eq_prepare type
      cases question
      refine ⟨List.nodup_singleton _, fun reply listed sent => ?_, fun other either => ?_⟩
      · obtain rfl := List.mem_singleton.mp listed
        rw [member.id] at sent
        have cast := (sound.vote_sent node participant.coin).mp sent
        cases (asked.vote node rfl).symm.trans cast
      · rw [view]
        exact either.elim (answers _ .vote other) (rests (.inr rfl) (.inl learned.symm) other)
  | recasts phase type =>
      obtain ⟨other, _, rfl⟩ := formed.eq_prepare type
      cases question
      have unasked := vote.symm.trans (asked.vote node rfl)
      rw [member.valid.vote, Participant.vote, phase] at unasked
      cases unasked
  | @learns decision _ type =>
      obtain ⟨other, _, rfl⟩ := formed.eq_decision type
      cases question
      refine ⟨List.nodup_singleton _, fun reply listed sent => ?_, fun other either => ?_⟩
      · obtain rfl := List.mem_singleton.mp listed
        rw [member.id] at sent
        exact (sound.ack_sent node).mp sent (asked.learned node decision rfl)
      · rw [view]
        exact either.elim (answers _ .ack other) (rests (.inl vote.symm) (.inr ⟨_, rfl⟩) other)
  | @acknowledges decision known type =>
      obtain ⟨other, _, rfl⟩ := formed.eq_decision type
      cases question
      rw [← member.valid.decision, ← learned] at known
      exact absurd (asked.learned node decision rfl) known
  | ignores _ _ =>
      refine ⟨.nil, fun _ listed => absurd listed List.not_mem_nil, fun other either => ?_⟩
      rw [view]
      exact rests (.inl vote.symm) (.inl learned.symm) other
        (either.resolve_left List.not_mem_nil)

/-! ## Runs -/

/-- What holds throughout a run without crashes when no question is repeated. -/
structure Economical (setup : Setup) (state : Simulator ρ) : Prop extends
    Prompt setup state where
  round : state.coordinator.Awaited
    (DueBy (state.coordinator.phase.deadline setup.latency) state)
  sent : state.sentMessages.Nodup
  queue : state.eventQueue.messages.Nodup
  unanswered : ∀ msg, state.InFlight msg → Unanswered state.view msg
  silent : state.coordinator.phase = .waiting → state.sentMessages = []
  prepared : state.coordinator.phase ≠ .waiting →
    ∀ node ∈ setup.nodes, .prepare node ∈ state.sentMessages

/-- A round trip is over before the timeout. -/
private theorem Economical.early (economical : Economical setup state)
    (participants : 1 ≤ setup.nParticipants) (patient : 2 * setup.latency < setup.retransmitTimeout)
    {popped : TimestampedEvent} {queue : EventQueue}
    (pops : state.eventQueue.Pops popped queue) : state.coordinator.Early popped.timestamp := by
  intro last same
  have timeout : state.coordinator.config.retransmitTimeout = setup.retransmitTimeout :=
    economical.coordinator.retransmitTimeout
  have busy : state.coordinator.isQuiescent = false := by
    unfold Coordinator.isQuiescent
    cases phase : state.coordinator.phase with
    | voting _ _ | decided _ | awaitingAcks _ _ _ => rfl
    | waiting | done _ =>
        rw [phase] at same
        cases same
  obtain ⟨msg, due, asked⟩ :=
    economical.toUndisturbed.exists_asked participants economical.round busy
  have first := due.le pops
  have stages := Nat.mul_le_mul_right setup.latency (by
    have bounds := CoordinatorPhase.stage_of_asks asked
    omega : msg.messageType.stage + state.coordinator.phase.rank - 3 ≤ 2)
  simp only [CoordinatorPhase.deadline, same] at first
  omega

private theorem Economical.fresh (economical : Economical setup state)
    (participants : 1 ≤ setup.nParticipants) (patient : 2 * setup.latency < setup.retransmitTimeout)
    {popped : TimestampedEvent} {queue : EventQueue} {delivered : Observations}
    (pops : state.eventQueue.Pops popped queue)
    (dispatched : Dispatched (state.taken popped queue delivered) popped.event middle outgoing) :
    Fresh (state.taken popped queue delivered) middle outgoing queue.messages := by
  obtain ⟨staffed, sound, genuine⟩ := economical.toConsistent.taken pops delivered
  have queued : ∀ msg ∈ queue.messages, state.InFlight msg := by
    intro msg member
    exact mem_messages.mp (pops.messages.mem_iff.mpr (List.mem_append_right _ member))
  rcases dispatched.unhurried economical.nobodyCrashes.operating
    (economical.early participants patient pops) economical.awaited.announced with
    ⟨unhurried, same⟩ | ⟨node, msg, participant, kind, found, rfl, rfl⟩
  · apply fresh_of_unhurried unhurried same staffed sound
    · intro waiting
      rw [sentMessages_taken]
      exact economical.silent waiting
    · intro msg member
      rw [view_taken]
      exact economical.unanswered msg (queued msg member)
  · rw [kind] at genuine
    have inFlight : state.InFlight msg := ⟨popped, pops.mem, _, kind⟩
    have nodup := pops.messages.nodup_iff.mp economical.queue
    rw [kind] at nodup
    apply fresh_of_received found staffed sound genuine
    · rw [view_taken]
      exact economical.unanswered msg inFlight
    · intro other member
      rw [view_taken, sentMessages_taken]
      refine ⟨economical.unanswered other (queued other member),
        economical.toConsistent.sent_of_inFlight (queued other member), ?_⟩
      intro same
      subst same
      exact (List.nodup_cons.mp nodup).1 member

/-- The first messages are those of the first phase. -/
private theorem Dispatched.prepares (dispatched : Dispatched state event middle outgoing)
    (staffed : Staffed setup state) (genuine : Genuine state event)
    (operating : ∀ actor, state.isOperating actor = true)
    (early : state.coordinator.Early state.clock)
    (announced : ∀ decision, state.coordinator.phase ≠ .decided decision)
    (silent : state.coordinator.phase = .waiting → state.sentMessages = [])
    (prepared : state.coordinator.phase ≠ .waiting →
      ∀ node ∈ setup.nodes, .prepare node ∈ state.sentMessages) :
    (middle.coordinator.phase = .waiting → state.sentMessages ++ outgoing = []) ∧
      (middle.coordinator.phase ≠ .waiting →
        ∀ node ∈ setup.nodes, .prepare node ∈ state.sentMessages ++ outgoing) := by
  have kept : ∀ {phase : CoordinatorPhase}, phase = state.coordinator.phase →
      phase ≠ .waiting → ∀ node ∈ setup.nodes, .prepare node ∈ state.sentMessages ++ outgoing :=
    fun same begun node member => List.mem_append_left _ (prepared (same ▸ begun) node member)
  rcases dispatched.unhurried operating early announced with
    ⟨unhurried, _⟩ | ⟨node, msg, participant, rfl, found, rfl, rfl⟩
  · cases unhurried with
    | waits quiet =>
        rw [List.append_nil]
        refine ⟨fun waiting => silent (quiet.waiting waiting), fun begun node member => ?_⟩
        exact prepared (fun waiting => begun (quiet.stays waiting)) node member
    | starts waiting voting =>
        constructor
        · intro again
          cases voting.symm.trans again
        · intro _ node member
          apply List.mem_append_right
          rw [staffed.nodes]
          exact List.mem_map_of_mem member
    | decides begun _ decided _ =>
        constructor
        · intro waiting
          rw [Coordinator.decision, waiting] at decided
          cases decided
        · exact fun _ node member => List.mem_append_left _ (prepared begun node member)
  · refine ⟨fun waiting => ?_, kept rfl⟩
    have sent := genuine.2
    rw [silent waiting] at sent
    cases sent

theorem Stepped.economical (stepped : Stepped state after) (economical : Economical setup state)
    (participants : 1 ≤ setup.nParticipants) (patient : 2 * setup.latency < setup.retransmitTimeout)
    [BoundedChaCha8Rng ρ] (prompt : Prompt setup after) : Economical setup after := by
  cases stepped with
  | drops _ _ down => cases (economical.nobodyCrashes.operating _).symm.trans down
  | @handles popped queue delivered observations middle outgoing pops _ dispatched =>
      obtain ⟨staffed, sound, genuine⟩ := economical.toConsistent.taken pops delivered
      have early := economical.early participants patient pops
      have fresh := economical.fresh participants patient pops dispatched
      have delay : middle.deliveryDelay = setup.deliveryDelay :=
        dispatched.deliveryDelay.trans economical.deliveryDelay
      have rest : middle.eventQueue = queue := dispatched.eventQueue
      have before := dispatched.sentMessages.trans (sentMessages_taken state popped queue delivered)
      have messages : ({ middle with observations := observations }.sendAll
          outgoing).eventQueue.messages = outgoing.reverse ++ queue.messages :=
        (sendAll_messages _ _).trans (congrArg (_ ++ EventQueue.messages ·) rest)
      have sent : ({ middle with observations := observations }.sendAll outgoing).sentMessages =
          state.sentMessages ++ outgoing :=
        (sendAll_sentMessages _ _).trans (congrArg (· ++ outgoing) before)
      have queued : ∀ msg ∈ queue.messages, msg ∈ state.sentMessages := by
        intro msg member
        apply economical.toConsistent.sent_of_inFlight
        exact mem_messages.mp (pops.messages.mem_iff.mpr (List.mem_append_right _ member))
      have operating := economical.nobodyCrashes.operating
      obtain ⟨silent, prepared⟩ := dispatched.prepares staffed genuine operating
        early economical.awaited.announced
        (fun waiting => by rw [sentMessages_taken]; exact economical.silent waiting)
        (fun begun => by rw [sentMessages_taken]; exact economical.prepared begun)
      have unsent : ∀ msg ∈ outgoing, msg ∉ state.sentMessages := by
        intro msg listed
        rw [← sentMessages_taken state popped queue delivered]
        exact fresh.unsent msg listed
      rw [sentMessages_taken] at silent prepared
      refine {
        toPrompt := prompt
        round := ?_
        sent := ?_
        queue := ?_
        unanswered := fun msg inFlight => ?_
        silent := fun waiting => ?_
        prepared := fun begun => ?_ }
      · rw [sendAll_coordinator]
        have due := dispatched.keeps_round economical.toUndisturbed pops early economical.round
        exact due.mono fun msg due => DueOnceSent.sendAll due delay
      · rw [sent]
        refine List.nodup_append.mpr ⟨economical.sent, fresh.nodup, fun old known new listed => ?_⟩
        intro same
        subst same
        exact unsent old listed known
      · rw [messages]
        refine List.nodup_append.mpr ⟨List.nodup_reverse.mpr fresh.nodup, ?_, ?_⟩
        · exact (List.nodup_append.mp (pops.messages.nodup_iff.mp economical.queue)).2.1
        · intro new listed old member same
          subst same
          exact unsent new (List.mem_reverse.mp listed) (queued new member)
      · have member := mem_messages.mpr inFlight
        rw [messages, List.mem_append, List.mem_reverse] at member
        have unanswered := fresh.unanswered msg member
        have same : ({ middle with observations := observations }.sendAll outgoing).view =
            middle.view.send outgoing := view_sendAll _ _
        rw [same]
        exact ⟨unanswered.vote, unanswered.learned⟩
      · rw [sendAll_coordinator] at waiting
        rw [sent]
        exact silent waiting
      · rw [sendAll_coordinator] at begun
        rw [sent]
        exact prepared begun

omit [ChaCha8Rng ρ] in
theorem enqueueExternal_messages (self : Simulator ρ) (event : ExternalEvent) (atTime : Nat) :
    (self.enqueueExternal event atTime).eventQueue.messages = self.eventQueue.messages := by
  rw [enqueueExternal, EventQueue.messages, EventQueue.pending_insert]
  rfl

theorem economical_invariant [BoundedChaCha8Rng ρ] (participants : 1 ≤ setup.nParticipants)
    (patient : 2 * setup.latency < setup.retransmitTimeout) :
    (system setup (crashFree (ρ := ρ))).Invariant (Economical setup) where
  initial := by
    intro state same
    have prompt := (prompt_invariant participants).initial same
    subst same
    have empty : (setup.simulator (ρ := ρ)).eventQueue.messages = [] := rfl
    refine {
      toPrompt := prompt
      round := ⟨fun _ => nofun, fun _ _ => nofun⟩
      sent := .nil
      queue := ?_
      unanswered := fun msg inFlight => ?_
      silent := fun _ => rfl
      prepared := fun begun => absurd rfl begun }
    · rw [empty]
      exact .nil
    · rw [← mem_messages, empty] at inFlight
      cases inFlight
  next {state after} economical next := by
    have prompt := (prompt_invariant participants).next economical.toPrompt next
    have enqueued : ∀ (clock : Nat) (event : ExternalEvent) (atTime : Nat),
        Prompt setup ({ state with clock := clock }.enqueueExternal event atTime) →
          Economical setup ({ state with clock := clock }.enqueueExternal event atTime) := by
      intro clock event atTime prompt
      have messages : ({ state with clock := clock }.enqueueExternal
          event atTime).eventQueue.messages = state.eventQueue.messages :=
        enqueueExternal_messages _ event atTime
      refine {
        toPrompt := prompt
        round := economical.round.mono fun msg due => ?_
        sent := economical.sent
        queue := messages ▸ economical.queue
        unanswered := fun msg inFlight => ?_
        silent := economical.silent
        prepared := economical.prepared }
      · obtain ⟨item, queued, due⟩ := due
        exact ⟨item, List.mem_cons_of_mem _ queued, due⟩
      · rw [← mem_messages, messages] at inFlight
        exact economical.unanswered msg (mem_messages.mp inFlight)
    cases next with
    | step success =>
        obtain ⟨_, _, rfl⟩ | ⟨_, stepped⟩ := step_stepped success
        · exact economical
        · exact stepped.economical economical participants patient prompt
    | enqueueExternal _ => exact enqueued _ _ _ prompt
    | injectProbe _ => exact enqueued _ _ _ prompt

end Simulator

end TwoPhaseCommit
