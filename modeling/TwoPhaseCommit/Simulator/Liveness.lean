import TwoPhaseCommit.Simulator.Termination
import Mathlib.Data.List.Nodup

/-! While no actor crashes, the coordinator never waits in vain: for every node
whose answer is missing, a message of the exchange is in the event queue. So when
the queue is empty, a transaction that was started is complete. -/

set_option autoImplicit false

namespace TwoPhaseCommit

open Protocol

/-- How many delays after the start of its transaction a message is due. -/
def MessageType.stage : MessageType → Nat
  | .startTransaction => 0
  | .prepare => 1
  | .voteCommit | .voteAbort => 2
  | .decisionCommit | .decisionAbort => 3
  | .ack => 4

theorem Vote.messageType_stage (vote : Vote) : vote.messageType.stage = 2 := by
  cases vote <;> rfl

theorem Decision.messageType_stage (decision : Decision) : decision.messageType.stage = 3 := by
  cases decision <;> rfl

theorem Participant.Received.stage {ρ : Type} [ChaCha8Rng ρ] {self after : Participant ρ}
    {msg : Message} {outgoing : List Message} (received : Received self msg after outgoing) :
    ∀ reply ∈ outgoing, reply.messageType.stage = msg.messageType.stage + 1 := by
  intro reply listed
  cases received with
  | casts _ type | recasts _ type =>
      obtain rfl := List.mem_singleton.mp listed
      rw [type]
      exact Vote.messageType_stage _
  | learns _ type | acknowledges _ type =>
      obtain rfl := List.mem_singleton.mp listed
      rw [type, Decision.messageType_stage]
      rfl
  | ignores _ _ => cases listed

/-! ## The phase after the start -/

namespace Coordinator

variable {ρ : Type} [ChaCha8Rng ρ] {self : Coordinator ρ}

theorem tick_ne_waiting (begun : self.phase ≠ .waiting) (atTime : Nat) :
    (self.tick atTime).1.phase ≠ .waiting := by
  rw [ne_waiting_iff] at *
  rcases (self.tick_ticked atTime).progress with ⟨keeps, _⟩ | advanced
  · rw [keeps.rank]
    exact begun
  · exact Nat.lt_trans advanced begun

theorem onMessage_ne_waiting (begun : self.phase ≠ .waiting) (msg : Message) (atTime : Nat) :
    (self.onMessage msg atTime).1.phase ≠ .waiting := by
  have ticked := tick_ne_waiting begun atTime
  rw [ne_waiting_iff] at ticked ⊢
  exact Nat.lt_of_le_of_lt ((self.tick atTime).1.receive_received msg atTime).rank_le ticked

theorem onMessage_start_ne_waiting {msg : Message} (type : msg.messageType = .startTransaction)
    (self : Coordinator ρ) (atTime : Nat) : (self.onMessage msg atTime).1.phase ≠ .waiting := by
  have received := (self.tick atTime).1.receive_received msg atTime
  by_cases waiting : (self.tick atTime).1.phase = .waiting
  · change ((self.tick atTime).1.receive msg atTime).1.phase ≠ .waiting
    simp [receive, type, waiting]
  · rw [← ne_eq, ne_waiting_iff] at waiting
    rw [ne_waiting_iff]
    exact Nat.lt_of_le_of_lt received.rank_le waiting

omit [ChaCha8Rng ρ] in
theorem recover_ne_waiting (self : Coordinator ρ) (atTime : Nat) :
    (self.recover atTime).phase ≠ .waiting := by
  unfold recover
  split <;> nofun

end Coordinator

namespace Simulator

variable {ρ : Type} [ChaCha8Rng ρ] {setup : Setup} {environment : Environment ρ}
  {state middle after : Simulator ρ} {event : Event} {outgoing : List Message}

/-- A StartTransaction has been processed. -/
def Started (state : Simulator ρ) : Prop :=
  ∃ atTime, .externalEvent atTime .startTransaction ∈ state.actionLog

/-- A StartTransaction has been processed or is queued. -/
def Requested (state : Simulator ρ) : Prop :=
  state.Started ∨ ∃ item ∈ state.eventQueue.pending, item.event = .external .startTransaction

/-- A StartTransaction that has been processed has taken the coordinator out of `waiting`. -/
def Begun (state : Simulator ρ) : Prop :=
  state.Started → state.coordinator.phase ≠ .waiting

private theorem Dispatched.ne_waiting (dispatched : Dispatched state event middle outgoing)
    (begun : event = .external .startTransaction ∨ state.coordinator.phase ≠ .waiting) :
    middle.coordinator.phase ≠ .waiting := by
  cases dispatched with
  | @coordinatorReceives _ msg receives =>
      rcases begun with rfl | begun
      · cases receives
        exact Coordinator.onMessage_start_ne_waiting rfl _ _
      · exact Coordinator.onMessage_ne_waiting begun _ _
  | coordinatorTicks kind _ =>
      rcases begun with same | begun
      · rcases kind with rfl | rfl <;> cases same
      · exact Coordinator.tick_ne_waiting begun _
  | coordinatorRecovers _ => exact Coordinator.recover_ne_waiting _ _
  | rests kind _ =>
      rcases begun with same | begun
      · rcases kind with rfl | rfl <;> cases same
      · exact begun
  | nodeTicks | crashes | participantReceives _ | nobodyReceives _ | participantRecovers _ _
  | staysUp _ => exact begun.resolve_left nofun

/-- Processing a StartTransaction leaves `waiting`, and so does everything after it. -/
theorem Stepped.begun (stepped : Stepped state after) (begun : Begun state) : Begun after := by
  cases stepped with
  | drops _ _ _ =>
      intro started
      obtain ⟨atTime, listed⟩ := started
      simp only [List.mem_append, List.mem_singleton, reduceCtorEq, or_false] at listed
      exact begun ⟨atTime, listed⟩
  | @handles popped queue delivered observations middle outgoing pops _ dispatched =>
      intro started
      obtain ⟨atTime, listed⟩ := started
      rw [externalEvent_mem_sendAll,
        show middle.actionLog = state.actionLog ++ _ from dispatched.actionLog, List.mem_append,
        List.mem_singleton, eq_logEntry_iff] at listed
      rw [sendAll_coordinator]
      apply dispatched.ne_waiting
      rcases listed with earlier | ⟨_, start⟩
      · exact .inr (begun ⟨atTime, earlier⟩)
      · exact .inl start

omit [ChaCha8Rng ρ] in
theorem Advances.started {popped : TimestampedEvent} (advances : Advances state popped after)
    (started : Started state) : Started after := by
  obtain ⟨atTime, listed⟩ := started
  exact ⟨atTime, (advances.logged _ _).mpr (.inl listed)⟩

omit [ChaCha8Rng ρ] in
theorem Advances.requested {popped : TimestampedEvent} (advances : Advances state popped after)
    (requested : Requested state) : Requested after := by
  rcases requested with started | ⟨item, queued, start⟩
  · exact .inl (advances.started started)
  · rcases advances.remains item queued with rfl | remains
    · exact .inl ⟨item.timestamp, (advances.logged _ _).mpr (.inr ⟨rfl, start⟩)⟩
    · exact .inr ⟨item, remains, start⟩

omit [ChaCha8Rng ρ] in
theorem Requested.started (requested : Requested state)
    (drained : state.eventQueue.pending = []) : state.Started := by
  rcases requested with started | ⟨item, queued, _⟩
  · exact started
  · rw [drained] at queued
    cases queued

/-! ## Nothing is lost while no actor crashes -/

/-- No actor is crashed and no crash is queued. -/
structure NobodyCrashes (state : Simulator ρ) : Prop where
  operating : ∀ actor, state.isOperating actor = true
  events : ∀ item ∈ state.eventQueue.pending, ∀ actor, item.event ≠ .external (.crash actor)

omit [ChaCha8Rng ρ] in
theorem Advances.nobodyCrashes {popped : TimestampedEvent} (advances : Advances state popped after)
    (nobodyCrashes : NobodyCrashes state) : NobodyCrashes after where
  operating actor := by
    rw [← Bool.not_eq_false, advances.isOperating, nobodyCrashes.operating]
    intro down
    rcases down with crash | ⟨down, _⟩
    · exact nobodyCrashes.events popped advances.mem actor crash
    · cases down
  events item queued actor crash := by
    rcases advances.queued item queued with earlier | ⟨msg, delivery, _⟩
    · exact nobodyCrashes.events item earlier actor crash
    · cases delivery.symm.trans crash

omit [ChaCha8Rng ρ] in
theorem inFlight_or_of_pops {popped : TimestampedEvent} {queue : EventQueue} {msg : Message}
    (pops : state.eventQueue.Pops popped queue) (inFlight : state.InFlight msg) :
    (∃ recipient, popped.event = .internal (.deliver recipient msg)) ∨
      InFlight { state with eventQueue := queue } msg := by
  obtain ⟨item, queued, recipient, delivery⟩ := inFlight
  rcases pops.eq_or_mem queued with rfl | remains
  · exact .inl ⟨recipient, delivery⟩
  · exact .inr ⟨item, remains, recipient, delivery⟩

theorem inFlight_sendAll {self : Simulator ρ} {msg : Message}
    (inFlight : msg ∈ outgoing ∨ self.InFlight msg) : (self.sendAll outgoing).InFlight msg := by
  rcases inFlight with sent | ⟨item, queued, recipient, delivery⟩
  · obtain ⟨scheduled, pending, events, _⟩ := self.sendAll_pending outgoing
    have listed : msg.delivery ∈ scheduled.map (·.event) := by
      rw [events, List.mem_reverse]
      exact List.mem_map_of_mem sent
    obtain ⟨item, news, delivery⟩ := List.mem_map.mp listed
    exact ⟨item, pending ▸ List.mem_append_left _ news, msg.to, delivery⟩
  · exact ⟨item, pending_subset_sendAll _ _ queued, recipient, delivery⟩

/-- A participant that is asked answers, unless it has learned a decision and is
asked for its vote. -/
private theorem answered {node : NodeId} {participant : Participant ρ} {msg : Message}
    (staffed : Staffed setup state) (sound : Sound (setup.policy ρ) state.view)
    (found : state.participants[node]? = some participant) (sent : msg ∈ state.view.sent)
    (recipient : msg.to = .node node)
    (asked : state.coordinator.phase.asks msg.messageType = true) :
    ∃ reply ∈ (participant.onMessage msg state.clock).2,
      state.coordinator.phase.asks reply.messageType = true ∧ reply.node? = some node := by
  have member := staffed.participant found
  rcases (participant.onMessage_received msg state.clock).reply with
    ⟨_, unasked, uninformed⟩ | ⟨reply, only, answer, alike⟩
  · exfalso
    have formed := sound.wellFormed msg sent
    cases formed with
    | vote _ | ack _ => cases recipient
    | decision _ => exact uninformed _ rfl
    | prepare _ =>
        obtain ⟨decision, learned⟩ := Option.ne_none_iff_exists'.mp (unasked rfl)
        have durable : state.view.decision = some decision := by
          apply sound.learned node
          simp [view, found, member.valid.decision, learned]
        cases phase : state.coordinator.phase with
        | voting last votes => cases (staffed.valid.undecided phase).symm.trans durable
        | waiting | decided _ | awaitingAcks _ _ _ | done _ =>
            rw [phase] at asked
            cases asked
  · rw [member.id] at answer
    exact ⟨reply, by rw [only]; exact List.mem_singleton_self _, (alike _).trans asked,
      answer.node?_eq⟩

/-- An event that reaches operating actors leaves nobody unasked: what else is under
way still is, or the phase changes, or the message that arrives is answered. -/
theorem Dispatched.exchange {inFlight later : Message → Prop}
    (dispatched : Dispatched state event middle outgoing) (staffed : Staffed setup state)
    (sound : Sound (setup.policy ρ) state.view) (genuine : Genuine state event)
    (operating : ∀ actor, state.isOperating actor = true)
    (awaited : state.coordinator.Awaited inFlight)
    (remains : ∀ msg, inFlight msg →
      (∃ recipient, event = .internal (.deliver recipient msg)) ∨ later msg) :
    middle.coordinator.Awaited fun msg => later msg ∨ msg ∈ outgoing ∧
      (middle.coordinator.phase.rank < state.coordinator.phase.rank ∨
        ∃ asked, inFlight asked ∧ (∃ recipient, event = .internal (.deliver recipient asked)) ∧
          msg.messageType.stage = asked.messageType.stage + 1) := by
  have external : ∀ {external : ExternalEvent}, event = .external external →
      ∀ msg, inFlight msg → later msg := by
    intro external kind msg sent
    rcases remains msg sent with ⟨recipient, delivery⟩ | remaining
    · cases kind.symm.trans delivery
    · exact remaining
  cases dispatched with
  | @coordinatorReceives _ received receives =>
      refine (Coordinator.onMessage_exchange received later state.clock awaited ?_ ?_).mono
        fun msg sent => ?_
      · intro node exchanged
        rcases coordinatorMessage?_cases receives with ⟨rfl, rfl⟩ | rfl
        · cases exchanged
        · obtain ⟨other, _, answer⟩ := sound_answer sound genuine.2 genuine.1.symm
          cases answer.node?_eq.symm.trans exchanged
          exact answer
      · intro msg sent
        refine (remains msg sent).imp_left ?_
        intro delivery
        obtain ⟨recipient, rfl⟩ := delivery
        cases recipient <;> cases receives
        rfl
      · rcases sent with ⟨advanced, listed⟩ | remaining
        · exact .inr ⟨listed, .inl advanced⟩
        · exact .inl remaining
  | coordinatorTicks _ _ =>
      refine ((state.coordinator.tick_ticked state.clock).exchange awaited).mono fun msg sent => ?_
      rcases sent with ⟨advanced, listed⟩ | sent
      · exact .inr ⟨listed, .inl advanced⟩
      · exact .inl (external rfl msg sent)
  | @participantReceives node delivered participant found =>
      refine ⟨awaited.announced, fun other member missing => ?_⟩
      obtain ⟨msg, sent, asked, exchanged⟩ := awaited.exchange other member missing
      rcases remains msg sent with ⟨recipient, delivery⟩ | remaining
      · cases delivery
        obtain ⟨reply, replied, asked, exchangedBack⟩ :=
          answered staffed sound found genuine.2 genuine.1.symm asked
        have same := (sound_question sound genuine.2 genuine.1.symm).symm.trans exchanged
        cases same
        have next := (participant.onMessage_received delivered state.clock).stage reply replied
        exact ⟨reply, .inr ⟨replied, .inr ⟨delivered, sent, ⟨_, rfl⟩, next⟩⟩, asked, exchangedBack⟩
      · exact ⟨msg, .inl remaining, asked, exchanged⟩
  | @nobodyReceives node delivered missing =>
      have formed := sound.wellFormed delivered genuine.2
      have managed : node ∈ setup.nodes := by
        cases formed <;> cases genuine.1 <;> assumption
      obtain ⟨participant, found⟩ := Library.OrderedMap.mem_iff_exists.mp
        ((staffed.managed node).mpr managed)
      cases found.symm.trans missing
  | coordinatorRecovers down => cases (operating _).symm.trans down
  | participantRecovers _ _ | staysUp _ | crashes | nodeTicks | rests _ _ =>
      exact awaited.mono fun msg sent => .inl (external rfl msg sent)

theorem Dispatched.awaited {inFlight : Message → Prop}
    (dispatched : Dispatched state event middle outgoing) (staffed : Staffed setup state)
    (sound : Sound (setup.policy ρ) state.view) (genuine : Genuine state event)
    (operating : ∀ actor, state.isOperating actor = true)
    (awaited : state.coordinator.Awaited inFlight)
    (remains : ∀ msg, inFlight msg →
      (∃ recipient, event = .internal (.deliver recipient msg)) ∨ state.InFlight msg) :
    middle.coordinator.Awaited fun msg => msg ∈ outgoing ∨ state.InFlight msg :=
  (dispatched.exchange staffed sound genuine operating awaited remains).mono fun _ sent =>
    sent.symm.imp_left And.left

theorem Stepped.awaited (stepped : Stepped state after) (consistent : Consistent setup state)
    (operating : ∀ actor, state.isOperating actor = true)
    (awaited : state.coordinator.Awaited state.InFlight) :
    after.coordinator.Awaited after.InFlight := by
  cases stepped with
  | drops _ _ down => cases (operating _).symm.trans down
  | @handles popped queue delivered observations middle outgoing pops _ dispatched =>
      obtain ⟨staffed, sound, genuine⟩ := consistent.taken pops delivered
      have spread := dispatched.awaited staffed sound genuine operating awaited
        fun msg => inFlight_or_of_pops pops
      rw [sendAll_coordinator]
      refine spread.mono fun msg sent => inFlight_sendAll (sent.imp_right ?_)
      intro inFlight
      obtain ⟨item, queued, recipient, delivery⟩ := inFlight
      exact ⟨item, dispatched.eventQueue ▸ queued, recipient, delivery⟩

/-! ## Completion -/

/-- The coordinator is done and every participant has its decision. -/
def Completed (state : Simulator ρ) : Prop :=
  ∃ decision, state.coordinator.phase = .done decision ∧
    ∀ {node : NodeId} {participant : Participant ρ},
      state.participants[node]? = some participant → participant.decision = some decision

theorem nodes_nodup (setup : Setup) : setup.nodes.Nodup := by
  apply List.Nodup.map_on _ List.nodup_range
  intro left leftMember right rightMember same
  have bound : setup.nParticipants.toNat < UInt8.size := setup.nParticipants.toNat_lt
  rw [List.mem_range] at leftMember rightMember
  have equal := congrArg UInt8.toNat (NodeId.mk.inj same)
  rwa [UInt8.toNat_ofNat_of_lt' (by omega), UInt8.toNat_ofNat_of_lt' (by omega)] at equal

/-- A coordinator that has finished has heard from everyone. -/
theorem Consistent.completed (consistent : Consistent setup state)
    (quiescent : state.coordinator.isQuiescent = true)
    (begun : state.coordinator.phase ≠ .waiting) : Completed state := by
  cases phase : state.coordinator.phase with
  | waiting => exact absurd phase begun
  | voting _ _ | decided _ | awaitingAcks _ _ _ =>
      rw [Coordinator.isQuiescent, phase] at quiescent
      cases quiescent
  | done decision =>
      refine ⟨decision, phase, fun {node participant} found => ?_⟩
      have acked : node ∈ state.view.acked := by
        simp only [view, Coordinator.acked, phase, consistent.nodes]
        exact consistent.mem_nodes found
      obtain ⟨learned, known⟩ := Option.ne_none_iff_exists'.mp (consistent.sound.acked node acked)
      rw [consistent.view_learned found] at known
      have decided := consistent.decision_of_participant found known
      rw [Coordinator.decision, phase] at decided
      exact known.trans decided.symm

/-- What holds throughout a run without crashes. -/
structure Undisturbed (setup : Setup) (state : Simulator ρ) : Prop extends
    Faithful setup state where
  nobodyCrashes : NobodyCrashes state
  awaited : state.coordinator.Awaited state.InFlight
  begun : Begun state

theorem Undisturbed.stepped (undisturbed : Undisturbed setup state)
    (stepped : Stepped state after) (faithful : Faithful setup after) :
    Undisturbed setup after := by
  obtain ⟨popped, advances⟩ := stepped.advances
  exact ⟨faithful, advances.nobodyCrashes undisturbed.nobodyCrashes,
    stepped.awaited undisturbed.toConsistent undisturbed.nobodyCrashes.operating
      undisturbed.awaited,
    stepped.begun undisturbed.begun⟩

theorem Undisturbed.quiescent (undisturbed : Undisturbed setup state)
    (participants : 1 ≤ setup.nParticipants) (drained : state.eventQueue.pending = []) :
    state.coordinator.isQuiescent = true := by
  have nothing : state.coordinator.Awaited fun _ => False := by
    refine undisturbed.awaited.mono fun msg inFlight => ?_
    obtain ⟨item, queued, _⟩ := inFlight
    rw [drained] at queued
    cases queued
  apply nothing.quiescent undisturbed.valid
  · rw [undisturbed.nodes]
    exact nodes_ne_nil participants
  · rw [undisturbed.nodes]
    exact nodes_nodup setup

theorem Undisturbed.completed (undisturbed : Undisturbed setup state)
    (participants : 1 ≤ setup.nParticipants) (drained : state.eventQueue.pending = [])
    (started : state.Started) : Completed state :=
  undisturbed.toConsistent.completed (undisturbed.quiescent participants drained)
    (undisturbed.begun started)

/-- Any external event but a crash. A recovery finds nobody to recover. -/
def crashFree : Environment ρ := fun _ event _ => ∀ actor, event ≠ .crash actor

private theorem newParticipants_operating {bias : ℚ} {nodes : List NodeId}
    {participants : Std.ExtTreeMap NodeId (Participant ρ)}
    {status : Std.ExtTreeMap ActorId ActorStatus} {rng : ρ}
    (operating : ∀ actor : ActorId, status[actor]? ≠ some ActorStatus.crashed) (actor : ActorId) :
    (newParticipants bias nodes participants status rng).2.1[actor]? ≠
      some ActorStatus.crashed := by
  induction nodes generalizing participants status rng with
  | nil => exact operating actor
  | cons node rest ih =>
      apply ih
      intro other
      rw [Library.OrderedMap.getElem?_insert]
      split
      · simp
      · exact operating other

theorem simulator_undisturbed : Undisturbed setup (setup.simulator (ρ := ρ)) where
  toFaithful := simulator_faithful
  nobodyCrashes := by
    refine ⟨fun actor => ?_, by simp [simulator_pending]⟩
    rw [← Bool.not_eq_false, isOperating_eq_false_iff]
    apply newParticipants_operating
    intro other
    rw [Library.OrderedMap.getElem?_insert]
    split <;> simp
  awaited := ⟨fun _ => nofun, fun _ _ => nofun⟩
  begun := nofun

omit [ChaCha8Rng ρ] in
theorem NobodyCrashes.enqueueExternal (nobodyCrashes : NobodyCrashes state)
    {event : ExternalEvent} {atTime : Nat} (noCrash : ∀ actor, event ≠ .crash actor) :
    NobodyCrashes (state.enqueueExternal event atTime) where
  operating := nobodyCrashes.operating
  events item queued actor crash := by
    rcases List.mem_cons.mp queued with rfl | earlier
    · exact noCrash actor (Event.external.inj crash)
    · exact nobodyCrashes.events item earlier actor crash

omit [ChaCha8Rng ρ] in
theorem InFlight.enqueueExternal {msg : Message} (inFlight : state.InFlight msg)
    (event : ExternalEvent) (atTime : Nat) : (state.enqueueExternal event atTime).InFlight msg := by
  obtain ⟨item, queued, delivery⟩ := inFlight
  exact ⟨item, List.mem_cons_of_mem _ queued, delivery⟩

omit [ChaCha8Rng ρ] in
theorem NobodyCrashes.injectProbe (nobodyCrashes : NobodyCrashes state) :
    NobodyCrashes state.injectProbe := by
  have advanced : NobodyCrashes { state with clock := state.clock + 1 } :=
    ⟨nobodyCrashes.operating, nobodyCrashes.events⟩
  exact advanced.enqueueExternal nofun

theorem undisturbed_invariant (setup : Setup) :
    (system setup (crashFree (ρ := ρ))).Invariant (Undisturbed setup) where
  initial := by
    intro state same
    subst same
    exact simulator_undisturbed
  next {state after} undisturbed next := by
    have faithful := undisturbed.toFaithful.next next
    cases next with
    | step success =>
        obtain ⟨_, _, rfl⟩ | ⟨_, stepped⟩ := step_stepped success
        · exact undisturbed
        · exact undisturbed.stepped stepped faithful
    | enqueueExternal noCrash =>
        exact ⟨faithful, undisturbed.nobodyCrashes.enqueueExternal noCrash,
          undisturbed.awaited.mono fun _ inFlight => inFlight.enqueueExternal _ _,
          undisturbed.begun⟩
    | injectProbe _ =>
        exact ⟨faithful, undisturbed.nobodyCrashes.injectProbe,
          undisturbed.awaited.mono fun _ inFlight => inFlight.enqueueExternal _ _,
          undisturbed.begun⟩

theorem Requested.next (requested : Requested state) (next : Next environment state after) :
    Requested after := by
  have more : ∀ event atTime, Requested (state.enqueueExternal event atTime) := fun _ _ =>
    requested.imp_right fun ⟨item, queued, start⟩ => ⟨item, List.mem_cons_of_mem _ queued, start⟩
  cases next with
  | enqueueExternal _ => exact more _ _
  | injectProbe _ => exact more _ _
  | step success =>
      obtain ⟨_, _, rfl⟩ | ⟨_, stepped⟩ := step_stepped success
      · exact requested
      · obtain ⟨popped, advances⟩ := stepped.advances
        exact advances.requested requested

theorem crash_free_completion (participants : 1 ≤ setup.nParticipants)
    (reachable : (system setup crashFree).Reachable state) :
    (state.Started → state.eventQueue.isEmpty = true → state.Completed) ∧
    (state.Requested → ∃ fuel after, run fuel state = .ok (some after) ∧ after.Completed) := by
  have undisturbed := (undisturbed_invariant setup).reachable reachable
  constructor
  · intro started drained
    exact undisturbed.completed participants (EventQueue.isEmpty_iff.mp drained) started
  · intro requested
    obtain ⟨fuel, after, ran, drained⟩ := undisturbed.toFaithful.run_ok
    have path : (system setup crashFree).Steps state after := run_steps ran
    have later : Undisturbed setup after :=
      path.preserves (undisturbed_invariant setup).next undisturbed
    have started := (steps_preserve Requested.next path requested).started drained
    exact ⟨fuel, after, ran, later.completed participants drained started⟩

theorem crash_free_completion_unanimous : ∃ (fuel : Nat) (after : Simulator ForcedRng),
    run fuel (Setup.unanimous.simulator.enqueueExternal .startTransaction 0) = .ok (some after) ∧
      after.Completed := by
  have reachable : (system .unanimous crashFree).Reachable
      (Setup.unanimous.simulator.enqueueExternal (ρ := ForcedRng) .startTransaction 0) :=
    ⟨_, rfl, .single (.enqueueExternal fun _ same => by cases same)⟩
  exact (crash_free_completion (by decide) reachable).2 (.inr ⟨_, .head _, rfl⟩)

end Simulator

end TwoPhaseCommit
