import TwoPhaseCommit.CoordinatorRefinement
import TwoPhaseCommit.ParticipantProperties
import TwoPhaseCommit.Simulator.Runs

/-! Every run of the simulator is a run of the protocol between the views of its
states. The view keeps the durable records, the coordinator's tallies and the
messages that were ever sent. -/

set_option autoImplicit false

namespace TwoPhaseCommit

open Protocol

variable {ρ : Type} [ChaCha8Rng ρ]

/-- What the protocol allows the actors of a setup to do. -/
def Setup.policy (ρ : Type) [ChaCha8Rng ρ] (setup : Setup) : Policy where
  members := {node | node ∈ setup.nodes}
  mayAbort := Coordinator.MayAbort ρ setup.abortBias
  mayVote node vote := ∃ origin : Participant ρ,
    setup.simulator.participants[node]? = some origin ∧ origin.coin = vote

namespace Simulator

omit [ChaCha8Rng ρ] in
def view (self : Simulator ρ) : State where
  vote node := self.participants[node]?.bind (·.durableState.vote)
  learned node := self.participants[node]?.bind (·.durableState.decision)
  decision := self.coordinator.durableState.decision
  tally := self.coordinator.tally
  acked := self.coordinator.acked
  sent := {msg | msg ∈ self.sentMessages}

/-- The participant is one that `new` created for this node, later in its life. -/
structure Member (setup : Setup) (node : NodeId) (participant : Participant ρ) : Prop where
  id : participant.id = node
  valid : participant.Valid
  origin : ∃ origin : Participant ρ, setup.simulator.participants[node]? = some origin ∧
    Participant.Descends origin participant

/-- What holds of the actors alone. -/
structure Staffed (setup : Setup) (state : Simulator ρ) : Prop where
  coordinator : Coordinator.SameSetup setup.simulator.coordinator state.coordinator
  valid : state.coordinator.Valid
  participant : ∀ {node participant}, state.participants[node]? = some participant →
    Member setup node participant
  managed : ∀ node, node ∈ state.participants ↔ node ∈ setup.nodes

/-- What holds in every state of every run. -/
structure Consistent (setup : Setup) (state : Simulator ρ) : Prop extends
    Staffed setup state where
  queued : ∀ {recipient msg}, .internal (.deliver recipient msg) ∈
    state.eventQueue.pending.map (·.event) → recipient = msg.to ∧ msg ∈ state.sentMessages
  sound : Sound (setup.policy ρ) state.view

/-! ## The initial state -/

section New

variable {bias : ℚ} {nodes : List NodeId} {participants : Std.ExtTreeMap NodeId (Participant ρ)}
  {status : Std.ExtTreeMap ActorId ActorStatus} {rng : ρ}

theorem mem_newParticipants {node : NodeId} :
    node ∈ (newParticipants bias nodes participants status rng).1 ↔
      node ∈ nodes ∨ node ∈ participants := by
  induction nodes generalizing participants status rng with
  | nil => simp [newParticipants]
  | cons head rest ih =>
      rw [newParticipants, ih, Library.OrderedMap.mem_insert, List.mem_cons]
      tauto

theorem newParticipants_fresh {node : NodeId} {participant : Participant ρ}
    (found : (newParticipants bias nodes participants status rng).1[node]? = some participant) :
    (∃ seed, participant = .new node seed bias) ∨ participants[node]? = some participant := by
  induction nodes generalizing participants status rng with
  | nil => exact .inr found
  | cons head rest ih =>
      rcases ih found with fresh | earlier
      · exact .inl fresh
      · rw [Library.OrderedMap.getElem?_insert] at earlier
        split at earlier
        · rename_i same
          cases same
          cases earlier
          exact .inl ⟨_, rfl⟩
        · exact .inr earlier

end New

variable {setup : Setup} {environment : Environment ρ} {state after : Simulator ρ}

theorem simulator_participant {node : NodeId} {participant : Participant ρ}
    (found : setup.simulator.participants[node]? = some participant) :
    ∃ seed, participant = .new node seed setup.participantAbortBias := by
  rcases newParticipants_fresh found with fresh | earlier
  · exact fresh
  · simp at earlier

theorem simulator_staffed : Staffed setup (setup.simulator (ρ := ρ)) where
  coordinator := ⟨rfl, rfl, rfl⟩
  valid := Coordinator.new_valid _ _ _ _
  participant found := by
    obtain ⟨seed, rfl⟩ := simulator_participant found
    exact ⟨rfl, ⟨rfl, rfl⟩, _, found, rfl, rfl, fun _ => rfl⟩
  managed node := mem_newParticipants.trans (by simp [Setup.nodes])

theorem simulator_pending : (setup.simulator (ρ := ρ)).eventQueue.pending = [] := rfl

theorem simulator_actionLog : (setup.simulator (ρ := ρ)).actionLog = [] := rfl

theorem simulator_view : (setup.simulator (ρ := ρ)).view = .start := by
  have blank : ∀ {α : Type} {record : Participant.DurableState → Option α},
      record ⟨none, none⟩ = none → ∀ node : NodeId,
        (setup.simulator (ρ := ρ)).participants[node]?.bind (fun p => record p.durableState) =
          none := by
    intro α record empty node
    cases found : (setup.simulator (ρ := ρ)).participants[node]? with
    | none => rfl
    | some participant =>
        obtain ⟨seed, rfl⟩ := simulator_participant found
        exact empty
  simp only [view, State.start, State.mk.injEq]
  refine ⟨funext (blank rfl), funext (blank rfl), rfl, rfl, rfl, ?_⟩
  simp [Setup.simulator, new, sentMessages]

theorem simulator_consistent : Consistent setup (setup.simulator (ρ := ρ)) where
  toStaffed := simulator_staffed
  queued := by simp [simulator_pending]
  sound := by
    rw [simulator_view]
    exact Sound.start

/-! ## One event -/

theorem Staffed.nodes (staffed : Staffed setup state) : state.coordinator.nodes = setup.nodes :=
  staffed.coordinator.nodes

theorem Staffed.follows (staffed : Staffed setup state) :
    Coordinator.Follows (setup.policy ρ) state.coordinator where
  members node := by rw [staffed.nodes]; rfl
  mayAbort := by rw [staffed.coordinator.abortBias]; exact id

theorem Member.mayVote {node : NodeId} {participant : Participant ρ}
    (member : Member setup node participant) (fresh : participant.durableState.vote = none) :
    (setup.policy ρ).mayVote participant.id participant.coin := by
  obtain ⟨origin, found, descends⟩ := member.origin
  exact ⟨origin, by rw [member.id, found], (descends.coin fresh).symm⟩

/-- A delivered message is on the wire and reaches the actor it is meant for. -/
def Genuine (state : Simulator ρ) : Event → Prop
  | .external _ => True
  | .internal (.deliver recipient msg) => recipient = msg.to ∧ msg ∈ state.sentMessages

section Dispatch

variable {event : Event} {middle : Simulator ρ} {outgoing : List Message}

theorem receives_backed {msg : Message} (sound : Sound (setup.policy ρ) state.view)
    (genuine : Genuine state event) (receives : coordinatorMessage? event = some msg) :
    (∀ node, msg.from = .node node → node ∈ setup.nodes) ∧
      Coordinator.Backed state.view msg := by
  rcases coordinatorMessage?_cases receives with ⟨rfl, rfl⟩ | rfl
  · exact ⟨nofun, ⟨fun _ => nofun, fun _ => nofun⟩⟩
  · obtain ⟨toCoordinator, sent⟩ := genuine
    constructor
    · intro node sender
      have formed := sound.wellFormed msg sent
      cases formed <;> cases toCoordinator <;> cases sender <;> assumption
    · obtain ⟨type, sender, recipient⟩ := msg
      cases toCoordinator
      constructor
      · rintro node vote rfl rfl
        exact sent
      · rintro node rfl rfl
        exact sent

private theorem addressed {node : NodeId} {msg : Message}
    (sound : Sound (setup.policy ρ) state.view)
    (genuine : Genuine state (.internal (.deliver (.node node) msg))) :
    Participant.Addressed state.view node msg := by
  obtain ⟨toNode, sent⟩ := genuine
  have formed := sound.wellFormed msg sent
  constructor
  · intro type
    obtain ⟨other, _, rfl⟩ := formed.eq_prepare type
    cases toNode
    exact sent
  · intro decision type
    obtain ⟨other, _, rfl⟩ := formed.eq_decision type
    cases toNode
    exact sent

omit [ChaCha8Rng ρ] in
theorem view_insert {node : NodeId} {participant : Participant ρ}
    (id : participant.id = node) :
    Simulator.view { state with participants := state.participants.insert node participant } =
      state.view.withParticipant participant := by
  subst id
  simp only [view, State.withParticipant, State.mk.injEq, Library.OrderedMap.getElem?_insert]
  refine ⟨funext fun other => ?_, funext fun other => ?_, trivial, trivial, trivial, rfl⟩ <;>
    by_cases same : other = participant.id <;> simp [same]

omit [ChaCha8Rng ρ] in
private theorem view_eq_withParticipant {node : NodeId} {participant : Participant ρ}
    (found : state.participants[node]? = some participant) (id : participant.id = node) :
    state.view = state.view.withParticipant participant := by
  rw [← view_insert id, Library.OrderedMap.insert_eq_self found]

theorem Staffed.insert (staffed : Staffed setup state) {node : NodeId}
    {participant : Participant ρ} (present : node ∈ state.participants)
    (member : Member setup node participant) :
    Staffed setup { state with participants := state.participants.insert node participant } where
  coordinator := staffed.coordinator
  valid := staffed.valid
  participant {other found} present := by
    rw [Library.OrderedMap.getElem?_insert] at present
    split at present
    · rename_i same
      cases same
      cases present
      exact member
    · exact staffed.participant present
  managed other := by
    rw [Library.OrderedMap.mem_insert, staffed.managed]
    exact or_iff_right_of_imp fun same => same ▸ (staffed.managed node).mp present

theorem Dispatched.refines (dispatched : Dispatched state event middle outgoing)
    (staffed : Staffed setup state) (sound : Sound (setup.policy ρ) state.view)
    (genuine : Genuine state event) :
    Staffed setup middle ∧
      (Protocol.system (setup.policy ρ)).Steps state.view (middle.view.send outgoing) := by
  cases dispatched with
  | coordinatorReceives receives =>
      obtain ⟨managed, backed⟩ := receives_backed sound genuine receives
      rw [← staffed.nodes] at managed
      refine ⟨{ staffed with
        coordinator := staffed.coordinator.trans (Coordinator.onMessage_sameSetup _ _ _)
        valid := Coordinator.onMessage_valid staffed.valid managed _ }, ?_⟩
      exact Coordinator.onMessage_refines state.view state.clock staffed.valid
        staffed.follows sound managed backed
  | coordinatorTicks _ _ =>
      have ticked := state.coordinator.tick_ticked state.clock
      refine ⟨{ staffed with
        coordinator := staffed.coordinator.trans ticked.sameSetup
        valid := ticked.valid staffed.valid }, ?_⟩
      exact ticked.refines state.view staffed.valid staffed.follows sound
  | rests _ _ => exact ⟨staffed, by simpa using .refl⟩
  | nodeTicks => exact ⟨staffed, by simpa using .refl⟩
  | @participantReceives node msg participant found =>
      have member := staffed.participant found
      have received := participant.onMessage_received msg state.clock
      have after : Member setup node (participant.onMessage msg state.clock).1 := by
        obtain ⟨origin, created, descends⟩ := member.origin
        have later := received.descends descends
        refine ⟨?_, received.valid member.valid, origin, created, later⟩
        rw [later.id, ← descends.id, member.id]
      refine ⟨staffed.insert (Library.OrderedMap.mem_iff_exists.mpr ⟨_, found⟩) after, ?_⟩
      have start := view_eq_withParticipant found member.id
      have path := received.refines state.view member.valid member.mayVote
        (start ▸ sound) (member.id ▸ addressed sound genuine)
      rwa [← start, ← view_insert after.id] at path
  | nobodyReceives _ => exact ⟨staffed, by simpa using .refl⟩
  | crashes => exact ⟨{ staffed with }, by simpa using .refl⟩
  | coordinatorRecovers _ =>
      refine ⟨{ staffed with
        coordinator := staffed.coordinator.trans (Coordinator.recover_sameSetup _ _)
        valid := Coordinator.recover_valid _ }, ?_⟩
      rw [State.send_nil]
      exact Coordinator.recover_refines state.view state.clock
  | participantRecovers _ found =>
      rw [Participant.recover_eq_self (staffed.participant found).valid,
        Library.OrderedMap.insert_eq_self found]
      exact ⟨{ staffed with }, by simpa using .refl⟩
  | staysUp _ => exact ⟨{ staffed with }, by simpa using .refl⟩

end Dispatch

/-! ## One step -/

section Step

omit [ChaCha8Rng ρ] in
@[simp] theorem sentMessages_taken (self : Simulator ρ) (popped : TimestampedEvent)
    (queue : EventQueue) (observations : Observations) :
    (self.taken popped queue observations).sentMessages = self.sentMessages := by
  have silent : (popped.event.logEntry popped.timestamp).sent? = none := by
    generalize popped.event = event
    cases event <;> rfl
  simp [sentMessages, taken, silent]

theorem view_sendAll (self : Simulator ρ) (outgoing : List Message) :
    (self.sendAll outgoing).view = self.view.send outgoing := by
  simp only [view, sendAll_participants, sendAll_coordinator, sendAll_sentMessages,
    List.mem_append, State.send, State.mk.injEq, true_and]
  rfl

theorem mem_pending_sendAll {self : Simulator ρ} {outgoing : List Message} {event : Event}
    (member : event ∈ (self.sendAll outgoing).eventQueue.pending.map (·.event)) :
    (∃ msg ∈ outgoing, event = msg.delivery) ∨
      event ∈ self.eventQueue.pending.map (·.event) := by
  obtain ⟨scheduled, same, events, _⟩ := self.sendAll_pending outgoing
  rw [same, List.map_append, events, List.mem_append, List.mem_reverse, List.mem_map] at member
  exact member.imp_left fun ⟨msg, sent, same⟩ => ⟨msg, sent, same.symm⟩

theorem Consistent.genuine (consistent : Consistent setup state) {popped : TimestampedEvent}
    (queued : popped ∈ state.eventQueue.pending) : state.Genuine popped.event := by
  have listed := List.mem_map_of_mem (f := (·.event)) queued
  cases kind : popped.event with
  | external _ => trivial
  | internal event =>
      obtain ⟨recipient, msg⟩ := event
      exact consistent.queued (by rwa [kind] at listed)

omit [ChaCha8Rng ρ] in
@[simp] theorem view_taken (self : Simulator ρ) (popped : TimestampedEvent) (queue : EventQueue)
    (observations : Observations) : (self.taken popped queue observations).view = self.view := by
  simp only [view, sentMessages_taken]
  rfl

def dropped (self : Simulator ρ) (timestamp : Nat) (queue : EventQueue) (msg : Message) :
    Simulator ρ :=
  { self with
    eventQueue := queue
    clock := timestamp
    actionLog := self.actionLog ++ [.drop timestamp msg] }

omit [ChaCha8Rng ρ] in
@[simp] theorem sentMessages_dropped (self : Simulator ρ) (timestamp : Nat) (queue : EventQueue)
    (msg : Message) : (self.dropped timestamp queue msg).sentMessages = self.sentMessages := by
  simp [sentMessages, dropped, LogEntry.sent?]

omit [ChaCha8Rng ρ] in
@[simp] theorem view_dropped (self : Simulator ρ) (timestamp : Nat) (queue : EventQueue)
    (msg : Message) : (self.dropped timestamp queue msg).view = self.view := by
  simp only [view, sentMessages_dropped]
  rfl

/-- The event that is taken reaches a state that satisfies what `Dispatched.refines` asks. -/
theorem Consistent.taken (consistent : Consistent setup state) {popped : TimestampedEvent}
    {queue : EventQueue} (pops : state.eventQueue.Pops popped queue)
    (observations : Observations) :
    Staffed setup (state.taken popped queue observations) ∧
      Sound (setup.policy ρ) (state.taken popped queue observations).view ∧
      (state.taken popped queue observations).Genuine popped.event := by
  refine ⟨{ consistent.toStaffed with }, by simpa using consistent.sound, ?_⟩
  have genuine := consistent.genuine pops.mem
  cases event : popped.event <;> simp_all [Genuine]

theorem Stepped.refines (stepped : Stepped state after) (consistent : Consistent setup state) :
    Consistent setup after ∧
      (Protocol.system (setup.policy ρ)).Steps state.view after.view := by
  cases stepped with
  | @drops popped queue recipient msg pops _ _ =>
      change Consistent setup (state.dropped popped.timestamp queue msg) ∧
        (Protocol.system (setup.policy ρ)).Steps state.view
          (state.dropped popped.timestamp queue msg).view
      rw [view_dropped]
      refine ⟨{ consistent with
        queued := fun listed => ?_
        sound := by simpa using consistent.sound }, .refl⟩
      rw [sentMessages_dropped]
      exact consistent.queued (List.map_subset _ pops.subset listed)
  | @handles popped queue delivered observations middle outgoing pops _ dispatched =>
      obtain ⟨staffed, sound, genuine⟩ := consistent.taken pops delivered
      obtain ⟨staffed, path⟩ := dispatched.refines staffed sound genuine
      have final : ({ middle with observations := observations }.sendAll outgoing).view =
          middle.view.send outgoing := view_sendAll _ _
      rw [view_taken, ← final] at path
      refine ⟨{
        coordinator := by simpa using staffed.coordinator
        valid := by simpa using staffed.valid
        participant := fun found => staffed.participant (by simpa using found)
        managed := by simpa using staffed.managed
        queued := fun {recipient msg} listed => ?_
        sound := consistent.sound.steps path }, path⟩
      have sent := dispatched.sentMessages.trans (sentMessages_taken state popped queue delivered)
      rw [sendAll_sentMessages, List.mem_append]
      rcases mem_pending_sendAll listed with ⟨msg, outgoing, same⟩ | earlier
      · cases same
        exact ⟨rfl, .inr outgoing⟩
      · rw [show middle.eventQueue = queue from dispatched.eventQueue] at earlier
        obtain ⟨recipient, member⟩ := consistent.queued (List.map_subset _ pops.subset earlier)
        exact ⟨recipient, .inl (sent ▸ member)⟩

end Step

/-! ## Runs -/

theorem Consistent.enqueueExternal (consistent : Consistent setup state)
    (event : ExternalEvent) (atTime : Nat) :
    Consistent setup (state.enqueueExternal event atTime) :=
  { consistent with
    queued := fun listed => by
      rw [Simulator.enqueueExternal, EventQueue.pending_insert, List.map_cons] at listed
      exact consistent.queued ((List.mem_cons.mp listed).resolve_left nofun) }

theorem Next.refines (next : Next environment state after) (consistent : Consistent setup state) :
    Consistent setup after ∧
      (Protocol.system (setup.policy ρ)).Steps state.view after.view := by
  cases next with
  | enqueueExternal _ => exact ⟨consistent.enqueueExternal _ _, .refl⟩
  | step success =>
      obtain ⟨_, _, rfl⟩ | ⟨_, stepped⟩ := step_stepped success
      · exact ⟨consistent, .refl⟩
      · exact stepped.refines consistent
  | injectProbe _ =>
      have advanced : Consistent setup { state with clock := state.clock + 1 } :=
        { consistent with }
      exact ⟨advanced.enqueueExternal _ _, .refl⟩

theorem refinement (setup : Setup) (environment : Environment ρ) :
    (system setup environment).Refinement (Protocol.system (setup.policy ρ)) view
      (Consistent setup) where
  initial started := by
    cases started
    exact simulator_view
  invariant := {
    initial := by
      intro state same
      subst same
      exact simulator_consistent
    next := fun consistent next => (next.refines consistent).1 }
  next consistent next := (next.refines consistent).2

theorem consistent_of_reachable (reachable : (system setup environment).Reachable state) :
    Consistent setup state :=
  (refinement setup environment).invariant.reachable reachable

end Simulator

end TwoPhaseCommit
