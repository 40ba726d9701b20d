import TwoPhaseCommit.Simulator
import TwoPhaseCommit.Simulator.EventQueueProperties
import TwoPhaseCommit.Simulator.ObservationProperties

/-! Everything one step of the simulator can do: which event it pops, what the
event does to the actors, and how the outgoing messages reach the queue and the
log. -/

set_option autoImplicit false

namespace TwoPhaseCommit

def LogEntry.sent? : LogEntry → Option Message
  | .send _ _ msg => some msg
  | .externalEvent _ _ | .deliver _ _ | .drop _ _ => none

def Message.delivery (msg : Message) : Event := .internal (.deliver msg.to msg)

/-- The log entry of an event that is not dropped. -/
def Event.logEntry (clock : Nat) : Event → LogEntry
  | .external event => .externalEvent clock event
  | .internal (.deliver _ msg) => .deliver clock msg

namespace Simulator

variable {ρ : Type} [ChaCha8Rng ρ]

/-- The messages sent so far, oldest first. -/
def sentMessages (self : Simulator ρ) : List Message :=
  self.actionLog.filterMap LogEntry.sent?

/-! ## Outgoing messages -/

def sendAll (self : Simulator ρ) (messages : List Message) : Simulator ρ :=
  messages.foldl enqueueMessage self

section SendAll

variable (self : Simulator ρ) (messages : List Message)

@[simp] theorem sendAll_nil : self.sendAll [] = self := rfl

private theorem sendAll_keeps {α : Type} {field : Simulator ρ → α}
    (kept : ∀ (state : Simulator ρ) (msg : Message),
      field (state.enqueueMessage msg) = field state) :
    field (self.sendAll messages) = field self := by
  induction messages generalizing self with
  | nil => rfl
  | cons msg rest ih => exact (ih (self.enqueueMessage msg)).trans (kept self msg)

@[simp] theorem sendAll_coordinator : (self.sendAll messages).coordinator = self.coordinator :=
  sendAll_keeps self messages fun _ _ => rfl

@[simp] theorem sendAll_participants : (self.sendAll messages).participants = self.participants :=
  sendAll_keeps self messages fun _ _ => rfl

@[simp] theorem sendAll_actorStatus : (self.sendAll messages).actorStatus = self.actorStatus :=
  sendAll_keeps self messages fun _ _ => rfl

@[simp] theorem sendAll_clock : (self.sendAll messages).clock = self.clock :=
  sendAll_keeps self messages fun _ _ => rfl

@[simp] theorem sendAll_observations :
    (self.sendAll messages).observations = self.observations :=
  sendAll_keeps self messages fun _ _ => rfl

@[simp] theorem sendAll_sentMessages :
    (self.sendAll messages).sentMessages = self.sentMessages ++ messages := by
  induction messages generalizing self with
  | nil => simp
  | cons msg rest ih =>
      rw [sendAll, List.foldl_cons, ← sendAll, ih]
      simp [sentMessages, enqueueMessage, LogEntry.sent?]

/-- Every message is scheduled once, for a later time. -/
theorem sendAll_pending : ∃ scheduled : List TimestampedEvent,
    (self.sendAll messages).eventQueue.pending = scheduled ++ self.eventQueue.pending ∧
      scheduled.map (·.event) = (messages.map Message.delivery).reverse ∧
      ∀ item ∈ scheduled, self.clock < item.timestamp := by
  induction messages generalizing self with
  | nil => exact ⟨[], by simp, rfl, by simp⟩
  | cons msg rest ih =>
      obtain ⟨scheduled, same, events, later⟩ := ih (self.enqueueMessage msg)
      obtain ⟨timestamp, inserted, after⟩ : ∃ timestamp, self.clock < timestamp ∧
          (self.enqueueMessage msg).eventQueue =
            self.eventQueue.insert timestamp msg.delivery :=
        ⟨_, by omega, rfl⟩
      refine ⟨scheduled ++ [⟨timestamp, self.eventQueue.nextSequenceNumber, msg.delivery⟩],
        ?_, ?_, ?_⟩
      · rw [sendAll, List.foldl_cons, ← sendAll, same, after, EventQueue.pending_insert]
        simp
      · simp [events]
      · intro item member
        rcases List.mem_append.mp member with member | member
        · exact later item member
        · obtain rfl := List.mem_singleton.mp member
          exact inserted

theorem eq_delivery_of_mem_sendAll {item : TimestampedEvent}
    (queued : item ∈ (self.sendAll messages).eventQueue.pending) :
    (∃ msg ∈ messages, item.event = msg.delivery ∧ self.clock < item.timestamp) ∨
      item ∈ self.eventQueue.pending := by
  obtain ⟨scheduled, same, events, later⟩ := self.sendAll_pending messages
  rw [same] at queued
  rcases List.mem_append.mp queued with news | earlier
  · have listed := List.mem_map_of_mem (f := (·.event)) news
    rw [events, List.mem_reverse] at listed
    obtain ⟨msg, sent, delivery⟩ := List.mem_map.mp listed
    exact .inl ⟨msg, sent, delivery.symm, later item news⟩
  · exact .inr earlier

theorem pending_subset_sendAll :
    self.eventQueue.pending ⊆ (self.sendAll messages).eventQueue.pending := by
  obtain ⟨scheduled, same, _⟩ := self.sendAll_pending messages
  rw [same]
  exact List.subset_append_right _ _

theorem externalEvent_mem_sendAll {atTime : Nat} {event : ExternalEvent} :
    .externalEvent atTime event ∈ (self.sendAll messages).actionLog ↔
      .externalEvent atTime event ∈ self.actionLog := by
  induction messages generalizing self with
  | nil => rfl
  | cons msg rest ih =>
      refine (ih (self.enqueueMessage msg)).trans ?_
      simp [enqueueMessage]

end SendAll

/-! ## What an event does to the actors -/

omit [ChaCha8Rng ρ] in
theorem isOperating_eq_false_iff {self : Simulator ρ} {actor : ActorId} :
    self.isOperating actor = false ↔ self.actorStatus[actor]? = some .crashed := by
  simp [isOperating]

/-- What the arms for the two kinds of events do. -/
def dispatch (self : Simulator ρ) : Event → Simulator ρ × List Message
  | .external event => self.handleExternal event
  | .internal (.deliver recipient msg) => self.deliver recipient msg

def coordinatorMessage? : Event → Option Message
  | .external .startTransaction => some startMessage
  | .internal (.deliver .coordinator msg) => some msg
  | _ => none

theorem coordinatorMessage?_cases {event : Event} {msg : Message}
    (receives : coordinatorMessage? event = some msg) :
    event = .external .startTransaction ∧ msg = startMessage ∨
      event = .internal (.deliver .coordinator msg) := by
  cases event with
  | external event =>
      cases event <;> cases receives
      exact .inl ⟨rfl, rfl⟩
  | internal event =>
      obtain ⟨recipient, delivered⟩ := event
      cases recipient <;> cases receives
      exact .inr rfl

/-- Every outcome of an event before its outgoing messages are enqueued. -/
inductive Dispatched (self : Simulator ρ) : Event → Simulator ρ → List Message → Prop where
  | coordinatorReceives {event : Event} {msg : Message} :
      coordinatorMessage? event = some msg →
      Dispatched self event
        { self with coordinator := (self.coordinator.onMessage msg self.clock).1 }
        (self.coordinator.onMessage msg self.clock).2
  | coordinatorTicks {event : ExternalEvent} :
      event = .tick .coordinator ∨ event = .tickAll → self.isOperating .coordinator = true →
      Dispatched self (.external event)
        { self with coordinator := (self.coordinator.tick self.clock).1 }
        (self.coordinator.tick self.clock).2
  | rests {event : ExternalEvent} :
      event = .tick .coordinator ∨ event = .tickAll → self.isOperating .coordinator = false →
      Dispatched self (.external event) self []
  | nodeTicks {node : NodeId} : Dispatched self (.external (.tick (.node node))) self []
  | participantReceives {node : NodeId} {msg : Message} {participant : Participant ρ} :
      self.participants[node]? = some participant →
      Dispatched self (.internal (.deliver (.node node) msg))
        { self with participants :=
            self.participants.insert node (participant.onMessage msg self.clock).1 }
        (participant.onMessage msg self.clock).2
  | nobodyReceives {node : NodeId} {msg : Message} :
      self.participants[node]? = none →
      Dispatched self (.internal (.deliver (.node node) msg)) self []
  | crashes {actor : ActorId} :
      Dispatched self (.external (.crash actor))
        { self with actorStatus := self.actorStatus.insert actor .crashed } []
  | coordinatorRecovers :
      self.isOperating .coordinator = false →
      Dispatched self (.external (.recover .coordinator))
        { self with
          actorStatus := self.actorStatus.insert .coordinator .operating
          coordinator := self.coordinator.recover self.clock } []
  | participantRecovers {node : NodeId} {participant : Participant ρ} :
      self.isOperating (.node node) = false → self.participants[node]? = some participant →
      Dispatched self (.external (.recover (.node node)))
        { self with
          actorStatus := self.actorStatus.insert (.node node) .operating
          participants := self.participants.insert node (participant.recover self.clock) } []
  | staysUp {actor : ActorId} :
      (self.isOperating actor = true ∨
        ∃ node, actor = .node node ∧ self.participants[node]? = none) →
      Dispatched self (.external (.recover actor))
        { self with actorStatus := self.actorStatus.insert actor .operating } []

section Dispatch

variable (self : Simulator ρ)

theorem tickActor_node (node : NodeId) : self.tickActor (.node node) = (self, []) := by
  simp only [tickActor]
  split
  · rfl
  · unfold updateParticipant
    split
    · rename_i participant found
      simp only [Participant.tick, Library.OrderedMap.insert_eq_self found]
    · rfl

theorem tickAll_eq : self.tickAll = self.tickActor .coordinator := by
  refine List.foldl_fixed' (fun node => ?_) _
  simp only [tickActor_node, List.append_nil]

private theorem tickActor_coordinator {event : ExternalEvent}
    (kind : event = .tick .coordinator ∨ event = .tickAll) :
    Dispatched self (.external event) (self.tickActor .coordinator).1
      (self.tickActor .coordinator).2 := by
  unfold tickActor
  cases up : self.isOperating .coordinator with
  | true => exact .coordinatorTicks kind up
  | false => exact .rests kind up

private theorem recoverActor_dispatched (actor : ActorId) :
    Dispatched self (.external (.recover actor)) (self.recoverActor actor) [] := by
  unfold recoverActor
  cases up : self.isOperating actor with
  | true => exact .staysUp (.inl up)
  | false =>
      cases actor with
      | coordinator => exact .coordinatorRecovers up
      | node node =>
          cases found : self.participants[node]? with
          | some participant =>
              simp only [Bool.not_false, ↓reduceIte, updateParticipant, found]
              exact .participantRecovers up found
          | none =>
              simp only [Bool.not_false, ↓reduceIte, updateParticipant, found]
              exact .staysUp (.inr ⟨node, rfl, found⟩)

theorem dispatch_dispatched (event : Event) :
    Dispatched self event (self.dispatch event).1 (self.dispatch event).2 := by
  cases event with
  | external event =>
      cases event with
      | startTransaction => exact .coordinatorReceives rfl
      | tick actor =>
          cases actor with
          | coordinator => exact tickActor_coordinator self (.inl rfl)
          | node node =>
              simp only [dispatch, handleExternal, tickActor_node]
              exact .nodeTicks
      | tickAll =>
          simp only [dispatch, handleExternal, tickAll_eq]
          exact tickActor_coordinator self (.inr rfl)
      | crash actor => exact .crashes
      | recover actor => exact recoverActor_dispatched self actor
  | internal event =>
      obtain ⟨recipient, msg⟩ := event
      cases recipient with
      | coordinator => exact .coordinatorReceives rfl
      | node node =>
          simp only [dispatch, deliver, updateParticipant]
          cases found : self.participants[node]? with
          | some participant => exact .participantReceives found
          | none => exact .nobodyReceives found

end Dispatch

section Frame

variable {self middle : Simulator ρ} {event : Event} {outgoing : List Message}

theorem Dispatched.eventQueue (dispatched : Dispatched self event middle outgoing) :
    middle.eventQueue = self.eventQueue := by
  cases dispatched <;> rfl

theorem Dispatched.clock (dispatched : Dispatched self event middle outgoing) :
    middle.clock = self.clock := by
  cases dispatched <;> rfl

theorem Dispatched.observations (dispatched : Dispatched self event middle outgoing) :
    middle.observations = self.observations := by
  cases dispatched <;> rfl

theorem Dispatched.actionLog (dispatched : Dispatched self event middle outgoing) :
    middle.actionLog = self.actionLog := by
  cases dispatched <;> rfl

theorem Dispatched.sentMessages (dispatched : Dispatched self event middle outgoing) :
    middle.sentMessages = self.sentMessages := by
  rw [Simulator.sentMessages, dispatched.actionLog, ← Simulator.sentMessages]

omit [ChaCha8Rng ρ] in
private theorem crashed_of_insert {status : ActorStatus} {inserted actor : ActorId} :
    (self.actorStatus.insert inserted status)[actor]? = some .crashed ↔
      if inserted = actor then status = .crashed else self.isOperating actor = false := by
  rw [Library.OrderedMap.getElem?_insert, isOperating_eq_false_iff]
  by_cases same : inserted = actor
  · simp [same]
  · simp [same, Ne.symm same]

theorem Dispatched.isOperating (dispatched : Dispatched self event middle outgoing)
    (actor : ActorId) : middle.isOperating actor = false ↔
      event = .external (.crash actor) ∨
        (self.isOperating actor = false ∧ event ≠ .external (.recover actor)) := by
  rw [isOperating_eq_false_iff]
  cases dispatched with
  | crashes =>
      rw [crashed_of_insert]
      simp [or_iff_not_imp_left]
  | coordinatorRecovers _ | participantRecovers _ _ | staysUp _ =>
      rw [crashed_of_insert]
      simp [and_comm]
  | coordinatorTicks kind _ | rests kind _ =>
      rcases kind with rfl | rfl <;> simp [isOperating_eq_false_iff]
  | coordinatorReceives receives =>
      rw [← isOperating_eq_false_iff]
      refine ⟨fun down => .inr ⟨down, ?_⟩, ?_⟩
      · intro same
        subst same
        cases receives
      · intro either
        rcases either with rfl | ⟨down, _⟩
        · cases receives
        · exact down
  | nodeTicks | participantReceives _ | nobodyReceives _ =>
      simp [isOperating_eq_false_iff]

end Frame

/-! ## A whole step -/

/-- Every event reaches its actors but a message whose recipient is crashed. -/
def Reaches (self : Simulator ρ) : Event → Prop
  | .external _ => True
  | .internal (.deliver _ msg) => self.isOperating msg.to = true

/-- The state in which a popped event that is not dropped reaches the actors. -/
def taken (self : Simulator ρ) (popped : TimestampedEvent) (queue : EventQueue)
    (observations : Observations) : Simulator ρ :=
  { self with
    eventQueue := queue
    clock := popped.timestamp
    actionLog := self.actionLog ++ [popped.event.logEntry popped.timestamp]
    observations := observations }

/-- Every outcome of a step that processes an event without a panic. -/
inductive Stepped (self : Simulator ρ) : Simulator ρ → Prop where
  | drops {popped : TimestampedEvent} {queue : EventQueue} {recipient : ActorId}
      {msg : Message} :
      self.eventQueue.Pops popped queue → popped.event = .internal (.deliver recipient msg) →
      self.isOperating msg.to = false →
      Stepped self { self with
        eventQueue := queue
        clock := popped.timestamp
        actionLog := self.actionLog ++ [.drop popped.timestamp msg] }
  | handles {popped : TimestampedEvent} {queue : EventQueue}
      {delivered observations : Observations} {middle : Simulator ρ} {outgoing : List Message} :
      self.eventQueue.Pops popped queue → self.Reaches popped.event →
      Dispatched (self.taken popped queue delivered) popped.event middle outgoing →
      Stepped self ({ middle with observations := observations }.sendAll outgoing)

theorem conclude_ok {self after : Simulator ρ} {outgoing : List Message}
    (success : self.conclude outgoing = .ok after) :
    ∃ observations, after = { self with observations := observations }.sendAll outgoing := by
  obtain ⟨sent, enqueued, checked⟩ := bind_ok success
  obtain ⟨observations, _, same⟩ := bind_ok enqueued
  cases same
  split at checked
  · cases checked
    exact ⟨observations, rfl⟩
  · cases checked

theorem step_stepped {self after : Simulator ρ} {stepped : Bool}
    (success : self.step = .ok (stepped, after)) :
    stepped = false ∧ self.eventQueue.pending = [] ∧ after = self ∨
      stepped = true ∧ Stepped self after := by
  unfold step at success
  split at success
  · rename_i drained
    cases success
    exact .inl ⟨rfl, EventQueue.next_eq_none_iff.mp drained, rfl⟩
  · rename_i timestamp event queue found
    obtain ⟨sequenceNumber, pops⟩ := EventQueue.next_eq_some found
    obtain ⟨final, processed, same⟩ := bind_ok success
    cases same
    refine .inr ⟨rfl, ?_⟩
    cases event with
    | external event =>
        obtain ⟨observations, rfl⟩ := conclude_ok processed
        exact .handles pops trivial (dispatch_dispatched (self.taken _ queue self.observations)
          (.external event))
    | internal event =>
        obtain ⟨recipient, msg⟩ := event
        simp only [process] at processed
        split at processed
        · rename_i down
          cases processed
          exact .drops pops rfl (by simpa [isOperating] using down)
        · rename_i up
          obtain ⟨delivered, _, processed⟩ := bind_ok processed
          obtain ⟨observations, rfl⟩ := conclude_ok processed
          exact .handles pops (by simpa [Reaches, isOperating] using up)
            (dispatch_dispatched (self.taken _ queue delivered)
              (.internal (.deliver recipient msg)))

/-! ## The queue, the clock and the log over a step -/

/-- What every step that processes this event does to them. -/
structure Advances (state : Simulator ρ) (popped : TimestampedEvent) (after : Simulator ρ) :
    Prop where
  mem : popped ∈ state.eventQueue.pending
  first : ∀ item ∈ state.eventQueue.pending, ¬ item.Precedes popped
  remains : ∀ item ∈ state.eventQueue.pending, item = popped ∨ item ∈ after.eventQueue.pending
  queued : ∀ item ∈ after.eventQueue.pending, item ∈ state.eventQueue.pending ∨
    ∃ msg : Message, item.event = msg.delivery ∧ popped.timestamp < item.timestamp
  clock : after.clock = popped.timestamp
  isOperating : ∀ actor, after.isOperating actor = false ↔
    popped.event = .external (.crash actor) ∨
      (state.isOperating actor = false ∧ popped.event ≠ .external (.recover actor))
  logged : ∀ atTime event, .externalEvent atTime event ∈ after.actionLog ↔
    .externalEvent atTime event ∈ state.actionLog ∨
      (atTime = popped.timestamp ∧ popped.event = .external event)

omit [ChaCha8Rng ρ] in
theorem eq_logEntry_iff {atTime clock : Nat} {external : ExternalEvent} {event : Event} :
    .externalEvent atTime external = event.logEntry clock ↔
      atTime = clock ∧ event = .external external := by
  cases event with
  | external event => simp [Event.logEntry, eq_comm]
  | internal event =>
      obtain ⟨recipient, msg⟩ := event
      simp [Event.logEntry]

theorem Stepped.advances {state after : Simulator ρ} (stepped : Stepped state after) :
    ∃ popped, Advances state popped after := by
  cases stepped with
  | @drops popped queue recipient msg pops kind _ =>
      exact ⟨popped, {
        mem := pops.mem
        first := fun _ => pops.not_precedes
        remains := fun _ => pops.eq_or_mem
        queued := fun item queued => .inl (pops.subset queued)
        clock := rfl
        isOperating := fun actor => by
          simp only [kind, reduceCtorEq, ne_eq, not_false_eq_true, and_true, false_or]
          exact Iff.rfl
        logged := fun atTime event => by simp [kind] }⟩
  | @handles popped queue delivered observations middle outgoing pops _ dispatched =>
      have rest : middle.eventQueue = queue := dispatched.eventQueue
      have clock : middle.clock = popped.timestamp := dispatched.clock
      exact ⟨popped, {
        mem := pops.mem
        first := fun _ => pops.not_precedes
        remains := fun item queued => (pops.eq_or_mem queued).imp_right fun remains =>
          pending_subset_sendAll _ _ (rest ▸ remains)
        queued := fun item queued => by
          rcases eq_delivery_of_mem_sendAll _ _ queued with ⟨msg, _, delivery, later⟩ | earlier
          · exact .inr ⟨msg, delivery, clock ▸ later⟩
          · exact .inl (pops.subset (rest ▸ earlier))
        clock := (sendAll_clock _ _).trans clock
        isOperating := fun actor => by
          rw [isOperating_eq_false_iff, sendAll_actorStatus, ← isOperating_eq_false_iff]
          exact dispatched.isOperating actor
        logged := fun atTime event => by
          rw [externalEvent_mem_sendAll,
            show middle.actionLog = state.actionLog ++ _ from dispatched.actionLog,
            List.mem_append, List.mem_singleton, eq_logEntry_iff] }⟩

omit [ChaCha8Rng ρ] in
/-- Nothing is queued for a time before the one that a step has reached. -/
theorem Advances.ahead {state after : Simulator ρ} {popped : TimestampedEvent}
    (advances : Advances state popped after) :
    ∀ item ∈ after.eventQueue.pending, after.clock ≤ item.timestamp := by
  intro item queued
  rw [advances.clock]
  rcases advances.queued item queued with earlier | ⟨_, _, later⟩
  · have first := advances.first item earlier
    exact Nat.le_of_not_lt fun before => first (.inl before)
  · exact Nat.le_of_lt later

/-! ## When a step does not panic -/

/-- The delivery that the recorders see before the actors do. -/
def heard : Event → List Observation
  | .external _ => []
  | .internal (.deliver _ msg) => [.delivered msg]

theorem conclude_eq_ok {self : Simulator ρ} {outgoing : List Message}
    {observations : Observations}
    (recorded : (outgoing.map Observation.sent).foldlM Observations.record self.observations =
      .ok observations)
    (checked : checkAllInvariants observations = .ok ()) :
    self.conclude outgoing =
      .ok ({ self with observations := observations }.sendAll outgoing) := by
  rw [List.foldlM_map] at recorded
  have enqueued : self.enqueueOutgoing outgoing =
      .ok ({ self with observations := observations }.sendAll outgoing) := by
    rw [enqueueOutgoing, show outgoing.foldlM Observations.recordSent self.observations =
      .ok observations from recorded]
    rfl
  rw [conclude, enqueued]
  simp only [bind, Except.bind, sendAll_observations, checked]
  rfl

theorem step_drops {self : Simulator ρ} {popped : TimestampedEvent} {queue : EventQueue}
    {recipient : ActorId} {msg : Message} (pops : self.eventQueue.Pops popped queue)
    (event : popped.event = .internal (.deliver recipient msg))
    (down : self.isOperating msg.to = false) :
    self.step = .ok (true, { self with
      eventQueue := queue
      clock := popped.timestamp
      actionLog := self.actionLog ++ [.drop popped.timestamp msg] }) := by
  have crashed : Simulator.isOperating { self with
      eventQueue := queue
      clock := popped.timestamp } msg.to = false := down
  simp only [step, pops.next_eq, event, process, crashed]
  rfl

theorem step_handles {self : Simulator ρ} {popped : TimestampedEvent} {queue : EventQueue}
    {delivered observations : Observations} (pops : self.eventQueue.Pops popped queue)
    (up : self.Reaches popped.event)
    (observed : (heard popped.event).foldlM Observations.record self.observations = .ok delivered)
    (recorded : (((self.taken popped queue delivered).dispatch popped.event).2.map
      Observation.sent).foldlM Observations.record delivered = .ok observations)
    (checked : checkAllInvariants observations = .ok ()) :
    self.step = .ok (true, { ((self.taken popped queue delivered).dispatch popped.event).1 with
      observations := observations }.sendAll
        ((self.taken popped queue delivered).dispatch popped.event).2) := by
  obtain ⟨timestamp, sequenceNumber, event⟩ := popped
  let taken := self.taken ⟨timestamp, sequenceNumber, event⟩ queue delivered
  have concluded : (taken.dispatch event).1.conclude (taken.dispatch event).2 =
      .ok ({ (taken.dispatch event).1 with observations := observations }.sendAll
        (taken.dispatch event).2) := by
    refine conclude_eq_ok ?_ checked
    rw [(dispatch_dispatched taken event).observations]
    exact recorded
  have processed : { self with eventQueue := queue, clock := timestamp }.process event =
      .ok ({ (taken.dispatch event).1 with observations := observations }.sendAll
        (taken.dispatch event).2) := by
    cases event with
    | external event =>
        cases observed
        exact concluded
    | internal event =>
        obtain ⟨recipient, msg⟩ := event
        have notDropped : ¬ (!Simulator.isOperating { self with
            eventQueue := queue
            clock := timestamp } msg.to) = true := by
          simpa [Reaches, isOperating] using up
        have observed : self.observations.recordDelivered msg = .ok delivered := by
          simpa [heard, Observations.record] using observed
        rw [process, if_neg notDropped]
        simp only [observed]
        exact concluded
  simp only [step, pops.next_eq, processed]
  rfl

end Simulator

end TwoPhaseCommit
