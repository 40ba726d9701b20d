import TwoPhaseCommit.ParticipantCalls
import TwoPhaseCommit.Simulator.Crashes
import TwoPhaseCommit.Simulator.Outcome

/-! The action log is a complete record: the calls it stands for account for the state of every
actor and for all that it sent. What holds of an actor under any calls so holds of it in every
run. -/

set_option autoImplicit false

namespace TwoPhaseCommit

/-- The call that the entry stands for at an actor that is crashed or not. -/
def LogEntry.call? (actor : ActorId) (crashed : Bool) : LogEntry → Option Call
  | .externalEvent clock .startTransaction =>
      if actor = .coordinator then some (.onMessage Simulator.startMessage clock) else none
  | .externalEvent clock (.tick other) =>
      if other = actor ∧ crashed = false then some (.tick clock) else none
  | .externalEvent clock .tickAll => if crashed = false then some (.tick clock) else none
  | .externalEvent _ (.crash _) => none
  | .externalEvent clock (.recover other) =>
      if other = actor ∧ crashed = true then some (.recover clock) else none
  | .deliver clock msg => if msg.to = actor then some (.onMessage msg clock) else none
  | .send _ _ _ | .drop _ _ => none

/-- The calls that the log stands for at the actor. -/
def callsOf (actor : ActorId) (log : List LogEntry) : List Call :=
  (log.foldl
    (fun (crashed, calls) entry =>
      ((entry.status? actor).getD crashed, calls ++ (entry.call? actor crashed).toList))
    (false, [])).2

theorem callsOf_concat (actor : ActorId) (log : List LogEntry) (entry : LogEntry) :
    callsOf actor (log ++ [entry]) =
      callsOf actor log ++ (entry.call? actor (down log actor)).toList := by
  have status : ∀ (first : Bool) (calls : List Call),
      (log.foldl (fun (crashed, calls) entry =>
        ((entry.status? actor).getD crashed, calls ++ (entry.call? actor crashed).toList))
        (first, calls)).1 =
      log.foldl (fun crashed entry => (entry.status? actor).getD crashed) first := by
    induction log with
    | nil => exact fun _ _ => rfl
    | cons head rest ih => exact fun first calls => ih _ _
  rw [callsOf, List.foldl_append, down, ← status false []]
  rfl

/-- The message that the entry hands over to the actor. -/
def LogEntry.delivered? (actor : ActorId) : LogEntry → Option Message
  | .deliver _ msg => if msg.to = actor then some msg else none
  | .externalEvent _ _ | .send _ _ _ | .drop _ _ => none

theorem message?_callsOf (node : NodeId) (log : List LogEntry) :
    (callsOf (.node node) log).filterMap Call.message? =
      log.filterMap (LogEntry.delivered? (.node node)) := by
  have one : ∀ (crashed : Bool) (entry : LogEntry),
      (entry.call? (.node node) crashed).bind Call.message? = entry.delivered? (.node node) := by
    intro crashed entry
    cases entry with
    | externalEvent clock event =>
        cases event with
        | startTransaction | crash _ => rfl
        | tick _ | tickAll | recover _ =>
            simp only [LogEntry.call?, LogEntry.delivered?]
            split <;> rfl
    | deliver clock msg =>
        simp only [LogEntry.call?, LogEntry.delivered?]
        split <;> rfl
    | send _ _ _ | drop _ _ => rfl
  induction log using List.reverseRecOn with
  | nil => rfl
  | append_singleton earlier entry ih =>
      have same := one (down earlier (.node node)) entry
      rw [callsOf_concat, List.filterMap_append, List.filterMap_append, ih]
      cases called : entry.call? (.node node) (down earlier (.node node)) with
      | none =>
          rw [called] at same
          simp [← same]
      | some call =>
          rw [called] at same
          simp [← same, List.filterMap_cons]

namespace Participant

variable {ρ : Type} [ChaCha8Rng ρ]

/-- A participant that is handed messages and nothing else. -/
def receiver : Library.Machine (Participant ρ) Message (List Message) where
  step := receive

theorem replays_receiver {origin participant : Participant ρ} {calls : List Call}
    {returned : List Message} (valid : origin.Valid)
    (replays : machine.Replays origin calls participant returned) :
    receiver.Replays origin (calls.filterMap Call.message?) participant returned := by
  apply replays.read Valid Call.message? _ _ valid
  · exact fun call valid => (next_upholds valid call).valid
  · intro state call valid
    cases call with
    | onMessage msg atTime => exact .single receiver state msg
    | tick atTime => exact .refl _ _
    | recover atTime =>
        have same : machine.next state (.recover atTime) = state := recover_eq_self valid atTime
        rw [same]
        exact .refl _ _

end Participant

namespace Simulator

variable {ρ : Type} [ChaCha8Rng ρ] {setup : Setup} {environment : Environment ρ}
  {state middle after : Simulator ρ} {event : Event} {outgoing : List Message}

def heardBy (self : Simulator ρ) (actor : ActorId) : List Message :=
  self.actionLog.filterMap (LogEntry.delivered? actor)

def sentBy (self : Simulator ρ) (actor : ActorId) : List Message :=
  self.sentMessages.filter (·.from == actor)

theorem callsOf_sendAll (self : Simulator ρ) (outgoing : List Message) (actor : ActorId) :
    callsOf actor (self.sendAll outgoing).actionLog = callsOf actor self.actionLog := by
  apply sendAll_preserves fun later : Simulator ρ =>
    callsOf actor later.actionLog = callsOf actor self.actionLog
  · intro later msg _ same
    obtain ⟨deliverAt, rng, _, enqueued⟩ := later.enqueueMessage_eq msg
    rw [enqueued, callsOf_concat]
    exact (List.append_nil _).trans same
  · rfl

/-! ## The calls of one event -/

section CallOf

variable {msg : Message} {actor : ActorId} {crashed : Bool} {clock : Nat}

omit [ChaCha8Rng ρ] in
theorem call?_of_receives (receives : coordinatorMessage? event = some msg)
    (genuine : Genuine state event) :
    (event.logEntry clock).call? .coordinator crashed = some (.onMessage msg clock) := by
  rcases coordinatorMessage?_cases receives with ⟨rfl, rfl⟩ | rfl
  · rfl
  · exact if_pos genuine.1.symm

omit [ChaCha8Rng ρ] in
private theorem call?_node_of_receives (receives : coordinatorMessage? event = some msg)
    (genuine : Genuine state event) (node : NodeId) :
    (event.logEntry clock).call? (.node node) crashed = none := by
  rcases coordinatorMessage?_cases receives with ⟨rfl, rfl⟩ | rfl
  · rfl
  · simp [Event.logEntry, LogEntry.call?, ← genuine.1]

omit [ChaCha8Rng ρ] in
private theorem call?_of_delivery {recipient : ActorId}
    (genuine : Genuine state (.internal (.deliver recipient msg))) :
    ((Event.internal (.deliver recipient msg)).logEntry clock).call? actor crashed =
      if recipient = actor then some (.onMessage msg clock) else none := by
  simp only [Event.logEntry, LogEntry.call?, genuine.1]

theorem call?_of_tick {external : ExternalEvent}
    (kind : external = .tick .coordinator ∨ external = .tickAll) :
    ((Event.external external).logEntry clock).call? .coordinator crashed =
      if crashed = false then some (.tick clock) else none := by
  rcases kind with rfl | rfl <;> simp [Event.logEntry, LogEntry.call?]

private theorem call?_of_recover {recovered : ActorId} :
    ((Event.external (.recover recovered)).logEntry clock).call? actor crashed =
      if recovered = actor ∧ crashed = true then some (.recover clock) else none := rfl

end CallOf

/-! ## One event -/

private theorem filter_sender_eq_self {sender : ActorId}
    (sent : ∀ msg ∈ outgoing, msg.from = sender) :
    outgoing.filter (·.from == sender) = outgoing := by
  rw [List.filter_eq_self]
  exact fun msg listed => beq_iff_eq.mpr (sent msg listed)

private theorem filter_sender_eq_nil {sender actor : ActorId} (different : sender ≠ actor)
    (sent : ∀ msg ∈ outgoing, msg.from = sender) : outgoing.filter (·.from == actor) = [] := by
  rw [List.filter_eq_nil_iff]
  intro msg listed same
  exact different ((sent msg listed).symm.trans (beq_iff_eq.mp same))

/-- The call of the coordinator in an event, if there is one. -/
theorem Dispatched.replays_coordinator (dispatched : Dispatched state event middle outgoing)
    (genuine : Genuine state event) :
    Coordinator.machine.Replays state.coordinator
      ((event.logEntry state.clock).call? .coordinator (!state.isOperating .coordinator)).toList
      middle.coordinator (outgoing.filter (·.from == .coordinator)) := by
  cases dispatched with
  | @coordinatorReceives _ msg receives =>
      have called := Coordinator.machine_called state.coordinator (.onMessage msg state.clock)
      have only : (state.coordinator.onMessage msg state.clock).2.filter
          (·.from == .coordinator) = (state.coordinator.onMessage msg state.clock).2 :=
        filter_sender_eq_self called.batched.from
      rw [call?_of_receives receives genuine, only]
      exact .single _ _ _
  | coordinatorTicks kind up =>
      have called := Coordinator.machine_called state.coordinator (.tick state.clock)
      have only : (state.coordinator.tick state.clock).2.filter (·.from == .coordinator) =
          (state.coordinator.tick state.clock).2 :=
        filter_sender_eq_self called.batched.from
      rw [call?_of_tick kind, only, up]
      exact .single _ _ _
  | rests kind down =>
      rw [call?_of_tick kind, down]
      exact .refl _ _
  | @participantReceives node msg participant found =>
      have sender := (participant.onMessage_received msg state.clock).from
      rw [call?_of_delivery genuine, filter_sender_eq_nil _ sender]
      · exact .refl _ _
      · exact fun same => by cases same
  | nobodyReceives _ =>
      rw [call?_of_delivery genuine]
      exact .refl _ _
  | coordinatorRecovers down =>
      rw [call?_of_recover, down]
      exact .single _ _ _
  | nodeTicks | crashes | participantRecovers _ _ =>
      simp only [Event.logEntry, LogEntry.call?, reduceCtorEq, false_and, ↓reduceIte]
      exact .refl _ _
  | @staysUp actor up =>
      rw [call?_of_recover, if_neg]
      · exact .refl _ _
      · rintro ⟨rfl, down⟩
        rcases up with up | ⟨node, same, _⟩
        · simp [up] at down
        · cases same

/-- A tick is a call of a participant that changes nothing. -/
private theorem replays_ticks (participant : Participant ρ) {call? : Option Call}
    (idle : ∀ call ∈ call?, ∃ atTime, call = .tick atTime) :
    Participant.machine.Replays participant call?.toList participant [] := by
  cases call? with
  | none => exact .refl _ _
  | some call =>
      obtain ⟨atTime, rfl⟩ := idle call rfl
      exact .single _ _ _

private theorem tick_of_call {node : NodeId} {crashed : Bool} {external : ExternalEvent}
    {clock : Nat} (kind : (∃ actor, external = .tick actor) ∨ external = .tickAll) :
    ∀ call ∈ ((Event.external external).logEntry clock).call? (.node node) crashed,
      ∃ atTime, call = .tick atTime := by
  intro call made
  rcases kind with ⟨actor, rfl⟩ | rfl <;>
    simp only [Event.logEntry, LogEntry.call?, Option.mem_def, Option.ite_none_right_eq_some]
      at made
  · exact ⟨clock, (Option.some.inj made.2).symm⟩
  · exact ⟨clock, (Option.some.inj made.2).symm⟩

section Participants

variable {node other : NodeId} {participant recipient : Participant ρ} {crashed : Bool}

/-- Messages of the coordinator are not those of a participant. -/
private theorem filter_of_called {call : Call} {self later : Coordinator ρ}
    (called : Coordinator.Called self call later outgoing) (node : NodeId) :
    outgoing.filter (·.from == .node node) = [] :=
  filter_sender_eq_nil (fun same => by cases same) called.batched.from

/-- The participant to which a message is delivered is called, any other is not. -/
private theorem replays_delivery {msg : Message} (id : recipient.id = other)
    (here : state.participants[other]? = some recipient)
    (found : state.participants[node]? = some participant)
    (genuine : Genuine state (.internal (.deliver (.node other) msg))) :
    ∃ later, (state.participants.insert other
        (recipient.onMessage msg state.clock).1)[node]? = some later ∧
      Participant.machine.Replays participant
        (((Event.internal (.deliver (.node other) msg)).logEntry state.clock).call? (.node node)
          crashed).toList later
        ((recipient.onMessage msg state.clock).2.filter (·.from == .node node)) := by
  have sender := (recipient.onMessage_received msg state.clock).from
  rw [id] at sender
  rw [Library.OrderedMap.getElem?_insert, call?_of_delivery genuine]
  by_cases same : node = other
  · subst same
    obtain rfl := Option.some.inj (found.symm.trans here)
    rw [if_pos rfl, if_pos rfl, filter_sender_eq_self sender]
    exact ⟨_, rfl, .single _ _ _⟩
  · have different : ActorId.node other ≠ .node node := by simpa [eq_comm] using same
    rw [if_neg same, if_neg different, filter_sender_eq_nil different sender]
    exact ⟨participant, found, .refl _ _⟩

/-- The participant that recovers is called, any other is not. -/
private theorem replays_recovery (here : state.participants[other]? = some recipient)
    (down : state.isOperating (.node other) = false)
    (found : state.participants[node]? = some participant) :
    ∃ later, (state.participants.insert other (recipient.recover state.clock))[node]? =
        some later ∧
      Participant.machine.Replays participant
        (((Event.external (.recover (.node other))).logEntry state.clock).call? (.node node)
          (!state.isOperating (.node node))).toList later [] := by
  rw [Library.OrderedMap.getElem?_insert, call?_of_recover]
  by_cases same : node = other
  · subst same
    obtain rfl := Option.some.inj (found.symm.trans here)
    rw [if_pos rfl, down, Bool.not_false, if_pos ⟨rfl, rfl⟩]
    exact ⟨_, rfl, .single _ _ _⟩
  · rw [if_neg same, if_neg]
    · exact ⟨participant, found, .refl _ _⟩
    · exact fun both => same (ActorId.node.inj both.1).symm

/-- The call of a participant in an event, if there is one. -/
theorem Dispatched.replays_participant (dispatched : Dispatched state event middle outgoing)
    (staffed : Staffed setup state) (genuine : Genuine state event)
    (found : state.participants[node]? = some participant) :
    ∃ later, middle.participants[node]? = some later ∧ Participant.machine.Replays participant
      ((event.logEntry state.clock).call? (.node node) (!state.isOperating (.node node))).toList
      later (outgoing.filter (·.from == .node node)) := by
  cases dispatched with
  | @coordinatorReceives _ msg receives =>
      have called := Coordinator.machine_called state.coordinator (.onMessage msg state.clock)
      have others : (state.coordinator.onMessage msg state.clock).2.filter
          (·.from == .node node) = [] := filter_of_called called node
      rw [call?_node_of_receives receives genuine, others]
      exact ⟨participant, found, .refl _ _⟩
  | coordinatorTicks kind up =>
      have called := Coordinator.machine_called state.coordinator (.tick state.clock)
      have others : (state.coordinator.tick state.clock).2.filter (·.from == .node node) = [] :=
        filter_of_called called node
      rw [others]
      exact ⟨participant, found, replays_ticks _
        (tick_of_call (kind.imp_left fun same => ⟨_, same⟩))⟩
  | rests kind _ =>
      exact ⟨participant, found, replays_ticks _
        (tick_of_call (kind.imp_left fun same => ⟨_, same⟩))⟩
  | nodeTicks =>
      exact ⟨participant, found, replays_ticks _ (tick_of_call (.inl ⟨_, rfl⟩))⟩
  | participantReceives here =>
      exact replays_delivery (staffed.participant here).id here found genuine
  | @nobodyReceives receiver msg absent =>
      have different : ActorId.node receiver ≠ .node node := by
        intro same
        cases same
        cases absent.symm.trans found
      rw [call?_of_delivery genuine, if_neg different]
      exact ⟨participant, found, .refl _ _⟩
  | crashes => exact ⟨participant, found, .refl _ _⟩
  | coordinatorRecovers _ =>
      rw [call?_of_recover, if_neg (by simp)]
      exact ⟨participant, found, .refl _ _⟩
  | participantRecovers down here => exact replays_recovery here down found
  | @staysUp actor up =>
      rw [call?_of_recover, if_neg]
      · exact ⟨participant, found, .refl _ _⟩
      · rintro ⟨rfl, down⟩
        rcases up with up | ⟨other, same, absent⟩
        · simp [up] at down
        · cases same
          cases absent.symm.trans found

end Participants

/-! ## Runs -/

/-- The log accounts for the state of every actor and for what it sent. -/
structure Replayed (setup : Setup) (state : Simulator ρ) : Prop where
  isOperating : ∀ actor, state.isOperating actor = !down state.actionLog actor
  coordinator : Coordinator.machine.Replays setup.simulator.coordinator
    (callsOf .coordinator state.actionLog) state.coordinator (state.sentBy .coordinator)
  participant : ∀ {node : NodeId} {origin : Participant ρ},
    setup.simulator.participants[node]? = some origin →
      ∃ participant, state.participants[node]? = some participant ∧
        Participant.machine.Replays origin (callsOf (.node node) state.actionLog) participant
          (state.sentBy (.node node))

theorem Stepped.replayed (stepped : Stepped state after) (consistent : Consistent setup state)
    (tracked : Tracked after) (replayed : Replayed setup state) : Replayed setup after := by
  have isOperating := tracked.isOperating_eq
  cases stepped with
  | @drops popped queue recipient msg pops kind crashed =>
      have calls : ∀ actor, callsOf actor (state.actionLog ++ [.drop popped.timestamp msg]) =
          callsOf actor state.actionLog := by
        intro actor
        rw [callsOf_concat]
        exact List.append_nil _
      have sent : ∀ actor, ({ state with
          eventQueue := queue
          clock := popped.timestamp
          actionLog := state.actionLog ++ [.drop popped.timestamp msg] } : Simulator ρ).sentBy
            actor = state.sentBy actor := by
        intro actor
        simp [sentBy, sentMessages, LogEntry.sent?]
      refine ⟨isOperating, ?_, fun {node origin} created => ?_⟩
      · rw [calls, sent]
        exact replayed.coordinator
      · obtain ⟨participant, found, replays⟩ := replayed.participant created
        rw [calls, sent]
        exact ⟨participant, found, replays⟩
  | @handles popped queue delivered observations middle outgoing pops _ dispatched =>
      obtain ⟨staffed, _, genuine⟩ := consistent.taken pops delivered
      have log : middle.actionLog =
          state.actionLog ++ [popped.event.logEntry popped.timestamp] := dispatched.actionLog
      have calls : ∀ actor, callsOf actor
          ({ middle with observations := observations }.sendAll outgoing).actionLog =
          callsOf actor state.actionLog ++
            ((popped.event.logEntry popped.timestamp).call? actor
              (!state.isOperating actor)).toList := by
        intro actor
        rw [callsOf_sendAll, replayed.isOperating, Bool.not_not, ← callsOf_concat, ← log]
      have sent : ∀ actor,
          ({ middle with observations := observations }.sendAll outgoing).sentBy actor =
            state.sentBy actor ++ outgoing.filter (·.from == actor) := by
        intro actor
        have before : middle.sentMessages = state.sentMessages :=
          dispatched.sentMessages.trans (sentMessages_taken state popped queue delivered)
        unfold sentBy
        rw [sendAll_sentMessages, List.filter_append, ← before]
        rfl
      refine ⟨isOperating, ?_, fun {node origin} created => ?_⟩
      · rw [calls, sent, sendAll_coordinator]
        exact replayed.coordinator.append (dispatched.replays_coordinator genuine)
      · obtain ⟨participant, found, replays⟩ := replayed.participant created
        obtain ⟨later, there, resumes⟩ := dispatched.replays_participant staffed genuine found
        rw [calls, sent, sendAll_participants]
        exact ⟨later, there, replays.append resumes⟩

theorem Replayed.next (replayed : Replayed setup state) (consistent : Consistent setup state)
    (tracked : Tracked state) (next : Next environment state after) : Replayed setup after := by
  have later := tracked.next next
  cases next with
  | enqueueExternal _ | injectProbe _ =>
      exact ⟨later.isOperating_eq, replayed.coordinator, replayed.participant⟩
  | step success =>
      obtain ⟨_, _, rfl⟩ | ⟨_, stepped⟩ := step_stepped success
      · exact replayed
      · exact stepped.replayed consistent later replayed

theorem simulator_replayed : Replayed setup (setup.simulator (ρ := ρ)) where
  isOperating := simulator_tracked.isOperating_eq
  coordinator := .refl _ _
  participant := fun {_ origin} created => ⟨origin, created, .refl _ _⟩

theorem replayed_invariant (setup : Setup) (environment : Environment ρ) :
    (system setup environment).Invariant fun state =>
      Consistent setup state ∧ Tracked state ∧ Replayed setup state where
  initial := by
    intro state same
    subst same
    exact ⟨simulator_consistent, simulator_tracked, simulator_replayed⟩
  next {state after} holds next := by
    obtain ⟨consistent, tracked, replayed⟩ := holds
    exact ⟨(next.refines consistent).1, tracked.next next,
      replayed.next consistent tracked next⟩

/-- Replaying the log gives back every actor and every message that it sent, in order. -/
theorem replay (reachable : (system setup environment).Reachable state) :
    Replayed setup state :=
  ((replayed_invariant setup environment).reachable reachable).2.2

theorem replay_unanimous : ∃ state : Simulator ForcedRng,
    state.coordinator.phase = .done .commit ∧
      state.coordinator = Coordinator.machine.run Setup.unanimous.simulator.coordinator
        (callsOf .coordinator state.actionLog) := by
  have ended : runEndsIn (ρ := ForcedRng) .unanimous
      [(.startTransaction, 0), (.crash .coordinator, 1), (.recover .coordinator, 3), (.tickAll, 9)]
      40 (fun state => decide (state.coordinator.phase = .done .commit)) = true := by
    decide +kernel
  obtain ⟨state, reachable, finished⟩ := reachable_of_runEndsIn ended
  exact ⟨state, of_decide_eq_true finished, (replay reachable).coordinator.state⟩

/-! ## What a participant knows -/

section Determined

variable {left right : Setup} {leftEnvironment rightEnvironment : Environment ρ}
  {leftState rightState : Simulator ρ}

/-- A participant is what the messages delivered to it make of it. -/
theorem Replayed.receives (replayed : Replayed setup state) {node : NodeId}
    {origin : Participant ρ} (created : setup.simulator.participants[node]? = some origin) :
    ∃ participant, state.participants[node]? = some participant ∧
      Participant.receiver.Replays origin (state.heardBy (.node node)) participant
        (state.sentBy (.node node)) := by
  obtain ⟨participant, found, replays⟩ := replayed.participant created
  have valid : origin.Valid := (simulator_staffed.participant created).valid
  have receives := Participant.replays_receiver valid replays
  rw [message?_callsOf] at receives
  exact ⟨participant, found, receives⟩

/-- Whatever else differs between two runs: a participant to which the same messages were
delivered in the same order is in the same state and has sent the same messages. -/
theorem participant_determined (nodes : left.nParticipants = right.nParticipants)
    (seed : left.seed = right.seed)
    (bias : left.participantAbortBias = right.participantAbortBias)
    (leftReachable : (system left leftEnvironment).Reachable leftState)
    (rightReachable : (system right rightEnvironment).Reachable rightState) {node : NodeId}
    (heard : leftState.heardBy (.node node) = rightState.heardBy (.node node))
    {participant : Participant ρ} (found : leftState.participants[node]? = some participant) :
    rightState.participants[node]? = some participant ∧
      leftState.sentBy (.node node) = rightState.sentBy (.node node) := by
  have same := simulator_participants_eq (ρ := ρ) nodes seed bias
  have ours := consistent_of_reachable leftReachable
  obtain ⟨origin, created⟩ :=
    (simulator_consistent (ρ := ρ)).exists_participant (ours.mem_nodes found)
  obtain ⟨_, there, first⟩ := (replay leftReachable).receives created
  cases found.symm.trans there
  obtain ⟨other, here, second⟩ := (replay rightReachable).receives (same ▸ created)
  rw [← heard] at second
  refine ⟨?_, first.returned.trans second.returned.symm⟩
  rw [here, first.state, second.state]

/-- A crash and a recovery between two messages go unnoticed. -/
theorem participant_determined_unanimous : ∃ left right : Simulator ForcedRng,
    .externalEvent 2 (.crash (.node ⟨0⟩)) ∉ left.actionLog ∧
      .externalEvent 2 (.crash (.node ⟨0⟩)) ∈ right.actionLog ∧
      left.sentBy (.node ⟨0⟩) = right.sentBy (.node ⟨0⟩) := by
  have smooth : runEndsIn (ρ := ForcedRng) .unanimous [(.startTransaction, 0)] 20 (fun state =>
      decide (.externalEvent 2 (.crash (.node ⟨0⟩)) ∉ state.actionLog) &&
      decide (state.heardBy (.node ⟨0⟩) = [.prepare ⟨0⟩, .decision ⟨0⟩ .commit]) &&
      (state.participants[(⟨0⟩ : NodeId)]?).isSome) = true := by
    decide +kernel
  have rough : runEndsIn (ρ := ForcedRng) .unanimous
      [(.startTransaction, 0), (.crash (.node ⟨0⟩), 2), (.recover (.node ⟨0⟩), 3)] 20 (fun state =>
      decide (.externalEvent 2 (.crash (.node ⟨0⟩)) ∈ state.actionLog) &&
      decide (state.heardBy (.node ⟨0⟩) = [.prepare ⟨0⟩, .decision ⟨0⟩ .commit])) = true := by
    decide +kernel
  obtain ⟨left, leftReachable, passed⟩ := reachable_of_runEndsIn smooth
  obtain ⟨right, rightReachable, crashed⟩ := reachable_of_runEndsIn rough
  simp only [Bool.and_eq_true, decide_eq_true_eq] at passed crashed
  obtain ⟨⟨absent, first⟩, present⟩ := passed
  obtain ⟨participant, found⟩ := Option.isSome_iff_exists.mp present
  exact ⟨left, right, absent, crashed.1, (participant_determined rfl rfl rfl leftReachable
    rightReachable (first.trans crashed.2.symm) found).2⟩

end Determined

end Simulator

end TwoPhaseCommit
