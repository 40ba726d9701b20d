import TwoPhaseCommit.Simulator.Log

/-! How long a transaction takes while no actor crashes. Every message is due within the
longest delay for each message of the exchange up to it, so no tick is needed for the
outcome to be known in time. -/

set_option autoImplicit false

namespace TwoPhaseCommit

open Protocol

/-- The longest that a message is under way. -/
def Setup.latency (setup : Setup) : Nat := max 1 setup.deliveryDelay.stop

/-- When a message of an exchange that began at the start is due. -/
def Setup.deadline (setup : Setup) (start : Nat) (msg : Message) : Nat :=
  start + msg.messageType.stage * setup.latency

/-- The time of a StartTransaction. -/
def LogEntry.start? : LogEntry → Option Nat
  | .externalEvent clock .startTransaction => some clock
  | .externalEvent _ _ | .deliver _ _ | .send _ _ _ | .drop _ _ => none

private theorem MessageType.vote_of_stage {type : MessageType} (stage : type.stage = 2) :
    ∃ vote : Vote, type = vote.messageType := by
  cases type with
  | voteCommit => exact ⟨.commit, rfl⟩
  | voteAbort => exact ⟨.abort, rfl⟩
  | startTransaction | prepare | decisionCommit | decisionAbort | ack => cases stage

private theorem MessageType.ack_of_stage {type : MessageType} (stage : type.stage = 4) :
    type = .ack := by
  cases type with
  | ack => rfl
  | startTransaction | prepare | voteCommit | voteAbort | decisionCommit | decisionAbort =>
      cases stage

/-- The phases that ask come two messages of the exchange apart. -/
theorem CoordinatorPhase.stage_of_asks {phase : CoordinatorPhase} {type : MessageType}
    (asked : phase.asks type = true) :
    (phase.rank = 1 ∨ phase.rank = 3) ∧ 4 ≤ type.stage + phase.rank ∧
      type.stage + phase.rank ≤ 5 := by
  cases phase <;> cases type <;> first
    | exact absurd asked Bool.false_ne_true
    | simp [rank, MessageType.stage]

theorem CoordinatorPhase.stage_lt_of_asks {phase later : CoordinatorPhase}
    {type next : MessageType} (asked : phase.asks type = true) (asks : later.asks next = true)
    (advanced : later.rank < phase.rank) : type.stage < next.stage := by
  have before := stage_of_asks asked
  have after := stage_of_asks asks
  omega

theorem CoordinatorPhase.stage_pos_of_asks {phase : CoordinatorPhase} {type : MessageType}
    (asked : phase.asks type = true) : 0 < type.stage := by
  have bounds := stage_of_asks asked
  omega

namespace Coordinator

variable {ρ : Type} [ChaCha8Rng ρ] {self : Coordinator ρ}

omit [ChaCha8Rng ρ] in
/-- A coordinator that is neither done nor waiting to be started asks someone. -/
theorem Awaited.exists_asked {inFlight : Message → Prop} (awaited : Awaited self inFlight)
    (valid : self.Valid) (managed : self.nodes ≠ []) (nodup : self.nodes.Nodup)
    (busy : self.isQuiescent = false) :
    ∃ msg, inFlight msg ∧ self.phase.asks msg.messageType = true := by
  by_contra nobody
  have nothing : Awaited self fun _ => False :=
    awaited.imp fun msg sent asked => nobody ⟨msg, sent, asked⟩
  rw [nothing.quiescent valid managed nodup] at busy
  cases busy

omit [ChaCha8Rng ρ] in
theorem busy_of_advances {after : Coordinator ρ} (begun : self.phase ≠ .waiting)
    (advanced : after.phase.rank < self.phase.rank) : self.isQuiescent = false := by
  unfold isQuiescent
  cases phase : self.phase with
  | waiting => exact absurd phase begun
  | done _ =>
      rw [phase] at advanced
      cases advanced
  | voting _ _ | decided _ | awaitingAcks _ _ _ => rfl

end Coordinator

namespace Simulator

variable {ρ : Type} [ChaCha8Rng ρ] {setup : Setup} {environment : Environment ρ}
  {state middle after : Simulator ρ} {event : Event} {outgoing : List Message}

/-! ## The delay of a message -/

@[simp] theorem sendAll_deliveryDelay (self : Simulator ρ) (messages : List Message) :
    (self.sendAll messages).deliveryDelay = self.deliveryDelay := by
  induction messages generalizing self with
  | nil => rfl
  | cons msg rest ih => exact ih (self.enqueueMessage msg)

theorem Dispatched.deliveryDelay (dispatched : Dispatched state event middle outgoing) :
    middle.deliveryDelay = state.deliveryDelay := by
  cases dispatched <;> rfl

theorem enqueueMessage_prompt [BoundedChaCha8Rng ρ] (self : Simulator ρ) (msg : Message) :
    ∃ deliverAt ≤ self.clock + max 1 self.deliveryDelay.stop,
      (self.enqueueMessage msg).eventQueue = self.eventQueue.insert deliverAt msg.delivery := by
  have delay : (if !self.deliveryDelay.isEmpty then
      ChaCha8Rng.randomRange self.rng self.deliveryDelay.start self.deliveryDelay.stop
      else (0, self.rng)).1 < max 1 self.deliveryDelay.stop := by
    split
    · rename_i possible
      simp only [DelayRange.isEmpty, Bool.not_not, decide_eq_true_eq] at possible
      have drawn := BoundedChaCha8Rng.randomRange_lt self.rng possible
      omega
    · exact Nat.lt_of_lt_of_le Nat.zero_lt_one (Nat.le_max_left _ _)
  refine ⟨_, ?_, rfl⟩
  rw [Nat.add_assoc, Nat.add_comm 1]
  exact Nat.add_le_add_left delay self.clock

theorem sendAll_prompt [BoundedChaCha8Rng ρ] (self : Simulator ρ) {msg : Message}
    (sent : msg ∈ outgoing) : ∃ item ∈ (self.sendAll outgoing).eventQueue.pending,
      item.event = msg.delivery ∧
        item.timestamp ≤ self.clock + max 1 self.deliveryDelay.stop := by
  induction outgoing generalizing self with
  | nil => cases sent
  | cons first rest ih =>
      rcases List.mem_cons.mp sent with rfl | later
      · obtain ⟨deliverAt, bound, inserted⟩ := self.enqueueMessage_prompt msg
        refine ⟨⟨deliverAt, self.eventQueue.nextSequenceNumber, msg.delivery⟩, ?_, rfl, bound⟩
        apply pending_subset_sendAll (self.enqueueMessage msg) rest
        rw [inserted, EventQueue.pending_insert]
        exact .head _
      · exact ih (self.enqueueMessage first) later

/-! ## What is due -/

/-- When the transaction was started, according to the log. -/
def startedAt? (state : Simulator ρ) : Option Nat :=
  state.actionLog.findSome? LogEntry.start?

/-- The message arrives by its limit. -/
def DueBy (limit : Message → Nat) (state : Simulator ρ) (msg : Message) : Prop :=
  ∃ item ∈ state.eventQueue.pending,
    (∃ recipient, item.event = .internal (.deliver recipient msg)) ∧
    item.timestamp ≤ limit msg

/-- Everything that was due by the time has been processed. -/
def Elapsed (time : Nat) (state : Simulator ρ) : Prop :=
  ∀ item ∈ state.eventQueue.pending, time < item.timestamp

omit [ChaCha8Rng ρ] in
theorem DueBy.inFlight {limit : Message → Nat} {msg : Message} (due : DueBy limit state msg) :
    state.InFlight msg := by
  obtain ⟨item, queued, delivers, _⟩ := due
  exact ⟨item, queued, delivers⟩

/-- What holds throughout a run without crashes, with the times. -/
structure Prompt (setup : Setup) (state : Simulator ρ) : Prop extends
    Undisturbed setup state where
  deliveryDelay : state.deliveryDelay = setup.deliveryDelay
  underWay : state.coordinator.phase ≠ .waiting → ∃ start, state.startedAt? = some start ∧
    state.coordinator.Awaited (DueBy (setup.deadline start) state)

omit [ChaCha8Rng ρ] in
theorem startedAt?_eq_none (unstarted : ¬ state.Started) : state.startedAt? = none := by
  rw [startedAt?, List.findSome?_eq_none_iff]
  intro entry listed
  cases entry with
  | externalEvent clock event =>
      cases event with
      | startTransaction => exact absurd ⟨clock, listed⟩ unstarted
      | tick _ | tickAll | crash _ | recover _ => rfl
  | deliver _ _ | send _ _ _ | drop _ _ => rfl

theorem sendAll_startedAt? (self : Simulator ρ) (messages : List Message) :
    (self.sendAll messages).startedAt? = self.startedAt? := by
  induction messages generalizing self with
  | nil => rfl
  | cons msg rest ih =>
      refine (ih (self.enqueueMessage msg)).trans ?_
      simp [startedAt?, enqueueMessage, List.findSome?_append, LogEntry.start?]

omit [ChaCha8Rng ρ] in
theorem DueBy.pops {limit : Message → Nat} {popped : TimestampedEvent} {queue : EventQueue}
    {msg : Message} (pops : state.eventQueue.Pops popped queue) (due : DueBy limit state msg) :
    (∃ recipient, popped.event = .internal (.deliver recipient msg)) ∨
      DueBy limit { state with eventQueue := queue } msg := by
  obtain ⟨item, queued, delivers, bound⟩ := due
  rcases pops.eq_or_mem queued with rfl | remains
  · exact .inl delivers
  · exact .inr ⟨item, remains, delivers, bound⟩

omit [ChaCha8Rng ρ] in
/-- No event is processed after a message that is queued is due. -/
theorem DueBy.le {limit : Message → Nat} {popped : TimestampedEvent} {queue : EventQueue}
    {msg : Message} (due : DueBy limit state msg) (pops : state.eventQueue.Pops popped queue) :
    popped.timestamp ≤ limit msg := by
  obtain ⟨item, queued, _, bound⟩ := due
  have notBefore := pops.not_precedes queued
  exact Nat.le_trans (Nat.le_of_not_lt fun before => notBefore (.inl before)) bound

omit [ChaCha8Rng ρ] in
/-- What is due has time for one more delay before any later message of the exchange is due. -/
private theorem DueBy.later {start : Nat} {asked msg : Message}
    (due : DueBy (setup.deadline start) state asked) {popped : TimestampedEvent}
    {queue : EventQueue} (pops : state.eventQueue.Pops popped queue)
    (earlier : asked.messageType.stage < msg.messageType.stage) :
    popped.timestamp + setup.latency ≤ setup.deadline start msg := by
  have first := due.le pops
  have stages := Nat.mul_le_mul_right setup.latency (Nat.succ_le_of_lt earlier)
  rw [Nat.succ_mul] at stages
  unfold Setup.deadline at *
  omega

/-- Only a StartTransaction takes the coordinator out of `waiting`. -/
theorem Dispatched.starts (dispatched : Dispatched state event middle outgoing)
    (sound : Sound (setup.policy ρ) state.view) (genuine : Genuine state event)
    (operating : ∀ actor, state.isOperating actor = true)
    (waiting : state.coordinator.phase = .waiting)
    (begun : middle.coordinator.phase ≠ .waiting) : event = .external .startTransaction := by
  cases dispatched with
  | coordinatorReceives receives =>
      rcases coordinatorMessage?_cases receives with ⟨same, _⟩ | rfl
      · exact same
      · have formed := sound.wellFormed _ genuine.2
        rw [Coordinator.onMessage_of_waiting waiting formed.ne_start] at begun
        exact absurd waiting begun
  | coordinatorTicks kind _ =>
      have idle : state.coordinator.tick state.clock = (state.coordinator, []) := by
        simp only [Coordinator.tick, waiting]
      rw [idle] at begun
      exact absurd waiting begun
  | coordinatorRecovers down => cases (operating _).symm.trans down
  | nodeTicks | rests _ _ | crashes | participantReceives _ | nobodyReceives _
  | participantRecovers _ _ | staysUp _ => exact absurd waiting begun

/-- The message is due by its limit, or sent now with a delay to spare. -/
def DueOnceSent (setup : Setup) (limit : Message → Nat) (state : Simulator ρ)
    (outgoing : List Message) (msg : Message) : Prop :=
  DueBy limit state msg ∨ msg ∈ outgoing ∧ state.clock + setup.latency ≤ limit msg

theorem DueOnceSent.sendAll [BoundedChaCha8Rng ρ] {limit : Message → Nat} {msg : Message}
    (due : DueOnceSent setup limit state outgoing msg)
    (deliveryDelay : state.deliveryDelay = setup.deliveryDelay) :
    DueBy limit (state.sendAll outgoing) msg := by
  rcases due with ⟨item, queued, delivers, bound⟩ | ⟨sent, bound⟩
  · exact ⟨item, pending_subset_sendAll _ _ queued, delivers, bound⟩
  · obtain ⟨item, queued, delivery, prompt⟩ := state.sendAll_prompt sent
    rw [deliveryDelay] at prompt
    exact ⟨item, queued, ⟨_, delivery⟩, Nat.le_trans prompt bound⟩

theorem Undisturbed.exists_asked (undisturbed : Undisturbed setup state)
    {inFlight : Message → Prop} (participants : 1 ≤ setup.nParticipants)
    (awaited : state.coordinator.Awaited inFlight)
    (busy : state.coordinator.isQuiescent = false) :
    ∃ msg, inFlight msg ∧ state.coordinator.phase.asks msg.messageType = true := by
  apply awaited.exists_asked undisturbed.valid _ _ busy
  · rw [undisturbed.nodes]
    exact nodes_ne_nil participants
  · rw [undisturbed.nodes]
    exact nodes_nodup setup

/-- The event that starts the transaction sets its exchange out in time. -/
private theorem Dispatched.sets_out
    (dispatched : Dispatched state event middle outgoing) (staffed : Staffed setup state)
    (sound : Sound (setup.policy ρ) state.view) (genuine : Genuine state event)
    (operating : ∀ actor, state.isOperating actor = true)
    (waiting : state.coordinator.phase = .waiting) :
    middle.coordinator.Awaited
      (DueOnceSent setup (setup.deadline state.clock) middle outgoing) := by
  have nothing : state.coordinator.Awaited fun _ => False := by
    constructor
    · rw [waiting]
      exact fun _ => nofun
    · rw [waiting]
      exact fun _ _ => nofun
  have spread := dispatched.exchange staffed sound genuine operating nothing
    fun _ never => .inr never
  refine spread.imp fun msg sent asked => ?_
  rcases sent with never | ⟨listed, _⟩
  · exact never.elim
  · have later := Nat.mul_le_mul_right setup.latency (CoordinatorPhase.stage_pos_of_asks asked)
    refine .inr ⟨listed, ?_⟩
    rw [dispatched.clock, Setup.deadline]
    omega

/-- Every other event is processed before the exchange that is under way is late. -/
theorem Dispatched.keeps_up {start : Nat}
    {popped : TimestampedEvent} {queue : EventQueue} {delivered : Observations}
    (dispatched : Dispatched (state.taken popped queue delivered) popped.event middle outgoing)
    (undisturbed : Undisturbed setup state) (participants : 1 ≤ setup.nParticipants)
    (pops : state.eventQueue.Pops popped queue) (begun : state.coordinator.phase ≠ .waiting)
    (awaited : state.coordinator.Awaited (DueBy (setup.deadline start) state)) :
    middle.coordinator.Awaited (DueOnceSent setup (setup.deadline start) middle outgoing) := by
  obtain ⟨staffed, sound, genuine⟩ := undisturbed.toConsistent.taken pops delivered
  have operating := undisturbed.nobodyCrashes.operating
  have spread := dispatched.exchange staffed sound genuine operating awaited
    fun msg => DueBy.pops pops
  have rest : middle.eventQueue = queue := dispatched.eventQueue
  have clock : middle.clock = popped.timestamp := dispatched.clock
  refine spread.imp fun msg sent asked => ?_
  rcases sent with ⟨item, queued, due⟩ | ⟨listed, earlier⟩
  · exact .inl ⟨item, rest ▸ queued, due⟩
  · refine .inr ⟨listed, ?_⟩
    rw [clock]
    rcases earlier with advanced | ⟨question, due, _, next⟩
    · obtain ⟨question, due, asks⟩ := undisturbed.exists_asked participants awaited
        (Coordinator.busy_of_advances begun advanced)
      exact due.later pops (CoordinatorPhase.stage_lt_of_asks asks asked advanced)
    · exact due.later pops (by omega)

theorem Dispatched.logs_start {popped : TimestampedEvent} {queue : EventQueue}
    {delivered : Observations}
    (dispatched : Dispatched (state.taken popped queue delivered) popped.event middle outgoing)
    (observations : Observations) :
    ({ middle with observations := observations }.sendAll outgoing).startedAt? =
      state.startedAt?.or ((popped.event.logEntry popped.timestamp).start?) := by
  have log : middle.actionLog = state.actionLog ++ [popped.event.logEntry popped.timestamp] :=
    dispatched.actionLog
  rw [sendAll_startedAt?, startedAt?, log, List.findSome?_append, startedAt?,
    List.findSome?_singleton]

theorem Stepped.prompt [BoundedChaCha8Rng ρ] (stepped : Stepped state after)
    (participants : 1 ≤ setup.nParticipants) (prompt : Prompt setup state)
    (undisturbed : Undisturbed setup after) : Prompt setup after := by
  cases stepped with
  | drops _ _ down => cases (prompt.nobodyCrashes.operating _).symm.trans down
  | @handles popped queue delivered observations middle outgoing pops _ dispatched =>
      have delay : middle.deliveryDelay = setup.deliveryDelay :=
        dispatched.deliveryDelay.trans prompt.deliveryDelay
      refine ⟨undisturbed, ?_, fun begun => ?_⟩
      · rw [sendAll_deliveryDelay]
        exact delay
      · obtain ⟨staffed, sound, genuine⟩ := prompt.toConsistent.taken pops delivered
        have operating := prompt.nobodyCrashes.operating
        have sent : ∀ {start : Nat},
            middle.coordinator.Awaited (DueOnceSent setup (setup.deadline start) middle outgoing) →
              middle.coordinator.Awaited (DueBy (setup.deadline start)
                ({ middle with observations := observations }.sendAll outgoing)) :=
          fun awaited => awaited.mono fun msg due => DueOnceSent.sendAll due delay
        have log := dispatched.logs_start observations
        rw [sendAll_coordinator] at begun ⊢
        by_cases waiting : state.coordinator.phase = .waiting
        · have start := dispatched.starts sound genuine operating waiting begun
          have unstarted : ¬ state.Started := fun started => prompt.begun started waiting
          rw [startedAt?_eq_none unstarted, start] at log
          have awaited := dispatched.sets_out staffed sound genuine operating waiting
          exact ⟨popped.timestamp, log, sent awaited⟩
        · obtain ⟨start, started, awaited⟩ := prompt.underWay waiting
          rw [started] at log
          have later := dispatched.keeps_up prompt.toUndisturbed participants pops waiting awaited
          exact ⟨start, log, sent later⟩

theorem prompt_invariant [BoundedChaCha8Rng ρ] (participants : 1 ≤ setup.nParticipants) :
    (system setup (crashFree (ρ := ρ))).Invariant (Prompt setup) where
  initial := by
    intro state same
    subst same
    exact ⟨simulator_undisturbed, rfl, fun begun => absurd rfl begun⟩
  next {state after} prompt next := by
    have undisturbed := (undisturbed_invariant setup).next prompt.toUndisturbed next
    have enqueued : ∀ event clock atTime, state.coordinator.phase ≠ .waiting →
        ∃ start, state.startedAt? = some start ∧ state.coordinator.Awaited
          (DueBy (setup.deadline start)
            ({ state with clock := clock }.enqueueExternal event atTime)) := by
      intro event clock atTime begun
      obtain ⟨start, started, awaited⟩ := prompt.underWay begun
      refine ⟨start, started, awaited.mono fun msg due => ?_⟩
      obtain ⟨item, queued, due⟩ := due
      exact ⟨item, List.mem_cons_of_mem _ queued, due⟩
    cases next with
    | step success =>
        obtain ⟨_, _, rfl⟩ | ⟨_, stepped⟩ := step_stepped success
        · exact prompt
        · exact stepped.prompt participants prompt undisturbed
    | enqueueExternal _ => exact ⟨undisturbed, prompt.deliveryDelay, enqueued _ _ _⟩
    | injectProbe _ => exact ⟨undisturbed, prompt.deliveryDelay, enqueued _ _ _⟩

/-! ## What is known in time -/

omit [ChaCha8Rng ρ] in
theorem Elapsed.mono {first last : Nat} (elapsed : Elapsed last state) (before : first ≤ last) :
    Elapsed first state :=
  fun item queued => Nat.lt_of_le_of_lt before (elapsed item queued)

omit [ChaCha8Rng ρ] in
private theorem Elapsed.stage_lt {start stages : Nat} {msg : Message}
    (elapsed : Elapsed (start + stages * setup.latency) state)
    (due : DueBy (setup.deadline start) state msg) : stages < msg.messageType.stage := by
  obtain ⟨item, queued, _, bound⟩ := due
  have later := Nat.lt_of_lt_of_le (elapsed item queued) bound
  exact Nat.lt_of_mul_lt_mul_right (Nat.lt_of_add_lt_add_left later)

/-- The transaction has left `waiting`, and the messages of its exchange are due in time. -/
private theorem Prompt.timetable (prompt : Prompt setup state) {start : Nat}
    (started : state.startedAt? = some start) : state.coordinator.phase ≠ .waiting ∧
      state.coordinator.Awaited (DueBy (setup.deadline start) state) := by
  obtain ⟨entry, listed, at_start⟩ := List.exists_of_findSome?_eq_some started
  have processed : state.Started := by
    cases entry with
    | externalEvent clock event =>
        cases event with
        | startTransaction => exact ⟨clock, listed⟩
        | tick _ | tickAll | crash _ | recover _ => cases at_start
    | deliver _ _ | send _ _ _ | drop _ _ => cases at_start
  have begun := prompt.begun processed
  obtain ⟨other, same, awaited⟩ := prompt.underWay begun
  cases started.symm.trans same
  exact ⟨begun, awaited⟩

section Prompt

variable {start : Nat} (prompt : Prompt setup state) (started : state.startedAt? = some start)
include prompt started

/-- After one delay every participant has been asked for its vote. -/
theorem Prompt.voted (elapsed : Elapsed (start + 1 * setup.latency) state)
    (undecided : state.coordinator.decision = none) {node : NodeId} {participant : Participant ρ}
    (found : state.participants[node]? = some participant) : participant.vote ≠ none := by
  obtain ⟨begun, awaited⟩ := prompt.timetable started
  have member : node ∈ state.coordinator.nodes := prompt.nodes ▸ prompt.mem_nodes found
  suffices cast : ∃ vote, state.view.vote node = some vote by
    obtain ⟨vote, cast⟩ := cast
    rw [prompt.view_vote found] at cast
    rw [cast]
    exact Option.some_ne_none vote
  rw [Coordinator.decision] at undecided
  cases phase : state.coordinator.phase with
  | waiting => exact absurd phase begun
  | decided _ | awaitingAcks _ _ _ | done _ =>
      rw [phase] at undecided
      cases undecided
  | voting last votes =>
      cases known : state.coordinator.phase.recorded node with
      | true =>
          rw [phase, CoordinatorPhase.recorded, Std.ExtTreeMap.contains_iff_mem] at known
          obtain ⟨vote, counted⟩ := Library.OrderedMap.mem_iff_exists.mp known
          refine ⟨vote, prompt.sound.tally node vote ?_⟩
          simp [view, Coordinator.tally, phase, counted]
      | false =>
          obtain ⟨msg, due, asked, exchanged⟩ := awaited.exchange node member known
          have late := elapsed.stage_lt due
          have sent := prompt.sent_of_inFlight due.inFlight
          have bounds := CoordinatorPhase.stage_of_asks asked
          rw [phase, CoordinatorPhase.rank] at bounds
          obtain ⟨vote, type⟩ := MessageType.vote_of_stage
            (by omega : msg.messageType.stage = 2)
          obtain ⟨voter, _, rfl⟩ := (prompt.sound.wellFormed msg sent).eq_vote type
          cases exchanged
          exact ⟨vote, (prompt.sound.vote_sent node vote).mp sent⟩

/-- After two delays the outcome is known. -/
theorem Prompt.decided (participants : 1 ≤ setup.nParticipants)
    (elapsed : Elapsed (start + 2 * setup.latency) state) :
    ∃ decision, state.coordinator.decision = some decision := by
  obtain ⟨begun, awaited⟩ := prompt.timetable started
  rw [Coordinator.decision]
  cases phase : state.coordinator.phase with
  | waiting => exact absurd phase begun
  | decided decision | awaitingAcks decision _ _ | done decision => exact ⟨decision, rfl⟩
  | voting last votes =>
      exfalso
      obtain ⟨msg, due, asked⟩ := prompt.toUndisturbed.exists_asked participants awaited (by
        rw [Coordinator.isQuiescent, phase])
      have late := elapsed.stage_lt due
      have bounds := CoordinatorPhase.stage_of_asks asked
      rw [phase, CoordinatorPhase.rank] at bounds
      omega

/-- After three delays every participant has it. -/
theorem Prompt.informed (participants : 1 ≤ setup.nParticipants)
    (elapsed : Elapsed (start + 3 * setup.latency) state) :
    ∃ decision, state.coordinator.decision = some decision ∧
      ∀ {node : NodeId} {participant : Participant ρ},
        state.participants[node]? = some participant → participant.decision = some decision := by
  have before := Nat.mul_le_mul_right setup.latency (by decide : 2 ≤ 3)
  obtain ⟨decision, decided⟩ :=
    prompt.decided started participants (elapsed.mono (Nat.add_le_add_left before start))
  refine ⟨decision, decided, fun {node participant} found => ?_⟩
  obtain ⟨begun, awaited⟩ := prompt.timetable started
  have member : node ∈ state.coordinator.nodes := prompt.nodes ▸ prompt.mem_nodes found
  suffices learned : state.view.learned node ≠ none by
    obtain ⟨learned, known⟩ := Option.ne_none_iff_exists'.mp learned
    rw [prompt.view_learned found] at known
    rw [← decided, prompt.decision_of_participant found known]
    exact known
  cases phase : state.coordinator.phase with
  | waiting => exact absurd phase begun
  | decided other => exact absurd phase (awaited.announced other)
  | voting _ _ =>
      rw [Coordinator.decision, phase] at decided
      cases decided
  | done other =>
      rw [prompt.learned_of_done phase (prompt.mem_nodes found)]
      exact Option.some_ne_none other
  | awaitingAcks other last acks =>
      cases known : state.coordinator.phase.recorded node with
      | true =>
          rw [phase, CoordinatorPhase.recorded, Std.ExtTreeSet.contains_iff_mem] at known
          apply prompt.sound.acked node
          simpa [view, Coordinator.acked, phase] using known
      | false =>
          obtain ⟨msg, due, asked, exchanged⟩ := awaited.exchange node member known
          have late := elapsed.stage_lt due
          have sent := prompt.sent_of_inFlight due.inFlight
          have bounds := CoordinatorPhase.stage_of_asks asked
          rw [phase, CoordinatorPhase.rank] at bounds
          have type : msg.messageType = .ack := MessageType.ack_of_stage (by omega)
          obtain ⟨other, _, rfl⟩ := (prompt.sound.wellFormed msg sent).eq_ack type
          cases exchanged
          exact (prompt.sound.ack_sent node).mp sent

/-- After four delays the coordinator is done. -/
theorem Prompt.completed (participants : 1 ≤ setup.nParticipants)
    (elapsed : Elapsed (start + 4 * setup.latency) state) : Completed state := by
  obtain ⟨begun, awaited⟩ := prompt.timetable started
  apply prompt.toConsistent.completed _ begun
  by_contra busy
  rw [Bool.not_eq_true] at busy
  obtain ⟨msg, due, asked⟩ := prompt.toUndisturbed.exists_asked participants awaited busy
  have late := elapsed.stage_lt due
  have bounds := CoordinatorPhase.stage_of_asks asked
  omega

end Prompt

/-- While no actor crashes, every stage of the exchange is over within the longest delay for each
message up to it, whatever else happens meanwhile. -/
theorem bounded_latency [BoundedChaCha8Rng ρ] (participants : 1 ≤ setup.nParticipants)
    (reachable : (system setup crashFree).Reachable state) {start : Nat}
    (started : state.startedAt? = some start) :
    (Elapsed (start + 1 * setup.latency) state → state.coordinator.decision = none →
      ∀ {node : NodeId} {participant : Participant ρ},
        state.participants[node]? = some participant → participant.vote ≠ none) ∧
    (Elapsed (start + 2 * setup.latency) state →
      ∃ decision, state.coordinator.decision = some decision) ∧
    (Elapsed (start + 3 * setup.latency) state →
      ∃ decision, state.coordinator.decision = some decision ∧
        ∀ {node : NodeId} {participant : Participant ρ},
          state.participants[node]? = some participant → participant.decision = some decision) ∧
    (Elapsed (start + 4 * setup.latency) state → state.Completed) := by
  have prompt := (prompt_invariant participants).reachable reachable
  refine ⟨fun elapsed undecided => ?_, ?_, ?_, ?_⟩
  · exact fun {node participant} found => prompt.voted started elapsed undecided found
  · exact prompt.decided started participants
  · exact prompt.informed started participants
  · exact prompt.completed started participants

theorem bounded_latency_unanimous : ∃ state : Simulator ForcedRng,
    state.startedAt? = some 0 ∧ state.clock = 9 ∧ state.Completed := by
  have ended : runEndsIn (ρ := ForcedRng) .unanimous [(.startTransaction, 0), (.tickAll, 9)] 20
      (fun state => decide (state.startedAt? = some 0) && decide (state.clock = 9) &&
        state.eventQueue.isEmpty) = true := by
    decide +kernel
  obtain ⟨state, ran, passed⟩ := exists_run_of_runEndsIn ended
  simp only [Bool.and_eq_true, decide_eq_true_eq] at passed
  obtain ⟨⟨started, clock⟩, drained⟩ := passed
  have reachable : (system .unanimous crashFree).Reachable state := by
    refine ⟨_, rfl, .trans (.single (.enqueueExternal ?_)) (.trans (.single (.enqueueExternal ?_))
      (run_steps ran))⟩
    · exact fun _ => nofun
    · exact fun _ => nofun
  refine ⟨state, started, clock, ?_⟩
  apply (bounded_latency (by decide) reachable started).2.2.2
  rw [Elapsed, EventQueue.isEmpty_iff.mp drained]
  nofun

end Simulator

end TwoPhaseCommit
