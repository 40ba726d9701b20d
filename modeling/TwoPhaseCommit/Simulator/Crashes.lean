import TwoPhaseCommit.CoordinatorRetransmission
import TwoPhaseCommit.Simulator.Log
import TwoPhaseCommit.Simulator.Liveness
import TwoPhaseCommit.Simulator.Oracle

/-! What a crashed actor takes part in. Every event is guarded by the status of the
actor it reaches but StartTransaction, which the coordinator handles even when it is
crashed. -/

set_option autoImplicit false

namespace TwoPhaseCommit

/-! ## What StartTransaction does to the coordinator -/

namespace Coordinator

variable {ρ : Type} [ChaCha8Rng ρ] {self : Coordinator ρ} {outgoing : List Message}

/-- A StartTransaction at this time changes the phase or makes the coordinator send. -/
def reactsToStart (self : Coordinator ρ) (atTime : Nat) : Prop :=
  match self.phase with
  | .waiting | .decided _ => True
  | .voting last _ =>
      self.abortsNext = true ∨
        self.config.retransmitTimeout ≤ atTime - last ∧ (self.nodes ≠ [] ∨ last ≠ atTime)
  | .awaitingAcks _ last _ =>
      self.config.retransmitTimeout ≤ atTime - last ∧ (self.nodes ≠ [] ∨ last ≠ atTime)
  | .done _ => False

/-- The phase and the durable state stay, and nothing is sent. -/
def Unmoved (self after : Coordinator ρ) (outgoing : List Message) : Prop :=
  after.phase = self.phase ∧ after.durableState = self.durableState ∧ outgoing = []

omit [ChaCha8Rng ρ] in
private theorem votes_missing_iff (valid : self.Valid) (nodup : self.nodes.Nodup) {last : Nat}
    {votes : Std.ExtTreeMap NodeId Vote} (phase : self.phase = .voting last votes) :
    (self.nodes.filter fun node => !votes.contains node) = [] ↔ self.nodes = [] := by
  constructor
  · intro complete
    by_contra managed
    obtain ⟨contained, undecided⟩ := valid.voting phase
    apply (undecided managed).1
    apply Library.OrderedMap.size_eq contained nodup
    intro node member
    simpa using List.filter_eq_nil_iff.mp complete node member
  · intro none
    rw [none]
    rfl

omit [ChaCha8Rng ρ] in
private theorem acks_missing_iff (valid : self.Valid) (nodup : self.nodes.Nodup)
    {decision : Decision} {last : Nat} {acks : Std.ExtTreeSet NodeId}
    (phase : self.phase = .awaitingAcks decision last acks) :
    (self.nodes.filter fun node => !acks.contains node) = [] ↔ self.nodes = [] := by
  constructor
  · intro complete
    by_contra managed
    obtain ⟨contained, incomplete⟩ := valid.awaiting phase
    apply incomplete managed
    apply Library.OrderedSet.size_eq contained nodup
    intro node member
    simpa using List.filter_eq_nil_iff.mp complete node member
  · intro none
    rw [none]
    rfl

/-- Once begun, the coordinator takes a StartTransaction for a tick. -/
theorem onMessage_start (begun : self.phase ≠ .waiting) (atTime : Nat) :
    self.onMessage Simulator.startMessage atTime = self.tick atTime := by
  have ticked := tick_ne_waiting begun atTime
  have ignored : (self.tick atTime).1.receive Simulator.startMessage atTime =
      ((self.tick atTime).1, []) := by
    unfold receive
    split <;> simp_all [Simulator.startMessage]
  rw [onMessage]
  simp only [ignored, List.append_nil]

theorem start_unmoved_iff (valid : self.Valid) (nodup : self.nodes.Nodup) (atTime : Nat) :
    Unmoved self (self.onMessage Simulator.startMessage atTime).1
        (self.onMessage Simulator.startMessage atTime).2 ↔ ¬ self.reactsToStart atTime := by
  cases phase : self.phase with
  | waiting =>
      simp [Unmoved, onMessage, tick, receive, Simulator.startMessage, reactsToStart, phase]
  | decided decision =>
      rw [onMessage_start (by simp [phase])]
      simp [Unmoved, tick, trySendDecision, reactsToStart, phase]
  | done decision =>
      rw [onMessage_start (by simp [phase])]
      simp [Unmoved, tick, reactsToStart, phase]
  | voting last votes =>
      have drawn : (ChaCha8Rng.randomBool self.config.rng
        (clamp (self.config.abortBias / 10) 0 1)).1 = self.abortsNext := rfl
      have missing := votes_missing_iff valid nodup phase
      rw [onMessage_start (by simp [phase])]
      simp only [tick, phase, drawn, reactsToStart]
      cases self.abortsNext with
      | true => simp [Unmoved, trySendDecision, phase]
      | false =>
          by_cases due : self.config.retransmitTimeout ≤ atTime - last
          · simpa [Unmoved, phase, due, missing, eq_comm (a := atTime)] using and_comm
          · simp [Unmoved, phase, due]
  | awaitingAcks decision last acks =>
      have missing := acks_missing_iff valid nodup phase
      rw [onMessage_start (by simp [phase])]
      simp only [tick, phase, reactsToStart]
      by_cases due : self.config.retransmitTimeout ≤ atTime - last
      · simpa [Unmoved, phase, due, missing, eq_comm (a := atTime)] using and_comm
      · simp [Unmoved, phase, due]

end Coordinator

/-! ## Who acts in a step -/

theorem Coordinator.Batched.from {nodes : List NodeId} {outgoing : List Message}
    (batched : Coordinator.Batched nodes outgoing) : ∀ msg ∈ outgoing, msg.from = .coordinator := by
  obtain ⟨asked, told, decision, _, _, rfl⟩ := batched
  intro msg sent
  rcases List.mem_append.mp sent with sent | sent
  · obtain ⟨node, _, rfl⟩ := List.mem_map.mp sent
    rfl
  · obtain ⟨node, _, rfl⟩ := List.mem_map.mp sent
    rfl

theorem Participant.Received.from {ρ : Type} [ChaCha8Rng ρ] {self after : Participant ρ}
    {msg : Message} {outgoing : List Message} (received : Received self msg after outgoing) :
    ∀ answer ∈ outgoing, answer.from = .node self.id := by
  intro answer sent
  cases received with
  | casts _ _ | recasts _ _ | learns _ _ | acknowledges _ _ =>
      obtain rfl := List.mem_singleton.mp sent
      rfl
  | ignores _ _ => cases sent

namespace Simulator

variable {ρ : Type} [ChaCha8Rng ρ] {setup : Setup} {environment : Environment ρ}
  {state middle after : Simulator ρ} {event : Event} {outgoing : List Message} {actor : ActorId}

section Dispatched

/-- Whoever sends a message is operating, unless a StartTransaction makes the coordinator. -/
theorem Dispatched.sender (dispatched : Dispatched state event middle outgoing)
    (staffed : Staffed setup state) (genuine : Genuine state event)
    (reaches : state.Reaches event) : ∀ msg ∈ outgoing, middle.isOperating msg.from = true ∨
      event = .external .startTransaction ∧ msg.from = .coordinator := by
  intro msg sent
  cases dispatched with
  | @coordinatorReceives _ received receives =>
      have called := Coordinator.machine_called state.coordinator (.onMessage received state.clock)
      have sender := called.batched.from msg sent
      rw [sender]
      rcases coordinatorMessage?_cases receives with ⟨rfl, _⟩ | rfl
      · exact .inr ⟨rfl, rfl⟩
      · exact .inl (genuine.1 ▸ reaches)
  | coordinatorTicks _ up =>
      have called := Coordinator.Called.ticks (state.coordinator.tick_ticked state.clock)
      rw [called.batched.from msg sent]
      exact .inl up
  | @participantReceives node delivered participant found =>
      rw [(participant.onMessage_received delivered state.clock).from msg sent,
        (staffed.participant found).id]
      exact .inl (genuine.1 ▸ reaches)
  | rests _ _ | nodeTicks | nobodyReceives _ | crashes | coordinatorRecovers _
  | participantRecovers _ _ | staysUp _ => cases sent

theorem Dispatched.coordinator_eq (dispatched : Dispatched state event middle outgoing)
    (genuine : Genuine state event) (reaches : state.Reaches event)
    (crashed : state.isOperating .coordinator = false)
    (asleep : event ≠ .external .startTransaction)
    (other : event ≠ .external (.recover .coordinator)) :
    middle.coordinator = state.coordinator := by
  cases dispatched with
  | coordinatorReceives receives =>
      rcases coordinatorMessage?_cases receives with ⟨rfl, _⟩ | rfl
      · exact absurd rfl asleep
      · rw [show state.isOperating .coordinator = true from genuine.1 ▸ reaches] at crashed
        cases crashed
  | coordinatorTicks _ up =>
      rw [up] at crashed
      cases crashed
  | coordinatorRecovers _ => exact absurd rfl other
  | rests _ _ | nodeTicks | participantReceives _ | nobodyReceives _ | crashes
  | participantRecovers _ _ | staysUp _ => rfl

theorem Dispatched.participant_eq (dispatched : Dispatched state event middle outgoing)
    (genuine : Genuine state event) (reaches : state.Reaches event) {node : NodeId}
    (crashed : state.isOperating (.node node) = false)
    (other : event ≠ .external (.recover (.node node))) :
    middle.participants[node]? = state.participants[node]? := by
  cases dispatched with
  | @participantReceives receiver delivered participant found =>
      rw [Library.OrderedMap.getElem?_insert, if_neg]
      intro same
      subst same
      rw [show state.isOperating (.node node) = true from genuine.1 ▸ reaches] at crashed
      cases crashed
  | @participantRecovers recovered participant _ found =>
      rw [Library.OrderedMap.getElem?_insert, if_neg]
      intro same
      subst same
      exact absurd rfl other
  | coordinatorReceives _ | coordinatorTicks _ _ | rests _ _ | nodeTicks | nobodyReceives _
  | crashes | coordinatorRecovers _ | staysUp _ => rfl

end Dispatched

/-! ## The part of a crashed actor in a step -/

/-- The step happens without the actor: its phase and its durable state stay, and no message
from it is logged or queued. -/
structure StepWithout (actor : ActorId) (before after : Simulator ρ) : Prop where
  coordinator : actor = .coordinator →
    after.coordinator.phase = before.coordinator.phase ∧
      after.coordinator.durableState = before.coordinator.durableState
  participant : ∀ node, actor = .node node →
    after.participants[node]? = before.participants[node]?
  silent : ∃ sent, after.sentMessages = before.sentMessages ++ sent ∧
    ∀ msg ∈ sent, msg.from ≠ actor
  queued : ∀ item ∈ after.eventQueue.pending, item ∈ before.eventQueue.pending ∨
    ∃ msg : Message, item.event = msg.delivery ∧ msg.from ≠ actor

/-- The next event is a StartTransaction to which the crashed coordinator reacts. -/
def Awakens (state : Simulator ρ) : Prop :=
  state.isOperating .coordinator = false ∧ ∃ timestamp rest,
    state.eventQueue.next = some ((timestamp, .external .startTransaction), rest) ∧
      state.coordinator.reactsToStart timestamp

/-- The actor has no part in an event that leads here and sends these messages. -/
structure EventWithout (actor : ActorId) (before middle : Simulator ρ) (outgoing : List Message) :
    Prop where
  coordinator : actor = .coordinator →
    middle.coordinator.phase = before.coordinator.phase ∧
      middle.coordinator.durableState = before.coordinator.durableState
  participant : ∀ node, actor = .node node →
    middle.participants[node]? = before.participants[node]?
  others : ∀ msg ∈ outgoing, msg.from ≠ actor

omit [ChaCha8Rng ρ] in
private theorem eventWithout_taken_iff (popped : TimestampedEvent) (queue : EventQueue)
    (delivered : Observations) :
    EventWithout actor (state.taken popped queue delivered) middle outgoing ↔
      EventWithout actor state middle outgoing :=
  ⟨fun without => ⟨without.coordinator, without.participant, without.others⟩,
    fun without => ⟨without.coordinator, without.participant, without.others⟩⟩

private theorem stepWithout_iff_eventWithout (observations : Observations)
    (sent : middle.sentMessages = state.sentMessages)
    (remains : middle.eventQueue.pending ⊆ state.eventQueue.pending) :
    StepWithout actor state ({ middle with observations := observations }.sendAll outgoing) ↔
      EventWithout actor state middle outgoing := by
  constructor
  · intro without
    refine ⟨by simpa using without.coordinator, by simpa using without.participant, ?_⟩
    obtain ⟨news, same, others⟩ := without.silent
    rw [sendAll_sentMessages] at same
    obtain rfl := List.append_cancel_left (same.trans (congrArg (· ++ news) sent.symm))
    exact others
  · intro without
    constructor
    · simpa using without.coordinator
    · simpa using without.participant
    · have grown := sendAll_sentMessages { middle with observations := observations } outgoing
      exact ⟨outgoing, grown.trans (congrArg (· ++ outgoing) sent), without.others⟩
    · intro item queued
      rcases eq_delivery_of_mem_sendAll _ _ queued with ⟨msg, listed, delivery, _⟩ | earlier
      · exact .inr ⟨msg, delivery, without.others msg listed⟩
      · exact .inl (remains earlier)

theorem Awakens.iff {popped : TimestampedEvent} {queue : EventQueue}
    (pops : state.eventQueue.Pops popped queue) (crashed : state.isOperating .coordinator = false) :
    Awakens state ↔ popped.event = .external .startTransaction ∧
      state.coordinator.reactsToStart popped.timestamp := by
  constructor
  · intro awakens
    obtain ⟨_, timestamp, rest, next, reactsToStart⟩ := awakens
    rw [pops.next_eq] at next
    obtain ⟨⟨rfl, kind⟩, _⟩ : (popped.timestamp = timestamp ∧ popped.event = _) ∧
        queue = rest := by
      simpa using next
    exact ⟨kind, reactsToStart⟩
  · intro starts
    obtain ⟨kind, reactsToStart⟩ := starts
    refine ⟨crashed, popped.timestamp, queue, ?_, reactsToStart⟩
    rw [pops.next_eq, kind]

/-- Only a StartTransaction reaches a crashed actor, and only the coordinator. -/
private theorem Dispatched.without (dispatched : Dispatched state event middle outgoing)
    (staffed : Staffed setup state) (genuine : Genuine state event)
    (reaches : state.Reaches event) (crashed : state.isOperating actor = false)
    (other : event ≠ .external (.recover actor))
    (asleep : ¬ (actor = .coordinator ∧ event = .external .startTransaction)) :
    EventWithout actor state middle outgoing := by
  constructor
  · intro same
    subst same
    rw [dispatched.coordinator_eq genuine reaches crashed (fun start => asleep ⟨rfl, start⟩) other]
    exact ⟨rfl, rfl⟩
  · intro node same
    subst same
    exact dispatched.participant_eq genuine reaches crashed other
  · intro msg sent same
    rcases dispatched.sender staffed genuine reaches msg sent with up | ⟨start, sender⟩
    · rw [same, (dispatched.isOperating actor).mpr (.inr ⟨crashed, other⟩)] at up
      cases up
    · exact asleep ⟨same.symm.trans sender, start⟩

private theorem Dispatched.start_eventWithout_iff
    (dispatched : Dispatched state (.external .startTransaction) middle outgoing)
    (staffed : Staffed setup state) :
    EventWithout .coordinator state middle outgoing ↔
      ¬ state.coordinator.reactsToStart state.clock := by
  cases dispatched with
  | @coordinatorReceives _ msg receives =>
      obtain rfl : startMessage = msg := Option.some.inj receives
      have nodup : state.coordinator.nodes.Nodup := staffed.nodes ▸ nodes_nodup setup
      rw [← Coordinator.start_unmoved_iff staffed.valid nodup]
      constructor
      · intro without
        obtain ⟨phase, durable⟩ := without.coordinator rfl
        have called :=
          Coordinator.machine_called state.coordinator (.onMessage startMessage state.clock)
        refine ⟨phase, durable, List.eq_nil_iff_forall_not_mem.mpr fun msg sent => ?_⟩
        exact without.others msg sent (called.batched.from msg sent)
      · intro unmoved
        obtain ⟨phase, durable, silent⟩ := unmoved
        rw [silent]
        constructor
        · exact fun _ => ⟨phase, durable⟩
        · intro node same
          cases same
        · intro msg sent
          cases sent
  | coordinatorTicks kind _ | rests kind _ => rcases kind with same | same <;> cases same

theorem Stepped.stepWithout_iff (stepped : Stepped state after)
    (consistent : Consistent setup state)
    (crashed : state.isOperating actor = false) {timestamp : Nat} {rest : EventQueue}
    (popped : state.eventQueue.next = some ((timestamp, event), rest))
    (other : event ≠ .external (.recover actor)) :
    StepWithout actor state after ↔ ¬ (actor = .coordinator ∧ Awakens state) := by
  cases stepped with
  | @drops item queue recipient msg pops kind down =>
      have asleep : ¬ (actor = .coordinator ∧ Awakens state) := by
        intro awake
        obtain ⟨rfl, awakens⟩ := awake
        rw [Awakens.iff pops crashed, kind] at awakens
        cases awakens.1
      refine iff_of_true ?_ asleep
      have same := sentMessages_dropped state item.timestamp queue msg
      have without : EventWithout actor state (state.dropped item.timestamp queue msg) [] :=
        ⟨fun _ => ⟨rfl, rfl⟩, fun _ _ => rfl, fun _ sent => by cases sent⟩
      exact (stepWithout_iff_eventWithout state.observations same pops.subset).mpr without
  | @handles item queue delivered observations middle outgoing pops reaches dispatched =>
      rw [pops.next_eq] at popped
      obtain ⟨rfl, rfl⟩ : item.timestamp = timestamp ∧ item.event = event := by
        cases popped
        exact ⟨rfl, rfl⟩
      have sent := dispatched.sentMessages.trans (sentMessages_taken state item queue delivered)
      have remains : middle.eventQueue.pending ⊆ state.eventQueue.pending := by
        rw [dispatched.eventQueue]
        exact pops.subset
      obtain ⟨staffed, _, genuine⟩ := consistent.taken pops delivered
      rw [stepWithout_iff_eventWithout observations sent remains,
        ← eventWithout_taken_iff item queue delivered]
      by_cases start : actor = .coordinator ∧ item.event = .external .startTransaction
      · obtain ⟨rfl, kind⟩ := start
        have awakens : Awakens state ↔ state.coordinator.reactsToStart item.timestamp := by
          rw [Awakens.iff pops crashed]
          exact and_iff_right kind
        rw [kind] at dispatched
        rw [and_iff_right rfl, awakens]
        exact dispatched.start_eventWithout_iff staffed
      · have asleep : ¬ (actor = .coordinator ∧ Awakens state) := by
          intro awake
          obtain ⟨rfl, awakens⟩ := awake
          exact start ⟨rfl, ((Awakens.iff pops crashed).mp awakens).1⟩
        refine iff_of_true ?_ asleep
        exact dispatched.without staffed genuine reaches crashed other start

/-! ## Silence between a crash and the next recovery -/

/-- Whoever sends is up, or it is the coordinator and that is let pass. -/
def SenderUp (lenient : Prop) (earlier : List LogEntry) : LogEntry → Prop
  | .send _ _ msg => down earlier msg.from = false ∨ lenient ∧ msg.from = .coordinator
  | .externalEvent _ _ | .deliver _ _ | .drop _ _ => True

variable {lenient : Prop}

private theorem sendAll_senderUp (history : Library.History (SenderUp lenient) state.actionLog)
    (tracked : Tracked state)
    (up : ∀ msg ∈ outgoing, state.isOperating msg.from = true ∨
      lenient ∧ msg.from = .coordinator) :
    Library.History (SenderUp lenient) (state.sendAll outgoing).actionLog := by
  have all : Library.History (SenderUp lenient) (state.sendAll outgoing).actionLog ∧
      Tracked (state.sendAll outgoing) ∧
      (state.sendAll outgoing).actorStatus = state.actorStatus := by
    apply sendAll_preserves fun current : Simulator ρ =>
      Library.History (SenderUp lenient) current.actionLog ∧ Tracked current ∧
        current.actorStatus = state.actorStatus
    · intro current msg sent holds
      obtain ⟨history, tracked, status⟩ := holds
      refine ⟨.snoc history ?_, tracked.enqueueMessage msg, status⟩
      refine (up msg sent).imp_left fun sender => tracked.not_down ?_
      rw [isOperating, status, ← isOperating, sender]
    · exact ⟨history, tracked, rfl⟩
  exact all.1

/-- Only a StartTransaction to which it reacts makes a crashed coordinator send, and nothing makes
a crashed participant. -/
private theorem Dispatched.up (dispatched : Dispatched state event middle outgoing)
    (staffed : Staffed setup state) (genuine : Genuine state event)
    (reaches : state.Reaches event)
    (heeds : event = .external .startTransaction → state.isOperating .coordinator = false →
      state.coordinator.reactsToStart state.clock → lenient) :
    ∀ msg ∈ outgoing, middle.isOperating msg.from = true ∨ lenient ∧ msg.from = .coordinator := by
  intro msg sent
  rcases dispatched.sender staffed genuine reaches msg sent with up | ⟨rfl, sender⟩
  · exact .inl up
  · rw [sender, or_iff_not_imp_left, Bool.not_eq_true, dispatched.isOperating]
    intro down
    rcases down with crash | ⟨down, _⟩
    · cases crash
    · refine ⟨heeds rfl down ?_, rfl⟩
      by_contra stays
      have silent := (dispatched.start_eventWithout_iff staffed).mpr stays
      exact silent.others msg sent sender

theorem Stepped.senderUp (stepped : Stepped state after) (consistent : Consistent setup state)
    (tracked : Tracked state) (heeds : Awakens state → lenient)
    (history : Library.History (SenderUp lenient) state.actionLog) :
    Library.History (SenderUp lenient) after.actionLog := by
  cases stepped with
  | drops _ _ _ => exact .snoc history trivial
  | @handles item queue delivered observations middle outgoing pops reaches dispatched =>
      obtain ⟨staffed, _, genuine⟩ := consistent.taken pops delivered
      have processed := dispatched.processed pops reaches observations
      apply sendAll_senderUp
      · rw [processed.actionLog]
        apply history.snoc
        cases item.event <;> trivial
      · exact processed.tracked tracked
      · apply dispatched.up staffed genuine reaches
        intro kind crashed reactsToStart
        exact heeds ((Awakens.iff pops crashed).mpr ⟨kind, reactsToStart⟩)

/-! ## Runs -/

/-- What holds of every state of a run, if nobody or only the coordinator is let pass. -/
structure Muted (lenient : Prop) (setup : Setup) (state : Simulator ρ) : Prop extends
    Consistent setup state where
  tracked : Tracked state
  history : Library.History (SenderUp lenient) state.actionLog

theorem simulator_muted : Muted lenient setup (setup.simulator (ρ := ρ)) :=
  ⟨simulator_consistent, simulator_tracked, .nil⟩

theorem Muted.next (muted : Muted lenient setup state) (next : Next environment state after)
    (heeds : state.step = .ok (true, after) → Awakens state → lenient) :
    Muted lenient setup after := by
  refine ⟨(next.refines muted.toConsistent).1, muted.tracked.next next, ?_⟩
  cases next with
  | enqueueExternal _ | injectProbe _ => exact muted.history
  | step success =>
      obtain ⟨_, _, rfl⟩ | ⟨rfl, stepped⟩ := step_stepped success
      · exact muted.history
      · exact stepped.senderUp muted.toConsistent muted.tracked (heeds success) muted.history

/-- Runs without a StartTransaction to which a crashed coordinator reacts. -/
def withoutAwakening (ρ : Type) [ChaCha8Rng ρ] (setup : Setup) :
    Library.TransitionSystem (Simulator ρ) where
  initial state := state = setup.simulator
  next state after := Next anyEnvironment state after ∧
    (state.step = .ok (true, after) → ¬ Awakens state)

theorem withoutAwakening_invariant (setup : Setup) :
    (withoutAwakening ρ setup).Invariant (Muted False setup) where
  initial := by
    intro state same
    subst same
    exact simulator_muted
  next muted step := muted.next step.1 step.2

theorem muted_invariant (setup : Setup) (environment : Environment ρ) :
    (system setup environment).Invariant (Muted True setup) where
  initial := by
    intro state same
    subst same
    exact simulator_muted
  next muted next := muted.next next fun _ _ => trivial

/-- The log has no message from the actor between a crash and its next recovery. -/
def SilentWhileDown (log : List LogEntry) (actor : ActorId) : Prop :=
  ∀ (first middle last : List LogEntry) (crashedAt sentAt deliverAt : Nat) (msg : Message),
    log = first ++ .externalEvent crashedAt (.crash actor) :: middle ++
      .send sentAt deliverAt msg :: last →
    (∀ time, .externalEvent time (.recover actor) ∉ middle) → msg.from ≠ actor

theorem Muted.silentWhileDown (muted : Muted lenient setup state) {actor : ActorId}
    (strict : actor = .coordinator → ¬ lenient) : SilentWhileDown state.actionLog actor := by
  intro first middle last crashedAt sentAt deliverAt msg log unrecovered same
  have history := muted.history
  rw [log] at history
  rcases history.at_entry with up | ⟨passed, sender⟩
  · rw [same, down_of_crash unrecovered] at up
    cases up
  · exact strict (same.symm.trans sender) passed

theorem reachable_of_withoutAwakening (reachable : (withoutAwakening ρ setup).Reachable state) :
    (system setup anyEnvironment).Reachable state := by
  obtain ⟨new, initial, path⟩ := reachable
  exact ⟨new, initial, Relation.ReflTransGen.mono (fun _ _ step => step.1) _ _ path⟩

/-- The coordinator is up, or the next event is no StartTransaction. -/
def guarded (state : Simulator ρ) : Bool :=
  state.isOperating .coordinator ||
    state.eventQueue.next.all fun next => decide (next.1.2 ≠ .external .startTransaction)

theorem withoutAwakening_of_guarded {schedule : List (ExternalEvent × Nat)} {length : Nat}
    (safe : ∀ index < length, (scheduledRun (ρ := ρ) setup schedule index).guarded = true) :
    (withoutAwakening ρ setup).Steps setup.simulator (scheduledRun setup schedule length) := by
  induction length with
  | zero => exact .refl
  | succ length ih =>
      have before := ih fun index bound => safe index (Nat.lt_succ_of_lt bound)
      rcases scheduledRun_next (ρ := ρ) setup schedule length with same | next
      · rw [same]
        exact before
      · refine before.trans (.single ⟨next, fun _ awakens => ?_⟩)
        obtain ⟨down, timestamp, rest, popped, _⟩ := awakens
        have passes := safe length (Nat.lt_succ_self _)
        simp [guarded, down, popped] at passes

/-- A crashed actor takes part in no step, except that the coordinator reacts to a
StartTransaction. Nothing is sent from a participant until it recovers, and without such a
StartTransaction nothing from the coordinator. -/
theorem crashed_dormant (setup : Setup) :
    (∀ {state : Simulator ρ}, (system setup anyEnvironment).Reachable state →
      ∀ {actor : ActorId} {timestamp : Nat} {event : Event} {rest : EventQueue},
        state.isOperating actor = false →
        state.eventQueue.next = some ((timestamp, event), rest) →
        event ≠ .external (.recover actor) →
        ∃ after, state.step = .ok (true, after) ∧
          (StepWithout actor state after ↔ ¬ (actor = .coordinator ∧ Awakens state))) ∧
    (∀ {state : Simulator ρ}, (system setup anyEnvironment).Reachable state →
      ∀ node, SilentWhileDown state.actionLog (.node node)) ∧
    ∀ {state : Simulator ρ}, (withoutAwakening ρ setup).Reachable state →
      ∀ actor, SilentWhileDown state.actionLog actor := by
  refine ⟨?_, ?_, ?_⟩
  · intro state reachable actor timestamp event rest crashed popped other
    have faithful := (faithful_invariant setup anyEnvironment).reachable reachable
    obtain ⟨after, success, stepped, _⟩ := faithful.step_ok (EventQueue.pending_ne_nil popped)
    exact ⟨after, success, stepped.stepWithout_iff faithful.toConsistent crashed popped other⟩
  · intro state reachable node
    have muted := (muted_invariant setup anyEnvironment).reachable reachable
    exact muted.silentWhileDown fun same => by cases same
  · intro state reachable actor
    have muted := (withoutAwakening_invariant setup).reachable reachable
    exact muted.silentWhileDown fun _ never => never

/-- A vote is dropped while the coordinator is down, and later the coordinator asks again. -/
theorem crashed_dormant_unanimous : ∃ state after final : Simulator ForcedRng,
    state.isOperating .coordinator = false ∧ state.step = .ok (true, after) ∧
      StepWithout .coordinator state after ∧
      .externalEvent 2 (.crash .coordinator) ∈ final.actionLog ∧
      .send 9 10 (.prepare ⟨0⟩) ∈ final.actionLog ∧
      SilentWhileDown final.actionLog (.node ⟨0⟩) ∧
      SilentWhileDown final.actionLog .coordinator := by
  let state : Simulator ForcedRng := scheduledRun .unanimous Setup.interruption 8
  let final : Simulator ForcedRng := scheduledRun .unanimous Setup.interruption 30
  have down : state.isOperating .coordinator = false := by decide +kernel
  have arrives : state.eventQueue.next.map (·.1) =
      some (2, .internal (.deliver .coordinator (.vote ⟨0⟩ .commit))) := by
    decide +kernel
  obtain ⟨⟨popped, rest⟩, next, same⟩ := Option.map_eq_some_iff.mp arrives
  cases same
  have reaches : ∀ length ≤ 30, (withoutAwakening ForcedRng .unanimous).Reachable
      (scheduledRun .unanimous Setup.interruption length) := by
    intro length bound
    refine ⟨_, rfl, withoutAwakening_of_guarded fun index early => ?_⟩
    have all : ∀ index < 30, (scheduledRun (ρ := ForcedRng) .unanimous Setup.interruption
        index).guarded = true := by
      decide +kernel
    exact all index (Nat.lt_of_lt_of_le early bound)
  have before := reachable_of_withoutAwakening (reaches 8 (by decide))
  have reachable := reachable_of_withoutAwakening (reaches 30 (by decide))
  obtain ⟨after, success, without⟩ := (crashed_dormant .unanimous).1 before down next nofun
  have asleep : ¬ Awakens state := by
    rintro ⟨_, timestamp, queue, start, _⟩
    cases next.symm.trans start
  refine ⟨state, after, final, down, success, without.mpr fun awake => asleep awake.2,
    ?_, ?_, ?_, ?_⟩
  · decide +kernel
  · decide +kernel
  · exact (crashed_dormant .unanimous).2.1 reachable ⟨0⟩
  · exact (crashed_dormant .unanimous).2.2 (reaches 30 (by decide)) .coordinator

/-- The crashed coordinator begins the transaction. -/
theorem crashed_coordinator_starts :
    ¬ ∀ {state after : Simulator ForcedRng}, (system .unanimous anyEnvironment).Reachable state →
      ∀ {actor : ActorId} {timestamp : Nat} {event : Event} {rest : EventQueue},
        state.isOperating actor = false →
        state.eventQueue.next = some ((timestamp, event), rest) →
        event ≠ .external (.recover actor) →
        state.step = .ok (true, after) → StepWithout actor state after := by
  intro without
  let scheduled : Simulator ForcedRng :=
    Setup.unanimous.simulator.enqueueAll [(.crash .coordinator, 0), (.startTransaction, 0)]
  let state := scheduled.advance
  have reachable : (system .unanimous anyEnvironment).Reachable state :=
    ⟨_, rfl, enqueueAll_steps.trans advance_steps⟩
  have crashed : state.isOperating .coordinator = false := by decide +kernel
  have start : state.eventQueue.next.map (·.1) = some (0, .external .startTransaction) := by
    decide +kernel
  have changed : state.advance.coordinator.phase ≠ state.coordinator.phase := by decide +kernel
  obtain ⟨⟨popped, rest⟩, next, same⟩ := Option.map_eq_some_iff.mp start
  cases same
  have faithful := (faithful_invariant .unanimous anyEnvironment).reachable reachable
  obtain ⟨after, success, _⟩ := faithful.step_ok (EventQueue.pending_ne_nil next)
  have result : state.advance = after := by rw [advance, success]
  rw [result] at changed
  exact changed ((without reachable crashed next nofun success).coordinator rfl).1

end Simulator

end TwoPhaseCommit
