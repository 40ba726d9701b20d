import TwoPhaseCommit.Coordinator
import TwoPhaseCommit.Participant
import TwoPhaseCommit.Simulator.Event
import TwoPhaseCommit.Simulator.Properties

/-! Discrete-event simulator for the protocol. `step` pops the earliest event,
advances the clock, dispatches the event to the actors, enqueues what they
return after a random delay and checks the safety invariants. -/

set_option autoImplicit false

namespace TwoPhaseCommit

/-- Whether a protocol actor is currently operating or has crashed. -/
inductive ActorStatus where
  | operating
  | crashed
  deriving DecidableEq, Repr

/-- `Range<u64>`: the values from `start` up to but not including `stop`. -/
structure DelayRange where
  start : Nat
  stop : Nat
  deriving DecidableEq, Repr

def DelayRange.isEmpty (range : DelayRange) : Bool :=
  !decide (range.start < range.stop)

/-- A record of something that happened during simulation. -/
inductive LogEntry where
  | externalEvent («at» : Nat) (event : ExternalEvent)
  | deliver («at» : Nat) (msg : Message)
  | send («at» : Nat) (deliverAt : Nat) (msg : Message)
  | drop («at» : Nat) (msg : Message)
  deriving DecidableEq, Repr

/-- The ways a step can panic, with the data of the panic message. -/
inductive Panic where
  | conflict (conflict : Conflict)
  | invariantViolation (clock : Nat) (error : String) (observations : Observations)
      (phase : CoordinatorPhase) (log : List LogEntry)
  deriving DecidableEq

structure Simulator (ρ : Type) where
  coordinator : Coordinator ρ
  participants : Std.ExtTreeMap NodeId (Participant ρ)
  actorStatus : Std.ExtTreeMap ActorId ActorStatus
  eventQueue : EventQueue
  clock : Nat
  rng : ρ
  deliveryDelay : DelayRange
  observations : Observations
  actionLog : List LogEntry

namespace Simulator

variable {ρ : Type} [ChaCha8Rng ρ]

def nodeIds (nParticipants : UInt8) : List NodeId :=
  (List.range nParticipants.toNat).map fun index => ⟨UInt8.ofNat index⟩

/-- The loop of `new` that creates the participants, each with its own seed. -/
def newParticipants (participantAbortBias : ℚ) :
    List NodeId → Std.ExtTreeMap NodeId (Participant ρ) → Std.ExtTreeMap ActorId ActorStatus →
      ρ → Std.ExtTreeMap NodeId (Participant ρ) × Std.ExtTreeMap ActorId ActorStatus × ρ
  | [], participants, status, rng => (participants, status, rng)
  | node :: rest, participants, status, rng =>
      let (seed, rng) := ChaCha8Rng.random rng
      newParticipants participantAbortBias rest
        (participants.insert node (.new node seed participantAbortBias))
        (status.insert (.node node) .operating) rng

def new (nParticipants : UInt8) (seed : UInt64) (abortBias participantAbortBias : ℚ)
    (deliveryDelay : DelayRange) (retransmitTimeout : Nat) : Simulator ρ :=
  let rng : ρ := ChaCha8Rng.seedFromU64 seed
  let nodes := nodeIds nParticipants
  let (coordinatorSeed, rng) := ChaCha8Rng.random rng
  let coordinator := Coordinator.new nodes coordinatorSeed abortBias retransmitTimeout
  let (participants, actorStatus, rng) :=
    newParticipants participantAbortBias nodes ∅ ((∅ : Std.ExtTreeMap ActorId ActorStatus).insert
      .coordinator .operating) rng
  { coordinator := coordinator
    participants := participants
    actorStatus := actorStatus
    eventQueue := .new
    clock := 0
    rng := rng
    deliveryDelay := deliveryDelay
    observations := .new
    actionLog := [] }

/-- Every actor without a `crashed` entry counts as operating. -/
def isOperating (self : Simulator ρ) (actor : ActorId) : Bool :=
  self.actorStatus[actor]? != some .crashed

/-- Schedule an external event for delivery at `atTime`. -/
def enqueueExternal (self : Simulator ρ) (event : ExternalEvent) (atTime : Nat) : Simulator ρ :=
  { self with eventQueue := self.eventQueue.insert atTime (.external event) }

/-- Log one message and schedule its delivery after a random delay. -/
def enqueueMessage (self : Simulator ρ) (msg : Message) : Simulator ρ :=
  let (delay, rng) :=
    if !self.deliveryDelay.isEmpty then
      ChaCha8Rng.randomRange self.rng self.deliveryDelay.start self.deliveryDelay.stop
    else (0, self.rng)
  let deliverAt := self.clock + 1 + delay
  { self with
    rng := rng
    actionLog := self.actionLog ++ [LogEntry.send self.clock deliverAt msg]
    eventQueue := self.eventQueue.insert deliverAt (.internal (.deliver msg.to msg)) }

/-- Record all messages, then schedule them in order. -/
def enqueueOutgoing (self : Simulator ρ) (messages : List Message) :
    Except Panic (Simulator ρ) := do
  let observations ←
    (messages.foldlM Observations.recordSent self.observations).mapError Panic.conflict
  return messages.foldl enqueueMessage { self with observations := observations }

/-- `self.participants.get_mut(id).map(..).unwrap_or_default()`. -/
def updateParticipant (self : Simulator ρ) (id : NodeId)
    (update : Participant ρ → Participant ρ × List Message) : Simulator ρ × List Message :=
  match self.participants[id]? with
  | some participant =>
      let (participant, outgoing) := update participant
      ({ self with participants := self.participants.insert id participant }, outgoing)
  | none => (self, [])

def tickActor (self : Simulator ρ) (actor : ActorId) : Simulator ρ × List Message :=
  if !self.isOperating actor then (self, [])
  else
    match actor with
    | .coordinator =>
        let (coordinator, outgoing) := self.coordinator.tick self.clock
        ({ self with coordinator := coordinator }, outgoing)
    | .node id => self.updateParticipant id (·.tick self.clock)

/-- The coordinator first, then the participants in the order of their ids. -/
def tickAll (self : Simulator ρ) : Simulator ρ × List Message :=
  let nodeIds := self.participants.keys
  nodeIds.foldl
    (fun (self, outgoing) id =>
      let (self, ticked) := self.tickActor (.node id)
      (self, outgoing ++ ticked))
    (self.tickActor .coordinator)

def recoverActor (self : Simulator ρ) (actor : ActorId) : Simulator ρ :=
  let wasCrashed := !self.isOperating actor
  let self := { self with actorStatus := self.actorStatus.insert actor .operating }
  if wasCrashed then
    match actor with
    | .coordinator => { self with coordinator := self.coordinator.recover self.clock }
    | .node id => (self.updateParticipant id fun p => (p.recover self.clock, [])).1
  else self

def startMessage : Message :=
  { messageType := .startTransaction, «from» := .coordinator, «to» := .coordinator }

def handleExternal (self : Simulator ρ) : ExternalEvent → Simulator ρ × List Message
  | .startTransaction =>
      let (coordinator, outgoing) := self.coordinator.onMessage startMessage self.clock
      ({ self with coordinator := coordinator }, outgoing)
  | .tick actor => self.tickActor actor
  | .tickAll => self.tickAll
  | .crash actor => ({ self with actorStatus := self.actorStatus.insert actor .crashed }, [])
  | .recover actor => (self.recoverActor actor, [])

def deliver (self : Simulator ρ) (recipient : ActorId) (msg : Message) :
    Simulator ρ × List Message :=
  match recipient with
  | .coordinator =>
      let (coordinator, outgoing) := self.coordinator.onMessage msg self.clock
      ({ self with coordinator := coordinator }, outgoing)
  | .node id => self.updateParticipant id (·.onMessage msg self.clock)

/-- Enqueue the outgoing messages of an event and check the invariants. -/
def conclude (self : Simulator ρ) (outgoing : List Message) : Except Panic (Simulator ρ) := do
  let self ← self.enqueueOutgoing outgoing
  match checkAllInvariants self.observations with
  | .ok () => return self
  | .error error =>
      throw (.invariantViolation self.clock error self.observations self.coordinator.phase
        self.actionLog)

/-- Process a popped event. A message to a crashed actor is dropped early. -/
def process (self : Simulator ρ) : Event → Except Panic (Simulator ρ)
  | .external event =>
      let self := { self with
        actionLog := self.actionLog ++ [LogEntry.externalEvent self.clock event] }
      let (self, outgoing) := self.handleExternal event
      self.conclude outgoing
  | .internal (.deliver recipient msg) =>
      if !self.isOperating msg.to then
        .ok { self with actionLog := self.actionLog ++ [LogEntry.drop self.clock msg] }
      else do
        let self := { self with actionLog := self.actionLog ++ [LogEntry.deliver self.clock msg] }
        let observations ← (self.observations.recordDelivered msg).mapError Panic.conflict
        let self := { self with observations := observations }
        let (self, outgoing) := self.deliver recipient msg
        self.conclude outgoing

/-- Process one event. Returns `false` if the queue was empty. -/
def step (self : Simulator ρ) : Except Panic (Bool × Simulator ρ) :=
  match self.eventQueue.next with
  | none => .ok (false, self)
  | some ((timestamp, event), queue) => do
      let self := { self with eventQueue := queue, clock := timestamp }
      return (true, ← self.process event)

/-- Process events until the queue is empty, giving up after `fuel` steps. -/
def run : Nat → Simulator ρ → Except Panic (Option (Simulator ρ))
  | 0, _ => .ok none
  | fuel + 1, self => do
      let (stepped, self) ← self.step
      if stepped then run fuel self else return some self

def isQuiescent (self : Simulator ρ) : Bool :=
  self.eventQueue.isEmpty &&
    (!self.isOperating .coordinator || self.coordinator.isQuiescent) &&
    self.participants.toList.all fun (id, participant) =>
      !self.isOperating (.node id) || participant.isQuiescent

def quiescenceThreshold : Nat := 12

/-- Advance the clock and inject a `TickAll` probe. -/
def injectProbe (self : Simulator ρ) : Simulator ρ :=
  { self with clock := self.clock + 1 }.enqueueExternal .tickAll (self.clock + 1)

/-- The loop of `drain` with the rounds that are left. -/
def drainLoop : Nat → Nat → Simulator ρ → Except Panic (Bool × Simulator ρ)
  | 0, _, self => .ok (false, self)
  | rounds + 1, consecutiveEmpty, self => do
      let (stepped, self) ← self.step
      if stepped then
        if self.isQuiescent then return (true, self)
        else drainLoop rounds 0 self
      else if self.isQuiescent then return (true, self)
      else
        let (_, self) ← self.injectProbe.step
        let (stepped, self) ← self.step
        if stepped then drainLoop rounds 0 self
        else if consecutiveEmpty + 1 ≥ quiescenceThreshold then return (true, self)
        else drainLoop rounds (consecutiveEmpty + 1) self

/-- Tick all actors until nothing happens for several consecutive rounds. -/
def drain (self : Simulator ρ) (maxRounds : Nat) : Except Panic (Bool × Simulator ρ) :=
  drainLoop maxRounds 0 self

def allDecided (self : Simulator ρ) : Bool :=
  TwoPhaseCommit.allDecided self.observations self.coordinator.nodes

end Simulator

end TwoPhaseCommit
