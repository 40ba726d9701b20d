import TwoPhaseCommit.Types
import TwoPhaseCommit.Library.BinaryHeap

/-! Event queue ordered by `(timestamp, sequenceNumber)`. The sequence number
keeps events of one timestamp in insertion order. -/

set_option autoImplicit false

namespace TwoPhaseCommit

/-- An event injected from outside the protocol, not subject to delays. -/
inductive ExternalEvent where
  | startTransaction
  | tick («to» : ActorId)
  | tickAll
  | crash (actor : ActorId)
  | recover (actor : ActorId)
  deriving DecidableEq, Repr

inductive InternalEvent where
  | deliver («to» : ActorId) (msg : Message)
  deriving DecidableEq, Repr

inductive Event where
  | external (event : ExternalEvent)
  | internal (event : InternalEvent)
  deriving DecidableEq, Repr

def ExternalEvent.actor? : ExternalEvent → Option ActorId
  | .startTransaction | .tickAll => none
  | .tick actor | .crash actor | .recover actor => some actor

instance : Ord ExternalEvent :=
  ⟨compareLex (compareOn ExternalEvent.ctorIdx) (compareOn ExternalEvent.actor?)⟩

def InternalEvent.recipient : InternalEvent → ActorId
  | .deliver recipient _ => recipient

def InternalEvent.message : InternalEvent → Message
  | .deliver _ msg => msg

instance : Ord InternalEvent :=
  ⟨compareLex (compareOn InternalEvent.recipient) (compareOn InternalEvent.message)⟩

def Event.external? : Event → Option ExternalEvent
  | .external event => some event
  | .internal _ => none

def Event.internal? : Event → Option InternalEvent
  | .external _ => none
  | .internal event => some event

instance : Ord Event :=
  ⟨compareLex (compareOn Event.ctorIdx)
    (compareLex (compareOn Event.external?) (compareOn Event.internal?))⟩

/-- An event tagged with its delivery time and insertion order. -/
structure TimestampedEvent where
  timestamp : Nat
  sequenceNumber : Nat
  event : Event
  deriving DecidableEq, Repr

/-- The natural order of `(timestamp, sequenceNumber, event)`, reversed so that
the max-heap pops the smallest timestamp first. -/
instance : Ord TimestampedEvent :=
  ⟨fun self other =>
    ((compare self.timestamp other.timestamp).then
      ((compare self.sequenceNumber other.sequenceNumber).then
        (compare self.event other.event))).swap⟩

structure EventQueue where
  queue : Library.BinaryHeap TimestampedEvent
  nextSequenceNumber : Nat
  deriving DecidableEq, Repr

namespace EventQueue

def new : EventQueue where
  queue := .empty
  nextSequenceNumber := 0

def insert (self : EventQueue) (timestamp : Nat) (event : Event) : EventQueue where
  queue := self.queue.push {
    timestamp := timestamp
    sequenceNumber := self.nextSequenceNumber
    event := event }
  nextSequenceNumber := self.nextSequenceNumber + 1

def isEmpty (self : EventQueue) : Bool :=
  self.queue.isEmpty

def next (self : EventQueue) : Option ((Nat × Event) × EventQueue) :=
  self.queue.pop.map fun (popped, rest) =>
    ((popped.timestamp, popped.event), { self with queue := rest })

end EventQueue

/-! ## The order of delivery -/

instance : Std.TransOrd ExternalEvent :=
  inferInstanceAs (Std.TransCmp (compareLex (compareOn ExternalEvent.ctorIdx)
    (compareOn ExternalEvent.actor?)))

instance : Std.TransOrd InternalEvent :=
  inferInstanceAs (Std.TransCmp (compareLex (compareOn InternalEvent.recipient)
    (compareOn InternalEvent.message)))

instance : Std.TransOrd Event :=
  inferInstanceAs (Std.TransCmp (compareLex (compareOn Event.ctorIdx)
    (compareLex (compareOn Event.external?) (compareOn Event.internal?))))

namespace TimestampedEvent

/-- The derived order of the tuple, before it is reversed. -/
def natural : TimestampedEvent → TimestampedEvent → Ordering :=
  compareLex (compareOn timestamp) (compareLex (compareOn sequenceNumber) (compareOn event))

instance : Std.TransCmp natural :=
  inferInstanceAs (Std.TransCmp (compareLex (compareOn timestamp)
    (compareLex (compareOn sequenceNumber) (compareOn event))))

theorem compare_eq (left right : TimestampedEvent) : compare left right = natural right left :=
  (@Std.OrientedCmp.eq_swap _ natural _ right left).symm

instance : Std.TransOrd TimestampedEvent := by
  have reversed : (compare : TimestampedEvent → _ → _) = fun left right => natural right left :=
    funext fun left => funext (compare_eq left)
  rw [Std.TransOrd, reversed]
  exact Std.TransCmp.opposite

/-- The first event is due before the second, by time and then by order of insertion. -/
def Precedes (first second : TimestampedEvent) : Prop :=
  first.timestamp < second.timestamp ∨
    (first.timestamp = second.timestamp ∧ first.sequenceNumber < second.sequenceNumber)

theorem not_precedes_of_isLE {item best : TimestampedEvent}
    (largest : (compare item best).isLE = true) : ¬ item.Precedes best := by
  have first : natural best item ≠ .gt := by
    rw [compare_eq] at largest
    exact Ordering.isLE_iff_ne_gt.mp largest
  intro earlier
  rcases earlier with earlier | ⟨same, earlier⟩
  · apply first
    simp [natural, compareLex, compareOn, Nat.compare_eq_gt.mpr earlier]
  · apply first
    simp [natural, compareLex, compareOn, same, Nat.compare_eq_gt.mpr earlier]

end TimestampedEvent

end TwoPhaseCommit
