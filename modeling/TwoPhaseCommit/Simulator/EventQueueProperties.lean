import TwoPhaseCommit.Simulator.Event
import TwoPhaseCommit.Library.StableQueue

/-! The event queue is a stable priority queue: what a pop takes out, the order of
insertion among what is queued, and what any calls return. -/

set_option autoImplicit false

namespace TwoPhaseCommit

namespace EventQueue

/-- The events that are queued, in no particular order. -/
def pending (self : EventQueue) : List TimestampedEvent := self.queue.items

theorem pending_insert (self : EventQueue) (timestamp : Nat) (event : Event) :
    (self.insert timestamp event).pending =
      ⟨timestamp, self.nextSequenceNumber, event⟩ :: self.pending := rfl

theorem isEmpty_iff {self : EventQueue} : self.isEmpty = true ↔ self.pending = [] :=
  Library.BinaryHeap.isEmpty_iff

/-- Popping the queue yields this event and leaves this queue. -/
def Pops (self : EventQueue) (popped : TimestampedEvent) (rest : EventQueue) : Prop :=
  self.queue.pop = some (popped, rest.queue) ∧ rest.nextSequenceNumber = self.nextSequenceNumber

section Next

variable {self rest : EventQueue}

theorem next_eq_none_iff : self.next = none ↔ self.pending = [] := by
  rw [next, Option.map_eq_none_iff, Library.BinaryHeap.pop_eq_none_iff]
  rfl

theorem pending_ne_nil {result : (Nat × Event) × EventQueue} (popped : self.next = some result) :
    self.pending ≠ [] := by
  intro drained
  rw [next_eq_none_iff.mpr drained] at popped
  cases popped

theorem next_eq_some {timestamp : Nat} {event : Event}
    (popped : self.next = some ((timestamp, event), rest)) :
    ∃ sequenceNumber, self.Pops ⟨timestamp, sequenceNumber, event⟩ rest := by
  obtain ⟨⟨item, queue⟩, found, same⟩ := Option.map_eq_some_iff.mp popped
  cases same
  exact ⟨item.sequenceNumber, found, rfl⟩

theorem Pops.next_eq {popped : TimestampedEvent} (pops : self.Pops popped rest) :
    self.next = some ((popped.timestamp, popped.event), rest) := by
  obtain ⟨found, sequence⟩ := pops
  rw [next, found, ← sequence]
  rfl

theorem exists_pops (nonempty : self.pending ≠ []) : ∃ popped rest, self.Pops popped rest := by
  cases found : self.next with
  | none => exact absurd (next_eq_none_iff.mp found) nonempty
  | some result =>
      obtain ⟨⟨timestamp, event⟩, rest⟩ := result
      obtain ⟨sequenceNumber, pops⟩ := next_eq_some found
      exact ⟨_, rest, pops⟩

theorem Pops.perm {popped : TimestampedEvent} (pops : self.Pops popped rest) :
    self.pending.Perm (popped :: rest.pending) :=
  Library.BinaryHeap.pop_perm pops.1

theorem Pops.mem {popped : TimestampedEvent} (pops : self.Pops popped rest) :
    popped ∈ self.pending :=
  pops.perm.mem_iff.mpr (.head _)

theorem Pops.subset {popped : TimestampedEvent} (pops : self.Pops popped rest) :
    rest.pending ⊆ self.pending :=
  fun _ member => pops.perm.mem_iff.mpr (.tail _ member)

theorem Pops.eq_or_mem {popped item : TimestampedEvent} (pops : self.Pops popped rest)
    (queued : item ∈ self.pending) : item = popped ∨ item ∈ rest.pending :=
  List.mem_cons.mp (pops.perm.mem_iff.mp queued)

theorem Pops.not_precedes {popped item : TimestampedEvent} (pops : self.Pops popped rest)
    (queued : item ∈ self.pending) : ¬ item.Precedes popped :=
  TimestampedEvent.not_precedes_of_isLE (Library.BinaryHeap.isLE_of_pop pops.1 queued)

/-- The only event that can be popped is the one that precedes all others. -/
theorem Pops.eq_of_precedes {popped item : TimestampedEvent} (pops : self.Pops popped rest)
    (queued : item ∈ self.pending)
    (first : ∀ other ∈ self.pending, other = item ∨ item.Precedes other) : popped = item :=
  (first popped pops.mem).resolve_right (pops.not_precedes queued)

theorem Pops.pending_of_cons {item : TimestampedEvent} {items : List TimestampedEvent}
    (pops : self.Pops item rest) (queue : self.pending.Perm (item :: items)) :
    rest.pending.Perm items :=
  (List.perm_cons item).mp (pops.perm.symm.trans queue)

end Next

/-! ## The order of insertion -/

/-- The queued events in the order of their insertion. -/
structure Queued (items : List TimestampedEvent) (queue : EventQueue) : Prop where
  perm : items.Perm queue.pending
  ordered : items.Pairwise fun first second => first.sequenceNumber < second.sequenceNumber
  numbered : ∀ item ∈ items, item.sequenceNumber < queue.nextSequenceNumber

section Queued

variable {items : List TimestampedEvent} {queue rest : EventQueue} {popped : TimestampedEvent}

theorem queued_new : Queued [] .new where
  perm := .refl _
  ordered := .nil
  numbered := nofun

theorem Queued.insert (queued : Queued items queue) (timestamp : Nat) (event : Event) :
    Queued (items ++ [⟨timestamp, queue.nextSequenceNumber, event⟩])
      (queue.insert timestamp event) where
  perm := by
    rw [pending_insert]
    exact (List.perm_append_singleton _ _).trans (queued.perm.cons _)
  ordered := by
    refine List.pairwise_append.mpr ⟨queued.ordered, List.pairwise_singleton _ _, ?_⟩
    intro earlier member newest last
    obtain rfl := List.mem_singleton.mp last
    exact queued.numbered earlier member
  numbered item member := by
    rcases List.mem_append.mp member with earlier | last
    · exact Nat.lt_succ_of_lt (queued.numbered item earlier)
    · obtain rfl := List.mem_singleton.mp last
      exact Nat.lt_succ_self _

/-- What is popped is due before all that was inserted earlier, and not after the rest. -/
theorem Queued.pop (queued : Queued items queue) (pops : queue.Pops popped rest) :
    ∃ before behind, items = before ++ popped :: behind ∧ Queued (before ++ behind) rest ∧
      (∀ other ∈ before, popped.timestamp < other.timestamp) ∧
      ∀ other ∈ behind, popped.timestamp ≤ other.timestamp := by
  obtain ⟨before, behind, rfl⟩ := List.append_of_mem (queued.perm.mem_iff.mpr pops.mem)
  have removed : (before ++ behind).Sublist (before ++ popped :: behind) :=
    (List.sublist_cons_self _ _).append_left _
  have first : ∀ other ∈ before ++ behind, popped.timestamp ≤ other.timestamp := by
    intro other member
    have waiting : other ∈ queue.pending := queued.perm.subset (removed.subset member)
    exact Nat.le_of_not_lt fun earlier => pops.not_precedes waiting (.inl earlier)
  refine ⟨before, behind, rfl, ⟨?_, queued.ordered.sublist removed, ?_⟩, ?_, ?_⟩
  · exact (pops.pending_of_cons (queued.perm.symm.trans List.perm_middle)).symm
  · intro item member
    rw [pops.2]
    exact queued.numbered item (removed.subset member)
  · intro other member
    have waiting : other ∈ queue.pending := queued.perm.subset (List.mem_append_left _ member)
    have inserted := (List.pairwise_append.mp queued.ordered).2.2 other member popped (.head _)
    have different : popped.timestamp ≠ other.timestamp := fun same =>
      pops.not_precedes waiting (.inr ⟨same.symm, inserted⟩)
    exact lt_of_le_of_ne (first other (List.mem_append_left _ member)) different
  · exact fun other member => first other (List.mem_append_right _ member)

/-- Numbers are given once, so the order of the payloads decides nothing. -/
theorem Queued.eq_of_sequenceNumber (queued : Queued items queue)
    {first second : TimestampedEvent} (member : first ∈ queue.pending)
    (other : second ∈ queue.pending) (same : first.sequenceNumber = second.sequenceNumber) :
    first = second := by
  have distinct : (items.map TimestampedEvent.sequenceNumber).Nodup :=
    List.pairwise_map.mpr (queued.ordered.imp Nat.ne_of_lt)
  exact List.inj_on_of_nodup_map distinct (queued.perm.mem_iff.mpr member)
    (queued.perm.mem_iff.mpr other) same

/-- Only one of the queued events is a greatest one, and it is popped. -/
theorem Queued.eq_of_greatest (queued : Queued items queue) (pops : queue.Pops popped rest)
    {item : TimestampedEvent} (member : item ∈ queue.pending)
    (greatest : ∀ other ∈ queue.pending, (compare other item).isLE = true) : popped = item := by
  have notBefore : ¬ item.Precedes popped := pops.not_precedes member
  have notAfter : ¬ popped.Precedes item :=
    TimestampedEvent.not_precedes_of_isLE (greatest popped pops.mem)
  apply queued.eq_of_sequenceNumber pops.mem member
  simp only [TimestampedEvent.Precedes] at notBefore notAfter
  omega

end Queued

/-! ## Runs -/

open Library.StableQueue

section Runs

variable {queue rest : EventQueue} {waiting : List (Nat × Event)}

/-- The queue as a machine whose inputs are the calls. -/
def machine : Library.Machine EventQueue (Call (Nat × Event)) (Option (Nat × Event)) where
  step self
    | .insert (timestamp, event) => (self.insert timestamp event, none)
    | .next =>
        match self.next with
        | none => (self, none)
        | some (item, rest) => (rest, some item)

/-- The list of what waits is that of the queued events, without their numbers. -/
def Represents (queue : EventQueue) (waiting : List (Nat × Event)) : Prop :=
  ∃ items, Queued items queue ∧ items.map (fun item => (item.timestamp, item.event)) = waiting

theorem Represents.insert (represents : Represents queue waiting) (timestamp : Nat)
    (event : Event) :
    Represents (queue.insert timestamp event) (waiting ++ [(timestamp, event)]) := by
  obtain ⟨items, queued, rfl⟩ := represents
  exact ⟨_, queued.insert timestamp event, List.map_append⟩

theorem Represents.pop {popped : TimestampedEvent} (represents : Represents queue waiting)
    (pops : queue.Pops popped rest) :
    ∃ left, select Prod.fst waiting = some ((popped.timestamp, popped.event), left) ∧
      Represents rest left := by
  obtain ⟨items, queued, rfl⟩ := represents
  obtain ⟨before, behind, rfl, remaining, above, beyond⟩ := queued.pop pops
  refine ⟨_, ?_, _, remaining, rfl⟩
  rw [List.map_append, List.map_append, List.map_cons]
  apply select_append
  · simpa using above
  · simpa using beyond

theorem Represents.eq_nil (represents : Represents queue waiting)
    (drained : queue.pending = []) : waiting = [] := by
  obtain ⟨items, queued, rfl⟩ := represents
  have nothing : items.Perm [] := drained ▸ queued.perm
  rw [nothing.eq_nil]
  rfl

theorem machine_empty (missing : queue.next = none) :
    machine.output queue .next = none ∧ machine.next queue .next = queue := by
  simp [Library.Machine.output, Library.Machine.next, machine, missing]

theorem machine_pop {item : Nat × Event} (found : queue.next = some (item, rest)) :
    machine.output queue .next = some item ∧ machine.next queue .next = rest := by
  simp [Library.Machine.output, Library.Machine.next, machine, found]

/-- One call of the queue is one call of the list. -/
theorem machine_represents (call : Call (Nat × Event)) (represents : Represents queue waiting) :
    machine.output queue call = (model Prod.fst).output waiting call ∧
      Represents (machine.next queue call) ((model Prod.fst).next waiting call) := by
  cases call with
  | insert item => exact ⟨rfl, represents.insert item.1 item.2⟩
  | next =>
      cases found : queue.next with
      | none =>
          obtain rfl := represents.eq_nil (next_eq_none_iff.mp found)
          rw [(machine_empty found).1, (machine_empty found).2]
          exact ⟨rfl, represents⟩
      | some result =>
          obtain ⟨⟨timestamp, event⟩, rest⟩ := result
          obtain ⟨sequenceNumber, pops⟩ := next_eq_some found
          obtain ⟨left, selected, remaining⟩ := represents.pop pops
          obtain ⟨next, output⟩ := step_select selected
          rw [(machine_pop found).1, (machine_pop found).2, next, output]
          exact ⟨rfl, remaining⟩

theorem trace_eq_model (calls : List (Call (Nat × Event))) :
    machine.trace .new calls = (model Prod.fst).trace [] calls ∧
      Represents (machine.run .new calls) ((model Prod.fst).run [] calls) := by
  apply Library.Machine.trace_eq Represents
  · exact machine_represents
  · exact ⟨[], queued_new, rfl⟩

end Runs

/-- The number of the next event is the number of the events inserted. -/
theorem run_nextSequenceNumber (calls : List (Call (Nat × Event))) :
    (machine.run .new calls).nextSequenceNumber =
      (inserted (machine.trace .new calls)).length := by
  apply Library.Machine.trace_induction fun trace (queue : EventQueue) =>
    queue.nextSequenceNumber = (inserted trace).length
  · rfl
  · intro trace queue call numbered
    cases call with
    | insert item =>
        rw [inserted_insert, List.length_append, ← numbered]
        rfl
    | next =>
        rw [inserted_next, ← numbered]
        cases found : queue.next with
        | none => rw [(machine_empty found).2]
        | some result =>
            obtain ⟨⟨timestamp, event⟩, rest⟩ := result
            obtain ⟨_, pops⟩ := next_eq_some found
            rw [(machine_pop found).2, pops.2]

/-- The queue is a stable priority queue by timestamp. Its counter is the number of the
insertions, so it overflows after 2^64 of them at the earliest, and the heap has no choice
of what it pops. -/
theorem machine_isStableQueue :
    IsStableQueue Prod.fst machine new ∧ ∀ calls : List (Call (Nat × Event)),
      let queue := machine.run new calls
      (queue.next = none ↔ queue.isEmpty = true) ∧
        queue.nextSequenceNumber = (inserted (machine.trace new calls)).length ∧
        ∀ item ∈ queue.pending, (∀ other ∈ queue.pending, (compare other item).isLE = true) →
          ∃ rest, queue.next = some ((item.timestamp, item.event), rest) := by
  refine ⟨isStableQueue_of_trace_eq fun calls => (trace_eq_model calls).1, fun calls => ?_⟩
  intro queue
  refine ⟨next_eq_none_iff.trans isEmpty_iff.symm, run_nextSequenceNumber calls, ?_⟩
  intro item member greatest
  obtain ⟨items, queued, -⟩ := (trace_eq_model calls).2
  obtain ⟨popped, rest, pops⟩ := exists_pops (List.ne_nil_of_mem member)
  obtain rfl := queued.eq_of_greatest pops member greatest
  exact ⟨rest, pops.next_eq⟩

-- The payloads of one time come out as they went in, against the order derived for them.
example : returned (machine.trace new [.insert (5, .external .tickAll),
      .insert (5, .external .startTransaction), .next, .insert (3, .external .tickAll), .next,
      .next, .next]) =
    [(5, .external .tickAll), (3, .external .tickAll), (5, .external .startTransaction)] := by
  decide

end EventQueue

end TwoPhaseCommit
