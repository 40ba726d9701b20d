import TwoPhaseCommit.Simulator.Log
import Mathlib.Data.List.Count

/-! No message is lost or duplicated, and none is handled out of time: what the log
says was sent for a time is what it says was handled at that time, followed by what is
still queued for it. -/

set_option autoImplicit false

namespace TwoPhaseCommit

/-- The message that the entry puts into the queue, and the time for which it does. -/
def LogEntry.sends? : LogEntry → Option (Message × Nat)
  | .send _ deliverAt msg => some (msg, deliverAt)
  | .externalEvent _ _ | .deliver _ _ | .drop _ _ => none

/-- The message that the entry takes out of the queue, and the time at which it does. -/
def LogEntry.handles? : LogEntry → Option (Message × Nat)
  | .deliver clock msg | .drop clock msg => some (msg, clock)
  | .externalEvent _ _ | .send _ _ _ => none

def TimestampedEvent.delivers? (item : TimestampedEvent) : Option (Message × Nat) :=
  match item.event with
  | .internal (.deliver _ msg) => some (msg, item.timestamp)
  | .external _ => none

/-- Those of the messages whose time it is. -/
def due (time : Nat) (messages : List (Message × Nat)) : List (Message × Nat) :=
  messages.filter fun message => message.2 = time

@[simp] theorem due_nil (time : Nat) : due time [] = [] := rfl

@[simp] theorem due_append (time : Nat) (first second : List (Message × Nat)) :
    due time (first ++ second) = due time first ++ due time second :=
  List.filter_append ..

/-- In the order of their insertion, the queued messages are what was sent and not handled. -/
structure Ledger (items : List TimestampedEvent) (queue : EventQueue) (log : List LogEntry) :
    Prop where
  perm : items.Perm queue.pending
  ordered : items.Pairwise fun first second => first.sequenceNumber < second.sequenceNumber
  numbered : ∀ item ∈ items, item.sequenceNumber < queue.nextSequenceNumber
  balance : ∀ time, due time (log.filterMap LogEntry.sends?) =
    due time (log.filterMap LogEntry.handles?) ++ due time (items.filterMap (·.delivers?))

section Ledger

variable {items : List TimestampedEvent} {queue rest : EventQueue} {log : List LogEntry}

theorem ledger_new : Ledger [] .new [] where
  perm := .refl _
  ordered := .nil
  numbered := nofun
  balance _ := rfl

theorem Ledger.queued (ledger : Ledger items queue log) : EventQueue.Queued items queue :=
  ⟨ledger.perm, ledger.ordered, ledger.numbered⟩

theorem Ledger.insert (ledger : Ledger items queue log) (timestamp : Nat) (event : Event)
    (entries : List LogEntry)
    (handles : entries.filterMap LogEntry.handles? = [])
    (sends : entries.filterMap LogEntry.sends? = (TimestampedEvent.delivers?
      ⟨timestamp, queue.nextSequenceNumber, event⟩).toList) :
    Ledger (items ++ [⟨timestamp, queue.nextSequenceNumber, event⟩])
      (queue.insert timestamp event) (log ++ entries) := by
  obtain ⟨perm, ordered, numbered⟩ := ledger.queued.insert timestamp event
  refine ⟨perm, ordered, numbered, fun time => ?_⟩
  rw [List.filterMap_append, List.filterMap_append, List.filterMap_append, handles, sends,
    List.append_nil, due_append, due_append, ledger.balance time, List.append_assoc]
  rfl

theorem TimestampedEvent.time_of_delivers {item : TimestampedEvent} {message : Message × Nat}
    (delivers : item.delivers? = some message) : message.2 = item.timestamp := by
  unfold TimestampedEvent.delivers? at delivers
  split at delivers <;> cases delivers
  rfl

private theorem filterMap_singleton {α β : Type} (f : α → Option β) (value : α) :
    [value].filterMap f = (f value).toList := by
  cases found : f value <;> simp [found]

/-- Messages for other times do not count. -/
private theorem due_eq_nil {items : List TimestampedEvent} {time : Nat}
    (different : ∀ item ∈ items, item.timestamp ≠ time) :
    due time (items.filterMap (·.delivers?)) = [] := by
  apply List.filter_eq_nil_iff.mpr
  intro message listed
  obtain ⟨item, member, delivers⟩ := List.mem_filterMap.mp listed
  rw [TimestampedEvent.time_of_delivers delivers]
  simpa using different item member

/-- What is popped is the first of the queued messages for its time. -/
theorem Ledger.pop (ledger : Ledger items queue log) {popped : TimestampedEvent}
    (pops : queue.Pops popped rest) {entry : LogEntry}
    (handles : entry.handles? = popped.delivers?) (sends : entry.sends? = none) :
    ∃ items, Ledger items rest (log ++ [entry]) := by
  obtain ⟨before, behind, rfl, ⟨perm, ordered, numbered⟩, later, -⟩ := ledger.queued.pop pops
  have passed : ∀ time, due time (before.filterMap (·.delivers?)) = [] ∨
      due time ([popped].filterMap (·.delivers?)) = [] := by
    intro time
    by_cases now : time = popped.timestamp
    · exact .inl (due_eq_nil fun item member => now ▸ (later item member).ne')
    · right
      apply due_eq_nil
      intro item listed
      obtain rfl := List.mem_singleton.mp listed
      exact Ne.symm now
  refine ⟨before ++ behind, perm, ordered, numbered, fun time => ?_⟩
  have balance := ledger.balance time
  rw [← List.singleton_append, List.filterMap_append, List.filterMap_append, due_append,
    due_append] at balance
  rw [List.filterMap_append, List.filterMap_append, List.filterMap_append,
    filterMap_singleton, filterMap_singleton, handles, sends, ← filterMap_singleton, due_append,
    due_append, due_append, balance]
  rcases passed time with nothing | nothing
  · simp [nothing]
  · simp [nothing]

private theorem countP_handles (log : List LogEntry) (msg : Message) (time : Nat) :
    log.countP (fun entry => entry.handles? == some (msg, time)) =
      log.count (.deliver time msg) + log.count (.drop time msg) := by
  induction log with
  | nil => rfl
  | cons entry rest ih =>
      rw [List.countP_cons, List.count_cons, List.count_cons, ih]
      cases entry with
      | externalEvent _ _ | send _ _ _ => simp [LogEntry.handles?]
      | deliver clock other | drop clock other =>
          by_cases same : other = msg ∧ clock = time
          · simp [LogEntry.handles?, same]
            omega
          · simp [LogEntry.handles?, same, and_comm (a := clock = time)]

theorem Ledger.counts (ledger : Ledger items queue log) (msg : Message) (time : Nat) :
    log.countP (fun entry => entry.sends? == some (msg, time)) =
      log.count (.deliver time msg) + log.count (.drop time msg) +
        queue.pending.countP fun item => item.delivers? == some (msg, time) := by
  have balance := congrArg (List.count (msg, time)) (ledger.balance time)
  rw [List.count_append] at balance
  simp only [due] at balance
  rw [List.count_filter (by simp), List.count_filter (by simp), List.count_filter (by simp),
    List.count_filterMap, List.count_filterMap, List.count_filterMap,
    ledger.perm.countP_eq, countP_handles] at balance
  exact balance

end Ledger

namespace Simulator

variable {ρ : Type} [ChaCha8Rng ρ] {setup : Setup} {state after : Simulator ρ}

/-- External events are enqueued for the current time or later. -/
def timely : Environment ρ := fun state _ atTime => state.clock ≤ atTime

/-- What the entries before a log entry must be for it to be there. -/
def Explained (earlier : List LogEntry) : LogEntry → Prop
  | .drop _ msg => down earlier msg.to = true
  | .deliver _ msg => down earlier msg.to = false
  | .send clock deliverAt _ => clock < deliverAt
  | .externalEvent _ _ => True

/-- The heap, the log and the clock tell the same story. -/
structure Orderly (state : Simulator ρ) : Prop where
  ledger : ∃ items, Ledger items state.eventQueue state.actionLog
  explained : Library.History Explained state.actionLog
  ordered : (state.actionLog.map LogEntry.time).Pairwise (· ≤ ·)
  past : ∀ entry ∈ state.actionLog, entry.time ≤ state.clock
  ahead : ∀ item ∈ state.eventQueue.pending, state.clock ≤ item.timestamp
  tracked : Tracked state

/-- An entry at the time of the clock goes to the end of the log. -/
private theorem ordered_concat {log : List LogEntry} {entry : LogEntry}
    (ordered : (log.map LogEntry.time).Pairwise (· ≤ ·))
    (past : ∀ earlier ∈ log, earlier.time ≤ entry.time) :
    ((log ++ [entry]).map LogEntry.time).Pairwise (· ≤ ·) := by
  rw [List.map_append, List.pairwise_append]
  refine ⟨ordered, List.pairwise_singleton _ _, fun time listed last final => ?_⟩
  obtain ⟨earlier, member, rfl⟩ := List.mem_map.mp listed
  obtain rfl := List.mem_singleton.mp final
  exact past earlier member

theorem Orderly.enqueueMessage (orderly : Orderly state) (msg : Message) :
    Orderly (state.enqueueMessage msg) := by
  have tracked := orderly.tracked.enqueueMessage msg
  obtain ⟨deliverAt, rng, later, same⟩ := state.enqueueMessage_eq msg
  rw [same] at tracked ⊢
  obtain ⟨items, ledger⟩ := orderly.ledger
  constructor
  · exact ⟨_, ledger.insert deliverAt msg.delivery [_] rfl rfl⟩
  · exact .snoc orderly.explained later
  · exact ordered_concat orderly.ordered orderly.past
  · intro entry member
    rcases List.mem_append.mp member with earlier | last
    · exact orderly.past entry earlier
    · obtain rfl := List.mem_singleton.mp last
      exact Nat.le_refl _
  · intro item queued
    rw [EventQueue.pending_insert] at queued
    rcases List.mem_cons.mp queued with rfl | earlier
    · exact Nat.le_of_lt later
    · exact orderly.ahead item earlier
  · exact tracked

section Processed

variable {popped : TimestampedEvent} {entry : LogEntry} {middle : Simulator ρ}

omit [ChaCha8Rng ρ]

theorem Processed.entry_eq (processed : Processed state popped entry middle) :
    entry.handles? = popped.delivers? ∧ entry.sends? = none ∧ entry.time = popped.timestamp := by
  rcases processed.entry with ⟨recipient, msg, kind, _, rfl⟩ | ⟨_, rfl⟩
  · rw [TimestampedEvent.delivers?, kind]
    exact ⟨rfl, rfl, rfl⟩
  · rw [TimestampedEvent.delivers?]
    cases popped.event with
    | external event => exact ⟨rfl, rfl, rfl⟩
    | internal event => exact ⟨rfl, rfl, rfl⟩

theorem Processed.explained (processed : Processed state popped entry middle)
    (tracked : Tracked state) : Explained state.actionLog entry := by
  rcases processed.entry with ⟨recipient, msg, _, crashed, rfl⟩ | ⟨reaches, rfl⟩
  · exact (tracked msg.to).mp crashed
  · cases kind : popped.event with
    | external event => trivial
    | internal event =>
        obtain ⟨recipient, msg⟩ := event
        rw [kind] at reaches
        exact tracked.not_down (show state.isOperating msg.to = true from reaches)

theorem Processed.orderly (processed : Processed state popped entry middle)
    (orderly : Orderly state) : Orderly middle := by
  obtain ⟨handles, sends, time⟩ := processed.entry_eq
  obtain ⟨items, ledger⟩ := orderly.ledger
  have forward : state.clock ≤ popped.timestamp := orderly.ahead popped processed.pops.mem
  have past : ∀ earlier ∈ state.actionLog, earlier.time ≤ popped.timestamp :=
    fun earlier member => Nat.le_trans (orderly.past earlier member) forward
  constructor
  · rw [processed.actionLog]
    exact ledger.pop processed.pops handles sends
  · rw [processed.actionLog]
    exact .snoc orderly.explained (processed.explained orderly.tracked)
  · rw [processed.actionLog]
    exact ordered_concat orderly.ordered (time ▸ past)
  · intro other member
    rw [processed.actionLog] at member
    rw [processed.clock]
    rcases List.mem_append.mp member with earlier | last
    · exact past other earlier
    · obtain rfl := List.mem_singleton.mp last
      exact Nat.le_of_eq time
  · intro item queued
    rw [processed.clock]
    have first := processed.pops.not_precedes (processed.pops.subset queued)
    exact Nat.le_of_not_lt fun before => first (.inl before)
  · exact processed.tracked orderly.tracked

theorem Orderly.enqueueExternal (orderly : Orderly state) (event : ExternalEvent) {atTime : Nat}
    (later : state.clock ≤ atTime) : Orderly (state.enqueueExternal event atTime) := by
  obtain ⟨items, ledger⟩ := orderly.ledger
  have inserted := ledger.insert atTime (.external event) [] rfl rfl
  rw [List.append_nil] at inserted
  refine { orderly with ledger := ⟨_, inserted⟩, ahead := fun item queued => ?_ }
  rw [Simulator.enqueueExternal, EventQueue.pending_insert] at queued
  rcases List.mem_cons.mp queued with rfl | earlier
  · exact later
  · exact orderly.ahead item earlier

theorem Orderly.injectProbe (orderly : Orderly state)
    (drained : state.eventQueue.pending = []) : Orderly state.injectProbe := by
  have advanced : Orderly { state with clock := state.clock + 1 } :=
    { orderly with
      past := fun entry member => Nat.le_succ_of_le (orderly.past entry member)
      ahead := fun item queued => by
        have none : item ∈ [] := drained ▸ queued
        cases none }
  exact advanced.enqueueExternal .tickAll (Nat.le_refl _)

end Processed

theorem Orderly.next (orderly : Orderly state) (next : Next timely state after) :
    Orderly after := by
  cases next with
  | enqueueExternal later => exact orderly.enqueueExternal _ later
  | injectProbe drained => exact orderly.injectProbe (EventQueue.isEmpty_iff.mp drained)
  | step success =>
      obtain ⟨_, _, rfl⟩ | ⟨_, stepped⟩ := step_stepped success
      · exact orderly
      · obtain ⟨popped, entry, middle, outgoing, processed, rfl⟩ := stepped.processed
        apply sendAll_preserves Orderly
        · exact fun msg _ orderly => orderly.enqueueMessage msg
        · exact processed.orderly orderly

theorem orderly_of_reachable (reachable : (system setup timely).Reachable state) :
    Orderly state := by
  obtain ⟨start, rfl, path⟩ := reachable
  apply steps_preserve Orderly.next path
  exact {
    ledger := ⟨[], ledger_new⟩
    explained := .nil
    ordered := .nil
    past := by simp [simulator_actionLog]
    ahead := by simp [simulator_pending]
    tracked := simulator_tracked }

/-! ## The account -/

/-- The account of all messages. -/
structure Accounted (state : Simulator ρ) : Prop where
  counts : ∀ (msg : Message) (time : Nat),
    state.actionLog.countP (fun entry => entry.sends? == some (msg, time)) =
      state.actionLog.count (.deliver time msg) + state.actionLog.count (.drop time msg) +
        state.eventQueue.pending.countP fun item => item.delivers? == some (msg, time)
  dropped : ∀ {earlier later : List LogEntry} {clock : Nat} {msg : Message},
    state.actionLog = earlier ++ .drop clock msg :: later → down earlier msg.to = true
  delivered : ∀ {earlier later : List LogEntry} {clock : Nat} {msg : Message},
    state.actionLog = earlier ++ .deliver clock msg :: later → down earlier msg.to = false
  status : ∀ actor, state.isOperating actor = !down state.actionLog actor
  delayed : ∀ {clock deliverAt : Nat} {msg : Message},
    .send clock deliverAt msg ∈ state.actionLog → clock < deliverAt
  ordered : (state.actionLog.map LogEntry.time).Pairwise (· ≤ ·)
  inOrder : ∀ time, due time (state.actionLog.filterMap LogEntry.handles?) <+:
    due time (state.actionLog.filterMap LogEntry.sends?)

theorem accounting (reachable : (system setup timely).Reachable state) : Accounted state := by
  have orderly := orderly_of_reachable reachable
  obtain ⟨items, ledger⟩ := orderly.ledger
  constructor
  · exact ledger.counts
  · intro earlier later clock msg same
    have history := orderly.explained
    rw [same] at history
    exact history.at_entry
  · intro earlier later clock msg same
    have history := orderly.explained
    rw [same] at history
    exact history.at_entry
  · exact orderly.tracked.isOperating_eq
  · intro clock deliverAt msg listed
    obtain ⟨earlier, later, same⟩ := List.append_of_mem listed
    have history := orderly.explained
    rw [same] at history
    exact history.at_entry
  · exact orderly.ordered
  · intro time
    exact ⟨_, (ledger.balance time).symm⟩

theorem accounting_unanimous : ∃ state : Simulator ForcedRng,
    (system .unanimous timely).Reachable state ∧
      state.actionLog.count (.drop 2 (.vote ⟨0⟩ .commit)) = 1 ∧ Accounted state := by
  have ended : runEndsIn (ρ := ForcedRng) .unanimous [(.startTransaction, 0),
      (.crash .coordinator, 2)] 20
      (fun state => state.actionLog.count (.drop 2 (.vote ⟨0⟩ .commit)) == 1) = true := by
    decide +kernel
  obtain ⟨state, ran, dropped⟩ := exists_run_of_runEndsIn ended
  let new : Simulator ForcedRng := Setup.unanimous.simulator
  let begun := new.enqueueExternal .startTransaction 0
  have started : Next timely new begun := .enqueueExternal (Nat.le_refl 0)
  have scheduled : Next timely begun (begun.enqueueExternal (.crash .coordinator) 2) :=
    .enqueueExternal (Nat.zero_le 2)
  have path : (system .unanimous timely).Steps new state :=
    .trans (.single started) (.trans (.single scheduled) (run_steps ran))
  exact ⟨state, ⟨new, rfl, path⟩, eq_of_beq dropped, accounting ⟨new, rfl, path⟩⟩

end Simulator

end TwoPhaseCommit
