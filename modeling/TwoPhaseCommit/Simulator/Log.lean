import TwoPhaseCommit.Library.History
import TwoPhaseCommit.Simulator.Liveness
import Mathlib.Data.List.Induction

/-! The action log as a history: what one step adds to it, and which actors are down
according to it. -/

set_option autoImplicit false

namespace TwoPhaseCommit

namespace LogEntry

def time : LogEntry → Nat
  | .externalEvent clock _ | .deliver clock _ | .send clock _ _ | .drop clock _ => clock

/-- What the entry makes of the status of an actor, if it changes it: whether it is down. -/
def status? (actor : ActorId) : LogEntry → Option Bool
  | .externalEvent _ (.crash other) => if other = actor then some true else none
  | .externalEvent _ (.recover other) => if other = actor then some false else none
  | _ => none

end LogEntry

/-- The last Crash or Recover of the actor in the log is a Crash. -/
def down (log : List LogEntry) (actor : ActorId) : Bool :=
  log.foldl (fun crashed entry => (entry.status? actor).getD crashed) false

theorem down_concat (log : List LogEntry) (entry : LogEntry) (actor : ActorId) :
    down (log ++ [entry]) actor = (entry.status? actor).getD (down log actor) := by
  simp [down]

theorem down_of_crash {first middle : List LogEntry} {clock : Nat} {actor : ActorId}
    (unrecovered : ∀ time, .externalEvent time (.recover actor) ∉ middle) :
    down (first ++ .externalEvent clock (.crash actor) :: middle) actor = true := by
  induction middle using List.reverseRecOn with
  | nil => simp [down_concat, LogEntry.status?]
  | append_singleton earlier entry ih =>
      have before := ih fun time listed => unrecovered time (List.mem_append_left _ listed)
      rw [← List.cons_append, ← List.append_assoc, down_concat, before]
      cases entry with
      | externalEvent time event =>
          cases event with
          | recover other =>
              have different : other ≠ actor := by
                intro same
                subst same
                exact unrecovered time (List.mem_append_right _ (.head _))
              simp [LogEntry.status?, different]
          | crash other => by_cases same : other = actor <;> simp [LogEntry.status?, same]
          | startTransaction | tick _ | tickAll => rfl
      | deliver _ _ | send _ _ _ | drop _ _ => rfl

namespace Simulator

variable {ρ : Type} [ChaCha8Rng ρ] {setup : Setup} {environment : Environment ρ}
  {state after : Simulator ρ}

/-! ## What a step adds -/

/-- The state after an event is processed and before its messages are enqueued. -/
structure Processed (state : Simulator ρ) (popped : TimestampedEvent) (entry : LogEntry)
    (middle : Simulator ρ) : Prop where
  pops : state.eventQueue.Pops popped middle.eventQueue
  clock : middle.clock = popped.timestamp
  actionLog : middle.actionLog = state.actionLog ++ [entry]
  isOperating : ∀ actor, middle.isOperating actor = false ↔
    popped.event = .external (.crash actor) ∨
      (state.isOperating actor = false ∧ popped.event ≠ .external (.recover actor))
  entry : (∃ recipient msg, popped.event = .internal (.deliver recipient msg) ∧
      state.isOperating msg.to = false ∧ entry = .drop popped.timestamp msg) ∨
    state.Reaches popped.event ∧ entry = popped.event.logEntry popped.timestamp

theorem Dispatched.processed {popped : TimestampedEvent} {queue : EventQueue}
    {delivered : Observations} {middle : Simulator ρ} {outgoing : List Message}
    (dispatched : Dispatched (state.taken popped queue delivered) popped.event middle outgoing)
    (pops : state.eventQueue.Pops popped queue) (reaches : state.Reaches popped.event)
    (observations : Observations) :
    Processed state popped (popped.event.logEntry popped.timestamp)
      { middle with observations := observations } where
  pops := by
    have rest : middle.eventQueue = queue := dispatched.eventQueue
    exact rest ▸ pops
  clock := dispatched.clock
  actionLog := dispatched.actionLog
  isOperating := dispatched.isOperating
  entry := .inr ⟨reaches, rfl⟩

theorem Stepped.processed (stepped : Stepped state after) :
    ∃ popped entry middle outgoing, Processed state popped entry middle ∧
      after = middle.sendAll outgoing := by
  cases stepped with
  | @drops popped queue recipient msg pops kind crashed =>
      refine ⟨popped, .drop popped.timestamp msg, _, [], ?_, rfl⟩
      exact {
        pops := pops
        clock := rfl
        actionLog := rfl
        isOperating := fun actor => by
          simp only [kind, reduceCtorEq, ne_eq, not_false_eq_true, and_true, false_or]
          exact Iff.rfl
        entry := .inl ⟨recipient, msg, kind, crashed, rfl⟩ }
  | @handles popped queue delivered observations middle outgoing pops reaches dispatched =>
      exact ⟨popped, _, _, outgoing, dispatched.processed pops reaches observations, rfl⟩

theorem enqueueMessage_eq (self : Simulator ρ) (msg : Message) :
    ∃ deliverAt rng, self.clock < deliverAt ∧ self.enqueueMessage msg = { self with
      rng := rng
      actionLog := self.actionLog ++ [.send self.clock deliverAt msg]
      eventQueue := self.eventQueue.insert deliverAt msg.delivery } :=
  ⟨_, _, by omega, rfl⟩

theorem sendAll_preserves (property : Simulator ρ → Prop) {outgoing : List Message}
    (preserved : ∀ {self : Simulator ρ}, ∀ msg ∈ outgoing, property self →
      property (self.enqueueMessage msg))
    {self : Simulator ρ} (holds : property self) : property (self.sendAll outgoing) := by
  induction outgoing generalizing self with
  | nil => exact holds
  | cons msg rest ih =>
      apply ih
      · exact fun other listed => preserved other (.tail _ listed)
      · exact preserved msg (.head _) holds

theorem sendAll_actionLog (self : Simulator ρ) (outgoing : List Message) :
    ∃ sends, (self.sendAll outgoing).actionLog = self.actionLog ++ sends := by
  apply sendAll_preserves fun later : Simulator ρ =>
    ∃ sends, later.actionLog = self.actionLog ++ sends
  · intro later msg _ grown
    obtain ⟨sends, same⟩ := grown
    obtain ⟨deliverAt, rng, _, enqueued⟩ := later.enqueueMessage_eq msg
    rw [enqueued]
    exact ⟨_, (congrArg (· ++ _) same).trans (List.append_assoc ..)⟩
  · exact ⟨[], (List.append_nil _).symm⟩

/-- The log only grows. -/
theorem Next.actionLog (next : Next environment state after) :
    ∃ more, after.actionLog = state.actionLog ++ more := by
  cases next with
  | enqueueExternal _ | injectProbe _ => exact ⟨[], (List.append_nil _).symm⟩
  | step success =>
      obtain ⟨_, _, rfl⟩ | ⟨_, stepped⟩ := step_stepped success
      · exact ⟨[], (List.append_nil _).symm⟩
      · obtain ⟨popped, entry, middle, outgoing, processed, rfl⟩ := stepped.processed
        obtain ⟨sends, grown⟩ := middle.sendAll_actionLog outgoing
        rw [grown, processed.actionLog, List.append_assoc]
        exact ⟨_, rfl⟩

/-! ## Who is down -/

theorem status?_logEntry {event : Event} {clock : Nat} {actor : ActorId} {crashed : Bool} :
    ((event.logEntry clock).status? actor).getD crashed = true ↔
      event = .external (.crash actor) ∨
        crashed = true ∧ event ≠ .external (.recover actor) := by
  cases event with
  | internal event => simp [Event.logEntry, LogEntry.status?]
  | external event =>
      cases event with
      | crash other | recover other =>
          by_cases same : other = actor <;> simp [Event.logEntry, LogEntry.status?, same]
      | startTransaction | tick _ | tickAll => simp [Event.logEntry, LogEntry.status?]

/-- The log knows the status of every actor. -/
def Tracked (state : Simulator ρ) : Prop :=
  ∀ actor, state.isOperating actor = false ↔ down state.actionLog actor = true

omit [ChaCha8Rng ρ] in
theorem Tracked.isOperating_eq (tracked : Tracked state) (actor : ActorId) :
    state.isOperating actor = !down state.actionLog actor := by
  have same : (!state.isOperating actor) = down state.actionLog actor := by
    rw [Bool.eq_iff_iff, Bool.not_eq_true', tracked actor]
  rw [← same, Bool.not_not]

omit [ChaCha8Rng ρ] in
theorem Tracked.not_down (tracked : Tracked state) {actor : ActorId}
    (up : state.isOperating actor = true) : down state.actionLog actor = false := by
  rw [tracked.isOperating_eq, Bool.not_eq_true'] at up
  exact up

omit [ChaCha8Rng ρ] in
theorem Processed.tracked {popped : TimestampedEvent} {entry : LogEntry} {middle : Simulator ρ}
    (processed : Processed state popped entry middle) (tracked : Tracked state) :
    Tracked middle := by
  intro actor
  rw [processed.isOperating, processed.actionLog, down_concat, tracked actor]
  rcases processed.entry with ⟨recipient, msg, kind, _, rfl⟩ | ⟨_, rfl⟩
  · simp [kind, LogEntry.status?]
  · exact status?_logEntry.symm

theorem Tracked.enqueueMessage (tracked : Tracked state) (msg : Message) :
    Tracked (state.enqueueMessage msg) := by
  obtain ⟨deliverAt, rng, _, same⟩ := state.enqueueMessage_eq msg
  rw [same]
  intro actor
  rw [down_concat]
  exact tracked actor

theorem Tracked.next (tracked : Tracked state) (next : Next environment state after) :
    Tracked after := by
  cases next with
  | enqueueExternal _ | injectProbe _ => exact tracked
  | step success =>
      obtain ⟨_, _, rfl⟩ | ⟨_, stepped⟩ := step_stepped success
      · exact tracked
      · obtain ⟨popped, entry, middle, outgoing, processed, rfl⟩ := stepped.processed
        apply sendAll_preserves Tracked
        · exact fun msg _ tracked => tracked.enqueueMessage msg
        · exact processed.tracked tracked

theorem simulator_tracked : Tracked (setup.simulator (ρ := ρ)) := by
  intro actor
  have undisturbed : Undisturbed setup (setup.simulator (ρ := ρ)) := simulator_undisturbed
  rw [undisturbed.nobodyCrashes.operating actor]
  exact ⟨nofun, nofun⟩

end Simulator

end TwoPhaseCommit
