import TwoPhaseCommit.CoordinatorProgress
import TwoPhaseCommit.Simulator.Oracle
import Mathlib.Algebra.GroupWithZero.Nat
import Mathlib.Data.Prod.Lex
import Mathlib.Order.WellFounded

/-! Every run comes to an end. External events are used up, the coordinator only
moves forward, and a message that is no longer wanted is answered at most once and
then forgotten. Only the messages that the coordinator still wants are ever sent
again, and what it wants shrinks with every answer it records. -/

set_option autoImplicit false

namespace TwoPhaseCommit

open Protocol

/-- What handling a message takes: one more step when it is answered. -/
def Message.deliveriesDue (msg : Message) : Nat :=
  match msg.to with
  | .coordinator => 1
  | .node _ => 2

theorem Message.deliveriesDue_pos (msg : Message) : 0 < msg.deliveriesDue := by
  unfold deliveriesDue
  split <;> decide

def Event.outside : Event → Nat
  | .external _ => 1
  | .internal _ => 0

/-- Only messages that pass a test count. -/
def Event.deliveriesDueIf (test : Message → Bool) : Event → Nat
  | .external _ => 0
  | .internal (.deliver _ msg) => if test msg then msg.deliveriesDue else 0

@[simp] theorem Message.outside_delivery (msg : Message) : msg.delivery.outside = 0 := rfl

theorem Message.deliveriesDueIf_delivery (test : Message → Bool) (msg : Message) :
    msg.delivery.deliveriesDueIf test = if test msg then msg.deliveriesDue else 0 := rfl

namespace EventQueue

variable {self rest : EventQueue}

def total (self : EventQueue) (count : Event → Nat) : Nat :=
  (self.pending.map fun item => count item.event).sum

theorem Pops.total {popped : TimestampedEvent} (pops : self.Pops popped rest)
    (count : Event → Nat) : self.total count = count popped.event + rest.total count := by
  unfold EventQueue.total
  rw [(pops.perm.map _).sum_nat, List.map_cons, List.sum_cons]

end EventQueue

/-- A participant answers with at most one message, of the same exchange. -/
theorem Participant.Received.reply {ρ : Type} [ChaCha8Rng ρ] {self after : Participant ρ}
    {msg : Message} {outgoing : List Message} (received : Received self msg after outgoing) :
    (outgoing = [] ∧ (msg.messageType = .prepare → self.decision ≠ none) ∧
        ∀ decision : Decision, msg.messageType ≠ decision.messageType) ∨
      ∃ reply, outgoing = [reply] ∧ Message.Answer self.id reply ∧
        ∀ phase : CoordinatorPhase, phase.asks reply.messageType = phase.asks msg.messageType := by
  have vote : ∀ (cast : Vote) (phase : CoordinatorPhase),
      phase.asks cast.messageType = phase.asks .prepare := by
    intro cast phase
    cases cast <;> cases phase <;> rfl
  have ack : ∀ (decided : Decision) (phase : CoordinatorPhase),
      phase.asks .ack = phase.asks decided.messageType := by
    intro decided phase
    cases decided <;> cases phase <;> rfl
  cases received with
  | casts _ type => exact .inr ⟨_, rfl, .vote, fun phase => type ▸ vote _ phase⟩
  | recasts _ type => exact .inr ⟨_, rfl, .vote, fun phase => type ▸ vote _ phase⟩
  | learns _ type => exact .inr ⟨_, rfl, .ack, fun phase => type ▸ ack _ phase⟩
  | acknowledges _ type => exact .inr ⟨_, rfl, .ack, fun phase => type ▸ ack _ phase⟩
  | ignores unasked uninformed => exact .inl ⟨rfl, unasked, uninformed⟩

namespace Simulator

variable {ρ : Type} [ChaCha8Rng ρ] {setup : Setup} {environment : Environment ρ}
  {state middle after : Simulator ρ} {event : Event} {outgoing : List Message}

theorem total_sendAll (self : Simulator ρ) (outgoing : List Message) (count : Event → Nat) :
    (self.sendAll outgoing).eventQueue.total count =
      (outgoing.map fun msg => count msg.delivery).sum + self.eventQueue.total count := by
  obtain ⟨scheduled, pending, events, _⟩ := self.sendAll_pending outgoing
  unfold EventQueue.total
  rw [pending, List.map_append, List.sum_append]
  have sum : ((scheduled.map (·.event)).map count).sum =
      (((outgoing.map Message.delivery).reverse).map count).sum := by rw [events]
  rw [List.map_reverse, List.sum_reverse, List.map_map, List.map_map] at sum
  exact congrArg (· + _) sum

/-! ## The effort that is left -/

/-- The external events, the rank of the phase, the missing answers, the messages
that are not wanted and those that are, in this order of importance. -/
def effort (self : Simulator ρ) : ℕ ×ₗ ℕ ×ₗ ℕ ×ₗ ℕ ×ₗ ℕ :=
  toLex (self.eventQueue.total Event.outside, toLex (self.coordinator.phase.rank,
    toLex (self.coordinator.unrecorded,
      toLex (self.eventQueue.total
          (Event.deliveriesDueIf fun msg => !self.coordinator.phase.wants msg),
        self.eventQueue.total (Event.deliveriesDueIf self.coordinator.phase.wants)))))

section Effort

omit [ChaCha8Rng ρ]

theorem effort_lt_of_outside
    (fewer : after.eventQueue.total Event.outside < state.eventQueue.total Event.outside) :
    after.effort < state.effort :=
  Prod.Lex.toLex_lt_toLex.mpr (.inl fewer)

theorem effort_lt_of_progress
    (outside : after.eventQueue.total Event.outside = state.eventQueue.total Event.outside)
    (progress : after.coordinator.phase.rank < state.coordinator.phase.rank ∨
      after.coordinator.phase.rank = state.coordinator.phase.rank ∧
        after.coordinator.unrecorded < state.coordinator.unrecorded) :
    after.effort < state.effort := by
  apply Prod.Lex.toLex_lt_toLex.mpr
  refine .inr ⟨outside, Prod.Lex.toLex_lt_toLex.mpr ?_⟩
  rcases progress with rank | ⟨rank, recorded⟩
  · exact .inl rank
  · exact .inr ⟨rank, Prod.Lex.toLex_lt_toLex.mpr (.inl recorded)⟩

theorem effort_lt_of_keeps
    (outside : after.eventQueue.total Event.outside = state.eventQueue.total Event.outside)
    (keeps : Coordinator.Keeps state.coordinator after.coordinator)
    (lighter : after.eventQueue.total
          (Event.deliveriesDueIf fun msg => !state.coordinator.phase.wants msg) <
        state.eventQueue.total
          (Event.deliveriesDueIf fun msg => !state.coordinator.phase.wants msg) ∨
      after.eventQueue.total
            (Event.deliveriesDueIf fun msg => !state.coordinator.phase.wants msg) =
          state.eventQueue.total
            (Event.deliveriesDueIf fun msg => !state.coordinator.phase.wants msg) ∧
        after.eventQueue.total (Event.deliveriesDueIf state.coordinator.phase.wants) <
          state.eventQueue.total (Event.deliveriesDueIf state.coordinator.phase.wants)) :
    after.effort < state.effort := by
  unfold effort
  rw [keeps.wants, keeps.unrecorded, keeps.rank, outside]
  simp only [Prod.Lex.toLex_lt_toLex]
  exact .inr ⟨trivial, .inr ⟨trivial, .inr ⟨trivial, lighter⟩⟩⟩

private theorem outside_eq_zero : (outgoing.map fun msg => msg.delivery.outside).sum = 0 := by
  simp

private theorem sum_deliveriesDueIf_eq_zero {test : Message → Bool}
    (fail : ∀ msg ∈ outgoing, test msg = false) :
    (outgoing.map fun msg => msg.delivery.deliveriesDueIf test).sum = 0 := by
  have zero : outgoing.map (fun msg => msg.delivery.deliveriesDueIf test) =
      outgoing.map fun _ => 0 := by
    apply List.map_congr_left
    intro msg sent
    rw [Message.deliveriesDueIf_delivery, fail msg sent, if_neg Bool.false_ne_true]
  simp [zero]

private theorem sum_deliveriesDueIf_eq_sum {test : Message → Bool}
    (pass : ∀ msg ∈ outgoing, test msg = true) :
    (outgoing.map fun msg => msg.delivery.deliveriesDueIf test).sum =
      (outgoing.map Message.deliveriesDue).sum := by
  congr 1
  apply List.map_congr_left
  intro msg sent
  rw [Message.deliveriesDueIf_delivery, if_pos (pass msg sent)]

/-- A handled message that brings no progress is unwanted and prompts only wanted
ones, or prompts less than itself. -/
private theorem effort_lt_of_handled (outgoing : List Message) {popped : TimestampedEvent}
    {rest : EventQueue}
    {recipient : ActorId} {msg : Message} (pops : state.eventQueue.Pops popped rest)
    (kind : popped.event = .internal (.deliver recipient msg))
    (total : ∀ count, after.eventQueue.total count =
      (outgoing.map fun msg => count msg.delivery).sum + rest.total count)
    (keeps : Coordinator.Keeps state.coordinator after.coordinator)
    (cheaper : (state.coordinator.phase.wants msg = false ∧
        ∀ sent ∈ outgoing, state.coordinator.phase.wants sent = true) ∨
      ((outgoing.map Message.deliveriesDue).sum < msg.deliveriesDue ∧
        ∀ sent ∈ outgoing,
          state.coordinator.phase.wants sent = state.coordinator.phase.wants msg)) :
    after.effort < state.effort := by
  have weigh := pops.total
  rw [kind] at weigh
  apply effort_lt_of_keeps _ keeps
  · rw [total, total, weigh, weigh, Event.deliveriesDueIf, Event.deliveriesDueIf]
    rcases cheaper with ⟨useless, wanted⟩ | ⟨less, alike⟩
    · rw [sum_deliveriesDueIf_eq_zero (by simpa using wanted), useless]
      have positive := msg.deliveriesDue_pos
      simp only [Bool.not_false, ↓reduceIte]
      omega
    · cases wanted : state.coordinator.phase.wants msg with
      | true =>
          rw [wanted] at alike
          right
          rw [sum_deliveriesDueIf_eq_zero (by simpa using alike), sum_deliveriesDueIf_eq_sum alike]
          simp only [Bool.not_true, Bool.false_eq_true, ↓reduceIte, true_and]
          omega
      | false =>
          rw [wanted] at alike
          left
          rw [sum_deliveriesDueIf_eq_sum (by simpa using alike)]
          simp only [Bool.not_false, ↓reduceIte]
          omega
  · rw [total, weigh, outside_eq_zero]
    rfl

end Effort

/-! ## One step -/

theorem sound_answer {msg : Message} (sound : Sound (setup.policy ρ) state.view)
    (sent : msg ∈ state.view.sent) (recipient : msg.to = .coordinator) :
    ∃ node ∈ setup.nodes, Message.Answer node msg := by
  have formed := sound.wellFormed msg sent
  cases formed with
  | prepare _ => cases recipient
  | vote member => exact ⟨_, member, .vote⟩
  | decision _ => cases recipient
  | ack member => exact ⟨_, member, .ack⟩

theorem sound_question {msg : Message} {node : NodeId}
    (sound : Sound (setup.policy ρ) state.view) (sent : msg ∈ state.view.sent)
    (recipient : msg.to = .node node) : msg.node? = some node := by
  have formed := sound.wellFormed msg sent
  cases formed with
  | prepare _ | decision _ =>
      cases recipient
      rfl
  | vote _ => cases recipient
  | ack _ => cases recipient

/-- A delivered message brings progress, or is unwanted and prompts only wanted
ones, or prompts less than itself. -/
private theorem Dispatched.progress {recipient : ActorId} {msg : Message}
    (dispatched : Dispatched state (.internal (.deliver recipient msg)) middle outgoing)
    (staffed : Staffed setup state) (sound : Sound (setup.policy ρ) state.view)
    (genuine : Genuine state (.internal (.deliver recipient msg))) :
    (middle.coordinator.phase.rank < state.coordinator.phase.rank ∨
      middle.coordinator.phase.rank = state.coordinator.phase.rank ∧
        middle.coordinator.unrecorded < state.coordinator.unrecorded) ∨
    Coordinator.Keeps state.coordinator middle.coordinator ∧
      ((state.coordinator.phase.wants msg = false ∧
          ∀ sent ∈ outgoing, state.coordinator.phase.wants sent = true) ∨
        ((outgoing.map Message.deliveriesDue).sum < msg.deliveriesDue ∧
          ∀ sent ∈ outgoing,
            state.coordinator.phase.wants sent = state.coordinator.phase.wants msg)) := by
  cases dispatched with
  | coordinatorReceives receives =>
      cases recipient <;> cases receives
      obtain ⟨node, member, answer⟩ := sound_answer sound genuine.2 genuine.1.symm
      rcases state.coordinator.onMessage_progress state.clock answer
        (staffed.nodes ▸ member) with ⟨keeps, useless, wanted⟩ | recorded | advanced
      · exact .inr ⟨keeps, .inl ⟨useless, wanted⟩⟩
      · exact .inl (.inr recorded)
      · exact .inl (.inl advanced)
  | @participantReceives node _ participant found =>
      refine .inr ⟨⟨rfl, rfl, rfl⟩, .inr ?_⟩
      rcases (participant.onMessage_received msg state.clock).reply with
        ⟨silent, _⟩ | ⟨reply, only, answer, alike⟩
      · rw [silent]
        exact ⟨msg.deliveriesDue_pos, nofun⟩
      · rw [(staffed.participant found).id] at answer
        rw [only]
        constructor
        · cases answer <;> simp [Message.deliveriesDue, ← genuine.1, Message.vote, Message.ack]
        · intro sent listed
          obtain rfl := List.mem_singleton.mp listed
          rw [CoordinatorPhase.wants, CoordinatorPhase.wants, alike, answer.node?_eq,
            sound_question sound genuine.2 genuine.1.symm]
  | nobodyReceives _ => exact .inr ⟨⟨rfl, rfl, rfl⟩, .inr ⟨msg.deliveriesDue_pos, nofun⟩⟩

/-- Every step brings the simulator closer to the end. -/
theorem Stepped.effort_lt (stepped : Stepped state after) (consistent : Consistent setup state) :
    after.effort < state.effort := by
  cases stepped with
  | @drops popped queue recipient msg pops kind _ =>
      apply effort_lt_of_handled [] pops kind
      · intro count
        exact (Nat.zero_add _).symm
      · exact ⟨rfl, rfl, rfl⟩
      · exact .inr ⟨msg.deliveriesDue_pos, nofun⟩
  | @handles popped queue delivered observations middle outgoing pops _ dispatched =>
      obtain ⟨staffed, sound, genuine⟩ := consistent.taken pops delivered
      have total : ∀ count, ({ middle with observations := observations }.sendAll
          outgoing).eventQueue.total count =
            (outgoing.map fun msg => count msg.delivery).sum + queue.total count := by
        intro count
        rw [total_sendAll]
        exact congrArg (_ + EventQueue.total · count) dispatched.eventQueue
      cases kind : popped.event with
      | external event =>
          apply effort_lt_of_outside
          rw [total, pops.total, kind, outside_eq_zero]
          exact Nat.add_lt_add_right Nat.one_pos _
      | internal event =>
          obtain ⟨recipient, msg⟩ := event
          rw [kind] at dispatched genuine
          rcases dispatched.progress staffed sound genuine with advanced | ⟨keeps, cheaper⟩
          · apply effort_lt_of_progress
            · rw [total, pops.total, kind, outside_eq_zero]
              rfl
            · rw [sendAll_coordinator]
              exact advanced
          · apply effort_lt_of_handled outgoing pops kind total _ cheaper
            rw [sendAll_coordinator]
            exact keeps

/-! ## Runs -/

/-- What holds of a state once it holds of the state after its step holds always. -/
theorem Faithful.induction (holds : Simulator ρ → Prop)
    (process : ∀ state : Simulator ρ, Faithful setup state →
      (∀ after, Faithful setup after → state.step = .ok (true, after) → holds after) →
        holds state)
    (faithful : Faithful setup state) : holds state := by
  induction state using (InvImage.wf effort wellFounded_lt).induction with
  | h state ih =>
      apply process state faithful
      intro after later success
      apply ih after _ later
      obtain ⟨no, _⟩ | ⟨_, stepped⟩ := step_stepped success
      · cases no
      · exact stepped.effort_lt faithful.toConsistent

/-- `run` ends without a panic, with an empty queue. -/
theorem Faithful.run_ok (faithful : Faithful setup state) :
    ∃ fuel after, run fuel state = .ok (some after) ∧ after.eventQueue.pending = [] := by
  refine Faithful.induction (fun state => ∃ fuel after, run fuel state = .ok (some after) ∧
    after.eventQueue.pending = []) (fun state faithful ih => ?_) faithful
  by_cases drained : state.eventQueue.pending = []
  · refine ⟨1, state, ?_, drained⟩
    rw [run, step_of_empty drained]
    rfl
  · obtain ⟨after, success, _, later⟩ := faithful.step_ok drained
    obtain ⟨fuel, final, ran, empty⟩ := ih after later success
    refine ⟨fuel + 1, final, ?_, empty⟩
    rw [run, success]
    exact ran

/-- However the run got here, some fuel is enough to empty the queue, and more fuel
changes nothing. -/
theorem run_terminates (reachable : (system setup environment).Reachable state) :
    ∃ bound after, after.eventQueue.isEmpty = true ∧
      ∀ fuel, bound ≤ fuel → run fuel state = .ok (some after) := by
  have faithful := (faithful_invariant setup environment).reachable reachable
  obtain ⟨bound, after, ran, drained⟩ := faithful.run_ok
  refine ⟨bound, after, EventQueue.isEmpty_iff.mpr drained, fun fuel enough => ?_⟩
  exact run_mono ran enough

theorem run_terminates_unanimous : ∃ bound after,
    after.eventQueue.isEmpty = true ∧
      ∀ fuel, bound ≤ fuel →
        run fuel ((Setup.unanimous.simulator (ρ := ForcedRng)).enqueueAll
          [(.startTransaction, 0), (.crash .coordinator, 1), (.recover .coordinator, 3),
            (.tickAll, 9)]) = .ok (some after) :=
  run_terminates ⟨_, rfl, enqueueAll_steps⟩

end Simulator

end TwoPhaseCommit
