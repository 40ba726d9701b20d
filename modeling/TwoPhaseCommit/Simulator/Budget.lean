import TwoPhaseCommit.CoordinatorBudget
import TwoPhaseCommit.Simulator.Drain
import TwoPhaseCommit.Simulator.Latency
import Mathlib.Algebra.Group.Action.Defs
import Mathlib.Algebra.Order.BigOperators.Group.List
import Mathlib.Algebra.Order.Group.Nat

/-! How many messages a transaction takes while no actor crashes, whatever the timeout: the
coordinator can only send as many volleys as timeouts fit into the longest exchange, and every
message of a volley is answered at most once. -/

set_option autoImplicit false

namespace TwoPhaseCommit

/-- One for every message. -/
def Event.deliveryCount : Event → Nat
  | .external _ => 0
  | .internal _ => 1

/-- What is still to be handled because of the event. -/
def Event.deliveriesDue : Event → Nat :=
  Event.deliveriesDueIf fun _ => true

@[simp] theorem Message.deliveryCount_delivery (msg : Message) :
    msg.delivery.deliveryCount = 1 := rfl

@[simp] theorem Message.deliveriesDue_delivery (msg : Message) :
    msg.delivery.deliveriesDue = msg.deliveriesDue := rfl

theorem Message.deliveriesDue_le (msg : Message) : msg.deliveriesDue ≤ 2 := by
  unfold deliveriesDue
  split <;> decide

theorem Message.Answer.deliveriesDue_eq {node : NodeId} {msg : Message} (answer : Answer node msg) :
    msg.deliveriesDue = 1 := by
  cases answer <;> rfl

theorem Event.deliveryCount_le_deliveriesDue (event : Event) :
    event.deliveryCount ≤ event.deliveriesDue := by
  cases event with
  | external event => exact Nat.le_refl _
  | internal event =>
      obtain ⟨recipient, msg⟩ := event
      exact msg.deliveriesDue_pos

theorem EventQueue.total_deliveryCount_le (self : EventQueue) :
    self.total Event.deliveryCount ≤ self.total Event.deliveriesDue := by
  apply List.sum_le_sum
  exact fun item _ => item.event.deliveryCount_le_deliveriesDue

theorem sum_deliveriesDue_le (outgoing : List Message) :
    (outgoing.map Message.deliveriesDue).sum ≤ 2 * outgoing.length := by
  have most := List.sum_le_card_nsmul (outgoing.map Message.deliveriesDue) 2
    (by simp [Message.deliveriesDue_le])
  rwa [List.length_map, smul_eq_mul, Nat.mul_comm] at most

/-- The longest that the exchange of a transaction takes. -/
def Setup.span (setup : Setup) : Nat := 4 * setup.latency

/-- The most messages of one transaction. -/
def Setup.budget (setup : Setup) : Nat :=
  2 * setup.nParticipants.toNat * (2 + setup.span / setup.retransmitTimeout)

/-- A setup whose coordinator repeats itself before a round trip is over. -/
def Setup.hasty : Setup :=
  { Setup.unanimous with
    deliveryDelay := { start := 0, stop := 3 }
    retransmitTimeout := 2 }

namespace Simulator

variable {ρ : Type} [ChaCha8Rng ρ] {setup : Setup} {environment : Environment ρ}
  {state middle after : Simulator ρ} {outgoing : List Message} {finish : Nat}

/-- What is left to be sent and handled when the transaction is over by `finish`. -/
def deliveriesLeft (setup : Setup) (finish : Nat) (state : Simulator ρ) : Nat :=
  2 * setup.nParticipants.toNat *
      state.coordinator.phase.volleys setup.span setup.retransmitTimeout finish +
    state.eventQueue.total Event.deliveriesDue

omit [ChaCha8Rng ρ] in
theorem total_deliveryCount_le_deliveriesLeft :
    state.eventQueue.total Event.deliveryCount ≤ state.deliveriesLeft setup finish :=
  Nat.le_trans state.eventQueue.total_deliveryCount_le (Nat.le_add_left _ _)

theorem length_nodes (setup : Setup) : setup.nodes.length = setup.nParticipants.toNat := by
  rw [Setup.nodes, nodeIds, List.length_map, List.length_range]

omit [ChaCha8Rng ρ] in
/-- The volleys of a call are paid for by the ones that are left. -/
private theorem pays_of_spends {before later : Coordinator ρ}
    (spends : Coordinator.Spends setup.span setup.retransmitTimeout finish before later outgoing)
    (nodes : before.nodes = setup.nodes) :
    2 * setup.nParticipants.toNat *
        later.phase.volleys setup.span setup.retransmitTimeout finish +
      (outgoing.map Message.deliveriesDue).sum ≤
    2 * setup.nParticipants.toNat *
        before.phase.volleys setup.span setup.retransmitTimeout finish := by
  obtain ⟨count, few, left⟩ := spends
  rw [nodes, length_nodes] at few
  have paid := Nat.mul_le_mul_left (2 * setup.nParticipants.toNat) left
  have due := Nat.le_trans (sum_deliveriesDue_le outgoing) (Nat.mul_le_mul_left 2 few)
  rw [Nat.mul_comm count, ← Nat.mul_assoc] at due
  rw [Nat.mul_add] at paid
  omega

/-- An event that is handled in time costs no more than was set aside for it. -/
theorem Dispatched.pays {popped : TimestampedEvent} {queue : EventQueue}
    {delivered : Observations}
    (dispatched : Dispatched (state.taken popped queue delivered) popped.event middle outgoing)
    (undisturbed : Undisturbed setup state) (timely : Timely state)
    (pops : state.eventQueue.Pops popped queue) (positive : 0 < setup.retransmitTimeout)
    (inTime : state.coordinator.isQuiescent = false → popped.timestamp ≤ finish)
    (starts : state.coordinator.phase = .waiting → finish ≤ popped.timestamp + setup.span) :
    2 * setup.nParticipants.toNat *
        middle.coordinator.phase.volleys setup.span setup.retransmitTimeout finish +
      (outgoing.map Message.deliveriesDue).sum + popped.event.deliveryCount ≤
    2 * setup.nParticipants.toNat *
        state.coordinator.phase.volleys setup.span setup.retransmitTimeout finish +
      popped.event.deliveriesDue := by
  obtain ⟨staffed, sound, genuine⟩ := undisturbed.toConsistent.taken pops delivered
  have arrived := popped.event.deliveryCount_le_deliveriesDue
  have past : state.coordinator.phase.NotSentAfter popped.timestamp := fun last same =>
    Nat.le_trans (timely.past last same) (timely.ahead _ pops.mem)
  have timeout : state.coordinator.config.retransmitTimeout = setup.retransmitTimeout :=
    undisturbed.coordinator.retransmitTimeout
  rw [← timeout] at positive
  generalize kind : popped.event = event at dispatched genuine arrived ⊢
  cases dispatched with
  | @coordinatorReceives _ msg receives =>
      have spends := state.coordinator.onMessage_spends msg undisturbed.awaited.announced past
        positive inTime starts
      rw [timeout] at spends
      exact Nat.add_le_add (pays_of_spends spends undisturbed.nodes) arrived
  | coordinatorTicks _ _ =>
      have ticked := state.coordinator.tick_ticked popped.timestamp
      have spends : Coordinator.Spends setup.span _ _ _ _ _ :=
        ticked.spends undisturbed.awaited.announced past positive inTime
      rw [timeout] at spends
      exact Nat.add_le_add (pays_of_spends spends undisturbed.nodes) arrived
  | @participantReceives node msg participant found =>
      have due : msg.deliveriesDue = 2 := by rw [Message.deliveriesDue, ← genuine.1]
      have replied :
          ((participant.onMessage msg popped.timestamp).2.map Message.deliveriesDue).sum + 1 ≤
            msg.deliveriesDue := by
        rw [due]
        rcases (participant.onMessage_received msg popped.timestamp).reply with
          ⟨silent, _⟩ | ⟨reply, only, answer, _⟩
        · rw [silent]
          decide
        · rw [only, List.map_singleton, answer.deliveriesDue_eq]
          decide
      rw [Nat.add_assoc]
      exact Nat.add_le_add_left replied _
  | coordinatorRecovers down => cases (undisturbed.nobodyCrashes.operating _).symm.trans down
  | participantRecovers down _ => cases (undisturbed.nobodyCrashes.operating _).symm.trans down
  | rests _ _ | nodeTicks | nobodyReceives _ | crashes | staysUp _ =>
      exact Nat.add_le_add_left arrived _

/-- What an event does to the messages that were sent and those that are under way. -/
theorem Dispatched.mail {popped : TimestampedEvent} {queue : EventQueue}
    {delivered : Observations}
    (dispatched : Dispatched (state.taken popped queue delivered) popped.event middle outgoing)
    (pops : state.eventQueue.Pops popped queue) (observations : Observations) :
    ({ middle with observations := observations }.sendAll outgoing).sentMessages.length +
        state.eventQueue.total Event.deliveryCount =
      state.sentMessages.length + popped.event.deliveryCount +
        ({ middle with observations := observations }.sendAll outgoing).eventQueue.total
          Event.deliveryCount := by
  have rest : middle.eventQueue = queue := dispatched.eventQueue
  have sent : middle.sentMessages = state.sentMessages :=
    dispatched.sentMessages.trans (sentMessages_taken state popped queue delivered)
  have total : ({ middle with observations := observations }.sendAll outgoing).eventQueue.total
      Event.deliveryCount = outgoing.length + queue.total Event.deliveryCount := by
    rw [total_sendAll, ← rest]
    simp
  rw [sendAll_sentMessages, List.length_append, total, pops.total]
  change middle.sentMessages.length + _ + _ = _
  rw [sent]
  omega

theorem Dispatched.deliveriesLeft_le {popped : TimestampedEvent} {queue : EventQueue}
    {delivered : Observations}
    (dispatched : Dispatched (state.taken popped queue delivered) popped.event middle outgoing)
    (undisturbed : Undisturbed setup state) (timely : Timely state)
    (pops : state.eventQueue.Pops popped queue) (positive : 0 < setup.retransmitTimeout)
    (inTime : state.coordinator.isQuiescent = false → popped.timestamp ≤ finish)
    (starts : state.coordinator.phase = .waiting → finish ≤ popped.timestamp + setup.span)
    (observations : Observations) :
    ({ middle with observations := observations }.sendAll outgoing).deliveriesLeft setup finish +
        popped.event.deliveryCount ≤
      state.deliveriesLeft setup finish := by
  have paid := dispatched.pays undisturbed timely pops positive inTime starts
  have rest : middle.eventQueue = queue := dispatched.eventQueue
  have total : ({ middle with observations := observations }.sendAll outgoing).eventQueue.total
      Event.deliveriesDue =
        (outgoing.map Message.deliveriesDue).sum + queue.total Event.deliveriesDue := by
    rw [← rest]
    exact total_sendAll _ outgoing Event.deliveriesDue
  unfold deliveriesLeft
  rw [sendAll_coordinator, total, pops.total]
  change 2 * setup.nParticipants.toNat * middle.coordinator.phase.volleys _ _ _ + _ + _ ≤ _
  omega

/-! ## Runs -/

/-- Nobody crashes, and no external event is scheduled for a time that has passed. -/
def punctual : Environment ρ := fun state event atTime =>
  state.clock ≤ atTime ∧ ∀ actor, event ≠ .crash actor

theorem Next.crashFree (next : Next punctual state after) :
    Next Simulator.crashFree state after := by
  cases next with
  | enqueueExternal allowed => exact .enqueueExternal allowed.2
  | step success => exact .step success
  | injectProbe drained => exact .injectProbe drained

/-- When the transaction is over. -/
def finishTime (setup : Setup) (state : Simulator ρ) : Nat :=
  state.startedAt?.getD 0 + setup.span

/-- What was sent and what is still to be sent is within the budget. -/
structure Budgeted (setup : Setup) (state : Simulator ρ) : Prop extends
    Prompt setup state, Timely state where
  budget : state.sentMessages.length + state.deliveriesLeft setup (state.finishTime setup) ≤
    setup.budget + state.eventQueue.total Event.deliveryCount

omit [ChaCha8Rng ρ] in
theorem DueBy.le_span {start : Nat} {msg : Message} {popped : TimestampedEvent}
    {queue : EventQueue} (due : DueBy (setup.deadline start) state msg)
    (pops : state.eventQueue.Pops popped queue) (stage : msg.messageType.stage ≤ 4) :
    popped.timestamp ≤ start + setup.span := by
  have most := Nat.mul_le_mul_right setup.latency stage
  have first := due.le pops
  unfold Setup.deadline at first
  unfold Setup.span
  omega

theorem Undisturbed.inTime {start : Nat} (undisturbed : Undisturbed setup state)
    (participants : 1 ≤ setup.nParticipants)
    (awaited : state.coordinator.Awaited (DueBy (setup.deadline start) state))
    {popped : TimestampedEvent} {queue : EventQueue} (pops : state.eventQueue.Pops popped queue)
    (busy : state.coordinator.isQuiescent = false) : popped.timestamp ≤ start + setup.span := by
  obtain ⟨msg, due, asked⟩ := undisturbed.exists_asked participants awaited busy
  have stages := CoordinatorPhase.stage_of_asks asked
  exact due.le_span pops (by omega)

omit [ChaCha8Rng ρ] in
private theorem deliveriesLeft_of_waiting (waiting : state.coordinator.phase = .waiting)
    (first last : Nat) :
    state.deliveriesLeft setup first = state.deliveriesLeft setup last := by
  simp only [deliveriesLeft, waiting, CoordinatorPhase.volleys]

private theorem start_le (event : Event) (clock : Nat) :
    (event.logEntry clock).start?.getD 0 ≤ clock := by
  cases event with
  | internal event => exact Nat.zero_le clock
  | external event =>
      cases event with
      | startTransaction => exact Nat.le_refl clock
      | tick _ | tickAll | crash _ | recover _ => exact Nat.zero_le clock

theorem Stepped.budget (stepped : Stepped state after) (budgeted : Budgeted setup state)
    (participants : 1 ≤ setup.nParticipants) (positive : 0 < setup.retransmitTimeout) :
    after.sentMessages.length + after.deliveriesLeft setup (after.finishTime setup) ≤
      setup.budget + after.eventQueue.total Event.deliveryCount := by
  have undisturbed := budgeted.toUndisturbed
  have budget := budgeted.budget
  cases stepped with
  | drops _ _ down => cases (undisturbed.nobodyCrashes.operating _).symm.trans down
  | @handles popped queue delivered observations middle outgoing pops _ dispatched =>
      have mail := dispatched.mail pops observations
      have log := dispatched.logs_start observations
      have spent : ({ middle with observations := observations }.sendAll outgoing).deliveriesLeft
          setup (({ middle with observations := observations }.sendAll outgoing).finishTime setup) +
            popped.event.deliveryCount ≤ state.deliveriesLeft setup (state.finishTime setup) := by
        unfold finishTime
        by_cases waiting : state.coordinator.phase = .waiting
        · have unstarted : ¬ state.Started := fun started => undisturbed.begun started waiting
          rw [startedAt?_eq_none unstarted] at log
          rw [deliveriesLeft_of_waiting waiting _
            ((popped.event.logEntry popped.timestamp).start?.getD 0 + setup.span), log]
          apply dispatched.deliveriesLeft_le undisturbed budgeted.toTimely pops positive
          · intro busy
            rw [Coordinator.isQuiescent, waiting] at busy
            cases busy
          · exact fun _ => Nat.add_le_add_right (start_le popped.event popped.timestamp) _
        · obtain ⟨start, started, awaited⟩ := budgeted.underWay waiting
          rw [started] at log
          rw [log, started]
          apply dispatched.deliveriesLeft_le undisturbed budgeted.toTimely pops positive
          · exact undisturbed.inTime participants awaited pops
          · exact fun same => absurd same waiting
      omega

omit [ChaCha8Rng ρ] in
/-- An external event is no message. -/
private theorem total_enqueueExternal (self : Simulator ρ) (event : ExternalEvent) (atTime : Nat)
    {count : Event → Nat} (free : count (.external event) = 0) :
    (self.enqueueExternal event atTime).eventQueue.total count = self.eventQueue.total count := by
  have total : (self.enqueueExternal event atTime).eventQueue.total count =
      count (.external event) + self.eventQueue.total count := List.sum_cons
  rw [total, free, Nat.zero_add]

private theorem Budgeted.enqueueExternal (budgeted : Budgeted setup state) (event : ExternalEvent)
    (clock atTime : Nat) :
    let later := { state with clock := clock }.enqueueExternal event atTime
    later.sentMessages.length + later.deliveriesLeft setup (later.finishTime setup) ≤
      setup.budget + later.eventQueue.total Event.deliveryCount := by
  intro later
  have deliveries : later.eventQueue.total Event.deliveryCount =
      state.eventQueue.total Event.deliveryCount :=
    total_enqueueExternal { state with clock := clock } event atTime rfl
  have due : later.eventQueue.total Event.deliveriesDue =
      state.eventQueue.total Event.deliveriesDue :=
    total_enqueueExternal { state with clock := clock } event atTime rfl
  unfold deliveriesLeft
  rw [deliveries, due]
  exact budgeted.budget

theorem budgeted_invariant [BoundedChaCha8Rng ρ] (participants : 1 ≤ setup.nParticipants)
    (positive : 0 < setup.retransmitTimeout) :
    (system setup (punctual (ρ := ρ))).Invariant (Budgeted setup) where
  initial := by
    intro state same
    subst same
    have prompt : Prompt setup (setup.simulator (ρ := ρ)) :=
      (prompt_invariant participants).initial rfl
    refine ⟨prompt, ⟨?_, fun _ => nofun⟩, ?_⟩
    · rw [simulator_pending]
      exact fun _ listed => absurd listed List.not_mem_nil
    · exact Nat.le_of_eq (Nat.zero_add _)
  next {state after} budgeted next := by
    have prompt := (prompt_invariant participants).next budgeted.toPrompt next.crashFree
    have budget := budgeted.budget
    cases next with
    | step success =>
        obtain ⟨_, _, rfl⟩ | ⟨_, stepped⟩ := step_stepped success
        · exact budgeted
        · exact ⟨prompt, stepped.timely budgeted.toTimely,
            stepped.budget budgeted participants positive⟩
    | enqueueExternal allowed =>
        refine ⟨prompt, ⟨fun item queued => ?_, budgeted.past⟩, ?_⟩
        · rcases List.mem_cons.mp queued with rfl | earlier
          · exact allowed.1
          · exact budgeted.ahead item earlier
        · exact budgeted.enqueueExternal _ _ _
    | injectProbe drained =>
        refine ⟨prompt, ?_, ?_⟩
        · exact budgeted.toTimely.injectProbe (EventQueue.isEmpty_iff.mp drained)
        · exact budgeted.enqueueExternal _ _ _

/-- While nobody crashes, the messages of a transaction are bounded however often it is ticked. -/
theorem message_bound [BoundedChaCha8Rng ρ] (participants : 1 ≤ setup.nParticipants)
    (positive : 0 < setup.retransmitTimeout)
    (reachable : (system setup punctual).Reachable state) :
    state.sentMessages.length ≤ setup.budget := by
  have budget := ((budgeted_invariant participants positive).reachable reachable).budget
  have deliveries : state.eventQueue.total Event.deliveryCount ≤
    state.deliveriesLeft setup (state.finishTime setup) := total_deliveryCount_le_deliveriesLeft
  omega

theorem message_bound_hasty : ∃ state : Simulator ForcedRng,
    state.coordinator.phase = .done .commit ∧ state.sentMessages.length ≤ 32 := by
  have ended : runEndsIn (ρ := ForcedRng) .hasty [(.startTransaction, 0), (.tickAll, 2)] 40
      (fun state => decide (state.coordinator.phase = .done .commit)) = true := by
    decide +kernel
  obtain ⟨state, ran, done⟩ := exists_run_of_runEndsIn ended
  have reachable : (system .hasty punctual).Reachable state := by
    refine ⟨_, rfl, .trans (.single (.enqueueExternal ⟨Nat.zero_le _, ?_⟩))
      (.trans (.single (.enqueueExternal ⟨Nat.zero_le _, ?_⟩)) (run_steps ran))⟩
    · exact fun _ => nofun
    · exact fun _ => nofun
  refine ⟨state, of_decide_eq_true done, ?_⟩
  exact message_bound (by decide) (by decide) reachable

end Simulator

end TwoPhaseCommit
