import TwoPhaseCommit.Simulator.Budget
import TwoPhaseCommit.Simulator.Recovery

/-! How many rounds `drain` needs when every crashed actor has recovered: at most twelve silent
probes, and then one round for every message of a transaction. -/

set_option autoImplicit false

namespace TwoPhaseCommit

open Protocol

/-- The most rounds of `drain` once every actor is up. -/
def Setup.drainRounds (setup : Setup) : Nat :=
  Simulator.quiescenceThreshold + setup.budget + 1

namespace Simulator

variable {ρ : Type} [ChaCha8Rng ρ] {setup : Setup} {state middle after probed : Simulator ρ}
  {event : Event} {outgoing : List Message} {schedule : List (ExternalEvent × Nat)}

/-! ## When a message arrives -/

/-- What is queued was queued before or arrives within the longest delay. -/
theorem sendAll_within [BoundedChaCha8Rng ρ] (self : Simulator ρ) (outgoing : List Message) :
    ∀ item ∈ (self.sendAll outgoing).eventQueue.pending, item ∈ self.eventQueue.pending ∨
      item.timestamp ≤ self.clock + max 1 self.deliveryDelay.stop := by
  induction outgoing generalizing self with
  | nil => exact fun item queued => .inl queued
  | cons msg rest ih =>
      intro item queued
      rcases ih (self.enqueueMessage msg) item queued with earlier | bound
      · obtain ⟨deliverAt, bound, inserted⟩ := self.enqueueMessage_prompt msg
        rw [inserted, EventQueue.pending_insert] at earlier
        rcases List.mem_cons.mp earlier with rfl | earlier
        · exact .inr bound
        · exact .inl earlier
      · exact .inr bound

theorem Stepped.deliveryDelay (stepped : Stepped state after) :
    after.deliveryDelay = state.deliveryDelay := by
  cases stepped with
  | drops _ _ _ => rfl
  | handles _ _ dispatched =>
      rw [sendAll_deliveryDelay]
      exact dispatched.deliveryDelay

theorem Stepped.within [BoundedChaCha8Rng ρ] (stepped : Stepped state after)
    (deliveryDelay : state.deliveryDelay = setup.deliveryDelay) :
    ∀ item ∈ after.eventQueue.pending, item ∈ state.eventQueue.pending ∨
      item.timestamp ≤ after.clock + setup.latency := by
  cases stepped with
  | drops pops _ _ => exact fun item queued => .inl (pops.subset queued)
  | @handles popped queue delivered observations middle outgoing pops _ dispatched =>
      intro item queued
      have delay : middle.deliveryDelay = setup.deliveryDelay :=
        dispatched.deliveryDelay.trans deliveryDelay
      have rest : middle.eventQueue = queue := dispatched.eventQueue
      rcases sendAll_within _ _ item queued with earlier | bound
      · exact .inl (pops.subset (rest ▸ earlier))
      · rw [sendAll_clock, Setup.latency, ← delay]
        exact .inr bound

/-! ## After the probe that is answered -/

/-- The exchange that began at the start is on time, and nothing but its messages is queued. -/
structure OnTime (setup : Setup) (start : Nat) (state : Simulator ρ) : Prop extends
    Undisturbed setup state, Timely state where
  started : Started state
  deliveryDelay : state.deliveryDelay = setup.deliveryDelay
  due : state.coordinator.Awaited (DueBy (setup.deadline start) state)
  deliveries : state.eventQueue.total Event.outside = 0

variable {start : Nat}

/-- Every step brings the exchange closer to its end. -/
theorem OnTime.stepped [BoundedChaCha8Rng ρ] (onTime : OnTime setup start state)
    (stepped : Stepped state after) (faithful : Faithful setup after)
    (participants : 1 ≤ setup.nParticipants) (positive : 0 < setup.retransmitTimeout) :
    OnTime setup start after ∧
      after.deliveriesLeft setup (start + setup.span) + 1 ≤
        state.deliveriesLeft setup (start + setup.span) := by
  have undisturbed := onTime.toUndisturbed.stepped stepped faithful
  have timely := stepped.timely onTime.toTimely
  obtain ⟨_, advances⟩ := stepped.advances
  have started := advances.started onTime.started
  have delay := stepped.deliveryDelay.trans onTime.deliveryDelay
  have begun := onTime.begun onTime.started
  cases stepped with
  | drops _ _ down => cases (onTime.nobodyCrashes.operating _).symm.trans down
  | @handles popped queue delivered observations middle outgoing pops _ dispatched =>
      have deliveries := onTime.deliveries
      rw [pops.total] at deliveries
      have deliveryCount : popped.event.deliveryCount = 1 := by
        cases kind : popped.event with
        | internal event => rfl
        | external event =>
            rw [kind] at deliveries
            exact absurd deliveries (by simp [Event.outside])
      constructor
      · refine ⟨undisturbed, timely, started, delay, ?_, ?_⟩
        · rw [sendAll_coordinator]
          have later := dispatched.keeps_up onTime.toUndisturbed participants pops begun onTime.due
          rw [sendAll_deliveryDelay] at delay
          exact later.mono fun msg due => DueOnceSent.sendAll due delay
        · have rest : middle.eventQueue = queue := dispatched.eventQueue
          have nothing : (outgoing.map fun msg => msg.delivery.outside).sum = 0 := by simp
          rw [total_sendAll, rest, nothing]
          omega
      · rw [← deliveryCount]
        apply dispatched.deliveriesLeft_le onTime.toUndisturbed onTime.toTimely pops positive
        · exact onTime.toUndisturbed.inTime participants onTime.due pops
        · exact fun same => absurd same begun

/-- Every round from then on handles a message. -/
theorem OnTime.drains_within [BoundedChaCha8Rng ρ] (onTime : OnTime setup start state)
    (participants : 1 ≤ setup.nParticipants) (positive : 0 < setup.retransmitTimeout)
    {rounds : Nat} (enough : state.deliveriesLeft setup (start + setup.span) < rounds)
    (consecutiveEmpty : Nat) :
    ∃ final, drainLoop rounds consecutiveEmpty state = .ok (true, final) := by
  induction rounds generalizing state consecutiveEmpty with
  | zero => cases enough
  | succ rounds ih =>
      by_cases drained : state.eventQueue.pending = []
      · have completed := onTime.completed participants drained onTime.started
        exact ⟨state, drainLoop_of_quiescent drained (completed.isQuiescent drained)⟩
      · obtain ⟨after, success, stepped, later⟩ := onTime.toFaithful.step_ok drained
        obtain ⟨onTime, cheaper⟩ := onTime.stepped stepped later participants positive
        rw [drainLoop_of_step success]
        split
        · exact ⟨after, rfl⟩
        · exact ih onTime (by omega) 0

/-- A tick that sends something sends one volley and begins to wait. -/
private theorem volleys_of_answered {before later : Coordinator ρ} {atTime : Nat}
    (ticked : before.Ticked atTime later outgoing) (answered : outgoing ≠ [])
    (span timeout : Nat) : outgoing.length ≤ before.nodes.length ∧
      later.phase.volleys span timeout (atTime + span) ≤ 1 + span / timeout := by
  cases ticked with
  | idle _ | awaitsVotes _ _ | awaitsAcks _ _ => exact absurd rfl answered
  | aborts _ _ | sendsDecision _ =>
      simp [CoordinatorPhase.volleys, Coordinator.announced]
  | resendsPrepare _ _ | resendsDecision _ _ =>
      simp [CoordinatorPhase.volleys, List.length_filter_le]

omit [ChaCha8Rng ρ] in
private theorem pending_injectProbe (drained : state.eventQueue.pending = []) :
    state.injectProbe.eventQueue.pending =
      [⟨state.clock + 1, state.eventQueue.nextSequenceNumber, .external .tickAll⟩] :=
  congrArg (_ :: ·) drained

/-- The probe of an empty queue leaves what the coordinator sends. -/
private theorem Stepped.queue_of_probe (stepped : Stepped state.injectProbe probed)
    (drained : state.eventQueue.pending = []) : ∃ answers,
      (∀ deliveriesDue, probed.eventQueue.total deliveriesDue =
        (answers.map fun msg => deliveriesDue msg.delivery).sum) ∧
      (answers ≠ [] → state.coordinator.Ticked (state.clock + 1) probed.coordinator answers) := by
  have alone := pending_injectProbe drained
  cases stepped with
  | drops pops kind _ =>
      have same := pops.mem
      rw [alone, List.mem_singleton] at same
      rw [same] at kind
      cases kind
  | @handles popped queue delivered observations middle outgoing pops _ dispatched =>
      have same := pops.mem
      rw [alone, List.mem_singleton] at same
      subst same
      have empty : queue.pending = [] := (pops.pending_of_cons (.of_eq alone)).eq_nil
      have rest : middle.eventQueue = queue := dispatched.eventQueue
      refine ⟨outgoing, fun deliveriesDue => ?_, fun answered => ?_⟩
      · rw [total_sendAll, rest, EventQueue.total, empty]
        rfl
      · rw [sendAll_coordinator]
        generalize kind : Event.external .tickAll = event at dispatched
        cases dispatched with
        | coordinatorTicks _ _ => exact state.coordinator.tick_ticked _
        | coordinatorReceives receives =>
            cases kind
            cases receives
        | participantReceives _ => cases kind
        | rests _ _ | nodeTicks | nobodyReceives _ | crashes | coordinatorRecovers _
        | participantRecovers _ _ | staysUp _ => exact absurd rfl answered

/-- The probe that is answered starts an exchange. -/
theorem UpAndStarted.onTime [BoundedChaCha8Rng ρ] (ready : UpAndStarted setup state)
    (effect : Probed state outgoing probed)
    (faithful : Faithful setup probed) (answered : outgoing ≠ [])
    (deliveryDelay : state.deliveryDelay = setup.deliveryDelay) :
    OnTime setup probed.clock probed := by
  have undisturbed := ready.undisturbed effect faithful answered
  have later := ready.probe effect faithful
  refine ⟨undisturbed, later.toTimely, later.started, ?_, ?_, ?_⟩
  · exact effect.stepped.deliveryDelay.trans deliveryDelay
  · refine undisturbed.awaited.imp fun msg inFlight asked => ?_
    obtain ⟨item, queued, recipient, delivery⟩ := inFlight
    refine ⟨item, queued, ⟨recipient, delivery⟩, ?_⟩
    have prompt : item.timestamp ≤ probed.clock + setup.latency := by
      refine (effect.stepped.within deliveryDelay item queued).resolve_left fun earlier => ?_
      rw [pending_injectProbe effect.drained, List.mem_singleton] at earlier
      subst earlier
      cases delivery
    have stages := Nat.mul_le_mul_right setup.latency (CoordinatorPhase.stage_pos_of_asks asked)
    unfold Setup.deadline
    omega
  · obtain ⟨answers, total, _⟩ := effect.stepped.queue_of_probe effect.drained
    rw [total]
    simp

theorem UpAndStarted.deliveriesLeft_le (ready : UpAndStarted setup state)
    (effect : Probed state outgoing probed)
    (answered : outgoing ≠ []) :
    probed.deliveriesLeft setup (probed.clock + setup.span) ≤ setup.budget := by
  obtain ⟨answers, total, ticks⟩ := effect.stepped.queue_of_probe effect.drained
  have some : answers ≠ [] := by
    intro none
    subst none
    obtain ⟨msg, sent⟩ := List.exists_mem_of_ne_nil _ answered
    obtain ⟨item, queued, _⟩ := effect.inFlight msg sent
    have empty : probed.eventQueue.pending = [] := by
      simpa [EventQueue.total] using total fun _ => 1
    rw [empty] at queued
    cases queued
  obtain ⟨few, volleys⟩ :=
    volleys_of_answered (ticks some) some setup.span setup.retransmitTimeout
  rw [ready.nodes, length_nodes] at few
  have due := Nat.le_trans (sum_deliveriesDue_le answers) (Nat.mul_le_mul_left 2 few)
  have paid := Nat.mul_le_mul_left (2 * setup.nParticipants.toNat) volleys
  rw [deliveriesLeft, total, effect.clock, Setup.budget]
  have events : (answers.map fun msg => msg.delivery.deliveriesDue) =
      answers.map Message.deliveriesDue := rfl
  rw [events]
  rw [Nat.mul_add] at paid ⊢
  omega

/-- Silent probes come first, and the first answer is the beginning of the last exchange. -/
theorem UpAndStarted.drains_within [BoundedChaCha8Rng ρ] (ready : UpAndStarted setup state)
    (participants : 1 ≤ setup.nParticipants) (positive : 0 < setup.retransmitTimeout)
    (deliveryDelay : state.deliveryDelay = setup.deliveryDelay)
    (drained : state.eventQueue.pending = []) {left consecutiveEmpty : Nat}
    (enough : quiescenceThreshold - consecutiveEmpty + setup.budget < left) :
    ∃ final, drainLoop left consecutiveEmpty state = .ok (true, final) := by
  induction left generalizing state consecutiveEmpty with
  | zero => cases enough
  | succ left ih =>
      cases ready.toFaithful.round with
      | steps _ stepped _ _ =>
          obtain ⟨popped, advances⟩ := stepped.advances
          have queued := advances.mem
          rw [drained] at queued
          cases queued
      | rests _ unfolds => exact ⟨state, unfolds left consecutiveEmpty⟩
      | answers effect faithful answered _ stepped later unfolds =>
          have onTime := ready.onTime effect faithful answered deliveryDelay
          have deliveriesLeft := ready.deliveriesLeft_le effect answered
          obtain ⟨onTime, cheaper⟩ := onTime.stepped stepped later participants positive
          rw [unfolds]
          exact onTime.drains_within participants positive (by omega) 0
      | @passes probed effect faithful _ unfolds =>
          rw [unfolds]
          split
          · exact ⟨probed, rfl⟩
          · apply ih (ready.probe effect faithful)
            · exact effect.stepped.deliveryDelay.trans deliveryDelay
            · exact effect.pending rfl
            · omega

private theorem deliveryDelay_of_steps
    (path : (system setup closed).Steps (setup.simulator.enqueueAll schedule) state) :
    state.deliveryDelay = setup.deliveryDelay := by
  have initial : ((setup.simulator (ρ := ρ)).enqueueAll schedule).deliveryDelay =
      setup.deliveryDelay := by
    obtain ⟨queue, same⟩ := enqueueAll_eq (setup.simulator (ρ := ρ)) schedule
    rw [same]
    rfl
  apply path.preserves _ initial
  intro before later kept next
  obtain rfl | ⟨_, rfl⟩ | stepped := next.of_closed
  · exact kept
  · exact kept
  · exact stepped.deliveryDelay.trans kept

/-- A schedule that starts the transaction and leaves every actor operating runs to a state where
the transaction is under way and all actors are up. -/
theorem exists_upAndStarted_run (ρ : Type) [ChaCha8Rng ρ] (setup : Setup) {startTime : Nat}
    (starts : (.startTransaction, startTime) ∈ schedule)
    (recovers : EndsOperating schedule) : ∃ (fuel : Nat) (ran : Simulator ρ),
      run fuel (setup.simulator.enqueueAll schedule) = .ok (some ran) ∧
      ran.eventQueue.pending = [] ∧ UpAndStarted setup ran ∧
      ran.deliveryDelay = setup.deliveryDelay := by
  have scheduled : Scheduled setup ((setup.simulator (ρ := ρ)).enqueueAll schedule) :=
    enqueueAll_scheduled
  obtain ⟨fuel, ran, success, drained⟩ := scheduled.toFaithful.run_ok
  have path : (system setup closed).Steps (setup.simulator.enqueueAll schedule) ran :=
    run_steps success
  have recovering := steps_preserve Recovering.next path (enqueueAll_recovering recovers)
  have requested := steps_preserve Requested.next path (enqueueAll_requested starts)
  have ready : UpAndStarted setup ran :=
    ⟨scheduled.steps path, recovering.nobodyCrashes drained, requested.started drained⟩
  exact ⟨fuel, ran, success, drained, ready, deliveryDelay_of_steps path⟩

theorem UpAndStarted.completed_of_drain (ready : UpAndStarted setup state)
    (participants : 1 ≤ setup.nParticipants)
    (timeout : setup.retransmitTimeout ≤ quiescenceThreshold) {maxRounds : Nat}
    (success : state.drain maxRounds = .ok (true, after)) :
    after.Completed ∧ after.allDecided = true := by
  have later := ready.steps (drain_steps success)
  have quiescent := ready.toScheduled.isQuiescent_of_drain participants timeout success
  have completed := later.toConsistent.completed (quiescent (later.nobodyCrashes.operating _))
    (later.begun later.started)
  refine ⟨completed, later.toFaithful.allDecided_iff.mpr fun {node participant} found => ?_⟩
  obtain ⟨decision, _, decided⟩ := completed
  rw [decided found]
  exact Option.some_ne_none decision

/-- After `run`, a bounded number of rounds of `drain` brings every participant its decision. -/
theorem drain_within [BoundedChaCha8Rng ρ] (participants : 1 ≤ setup.nParticipants)
    (positive : 1 ≤ setup.retransmitTimeout)
    (timeout : setup.retransmitTimeout ≤ quiescenceThreshold) {startTime : Nat}
    (starts : (.startTransaction, startTime) ∈ schedule) (recovers : EndsOperating schedule) :
    ∃ (fuel : Nat) (ran : Simulator ρ),
      run fuel (setup.simulator.enqueueAll schedule) = .ok (some ran) ∧
      ∀ maxRounds, setup.drainRounds ≤ maxRounds →
        ∃ final, ran.drain maxRounds = .ok (true, final) ∧ final.Completed ∧
          final.allDecided = true := by
  obtain ⟨fuel, ran, success, drained, ready, delay⟩ :=
    exists_upAndStarted_run ρ setup starts recovers
  refine ⟨fuel, ran, success, fun maxRounds enough => ?_⟩
  have within : quiescenceThreshold - 0 + setup.budget < maxRounds := enough
  obtain ⟨final, drains⟩ := ready.drains_within participants positive delay drained within
  exact ⟨final, drains, ready.completed_of_drain participants timeout drains⟩

theorem drain_within_hasty : ∃ (fuel : Nat) (ran : Simulator ForcedRng),
    run fuel (Setup.hasty.simulator.enqueueAll
      [(.startTransaction, 0), (.crash .coordinator, 1), (.recover .coordinator, 3)]) =
        .ok (some ran) ∧
      ∀ maxRounds, 45 ≤ maxRounds →
        ∃ final, ran.drain maxRounds = .ok (true, final) ∧ final.Completed ∧
          final.allDecided = true := by
  refine drain_within (by decide) (by decide) (by decide) (.head _) ?_
  intro index actor atTime found
  rcases index with _ | _ | _ | index
  · cases found
  · cases found
    exact ⟨2, 3, rfl, .inl (by decide)⟩
  · cases found
  · cases found

end Simulator

end TwoPhaseCommit
