import TwoPhaseCommit.Simulator.Quiescence

/-! Termination after crashes. When every crashed actor has recovered, `drain` first
waits for a tick that sends something, and from then on no message is lost, so the
run ends with everyone decided. -/

set_option autoImplicit false

namespace TwoPhaseCommit.Simulator

open Protocol

variable {ρ : Type} [ChaCha8Rng ρ] {setup : Setup} {state after final : Simulator ρ}
  {schedule : List (ExternalEvent × Nat)}

/-! ## Every crash is followed by a recovery -/

/-- The schedule leaves every actor operating: each crash has a recovery of the same
actor at a later time, or at the same time and later in the schedule. -/
def EndsOperating (schedule : List (ExternalEvent × Nat)) : Prop :=
  ∀ (index : Nat) (actor : ActorId) (atTime : Nat),
    schedule[index]? = some (.crash actor, atTime) →
      ∃ later laterTime, schedule[later]? = some (.recover actor, laterTime) ∧
        (atTime < laterTime ∨ (atTime = laterTime ∧ index < later))

/-- The recovery of every crashed actor is queued, after every queued crash of it. -/
structure Recovering (state : Simulator ρ) : Prop where
  down : ∀ actor, state.isOperating actor = false →
    ∃ item ∈ state.eventQueue.pending, item.event = .external (.recover actor)
  crash : ∀ item ∈ state.eventQueue.pending, ∀ actor, item.event = .external (.crash actor) →
    ∃ later ∈ state.eventQueue.pending, later.event = .external (.recover actor) ∧
      item.Precedes later

omit [ChaCha8Rng ρ] in
theorem Advances.recovering {popped : TimestampedEvent} (advances : Advances state popped after)
    (recovering : Recovering state) : Recovering after where
  down actor down := by
    rcases (advances.isOperating actor).mp down with crash | ⟨before, other⟩
    · obtain ⟨later, queued, recover, _⟩ := recovering.crash popped advances.mem actor crash
      rcases advances.remains later queued with rfl | remains
      · cases crash.symm.trans recover
      · exact ⟨later, remains, recover⟩
    · obtain ⟨item, queued, recover⟩ := recovering.down actor before
      rcases advances.remains item queued with rfl | remains
      · exact absurd recover other
      · exact ⟨item, remains, recover⟩
  crash item queued actor crash := by
    rcases advances.queued item queued with earlier | ⟨msg, delivery, _⟩
    · obtain ⟨later, queued, recover, precedes⟩ := recovering.crash item earlier actor crash
      rcases advances.remains later queued with rfl | remains
      · exact absurd precedes (advances.first item earlier)
      · exact ⟨later, remains, recover, precedes⟩
    · cases crash.symm.trans delivery

theorem Recovering.next (recovering : Recovering state) (next : Next closed state after) :
    Recovering after := by
  obtain rfl | ⟨drained, rfl⟩ | stepped := next.of_closed
  · exact recovering
  · constructor
    · intro actor down
      obtain ⟨item, queued, recover⟩ := recovering.down actor down
      exact ⟨item, List.mem_cons_of_mem _ queued, recover⟩
    · intro item queued actor crash
      rcases List.mem_cons.mp queued with rfl | earlier
      · cases crash
      · have queued : item ∈ [] := drained ▸ earlier
        cases queued
  · obtain ⟨popped, advances⟩ := stepped.advances
    exact advances.recovering recovering

omit [ChaCha8Rng ρ] in
theorem Recovering.nobodyCrashes (recovering : Recovering state)
    (drained : state.eventQueue.pending = []) : NobodyCrashes state where
  operating actor := by
    rw [← Bool.not_eq_false]
    intro down
    obtain ⟨item, queued, _⟩ := recovering.down actor down
    rw [drained] at queued
    cases queued
  events item queued := by
    rw [drained] at queued
    cases queued

omit [ChaCha8Rng ρ] in
theorem mem_enqueueAll {item : TimestampedEvent} :
    item ∈ (state.enqueueAll schedule).eventQueue.pending ↔
      item ∈ state.eventQueue.pending ∨ ∃ index event atTime,
        schedule[index]? = some (event, atTime) ∧
          item = ⟨atTime, state.eventQueue.nextSequenceNumber + index, .external event⟩ := by
  induction schedule generalizing state with
  | nil => simp [enqueueAll]
  | cons entry rest ih =>
      refine ih.trans ⟨?_, ?_⟩
      · intro either
        rcases either with queued | ⟨index, event, atTime, listed, rfl⟩
        · rcases List.mem_cons.mp queued with rfl | earlier
          · exact .inr ⟨0, entry.1, entry.2, rfl, rfl⟩
          · exact .inl earlier
        · refine .inr ⟨index + 1, event, atTime, listed, ?_⟩
          rw [Nat.add_comm index, ← Nat.add_assoc]
          rfl
      · intro either
        rcases either with earlier | ⟨index, event, atTime, listed, rfl⟩
        · exact .inl (List.mem_cons_of_mem _ earlier)
        · cases index with
          | zero =>
              cases listed
              exact .inl (.head _)
          | succ index =>
              refine .inr ⟨index, event, atTime, listed, ?_⟩
              rw [Nat.add_comm index, ← Nat.add_assoc]
              rfl

theorem enqueueAll_recovering (recovers : EndsOperating schedule) :
    Recovering ((setup.simulator (ρ := ρ)).enqueueAll schedule) where
  down actor down := by
    obtain ⟨queue, same⟩ := enqueueAll_eq (setup.simulator (ρ := ρ)) schedule
    have undisturbed : Undisturbed setup (setup.simulator (ρ := ρ)) := simulator_undisturbed
    rw [same] at down
    cases (undisturbed.nobodyCrashes.operating actor).symm.trans down
  crash item queued actor crash := by
    rcases mem_enqueueAll.mp queued with none | ⟨index, event, atTime, listed, rfl⟩
    · cases none
    · cases crash
      obtain ⟨later, laterTime, found, order⟩ := recovers index actor atTime listed
      refine ⟨_, mem_enqueueAll.mpr (.inr ⟨later, _, laterTime, found, rfl⟩), rfl, ?_⟩
      exact order.imp id fun ⟨same, before⟩ => ⟨same, Nat.add_lt_add_left before _⟩

theorem enqueueAll_requested {atTime : Nat} (starts : (.startTransaction, atTime) ∈ schedule) :
    Requested ((setup.simulator (ρ := ρ)).enqueueAll schedule) := by
  obtain ⟨index, found⟩ := List.mem_iff_getElem?.mp starts
  exact .inr ⟨_, mem_enqueueAll.mpr (.inr ⟨index, _, atTime, found, rfl⟩), rfl⟩

/-! ## After the schedule -/

/-- All actors are up for good and the transaction is under way. -/
structure UpAndStarted (setup : Setup) (state : Simulator ρ) : Prop extends
    Scheduled setup state where
  nobodyCrashes : NobodyCrashes state
  started : Started state

theorem UpAndStarted.next (ready : UpAndStarted setup state) (next : Next closed state after) :
    UpAndStarted setup after := by
  have scheduled := ready.toScheduled.next next
  obtain rfl | ⟨_, rfl⟩ | stepped := next.of_closed
  · exact ready
  · exact ⟨scheduled, ready.nobodyCrashes.injectProbe, ready.started⟩
  · obtain ⟨popped, advances⟩ := stepped.advances
    exact ⟨scheduled, advances.nobodyCrashes ready.nobodyCrashes, advances.started ready.started⟩

theorem UpAndStarted.steps (ready : UpAndStarted setup state)
    (path : (system setup closed).Steps state after) : UpAndStarted setup after :=
  steps_preserve UpAndStarted.next path ready

omit [ChaCha8Rng ρ] in
theorem Completed.isQuiescent (completed : Completed state)
    (drained : state.eventQueue.pending = []) : state.isQuiescent = true := by
  obtain ⟨decision, phase, decided⟩ := completed
  rw [isQuiescent_iff]
  refine ⟨drained, fun _ => ?_, fun {node participant} found _ => ?_⟩
  · rw [Coordinator.isQuiescent, phase]
  · have known := decided found
    unfold Participant.isQuiescent
    cases same : participant.phase with
    | waiting | decided _ _ => rfl
    | voted vote =>
        rw [Participant.decision, same] at known
        cases known

/-- In every loop of enough rounds, `drain` returns `true` in the same state. -/
def Drains (state : Simulator ρ) (consecutiveEmpty : Nat) : Prop :=
  ∃ bound final, ∀ rounds, bound ≤ rounds →
    drainLoop rounds consecutiveEmpty state = .ok (true, final)

private theorem drains_of_returns {consecutiveEmpty : Nat}
    (returns : ∀ rounds,
      Simulator.drainLoop (rounds + 1) consecutiveEmpty state = .ok (true, final)) :
    Drains state consecutiveEmpty := by
  refine ⟨1, final, fun rounds enough => ?_⟩
  cases rounds with
  | zero => cases enough
  | succ rounds => exact returns rounds

theorem Drains.of_next {before later : Nat} (drains : Drains after later)
    (unfolds : ∀ rounds, Simulator.drainLoop (rounds + 1) before state =
      Simulator.drainLoop rounds later after) : Drains state before := by
  obtain ⟨bound, final, drained⟩ := drains
  refine ⟨bound + 1, final, fun rounds enough => ?_⟩
  cases rounds with
  | zero => cases enough
  | succ rounds => exact (unfolds rounds).trans (drained rounds (Nat.le_of_succ_le_succ enough))

/-- Once everyone without an answer is asked, `drain` runs to the end. -/
theorem Undisturbed.drains (undisturbed : Undisturbed setup state)
    (participants : 1 ≤ setup.nParticipants) (started : Started state) (consecutiveEmpty : Nat) :
    Drains state consecutiveEmpty := by
  refine Faithful.induction (fun state => Undisturbed setup state → Started state →
    ∀ consecutiveEmpty, Drains state consecutiveEmpty) ?_ undisturbed.toFaithful undisturbed
      started consecutiveEmpty
  intro state faithful ih undisturbed started consecutiveEmpty
  by_cases drained : state.eventQueue.pending = []
  · have completed := undisturbed.completed participants drained started
    exact drains_of_returns fun _ =>
      drainLoop_of_quiescent drained (completed.isQuiescent drained)
  · obtain ⟨after, success, stepped, later⟩ := faithful.step_ok drained
    obtain ⟨popped, advances⟩ := stepped.advances
    cases quiescent : after.isQuiescent with
    | true =>
        exact drains_of_returns fun rounds =>
          (drainLoop_of_step success).trans (if_pos quiescent)
    | false =>
        have drains := ih after later success (undisturbed.stepped stepped later)
          (advances.started started) 0
        exact drains.of_next fun rounds =>
          (drainLoop_of_step success).trans (if_neg (by simp [quiescent]))

section Probed

variable {probed : Simulator ρ} {outgoing : List Message}

theorem UpAndStarted.probe (ready : UpAndStarted setup state)
    (effect : Probed state outgoing probed)
    (faithful : Faithful setup probed) : UpAndStarted setup probed := by
  obtain ⟨popped, advances⟩ := effect.stepped.advances
  have timely := effect.stepped.timely (ready.toTimely.injectProbe effect.drained)
  exact ⟨⟨faithful, timely, effect.stepped.begun ready.begun⟩,
    advances.nobodyCrashes ready.nobodyCrashes.injectProbe, advances.started ready.started⟩

/-- The probe that sends something asks everyone without an answer. -/
theorem UpAndStarted.undisturbed (ready : UpAndStarted setup state)
    (effect : Probed state outgoing probed)
    (faithful : Faithful setup probed) (answered : outgoing ≠ []) : Undisturbed setup probed := by
  have later := ready.probe effect faithful
  refine ⟨faithful, later.nobodyCrashes, ?_, later.begun⟩
  rcases effect.coordinator with ⟨_, silent, _⟩ | ⟨_, ticked⟩
  · exact absurd silent answered
  · rcases (Coordinator.ticked_of_tick ticked).awaited with asked | ⟨_, silent⟩
    · exact asked.mono effect.inFlight
    · exact absurd silent answered

end Probed

/-- With all actors up, `drain` ends: by a probe that is answered, or by silence. -/
theorem UpAndStarted.drains (ready : UpAndStarted setup state)
    (participants : 1 ≤ setup.nParticipants)
    (drained : state.eventQueue.pending = []) (consecutiveEmpty : Nat) :
    Drains state consecutiveEmpty := by
  induction left : quiescenceThreshold - consecutiveEmpty using Nat.strong_induction_on
    generalizing state consecutiveEmpty with
  | h left ih =>
      cases ready.toFaithful.round with
      | steps _ stepped _ _ =>
          obtain ⟨popped, advances⟩ := stepped.advances
          have queued := advances.mem
          rw [drained] at queued
          cases queued
      | rests _ unfolds => exact drains_of_returns fun rounds => unfolds rounds _
      | answers effect faithful answered _ stepped later unfolds =>
          have undisturbed := ready.undisturbed effect faithful answered
          obtain ⟨popped, advances⟩ := stepped.advances
          have drains := (undisturbed.stepped stepped later).drains participants
            (advances.started (ready.probe effect faithful).started) 0
          exact drains.of_next fun rounds => unfolds rounds _
      | passes effect faithful _ unfolds =>
          by_cases enough : consecutiveEmpty + 1 ≥ quiescenceThreshold
          · exact drains_of_returns fun rounds => (unfolds rounds _).trans (if_pos enough)
          · have drains := ih _ (by omega) (ready.probe effect faithful) (effect.pending rfl)
              (consecutiveEmpty + 1) rfl
            exact drains.of_next fun rounds => (unfolds rounds _).trans (if_neg enough)

/-! ## Termination -/

theorem termination_after_recovery (participants : 1 ≤ setup.nParticipants)
    (timeout : setup.retransmitTimeout ≤ quiescenceThreshold) {startTime : Nat}
    (starts : (.startTransaction, startTime) ∈ schedule) (recovers : EndsOperating schedule) :
    ∃ (fuel : Nat) (ran : Simulator ρ),
      run fuel (setup.simulator.enqueueAll schedule) = .ok (some ran) ∧
      ∃ bound, ∀ maxRounds, bound ≤ maxRounds →
        ∃ final, ran.drain maxRounds = .ok (true, final) ∧ final.Completed ∧
          final.allDecided = true := by
  have scheduled : Scheduled setup ((setup.simulator (ρ := ρ)).enqueueAll schedule) :=
    enqueueAll_scheduled
  obtain ⟨fuel, ran, success, drained⟩ := scheduled.toFaithful.run_ok
  have path : (system setup closed).Steps (setup.simulator.enqueueAll schedule) ran :=
    run_steps success
  have recovering := steps_preserve Recovering.next path (enqueueAll_recovering recovers)
  have requested := steps_preserve Requested.next path (enqueueAll_requested starts)
  have ready : UpAndStarted setup ran :=
    ⟨scheduled.steps path, recovering.nobodyCrashes drained, requested.started drained⟩
  refine ⟨fuel, ran, success, ?_⟩
  obtain ⟨bound, final, drains⟩ := ready.drains participants drained 0
  refine ⟨bound, fun maxRounds enough => ⟨final, drains maxRounds enough, ?_⟩⟩
  have later := ready.steps (drain_steps (drains maxRounds enough))
  have quiescent :=
    ready.toScheduled.isQuiescent_of_drain participants timeout (drains maxRounds enough)
  have completed := later.toConsistent.completed (quiescent (later.nobodyCrashes.operating _))
    (later.begun later.started)
  refine ⟨completed, later.toFaithful.allDecided_iff.mpr fun {node participant} found => ?_⟩
  obtain ⟨decision, _, decided⟩ := completed
  rw [decided found]
  nofun

theorem termination_after_recovery_unanimous : ∃ (fuel : Nat) (ran : Simulator ForcedRng),
    run fuel (Setup.unanimous.simulator.enqueueAll
      [(.startTransaction, 0), (.crash .coordinator, 1), (.recover .coordinator, 3)]) =
        .ok (some ran) ∧
      ∃ bound, ∀ maxRounds, bound ≤ maxRounds →
        ∃ final, ran.drain maxRounds = .ok (true, final) ∧ final.Completed ∧
          final.allDecided = true := by
  refine termination_after_recovery (by decide) (by decide) (List.mem_cons_self ..) ?_
  intro index actor atTime found
  rcases index with _ | _ | _ | index
  · cases found
  · cases found
    exact ⟨2, 3, rfl, .inl (by decide)⟩
  · cases found
  · cases found

end TwoPhaseCommit.Simulator
