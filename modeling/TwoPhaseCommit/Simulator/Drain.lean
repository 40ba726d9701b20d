import TwoPhaseCommit.CoordinatorTicks
import TwoPhaseCommit.Simulator.Liveness

/-! What `drain` finds out. A tick at a quiescent coordinator does nothing, so a queue
that is empty then stays empty. The twelve silent probes by which `drain` may also
conclude that nothing is left say so only if an active coordinator would have sent
something at one of them. -/

set_option autoImplicit false

namespace TwoPhaseCommit

open Protocol

def ExternalEvent.isTick : ExternalEvent → Bool
  | .tick _ | .tickAll => true
  | .startTransaction | .crash _ | .recover _ => false

namespace Simulator

variable {ρ : Type} [ChaCha8Rng ρ] {setup : Setup} {environment : Environment ρ}
  {state middle after probed : Simulator ρ} {event : Event} {outgoing : List Message}

/-! ## Time -/

/-- The clock is behind the queue, and the coordinator has not sent in the future. -/
structure Timely (state : Simulator ρ) : Prop where
  ahead : ∀ item ∈ state.eventQueue.pending, state.clock ≤ item.timestamp
  past : state.coordinator.phase.NotSentAfter state.clock

private theorem Dispatched.notSentAfter (dispatched : Dispatched state event middle outgoing)
    (past : state.coordinator.phase.NotSentAfter state.clock) :
    middle.coordinator.phase.NotSentAfter state.clock := by
  cases dispatched with
  | coordinatorReceives _ => exact Coordinator.onMessage_notSentAfter _ past
  | coordinatorTicks _ _ => exact (state.coordinator.tick_ticked state.clock).notSentAfter past
  | coordinatorRecovers _ => exact Coordinator.recover_notSentAfter _ _
  | rests _ _ | nodeTicks | crashes | participantReceives _ | nobodyReceives _
  | participantRecovers _ _ | staysUp _ => exact past

theorem Stepped.timely (stepped : Stepped state after) (timely : Timely state) :
    Timely after := by
  obtain ⟨popped, advances⟩ := stepped.advances
  constructor
  · exact advances.ahead
  · have forward : ∀ {popped : TimestampedEvent} {rest : EventQueue},
        state.eventQueue.Pops popped rest →
          state.coordinator.phase.NotSentAfter popped.timestamp := fun pops last same =>
      Nat.le_trans (timely.past last same) (timely.ahead _ pops.mem)
    cases stepped with
    | drops pops _ _ => exact forward pops
    | @handles _ _ _ _ _ outgoing pops _ dispatched =>
        rw [sendAll_coordinator, sendAll_clock]
        have past := dispatched.notSentAfter (forward pops)
        rwa [← dispatched.clock] at past

/-! ## Ticks -/

/-- What a step does that processes a tick, at one actor or at all. -/
structure Ticks (state : Simulator ρ) (popped : TimestampedEvent) (rest : EventQueue)
    (outgoing : List Message) (after : Simulator ρ) : Prop where
  pops : state.eventQueue.Pops popped rest
  participants : after.participants = state.participants
  actorStatus : after.actorStatus = state.actorStatus
  clock : after.clock = popped.timestamp
  sentMessages : after.sentMessages = state.sentMessages ++ outgoing
  inFlight : ∀ msg ∈ outgoing, after.InFlight msg
  pending : ∀ item ∈ after.eventQueue.pending,
    item ∈ rest.pending ∨ ∃ msg ∈ outgoing, item.event = msg.delivery
  coordinator : (outgoing = [] ∧ after.coordinator = state.coordinator ∧
      (popped.event = .external .tickAll → state.isOperating .coordinator = false)) ∨
    (state.isOperating .coordinator = true ∧
      state.coordinator.tick popped.timestamp = (after.coordinator, outgoing))

private theorem Dispatched.ticks {tick : ExternalEvent}
    (dispatched : Dispatched state (.external tick) middle outgoing) (isTick : tick.isTick = true) :
    middle.participants = state.participants ∧ middle.actorStatus = state.actorStatus ∧
      ((outgoing = [] ∧ middle.coordinator = state.coordinator ∧
          (tick = .tickAll → state.isOperating .coordinator = false)) ∨
        (state.isOperating .coordinator = true ∧
          state.coordinator.tick state.clock = (middle.coordinator, outgoing))) := by
  generalize same : Event.external tick = event at dispatched
  cases dispatched with
  | coordinatorTicks _ up => exact ⟨rfl, rfl, .inr ⟨up, rfl⟩⟩
  | rests _ down => exact ⟨rfl, rfl, .inl ⟨rfl, rfl, fun _ => down⟩⟩
  | nodeTicks =>
      cases same
      refine ⟨rfl, rfl, .inl ⟨rfl, rfl, ?_⟩⟩
      intro all
      cases all
  | coordinatorReceives receives =>
      subst same
      cases tick <;> cases receives
      cases isTick
  | participantReceives _ | nobodyReceives _ => cases same
  | crashes | coordinatorRecovers _ | participantRecovers _ _ | staysUp _ =>
      cases same
      cases isTick

theorem Stepped.ticks (stepped : Stepped state after)
    (only : ∀ item ∈ state.eventQueue.pending,
      ∃ tick : ExternalEvent, item.event = .external tick ∧ tick.isTick = true) :
    ∃ popped rest outgoing, Ticks state popped rest outgoing after := by
  cases stepped with
  | drops pops kind _ =>
      obtain ⟨tick, same, _⟩ := only _ pops.mem
      cases kind.symm.trans same
  | @handles popped queue delivered observations middle outgoing pops _ dispatched =>
      obtain ⟨tick, same, isTick⟩ := only _ pops.mem
      have sent := dispatched.sentMessages.trans (sentMessages_taken state popped queue delivered)
      have clock : middle.clock = popped.timestamp := dispatched.clock
      have rest : middle.eventQueue = queue := dispatched.eventQueue
      rw [same] at dispatched
      obtain ⟨participants, actorStatus, coordinator⟩ := dispatched.ticks isTick
      exact ⟨popped, queue, outgoing, {
        pops := pops
        participants := (sendAll_participants _ _).trans participants
        actorStatus := (sendAll_actorStatus _ _).trans actorStatus
        clock := by simpa using clock
        sentMessages := by
          rw [sendAll_sentMessages]
          exact congrArg (· ++ outgoing) sent
        inFlight := fun msg member => inFlight_sendAll (.inl member)
        pending := fun item queued => by
          rcases eq_delivery_of_mem_sendAll _ _ queued with ⟨msg, member, delivery, _⟩ | earlier
          · exact .inr ⟨msg, member, delivery⟩
          · exact .inl (rest ▸ earlier)
        coordinator := by
          rw [same, sendAll_coordinator, Event.external.injEq]
          exact coordinator }⟩

/-! ## Quiescent actors -/

/-- The coordinator is crashed or has nothing to do, and only ticks are queued. -/
structure OnlyTicksLeft (state : Simulator ρ) : Prop where
  quiescent : state.isOperating .coordinator = true → state.coordinator.isQuiescent = true
  ticks : ∀ item ∈ state.eventQueue.pending,
    ∃ tick : ExternalEvent, item.event = .external tick ∧ tick.isTick = true

structure Unchanged (before after : Simulator ρ) : Prop where
  sentMessages : after.sentMessages = before.sentMessages
  coordinator : after.coordinator = before.coordinator
  participants : after.participants = before.participants

omit [ChaCha8Rng ρ] in
theorem Unchanged.trans {first second third : Simulator ρ} (before : Unchanged first second)
    (after : Unchanged second third) : Unchanged first third :=
  ⟨after.sentMessages.trans before.sentMessages, after.coordinator.trans before.coordinator,
    after.participants.trans before.participants⟩

theorem OnlyTicksLeft.step (onlyTicks : OnlyTicksLeft state) (stepped : Stepped state after) :
    OnlyTicksLeft after ∧ Unchanged state after := by
  obtain ⟨popped, rest, outgoing, ticks⟩ := stepped.ticks onlyTicks.ticks
  have nothing : after.coordinator = state.coordinator ∧ outgoing = [] := by
    rcases ticks.coordinator with ⟨silent, same, _⟩ | ⟨up, ticked⟩
    · exact ⟨same, silent⟩
    · exact (Coordinator.ticked_of_tick ticked).eq_of_quiescent (onlyTicks.quiescent up)
  obtain ⟨same, rfl⟩ := nothing
  refine ⟨⟨?_, ?_⟩, ⟨?_, same, ticks.participants⟩⟩
  · rw [same, Simulator.isOperating, ticks.actorStatus]
    exact onlyTicks.quiescent
  · intro item queued
    rcases ticks.pending item queued with earlier | ⟨msg, member, _⟩
    · exact onlyTicks.ticks item (ticks.pops.subset earlier)
    · cases member
  · rw [ticks.sentMessages, List.append_nil]

def ticksOnly : Environment ρ :=
  fun state event atTime => event.isTick = true ∧ state.clock ≤ atTime

omit [ChaCha8Rng ρ] in
private theorem OnlyTicksLeft.enqueueExternal (onlyTicks : OnlyTicksLeft state)
    {tick : ExternalEvent} (isTick : tick.isTick = true) (atTime : Nat) :
    OnlyTicksLeft (state.enqueueExternal tick atTime) where
  quiescent := onlyTicks.quiescent
  ticks item queued := by
    rcases List.mem_cons.mp queued with rfl | earlier
    · exact ⟨tick, rfl, isTick⟩
    · exact onlyTicks.ticks item earlier

theorem OnlyTicksLeft.next (onlyTicks : OnlyTicksLeft state) (next : Next ticksOnly state after) :
    OnlyTicksLeft after ∧ Unchanged state after := by
  cases next with
  | enqueueExternal allowed => exact ⟨onlyTicks.enqueueExternal allowed.1 _, ⟨rfl, rfl, rfl⟩⟩
  | injectProbe _ =>
      have advanced : OnlyTicksLeft { state with clock := state.clock + 1 } :=
        ⟨onlyTicks.quiescent, onlyTicks.ticks⟩
      exact ⟨advanced.enqueueExternal rfl _, ⟨rfl, rfl, rfl⟩⟩
  | step success =>
      obtain ⟨_, _, rfl⟩ | ⟨_, stepped⟩ := step_stepped success
      · exact ⟨onlyTicks, ⟨rfl, rfl, rfl⟩⟩
      · exact onlyTicks.step stepped

/-- No number of ticks disturbs quiescent actors. -/
theorem OnlyTicksLeft.steps (onlyTicks : OnlyTicksLeft state)
    (path : (system setup ticksOnly).Steps state after) : Unchanged state after :=
  path.relates OnlyTicksLeft Unchanged (fun onlyTicks next => (onlyTicks.next next).1)
    (fun _ => ⟨rfl, rfl, rfl⟩) Unchanged.trans (fun onlyTicks next => (onlyTicks.next next).2)
    onlyTicks

/-! ## The loop of `drain` -/

def closed : Environment ρ := fun _ _ _ => False

omit [ChaCha8Rng ρ] in
theorem isQuiescent_iff {self : Simulator ρ} : self.isQuiescent = true ↔
    self.eventQueue.pending = [] ∧
      (self.isOperating .coordinator = true → self.coordinator.isQuiescent = true) ∧
      ∀ {node : NodeId} {participant : Participant ρ},
        self.participants[node]? = some participant →
          self.isOperating (.node node) = true → participant.isQuiescent = true := by
  simp only [isQuiescent, Bool.and_eq_true, EventQueue.isEmpty_iff, Bool.or_eq_true,
    Bool.not_eq_true', List.all_eq_true, Prod.forall,
    Std.ExtTreeMap.mem_toList_iff_getElem?_eq_some, and_assoc, ← Bool.not_eq_true,
    or_iff_not_imp_left, Classical.not_not]

section Rounds

variable {rounds consecutiveEmpty : Nat}

theorem drainLoop_of_step (success : state.step = .ok (true, after)) :
    drainLoop (rounds + 1) consecutiveEmpty state =
      if after.isQuiescent then .ok (true, after) else drainLoop rounds 0 after := by
  simp only [drainLoop, success, bind, Except.bind, ↓reduceIte]
  rfl

theorem drainLoop_of_quiescent (drained : state.eventQueue.pending = [])
    (quiescent : state.isQuiescent = true) :
    drainLoop (rounds + 1) consecutiveEmpty state = .ok (true, state) := by
  simp only [drainLoop, step_of_empty drained, bind, Except.bind, quiescent, ↓reduceIte,
    Bool.false_eq_true]
  rfl

theorem drainLoop_of_answer (drained : state.eventQueue.pending = [])
    (active : state.isQuiescent = false) (probe : state.injectProbe.step = .ok (true, probed))
    (success : probed.step = .ok (true, after)) :
    drainLoop (rounds + 1) consecutiveEmpty state = drainLoop rounds 0 after := by
  simp only [drainLoop, step_of_empty drained, bind, Except.bind, active, probe, success,
    ↓reduceIte, Bool.false_eq_true]

theorem drainLoop_of_silence (drained : state.eventQueue.pending = [])
    (active : state.isQuiescent = false) (probe : state.injectProbe.step = .ok (true, probed))
    (silent : probed.eventQueue.pending = []) :
    drainLoop (rounds + 1) consecutiveEmpty state =
      if consecutiveEmpty + 1 ≥ quiescenceThreshold then .ok (true, probed)
      else drainLoop rounds (consecutiveEmpty + 1) probed := by
  simp only [drainLoop, step_of_empty drained, bind, Except.bind, active, probe,
    step_of_empty silent, ↓reduceIte, Bool.false_eq_true]
  rfl

end Rounds

/-- The step that processes a tick, the only event in the queue. -/
theorem Faithful.step_tick {tick : TimestampedEvent} {event : ExternalEvent}
    (faithful : Faithful setup state) (alone : state.eventQueue.pending = [tick])
    (kind : tick.event = .external event) (isTick : event.isTick = true) :
    ∃ after rest outgoing, state.step = .ok (true, after) ∧ Stepped state after ∧
      Faithful setup after ∧ rest.pending = [] ∧ Ticks state tick rest outgoing after := by
  obtain ⟨after, success, stepped, later⟩ := faithful.step_ok (alone ▸ List.cons_ne_nil _ _)
  obtain ⟨popped, rest, outgoing, ticks⟩ := stepped.ticks fun item queued => by
    rw [alone] at queued
    obtain rfl := List.mem_singleton.mp queued
    exact ⟨event, kind, isTick⟩
  have same : popped = tick := ticks.pops.eq_of_precedes (by simp [alone]) (by simp [alone])
  subst same
  have empty := (ticks.pops.pending_of_cons (.of_eq alone)).eq_nil
  exact ⟨after, rest, outgoing, success, stepped, later, empty, ticks⟩

/-- What a probe of an empty queue does. -/
structure Probed (state : Simulator ρ) (outgoing : List Message) (probed : Simulator ρ) :
    Prop where
  drained : state.eventQueue.pending = []
  success : state.injectProbe.step = .ok (true, probed)
  stepped : Stepped state.injectProbe probed
  clock : probed.clock = state.clock + 1
  participants : probed.participants = state.participants
  actorStatus : probed.actorStatus = state.actorStatus
  inFlight : ∀ msg ∈ outgoing, probed.InFlight msg
  pending : outgoing = [] → probed.eventQueue.pending = []
  coordinator : (state.isOperating .coordinator = false ∧ outgoing = [] ∧
      probed.coordinator = state.coordinator) ∨
    (state.isOperating .coordinator = true ∧
      state.coordinator.tick (state.clock + 1) = (probed.coordinator, outgoing))

theorem Faithful.probe (faithful : Faithful setup state)
    (drained : state.eventQueue.pending = []) :
    ∃ probed outgoing, Faithful setup probed ∧ Probed state outgoing probed := by
  let tick : TimestampedEvent :=
    ⟨state.clock + 1, state.eventQueue.nextSequenceNumber, .external .tickAll⟩
  have queue : state.injectProbe.eventQueue.pending = [tick] :=
    congrArg (tick :: ·) drained
  have next : Next anyEnvironment state state.injectProbe :=
    .injectProbe (EventQueue.isEmpty_iff.mpr drained)
  obtain ⟨probed, rest, outgoing, success, stepped, later, empty, ticks⟩ :=
    (faithful.next next).step_tick queue rfl rfl
  refine ⟨probed, outgoing, later, {
    drained := drained
    success := success
    stepped := stepped
    clock := ticks.clock
    participants := ticks.participants
    actorStatus := ticks.actorStatus
    inFlight := ticks.inFlight
    pending := ?_
    coordinator := ?_ }⟩
  · intro silent
    subst silent
    apply List.eq_nil_iff_forall_not_mem.mpr
    intro item queued
    rcases ticks.pending item queued with earlier | ⟨msg, member, _⟩
    · rw [empty] at earlier
      cases earlier
    · cases member
  · rcases ticks.coordinator with ⟨silent, same, down⟩ | ticked
    · exact .inl ⟨down rfl, silent, same⟩
    · exact .inr ticked

/-- Every outcome of one round of the loop. -/
inductive Round (setup : Setup) (state : Simulator ρ) : Prop where
  | steps {after : Simulator ρ} :
      state.step = .ok (true, after) → Stepped state after → Faithful setup after →
      (∀ rounds consecutiveEmpty, drainLoop (rounds + 1) consecutiveEmpty state =
        if after.isQuiescent then .ok (true, after) else drainLoop rounds 0 after) →
      Round setup state
  | rests :
      state.isQuiescent = true →
      (∀ rounds consecutiveEmpty,
        drainLoop (rounds + 1) consecutiveEmpty state = .ok (true, state)) →
      Round setup state
  | answers {probed after : Simulator ρ} {outgoing : List Message} :
      Probed state outgoing probed → Faithful setup probed → outgoing ≠ [] →
      probed.step = .ok (true, after) → Stepped probed after → Faithful setup after →
      (∀ rounds consecutiveEmpty,
        drainLoop (rounds + 1) consecutiveEmpty state = drainLoop rounds 0 after) →
      Round setup state
  | passes {probed : Simulator ρ} :
      Probed state [] probed → Faithful setup probed → state.isQuiescent = false →
      (∀ rounds consecutiveEmpty, drainLoop (rounds + 1) consecutiveEmpty state =
        if consecutiveEmpty + 1 ≥ quiescenceThreshold then .ok (true, probed)
        else drainLoop rounds (consecutiveEmpty + 1) probed) →
      Round setup state

theorem Faithful.round (faithful : Faithful setup state) : Round setup state := by
  by_cases drained : state.eventQueue.pending = []
  · cases active : state.isQuiescent with
    | true => exact .rests active fun _ _ => drainLoop_of_quiescent drained active
    | false =>
        obtain ⟨probed, outgoing, later, effect⟩ := faithful.probe drained
        by_cases silent : outgoing = []
        · subst silent
          exact .passes effect later active fun _ _ =>
            drainLoop_of_silence drained active effect.success (effect.pending rfl)
        · obtain ⟨msg, sent⟩ := List.exists_mem_of_ne_nil _ silent
          obtain ⟨item, queued, _⟩ := effect.inFlight msg sent
          obtain ⟨after, success, stepped, final⟩ := later.step_ok (List.ne_nil_of_mem queued)
          exact .answers effect later silent success stepped final fun _ _ =>
            drainLoop_of_answer drained active effect.success success
  · obtain ⟨after, success, stepped, later⟩ := faithful.step_ok drained
    exact .steps success stepped later fun _ _ => drainLoop_of_step success

/-! ## Silent probes -/

omit [ChaCha8Rng ρ] in
theorem Timely.injectProbe (timely : Timely state) (drained : state.eventQueue.pending = []) :
    Timely state.injectProbe where
  ahead item queued := by
    rcases List.mem_cons.mp queued with rfl | earlier
    · exact Nat.le_refl _
    · have empty : item ∈ [] := drained ▸ earlier
      cases empty
  past last same := Nat.le_succ_of_le (timely.past last same)

theorem Probed.steps (effect : Probed state outgoing probed) :
    (system setup environment).Steps state probed :=
  .trans (.single (.injectProbe (EventQueue.isEmpty_iff.mpr effect.drained)))
    (.single (.step effect.success))

theorem Probed.isOperating (effect : Probed state outgoing probed) (actor : ActorId) :
    probed.isOperating actor = state.isOperating actor := by
  rw [Simulator.isOperating, effect.actorStatus, ← Simulator.isOperating]

theorem Probed.isQuiescent (effect : Probed state outgoing probed) :
    probed.coordinator.isQuiescent = state.coordinator.isQuiescent := by
  rcases effect.coordinator with ⟨_, _, same⟩ | ⟨_, ticked⟩
  · rw [same]
  · exact (Coordinator.ticked_of_tick ticked).isQuiescent

/-- A probe that sends nothing leaves the other probes to send. -/
theorem Probed.sendsWithin {ticks : Nat} (effect : Probed state [] probed)
    (up : state.isOperating .coordinator = true) :
    probed.coordinator.sendsWithin ticks probed.clock =
      state.coordinator.sendsWithin (ticks + 1) state.clock := by
  rcases effect.coordinator with ⟨down, _⟩ | ⟨_, ticked⟩
  · cases up.symm.trans down
  · rw [effect.clock, Bool.eq_iff_iff, Coordinator.sendsWithin_succ, ticked]
    simp

/-- While the queue is empty, a coordinator that is up and has not finished sends something at one
of these ticks. -/
def SendsIfActive (ticks : Nat) (state : Simulator ρ) : Prop :=
  state.eventQueue.pending = [] → state.isOperating .coordinator = true →
    state.coordinator.isQuiescent = false →
      state.coordinator.sendsWithin ticks state.clock = true

/-- A silent probe uses up one of the ticks. -/
theorem SendsIfActive.probe {ticks : Nat} (sends : SendsIfActive ticks state)
    (effect : Probed state [] probed) : SendsIfActive (ticks - 1) probed := by
  intro _ up active
  rw [effect.isOperating] at up
  rw [effect.isQuiescent] at active
  have within := sends effect.drained up active
  cases ticks with
  | zero => cases within
  | succ ticks => rwa [← effect.sendsWithin up] at within

/-- A coordinator that is up and has no tick left to send at has finished. -/
theorem SendsIfActive.finished (sends : SendsIfActive 0 state)
    (drained : state.eventQueue.pending = []) (up : state.isOperating .coordinator = true) :
    state.coordinator.isQuiescent = true := by
  rw [← Bool.not_eq_false]
  intro active
  cases sends drained up active

/-- If no probe but the last can be in vain, the loop returns `true` only when nothing is left. -/
theorem Faithful.drainLoop_true {rounds consecutiveEmpty : Nat} {final : Simulator ρ}
    (faithful : Faithful setup state)
    (answers : ∀ later, (system setup closed).Steps state later →
      SendsIfActive quiescenceThreshold later)
    (left : SendsIfActive (quiescenceThreshold - consecutiveEmpty) state)
    (success : drainLoop rounds consecutiveEmpty state = .ok (true, final)) :
    final.eventQueue.pending = [] ∧
      (final.isOperating .coordinator = true → final.coordinator.isQuiescent = true) := by
  have stops : ∀ {stopped : Simulator ρ}, stopped.isQuiescent = true →
      stopped.eventQueue.pending = [] ∧
        (stopped.isOperating .coordinator = true → stopped.coordinator.isQuiescent = true) := by
    intro stopped quiescent
    obtain ⟨drained, quiescent, _⟩ := isQuiescent_iff.mp quiescent
    exact ⟨drained, quiescent⟩
  induction rounds generalizing state consecutiveEmpty with
  | zero => cases success
  | succ rounds ih =>
      cases faithful.round with
      | @steps after stepped _ later unfolds =>
          rw [unfolds] at success
          split at success
          · rename_i quiescent
            cases success
            exact stops quiescent
          · have path : (system setup closed).Steps state after := .single (.step stepped)
            have fresh : SendsIfActive (quiescenceThreshold - 0) after := answers _ path
            exact ih later (fun _ more => answers _ (path.trans more)) fresh success
      | rests quiescent unfolds =>
          rw [unfolds] at success
          cases success
          exact stops quiescent
      | @answers probed after outgoing effect _ _ stepped _ later unfolds =>
          rw [unfolds] at success
          have path : (system setup closed).Steps state after :=
            effect.steps.trans (.single (.step stepped))
          have fresh : SendsIfActive (quiescenceThreshold - 0) after := answers _ path
          exact ih later (fun _ more => answers _ (path.trans more)) fresh success
      | @passes probed effect later _ unfolds =>
          rw [unfolds] at success
          have next : SendsIfActive (quiescenceThreshold - (consecutiveEmpty + 1)) probed :=
            left.probe effect
          split at success
          · rename_i enough
            cases success
            rw [Nat.sub_eq_zero_of_le enough] at next
            exact ⟨effect.pending rfl, next.finished (effect.pending rfl)⟩
          · exact ih later (fun _ more => answers _ (effect.steps.trans more)) next success

theorem Faithful.drain_true {maxRounds : Nat} {final : Simulator ρ}
    (faithful : Faithful setup state) (answers : ∀ later, (system setup closed).Steps state later →
      SendsIfActive quiescenceThreshold later)
    (success : state.drain maxRounds = .ok (true, final)) :
    final.eventQueue.pending = [] ∧
      (final.isOperating .coordinator = true → final.coordinator.isQuiescent = true) := by
  have fresh : SendsIfActive (quiescenceThreshold - 0) state := answers state .refl
  exact faithful.drainLoop_true answers fresh success

end Simulator

end TwoPhaseCommit
