import TwoPhaseCommit.Simulator.Drain

/-! When the answer of `drain` can be trusted: exactly when, whenever the queue runs
empty, a coordinator that is up and has not finished sends something at one of its next
twelve ticks. This is so if there is a participant and either the timeout is at most
twelve or no message is lost, and without such a reason some schedule breaks it. -/

set_option autoImplicit false

namespace TwoPhaseCommit

open Protocol

namespace Simulator

section Schedules

variable {ρ : Type} [ChaCha8Rng ρ] {setup : Setup} {environment other : Environment ρ}
  {state after final : Simulator ρ} {schedule : List (ExternalEvent × Nat)}

omit [ChaCha8Rng ρ] in
theorem enqueueAll_eq (state : Simulator ρ) (schedule : List (ExternalEvent × Nat)) :
    ∃ queue, state.enqueueAll schedule = { state with eventQueue := queue } := by
  induction schedule generalizing state with
  | nil => exact ⟨_, rfl⟩
  | cons entry rest ih =>
      obtain ⟨queue, same⟩ := ih (state.enqueueExternal entry.1 entry.2)
      exact ⟨queue, same⟩

theorem Faithful.enqueueAll (faithful : Faithful setup state) :
    Faithful setup (state.enqueueAll schedule) :=
  Library.TransitionSystem.Steps.preserves (faithful_invariant setup anyEnvironment).next
    enqueueAll_steps faithful

theorem Next.of_closed (next : Next closed state after) :
    after = state ∨ (state.eventQueue.pending = [] ∧ after = state.injectProbe) ∨
      Stepped state after := by
  cases next with
  | enqueueExternal never => exact never.elim
  | injectProbe drained => exact .inr (.inl ⟨EventQueue.isEmpty_iff.mp drained, rfl⟩)
  | step success =>
      obtain ⟨_, _, rfl⟩ | ⟨_, stepped⟩ := step_stepped success
      · exact .inl rfl
      · exact .inr (.inr stepped)

/-- What holds in every state of a run of a schedule that was enqueued before it. -/
structure Scheduled (setup : Setup) (state : Simulator ρ) : Prop extends
    Faithful setup state, Timely state where
  begun : Begun state

theorem enqueueAll_scheduled :
    Scheduled setup ((setup.simulator (ρ := ρ)).enqueueAll schedule) := by
  have faithful : Faithful setup ((setup.simulator (ρ := ρ)).enqueueAll schedule) :=
    simulator_faithful.enqueueAll
  obtain ⟨queue, same⟩ := enqueueAll_eq (setup.simulator (ρ := ρ)) schedule
  rw [same] at faithful ⊢
  exact ⟨faithful, ⟨fun _ _ => Nat.zero_le _, fun _ => nofun⟩, nofun⟩

theorem Scheduled.next (scheduled : Scheduled setup state) (next : Next closed state after) :
    Scheduled setup after := by
  have faithful := scheduled.toFaithful.next next
  obtain rfl | ⟨drained, rfl⟩ | stepped := next.of_closed
  · exact scheduled
  · exact ⟨faithful, scheduled.toTimely.injectProbe drained, scheduled.begun⟩
  · exact ⟨faithful, stepped.timely scheduled.toTimely, stepped.begun scheduled.begun⟩

theorem Scheduled.steps (scheduled : Scheduled setup state)
    (path : (system setup closed).Steps state after) : Scheduled setup after :=
  steps_preserve Scheduled.next path scheduled

theorem steps_of_closed (path : (system setup closed).Steps state after) :
    (system setup environment).Steps state after := by
  refine Relation.ReflTransGen.mono ?_ _ _ path
  intro before later next
  cases next with
  | enqueueExternal never => exact never.elim
  | injectProbe drained => exact .injectProbe drained
  | step success => exact .step success

/-! ## A trustworthy answer -/

/-- What it means that the answer `true` of `drain` is right. -/
structure TrulyQuiescent (setup : Setup) (final : Simulator ρ) : Prop where
  drained : final.eventQueue.isEmpty = true
  silent : ∀ {later : Simulator ρ}, (system setup ticksOnly).Steps final later →
    later.sentMessages = final.sentMessages ∧
      later.coordinator.phase = final.coordinator.phase ∧
      ∀ node : NodeId, later.participants[node]?.map (·.phase) =
        final.participants[node]?.map (·.phase)
  decided : 1 ≤ setup.nParticipants → final.Started →
    (∀ actor, final.isOperating actor = true) →
    ∀ {node : NodeId} {participant : Participant ρ},
      final.participants[node]? = some participant → participant.decision ≠ none

theorem Scheduled.trulyQuiescent (scheduled : Scheduled setup final)
    (drained : final.eventQueue.pending = [])
    (quiescent : final.isOperating .coordinator = true → final.coordinator.isQuiescent = true) :
    TrulyQuiescent setup final where
  drained := EventQueue.isEmpty_iff.mpr drained
  silent path := by
    have onlyTicks : OnlyTicksLeft final := ⟨quiescent, by rw [drained]; nofun⟩
    have unchanged := onlyTicks.steps path
    rw [unchanged.coordinator, unchanged.participants]
    exact ⟨unchanged.sentMessages, rfl, fun _ => rfl⟩
  decided _ started operating node participant found := by
    obtain ⟨decision, _, decided⟩ := scheduled.toConsistent.completed (quiescent (operating _))
      (scheduled.begun started)
    rw [decided found]
    nofun

theorem Scheduled.sendsIfActive (scheduled : Scheduled setup state)
    (participants : 1 ≤ setup.nParticipants)
    (timeout : setup.retransmitTimeout ≤ quiescenceThreshold) :
    SendsIfActive quiescenceThreshold state := by
  intro _ _ active
  have nodes : state.coordinator.nodes = setup.nodes := scheduled.nodes
  apply Coordinator.sendsWithin_of_due scheduled.valid _ _ active
  · intro last sent
    have past := scheduled.past last sent
    have configured : state.coordinator.config.retransmitTimeout = setup.retransmitTimeout :=
      scheduled.coordinator.retransmitTimeout
    change setup.retransmitTimeout ≤ 12 at timeout
    omega
  · rw [nodes]
    exact nodes_ne_nil participants
  · rw [nodes]
    exact nodes_nodup setup

theorem Scheduled.isQuiescent_of_drain (scheduled : Scheduled setup state)
    (participants : 1 ≤ setup.nParticipants)
    (timeout : setup.retransmitTimeout ≤ quiescenceThreshold) {maxRounds : Nat}
    (success : state.drain maxRounds = .ok (true, final)) :
    final.isOperating .coordinator = true → final.coordinator.isQuiescent = true := by
  refine (scheduled.toFaithful.drain_true (fun later path => ?_) success).2
  exact (scheduled.steps path).sendsIfActive participants timeout

/-- Whenever `drain` returns `true` in a run of the schedule, it is right. -/
def DrainSound (ρ : Type) [ChaCha8Rng ρ] (setup : Setup)
    (schedule : List (ExternalEvent × Nat)) : Prop :=
  ∀ {state final : Simulator ρ} {maxRounds : Nat},
    (system setup closed).Steps (setup.simulator.enqueueAll schedule) state →
    state.drain maxRounds = .ok (true, final) → TrulyQuiescent setup final

def CrashFree (schedule : List (ExternalEvent × Nat)) : Prop :=
  ∀ entry ∈ schedule, ∀ actor, entry.1 ≠ .crash actor

theorem drainSound_of_answers (answers : ∀ state : Simulator ρ,
      (system setup closed).Steps (setup.simulator.enqueueAll schedule) state →
        SendsIfActive quiescenceThreshold state) : DrainSound ρ setup schedule := by
  intro state final maxRounds path success
  have scheduled : Scheduled setup state := enqueueAll_scheduled.steps path
  obtain ⟨drained, quiescent⟩ :=
    scheduled.toFaithful.drain_true (fun later more => answers later (path.trans more)) success
  exact (scheduled.steps (drain_steps success)).trulyQuiescent drained quiescent

theorem drainSound_of_timeout (participants : 1 ≤ setup.nParticipants)
    (timeout : setup.retransmitTimeout ≤ quiescenceThreshold) : DrainSound ρ setup schedule :=
  drainSound_of_answers fun _ path =>
    (enqueueAll_scheduled.steps path).sendsIfActive participants timeout

theorem enqueueAll_undisturbed (undisturbed : Undisturbed setup state)
    (crashFree : CrashFree schedule) : Undisturbed setup (state.enqueueAll schedule) := by
  induction schedule generalizing state with
  | nil => exact undisturbed
  | cons entry rest ih =>
      obtain ⟨first, others⟩ := List.forall_mem_cons.mp crashFree
      have next : Next Simulator.crashFree state (state.enqueueExternal entry.1 entry.2) :=
        .enqueueExternal first
      exact ih ((undisturbed_invariant setup).next undisturbed next) others

theorem drainSound_of_crashFree (participants : 1 ≤ setup.nParticipants)
    (lossless : CrashFree schedule) : DrainSound ρ setup schedule := by
  apply drainSound_of_answers
  intro state path drained _ active
  have path : (system setup crashFree).Steps (setup.simulator.enqueueAll schedule) state :=
    steps_of_closed path
  have undisturbed : Undisturbed setup state :=
    path.preserves (undisturbed_invariant setup).next
      (enqueueAll_undisturbed simulator_undisturbed lossless)
  cases active.symm.trans (undisturbed.quiescent participants drained)

end Schedules

/-! ## A wrong answer -/

section Stuck

variable {ρ : Type} [ChaCha8Rng ρ] {setup : Setup} {state : Simulator ρ}

/-- The queue is empty, and this many ticks of an active coordinator send nothing. -/
structure Stuck (setup : Setup) (ticks : Nat) (state : Simulator ρ) : Prop extends
    Scheduled setup state where
  drained : state.eventQueue.pending = []
  operating : state.isOperating .coordinator = true
  active : state.coordinator.isQuiescent = false
  silent : state.coordinator.sendsWithin ticks state.clock = false

theorem Stuck.isQuiescent {ticks : Nat} (stuck : Stuck setup ticks state) :
    state.isQuiescent = false := by
  rw [← Bool.not_eq_true, isQuiescent_iff]
  intro quiescent
  cases stuck.active.symm.trans (quiescent.2.1 stuck.operating)

theorem Stuck.probe {ticks : Nat} (stuck : Stuck setup (ticks + 1) state) :
    ∃ probed, Probed state [] probed ∧ Stuck setup ticks probed := by
  obtain ⟨probed, outgoing, _, effect⟩ := stuck.toFaithful.probe stuck.drained
  have nothing : outgoing = [] := by
    rcases effect.coordinator with ⟨down, _⟩ | ⟨_, ticked⟩
    · cases stuck.operating.symm.trans down
    · have silent := stuck.silent
      rw [← Bool.not_eq_true, Coordinator.sendsWithin_succ, ticked, not_or,
        Classical.not_not] at silent
      exact silent.1
  subst nothing
  exact ⟨probed, effect, {
    toScheduled := stuck.toScheduled.steps effect.steps
    drained := effect.pending rfl
    operating := (effect.isOperating _).trans stuck.operating
    active := effect.isQuiescent.trans stuck.active
    silent := (effect.sendsWithin stuck.operating).trans stuck.silent }⟩

/-- `drain` gives up on a stuck coordinator and returns `true`. -/
theorem Stuck.drainLoop {ticks consecutiveEmpty : Nat} (stuck : Stuck setup (ticks + 1) state)
    (left : consecutiveEmpty + (ticks + 1) = quiescenceThreshold) :
    ∃ final, drainLoop (ticks + 1) consecutiveEmpty state = .ok (true, final) ∧
      Stuck setup 0 final := by
  induction ticks generalizing state consecutiveEmpty with
  | zero =>
      obtain ⟨probed, effect, later⟩ := stuck.probe
      refine ⟨probed, ?_, later⟩
      rw [drainLoop_of_silence stuck.drained stuck.isQuiescent effect.success later.drained]
      exact if_pos (Nat.le_of_eq left.symm)
  | succ ticks ih =>
      obtain ⟨probed, effect, later⟩ := stuck.probe
      have next : consecutiveEmpty + 1 + (ticks + 1) = quiescenceThreshold := by omega
      obtain ⟨final, drained, stillStuck⟩ := ih later next
      refine ⟨final, ?_, stillStuck⟩
      rw [drainLoop_of_silence stuck.drained stuck.isQuiescent effect.success later.drained,
        if_neg (by omega)]
      exact drained

/-- An active coordinator acts on a tick that comes late enough. -/
theorem Stuck.not_trulyQuiescent {ticks : Nat} (stuck : Stuck setup ticks state) :
    ¬ TrulyQuiescent setup state := by
  intro trulyQuiescent
  let time := state.clock + setup.retransmitTimeout + 1
  let tick : TimestampedEvent :=
    ⟨time, state.eventQueue.nextSequenceNumber, .external .tickAll⟩
  have queue : (state.enqueueExternal .tickAll time).eventQueue.pending = [tick] :=
    congrArg (tick :: ·) stuck.drained
  have first : Next ticksOnly state (state.enqueueExternal .tickAll time) :=
    .enqueueExternal ⟨rfl, by omega⟩
  obtain ⟨later, rest, outgoing, success, _, _, _, ticks⟩ :=
    (stuck.toFaithful.next first).step_tick queue rfl rfl
  have unchanged := (trulyQuiescent.silent (.trans (.single first) (.single (.step success)))).2.1
  rcases ticks.coordinator with ⟨_, _, down⟩ | ⟨_, ticked⟩
  · cases stuck.operating.symm.trans (down rfl)
  · apply (Coordinator.ticked_of_tick ticked).phase_ne stuck.active _ unchanged
    intro last sent
    have past := stuck.past last sent
    have configured : state.coordinator.config.retransmitTimeout = setup.retransmitTimeout :=
      stuck.coordinator.retransmitTimeout
    change last < time ∧ state.coordinator.config.retransmitTimeout ≤ time - last
    omega

theorem Stuck.not_drainSound {schedule : List (ExternalEvent × Nat)}
    (path : (system setup closed).Steps (setup.simulator.enqueueAll schedule) state)
    (stuck : Stuck setup quiescenceThreshold state) : ¬ DrainSound ρ setup schedule := by
  intro sound
  have patient : Stuck setup (11 + 1) state := stuck
  obtain ⟨final, drained, stillStuck⟩ := patient.drainLoop (Nat.zero_add _)
  exact stillStuck.not_trulyQuiescent (sound path drained)

end Stuck

theorem sendsIfActive_of_drainSound {ρ : Type} [ChaCha8Rng ρ] {setup : Setup}
    {schedule : List (ExternalEvent × Nat)} (sound : DrainSound ρ setup schedule)
    (state : Simulator ρ)
    (path : (system setup closed).Steps (setup.simulator.enqueueAll schedule) state) :
    SendsIfActive quiescenceThreshold state := by
  intro drained operating active
  rw [← Bool.not_eq_false]
  intro silent
  have stuck : Stuck setup quiescenceThreshold state :=
    ⟨enqueueAll_scheduled.steps path, drained, operating, active, silent⟩
  exact stuck.not_drainSound path sound

/-- `drain` can be trusted in the runs of a schedule exactly if, whenever the queue is empty, a
coordinator that is up and has not finished sends something at one of its next twelve ticks. -/
theorem drain_sound_iff (ρ : Type) [ChaCha8Rng ρ] (setup : Setup)
    (schedule : List (ExternalEvent × Nat)) :
    DrainSound ρ setup schedule ↔ ∀ state : Simulator ρ,
      (system setup closed).Steps (setup.simulator.enqueueAll schedule) state →
        SendsIfActive quiescenceThreshold state :=
  ⟨sendsIfActive_of_drainSound, drainSound_of_answers⟩

/-- If the coordinator never aborts by itself, this is a matter of its timeout: there must be a
participant, and no more than twelve ticks may be left until the next retransmission. -/
theorem drainSound_steadfast_iff {ρ : Type} [ChaCha8Rng ρ] {setup : Setup}
    (steadfast : ¬ Coordinator.MayAbort ρ setup.abortBias)
    (schedule : List (ExternalEvent × Nat)) :
    DrainSound ρ setup schedule ↔ ∀ state : Simulator ρ,
      (system setup closed).Steps (setup.simulator.enqueueAll schedule) state →
        state.eventQueue.pending = [] → state.isOperating .coordinator = true →
          state.coordinator.isQuiescent = false →
            setup.nodes ≠ [] ∧ ∀ last, state.coordinator.phase.lastSent? = some last →
              last + setup.retransmitTimeout ≤ state.clock + quiescenceThreshold := by
  have exactly : ∀ state : Simulator ρ,
      (system setup closed).Steps (setup.simulator.enqueueAll schedule) state →
        state.coordinator.isQuiescent = false →
          (state.coordinator.sendsWithin quiescenceThreshold state.clock = true ↔
            setup.nodes ≠ [] ∧ ∀ last, state.coordinator.phase.lastSent? = some last →
              last + setup.retransmitTimeout ≤ state.clock + quiescenceThreshold) := by
    intro state path active
    have scheduled : Scheduled setup state := enqueueAll_scheduled.steps path
    have bias : state.coordinator.config.abortBias = setup.abortBias :=
      scheduled.coordinator.abortBias
    have configured : state.coordinator.config.retransmitTimeout = setup.retransmitTimeout :=
      scheduled.coordinator.retransmitTimeout
    have nodes : state.coordinator.nodes = setup.nodes := scheduled.nodes
    have distinct : state.coordinator.nodes.Nodup := nodes ▸ nodes_nodup setup
    rw [← configured, ← nodes]
    exact Coordinator.sendsWithin_iff scheduled.valid distinct active scheduled.past
      (bias ▸ steadfast)
  constructor
  · intro sound state path drained operating active
    exact (exactly state path active).mp
      (sendsIfActive_of_drainSound sound state path drained operating active)
  · intro due
    apply drainSound_of_answers
    intro state path drained operating active
    exact (exactly state path active).mpr (due state path drained operating active)

/-! ## Schedules that break it -/

section Events

variable {ρ : Type} [ChaCha8Rng ρ] {setup : Setup} {state : Simulator ρ}

/-- The step that processes an external event that precedes all others. -/
theorem Faithful.step_first {item : TimestampedEvent} {event : ExternalEvent}
    (faithful : Faithful setup state) (queued : item ∈ state.eventQueue.pending)
    (first : ∀ other ∈ state.eventQueue.pending, other = item ∨ item.Precedes other)
    (kind : item.event = .external event) :
    ∃ rest delivered observations middle outgoing,
      state.eventQueue.Pops item rest ∧
      Dispatched (state.taken item rest delivered) (.external event) middle outgoing ∧
      state.step = .ok (true, { middle with observations := observations }.sendAll outgoing) ∧
      Faithful setup ({ middle with observations := observations }.sendAll outgoing) := by
  obtain ⟨after, success, stepped, later⟩ := faithful.step_ok (List.ne_nil_of_mem queued)
  cases stepped with
  | drops pops dropped _ =>
      obtain rfl := pops.eq_of_precedes queued first
      cases dropped.symm.trans kind
  | handles pops _ dispatched =>
      obtain rfl := pops.eq_of_precedes queued first
      rw [kind] at dispatched
      exact ⟨_, _, _, _, _, pops, dispatched, success, later⟩

theorem Faithful.step_crash {item : TimestampedEvent} (faithful : Faithful setup state)
    (queued : item ∈ state.eventQueue.pending)
    (first : ∀ other ∈ state.eventQueue.pending, other = item ∨ item.Precedes other)
    (kind : item.event = .external (.crash .coordinator)) :
    ∃ rest after, state.eventQueue.Pops item rest ∧ state.step = .ok (true, after) ∧
      Faithful setup after ∧ after.eventQueue.pending = rest.pending ∧
      after.isOperating .coordinator = false ∧ after.coordinator = state.coordinator := by
  obtain ⟨rest, _, _, _, _, pops, dispatched, success, later⟩ :=
    faithful.step_first queued first kind
  cases dispatched with
  | coordinatorReceives receives => cases receives
  | coordinatorTicks kind _ | rests kind _ => simp at kind
  | crashes =>
      refine ⟨rest, _, pops, success, later, rfl, ?_, rfl⟩
      rw [isOperating_eq_false_iff]
      simp

theorem Faithful.step_recover {item : TimestampedEvent} (faithful : Faithful setup state)
    (queued : item ∈ state.eventQueue.pending)
    (first : ∀ other ∈ state.eventQueue.pending, other = item ∨ item.Precedes other)
    (kind : item.event = .external (.recover .coordinator))
    (down : state.isOperating .coordinator = false) :
    ∃ rest after, state.eventQueue.Pops item rest ∧ state.step = .ok (true, after) ∧
      Faithful setup after ∧ after.eventQueue.pending = rest.pending ∧
      after.isOperating .coordinator = true ∧
      after.coordinator = state.coordinator.recover item.timestamp ∧
      after.clock = item.timestamp := by
  obtain ⟨rest, _, _, _, _, pops, dispatched, success, later⟩ :=
    faithful.step_first queued first kind
  cases dispatched with
  | coordinatorReceives receives => cases receives
  | coordinatorTicks kind _ | rests kind _ => simp at kind
  | staysUp up =>
      rcases up with up | ⟨_, node, _⟩
      · cases up.symm.trans down
      · cases node
  | coordinatorRecovers _ =>
      refine ⟨rest, _, pops, success, later, rfl, ?_, rfl, rfl⟩
      rw [← Bool.not_eq_false, isOperating_eq_false_iff]
      simp

end Events

end Simulator

/-- A setup in which nobody aborts and every message takes one unit of time. -/
def Setup.steadfast (nParticipants : UInt8) (retransmitTimeout : Nat) : Setup where
  nParticipants := nParticipants
  seed := 0
  abortBias := 0
  participantAbortBias := 0
  deliveryDelay := { start := 0, stop := 1 }
  retransmitTimeout := retransmitTimeout

namespace Simulator

section Steadfast

variable {ρ : Type} [ChaCha8Rng ρ] [LawfulChaCha8Rng ρ] {nParticipants : UInt8} {timeout : Nat}
  {schedule : List (ExternalEvent × Nat)} {state : Simulator ρ}

/-- Votes are collected, but in the next twelve ticks nobody is asked. -/
private theorem not_drainSound_of_voting {last : Nat} {votes : Std.ExtTreeMap NodeId Vote}
    (path : (system (.steadfast nParticipants timeout) closed).Steps
      ((Setup.steadfast nParticipants timeout).simulator.enqueueAll schedule) state)
    (drained : state.eventQueue.pending = []) (operating : state.isOperating .coordinator = true)
    (phase : state.coordinator.phase = .voting last votes)
    (patient : nParticipants = 0 ∨ state.clock + quiescenceThreshold < last + timeout) :
    ¬ DrainSound ρ (.steadfast nParticipants timeout) schedule := by
  intro sound
  have never : ¬ Coordinator.MayAbort ρ (Setup.steadfast nParticipants timeout).abortBias :=
    Coordinator.not_mayAbort_zero
  have active : state.coordinator.isQuiescent = false := by rw [Coordinator.isQuiescent, phase]
  obtain ⟨somebody, due⟩ :=
    (drainSound_steadfast_iff never schedule).mp sound state path drained operating active
  rcases patient with nobody | early
  · subst nobody
    exact somebody rfl
  · have enough : last + timeout ≤ state.clock + quiescenceThreshold :=
      due last (by rw [phase]; rfl)
    exact Nat.not_lt_of_le enough early

variable (ρ)

/-- Without participants, nobody can vote. -/
private theorem not_drainSound_of_no_participants (timeout : Nat) :
    ¬ DrainSound ρ (.steadfast 0 timeout) [(.startTransaction, 0)] := by
  let start : TimestampedEvent := ⟨0, 0, .external .startTransaction⟩
  let initial : Simulator ρ :=
    (Setup.steadfast 0 timeout).simulator.enqueueAll [(.startTransaction, 0)]
  have queue : initial.eventQueue.pending = [start] := rfl
  have faithful : Faithful (.steadfast 0 timeout) initial := simulator_faithful.enqueueAll
  have member : start ∈ initial.eventQueue.pending := by simp [queue]
  obtain ⟨rest, _, _, middle, outgoing, pops, dispatched, success, _⟩ :=
    faithful.step_first member (by simp [queue]) rfl
  have empty : rest.pending = [] := (pops.pending_of_cons (.of_eq queue)).eq_nil
  cases dispatched with
  | coordinatorReceives receives =>
      cases receives
      apply not_drainSound_of_voting (.single (.step success)) empty _ rfl (.inl rfl)
      have undisturbed : Undisturbed (.steadfast 0 timeout)
          ((Setup.steadfast 0 timeout).simulator (ρ := ρ)) := simulator_undisturbed
      exact undisturbed.nobodyCrashes.operating .coordinator
  | coordinatorTicks kind _ | rests kind _ => simp at kind

/-- A coordinator that recovers votes as if it had just asked everyone. -/
private theorem not_drainSound_of_crash (nParticipants : UInt8) {timeout : Nat}
    (long : quiescenceThreshold < timeout) :
    ¬ DrainSound ρ (.steadfast nParticipants timeout)
      [(.crash .coordinator, 0), (.recover .coordinator, 0)] := by
  let crash : TimestampedEvent := ⟨0, 0, .external (.crash .coordinator)⟩
  let recover : TimestampedEvent := ⟨0, 1, .external (.recover .coordinator)⟩
  let initial : Simulator ρ := (Setup.steadfast nParticipants timeout).simulator.enqueueAll
    [(.crash .coordinator, 0), (.recover .coordinator, 0)]
  have queue : initial.eventQueue.pending = [recover, crash] := rfl
  have faithful : Faithful (.steadfast nParticipants timeout) initial :=
    simulator_faithful.enqueueAll
  have first : ∀ other ∈ initial.eventQueue.pending, other = crash ∨ crash.Precedes other := by
    intro other queued
    rw [queue, List.mem_pair] at queued
    rcases queued with rfl | rfl
    · exact .inr (.inr ⟨rfl, Nat.one_pos⟩)
    · exact .inl rfl
  obtain ⟨rest, crashed, pops, success, faithful, kept, down, crashedCoordinator⟩ :=
    faithful.step_crash (by simp [queue]) first rfl
  have left : crashed.eventQueue.pending = [recover] :=
    kept.trans (List.perm_singleton.mp (pops.pending_of_cons (queue ▸ List.Perm.swap _ _ _)))
  have before : (system (.steadfast nParticipants timeout) closed).Steps initial crashed :=
    .single (.step success)
  have member : recover ∈ crashed.eventQueue.pending := by simp [left]
  obtain ⟨rest, recovered, pops, success, faithful, kept, up, same, clock⟩ :=
    faithful.step_recover member (by simp [left]) rfl down
  have drained : recovered.eventQueue.pending = [] :=
    kept.trans (pops.pending_of_cons (.of_eq left)).eq_nil
  have phase : recovered.coordinator.phase = .voting (0 - timeout) ∅ := by
    rw [same, crashedCoordinator]
    rfl
  apply not_drainSound_of_voting (before.trans (.single (.step success))) drained up phase
  right
  rw [clock]
  change 0 + quiescenceThreshold < 0 - timeout + timeout
  omega

end Steadfast

/-- The number of participants, the timeout and whether anybody may crash are enough to trust
`drain` only if there is a participant and a retransmission cannot come late or never matters. -/
theorem drainSound_forall_iff (nParticipants : UInt8) (timeout : Nat) (crashes : Prop) :
    (∀ (ρ : Type) [ChaCha8Rng ρ] (setup : Setup) (schedule : List (ExternalEvent × Nat)),
      setup.nParticipants = nParticipants → setup.retransmitTimeout = timeout →
        (crashes ∨ CrashFree schedule) → DrainSound ρ setup schedule) ↔
      1 ≤ nParticipants ∧ (timeout ≤ quiescenceThreshold ∨ ¬ crashes) := by
  constructor
  · intro sound
    constructor
    · rw [UInt8.le_iff_toNat_le, ← not_lt]
      intro none
      have zero : nParticipants = 0 := UInt8.toNat_inj.mp (Nat.lt_one_iff.mp none)
      apply not_drainSound_of_no_participants ForcedRng timeout
      refine sound ForcedRng _ _ zero.symm rfl (.inr fun entry listed actor crash => ?_)
      obtain rfl := List.mem_singleton.mp listed
      cases crash
    · by_contra neither
      obtain ⟨long, crashing⟩ := not_or.mp neither
      apply not_drainSound_of_crash ForcedRng nParticipants (Nat.lt_of_not_le long)
      exact sound ForcedRng _ _ rfl rfl (.inl (Classical.not_not.mp crashing))
  · rintro ⟨participants, reason⟩ ρ _ setup schedule rfl rfl allowed
    rcases reason with short | never
    · exact drainSound_of_timeout participants short
    · exact drainSound_of_crashFree participants (allowed.resolve_left never)

/-! ## A tick after the answer -/

section LateTick

variable {ρ : Type} [ChaCha8Rng ρ]

/-- Run the schedule, let `drain` return `true`, then compare the states before and
after a further tick. -/
def lateTick (setup : Setup) (schedule : List (ExternalEvent × Nat)) (fuel maxRounds atTime : Nat)
    (test : Simulator ρ → Simulator ρ → Bool) : Bool :=
  match (setup.simulator.enqueueAll schedule).run fuel with
  | .ok (some ran) =>
      match ran.drain maxRounds with
      | .ok (true, final) =>
          match (final.enqueueExternal .tickAll atTime).step with
          | .ok (_, later) => decide (final.clock ≤ atTime) && test final later
          | .error _ => false
      | .ok (false, _) | .error _ => false
  | .ok none | .error _ => false

theorem exists_of_lateTick {setup : Setup} {schedule : List (ExternalEvent × Nat)}
    {fuel maxRounds atTime : Nat} {test : Simulator ρ → Simulator ρ → Bool}
    (passes : lateTick setup schedule fuel maxRounds atTime test = true) :
    ∃ state final later, (system setup closed).Steps (setup.simulator.enqueueAll schedule) state ∧
      state.drain maxRounds = .ok (true, final) ∧
      (system setup ticksOnly).Steps final later ∧ test final later = true := by
  unfold lateTick at passes
  split at passes
  · rename_i ran success
    split at passes
    · rename_i final drained
      split at passes
      · rename_i later stepped
        obtain ⟨future, tested⟩ := Bool.and_eq_true_iff.mp passes
        have first : Next ticksOnly final (final.enqueueExternal .tickAll atTime) :=
          .enqueueExternal ⟨rfl, of_decide_eq_true future⟩
        exact ⟨ran, final, later, run_steps success, drained,
          .trans (.single first) (.single (.step stepped)), tested⟩
      · cases passes
    · cases passes
    · cases passes
  · cases passes
  · cases passes

end LateTick

/-- The recovered coordinator has not asked anyone when `drain` returns `true`, and
asks at the next tick. -/
theorem drain_stops_before_timeout :
    ¬ DrainSound ForcedRng (.steadfast 1 13)
      [(.crash .coordinator, 0), (.recover .coordinator, 0), (.startTransaction, 0)] := by
  have passes : lateTick (ρ := ForcedRng) (.steadfast 1 13)
      [(.crash .coordinator, 0), (.recover .coordinator, 0), (.startTransaction, 0)] 4 12 13
      (fun final later => decide (final.sentMessages = [] ∧ later.sentMessages ≠ [])) = true := by
    decide +kernel
  obtain ⟨state, final, later, path, drained, ticked, tested⟩ := exists_of_lateTick passes
  obtain ⟨before, after⟩ := of_decide_eq_true tested
  intro sound
  exact after (((sound path drained).silent ticked).1.trans before)

end Simulator

end TwoPhaseCommit
