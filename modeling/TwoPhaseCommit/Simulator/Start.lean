import TwoPhaseCommit.Simulator.Log
import TwoPhaseCommit.Simulator.Outcome

/-! Before a transaction is started. The coordinator leaves `waiting` at a StartTransaction
or when it recovers from a crash, and in the second case the next tick begins the vote, unless
it comes before the timeout. -/

set_option autoImplicit false

namespace TwoPhaseCommit

/-- According to the log, the coordinator has recovered from a crash. -/
def Revived (log : List LogEntry) : Prop :=
  ∃ first last clock, log = first ++ .externalEvent clock (.recover .coordinator) :: last ∧
    down first .coordinator = true

/-- According to the log, the coordinator has been ticked after it recovered from a crash. -/
def TickedAfterRecovery (log : List LogEntry) : Prop :=
  ∃ first last clock event, log = first ++ .externalEvent clock event :: last ∧
    (event = .tick .coordinator ∨ event = .tickAll) ∧ Revived first ∧
      down first .coordinator = false

/-- According to the log, this has happened at a time at which a tick acts. -/
def TickedAfterRecoveryWhen (acts : Nat → Prop) (log : List LogEntry) : Prop :=
  ∃ first last clock event, log = first ++ .externalEvent clock event :: last ∧ acts clock ∧
    (event = .tick .coordinator ∨ event = .tickAll) ∧ Revived first ∧
      down first .coordinator = false

section Log

variable {acts : Nat → Prop} {log : List LogEntry}

theorem Revived.append (revived : Revived log) (more : List LogEntry) : Revived (log ++ more) := by
  obtain ⟨first, last, clock, rfl, crashed⟩ := revived
  exact ⟨first, last ++ more, clock, by simp, crashed⟩

theorem TickedAfterRecoveryWhen.append (ticked : TickedAfterRecoveryWhen acts log)
    (more : List LogEntry) :
    TickedAfterRecoveryWhen acts (log ++ more) := by
  obtain ⟨first, last, clock, event, rfl, acts, ticks, revived⟩ := ticked
  exact ⟨first, last ++ more, clock, event, by simp, acts, ticks, revived⟩

theorem TickedAfterRecoveryWhen.tickedAfterRecovery (ticked : TickedAfterRecoveryWhen acts log) :
    TickedAfterRecovery log := by
  obtain ⟨first, last, clock, event, rfl, _, ticks, revived⟩ := ticked
  exact ⟨first, last, clock, event, rfl, ticks, revived⟩

end Log

namespace Simulator

variable {ρ : Type} [ChaCha8Rng ρ] {setup : Setup} {environment : Environment ρ}
  {state middle after : Simulator ρ} {event : Event} {outgoing : List Message}
  {acts : Nat → Prop}

/-- The coordinator has not begun, or has begun because it recovered and has not acted since. -/
structure NothingSent (state : Simulator ρ) : Prop where
  silent : state.sentMessages = []
  phase : state.coordinator.phase = .waiting ∨
    (∃ last, state.coordinator.phase = .voting last ∅) ∧ Revived state.actionLog

omit [ChaCha8Rng ρ] in
theorem NothingSent.undecided (nothingSent : NothingSent state) :
    state.coordinator.decision = none := by
  rw [Coordinator.decision]
  rcases nothingSent.phase with waiting | ⟨⟨last, voting⟩, _⟩
  · rw [waiting]
    rfl
  · rw [voting]
    rfl

/-- Before the start, all that can happen to the coordinator is that it recovers. -/
private theorem Dispatched.nothingSent (dispatched : Dispatched state event middle outgoing)
    (genuine : Genuine state event) (silent : state.sentMessages = [])
    (unrecorded : state.coordinator.durableState.decision = none)
    (unstarted : event ≠ .external .startTransaction)
    (unticked : ∀ tick, event = .external tick → tick = .tick .coordinator ∨ tick = .tickAll →
      state.isOperating .coordinator = true → (state.coordinator.tick state.clock).2 = [] ∧
        (state.coordinator.tick state.clock).1.phase = state.coordinator.phase) :
    outgoing = [] ∧ (middle.coordinator.phase = state.coordinator.phase ∨
      event = .external (.recover .coordinator) ∧ state.isOperating .coordinator = false ∧
        ∃ last, middle.coordinator.phase = .voting last ∅) := by
  cases dispatched with
  | coordinatorReceives receives =>
      rcases coordinatorMessage?_cases receives with ⟨rfl, _⟩ | rfl
      · exact absurd rfl unstarted
      · have sent := genuine.2
        rw [silent] at sent
        cases sent
  | coordinatorTicks kind up =>
      obtain ⟨nothing, kept⟩ := unticked _ rfl kind up
      exact ⟨nothing, .inl kept⟩
  | participantReceives _ =>
      have sent := genuine.2
      rw [silent] at sent
      cases sent
  | coordinatorRecovers crashed =>
      have voting : (state.coordinator.recover state.clock).phase =
          .voting (state.clock - state.coordinator.config.retransmitTimeout) ∅ := by
        simp only [Coordinator.recover, unrecorded]
      exact ⟨rfl, .inr ⟨rfl, crashed, _, voting⟩⟩
  | rests _ _ | nodeTicks | nobodyReceives _ | crashes | participantRecovers _ _ | staysUp _ =>
      exact ⟨rfl, .inl rfl⟩

/-- At the times that are left out, a tick of the recovered coordinator does nothing. -/
def Harmless (ρ : Type) [ChaCha8Rng ρ] (setup : Setup) (acts : Nat → Prop) : Prop :=
  ∀ {coordinator : Coordinator ρ} {last clock : Nat}, coordinator.phase = .voting last ∅ →
    coordinator.config.abortBias = setup.abortBias →
      coordinator.config.retransmitTimeout = setup.retransmitTimeout → ¬ acts clock →
        (coordinator.tick clock).2 = [] ∧ (coordinator.tick clock).1.phase = coordinator.phase

theorem harmless_early (steadfast : ¬ Coordinator.MayAbort ρ setup.abortBias) :
    Harmless ρ setup (setup.retransmitTimeout ≤ ·) := by
  intro coordinator last clock phase bias timeout early
  have ticked := coordinator.tick_ticked clock
  rw [← bias] at steadfast
  rw [← timeout] at early
  generalize (coordinator.tick clock).1 = later at ticked ⊢
  generalize (coordinator.tick clock).2 = outgoing at ticked ⊢
  cases ticked with
  | idle _ => exact ⟨rfl, rfl⟩
  | aborts _ drawn => exact absurd drawn steadfast
  | resendsPrepare _ due => exact absurd (Nat.le_trans due (Nat.sub_le _ _)) early
  | awaitsVotes kept _ => exact ⟨rfl, kept.symm⟩
  | sendsDecision other | resendsDecision other _ | awaitsAcks other _ =>
      cases phase.symm.trans other

theorem Stepped.nothingSent (stepped : Stepped state after) (harmless : Harmless ρ setup acts)
    (consistent : Consistent setup state) (tracked : Tracked state) (unstarted : ¬ after.Started)
    (notTicked : ¬ TickedAfterRecoveryWhen acts after.actionLog)
    (nothingSent : NothingSent state) : NothingSent after := by
  cases stepped with
  | @drops item queue recipient msg pops kind _ =>
      refine ⟨(sentMessages_dropped state item.timestamp queue msg).trans nothingSent.silent, ?_⟩
      exact nothingSent.phase.imp_right fun voting => ⟨voting.1, voting.2.append _⟩
  | @handles item queue delivered observations middle outgoing pops reaches dispatched =>
      obtain ⟨staffed, _, genuine⟩ := consistent.taken pops delivered
      have log : middle.actionLog = state.actionLog ++ [item.event.logEntry item.timestamp] :=
        dispatched.actionLog
      have silent : (state.taken item queue delivered).sentMessages = [] :=
        (sentMessages_taken state item queue delivered).trans nothingSent.silent
      have unrecorded : state.coordinator.durableState.decision = none := by
        rw [consistent.valid.durable, nothingSent.undecided]
      obtain ⟨sends, grown⟩ :=
        sendAll_actionLog { middle with observations := observations } outgoing
      have other : item.event ≠ .external .startTransaction := by
        intro start
        apply unstarted
        rw [Started, grown, log, start]
        exact ⟨item.timestamp, by simp [Event.logEntry]⟩
      have unticked : ∀ tick, item.event = .external tick →
          tick = .tick .coordinator ∨ tick = .tickAll →
          state.isOperating .coordinator = true →
            (state.coordinator.tick item.timestamp).2 = [] ∧
              (state.coordinator.tick item.timestamp).1.phase = state.coordinator.phase := by
        intro tick kind ticks up
        rcases nothingSent.phase with waiting | ⟨⟨last, voting⟩, revived⟩
        · simp [Coordinator.tick, waiting]
        · apply harmless voting staffed.coordinator.abortBias
            staffed.coordinator.retransmitTimeout
          intro active
          rw [grown, log, kind] at notTicked
          have ticked : TickedAfterRecoveryWhen acts
              (state.actionLog ++ [.externalEvent item.timestamp tick]) :=
            ⟨_, [], _, tick, rfl, active, ticks, revived, tracked.not_down up⟩
          exact notTicked (ticked.append sends)
      obtain ⟨rfl, same⟩ := dispatched.nothingSent genuine silent unrecorded other unticked
      constructor
      · rw [sendAll_nil, sentMessages, log]
        exact silent
      · change middle.coordinator.phase = _ ∨ _ ∧ Revived middle.actionLog
        rw [log]
        rcases same with same | ⟨kind, crashed, voting⟩
        · have kept : middle.coordinator.phase = state.coordinator.phase := same
          rw [sendAll_nil, kept]
          exact nothingSent.phase.imp_right fun voting => ⟨voting.1, voting.2.append _⟩
        · rw [kind]
          exact .inr ⟨voting, _, [], _, rfl, (tracked _).mp crashed⟩

/-! ## Runs -/

/-- While no transaction is started and no tick acts after a recovery, nothing is sent. -/
structure Unstarted (acts : Nat → Prop) (setup : Setup) (state : Simulator ρ) : Prop extends
    Consistent setup state where
  tracked : Tracked state
  nothingSent : ¬ state.Started → ¬ TickedAfterRecoveryWhen acts state.actionLog → NothingSent state

theorem unstarted_invariant (harmless : Harmless ρ setup acts) (environment : Environment ρ) :
    (system setup environment).Invariant (Unstarted acts setup) where
  initial := by
    intro state same
    subst same
    exact {
      toConsistent := simulator_consistent
      tracked := simulator_tracked
      nothingSent := fun _ _ => ⟨rfl, .inl rfl⟩ }
  next := by
    intro state after unstarted next
    refine {
      toConsistent := (next.refines unstarted.toConsistent).1
      tracked := unstarted.tracked.next next
      nothingSent := fun notStarted notTicked => ?_ }
    obtain ⟨more, grown⟩ := next.actionLog
    have nothingSent : NothingSent state := by
      apply unstarted.nothingSent
      · intro started
        obtain ⟨atTime, listed⟩ := started
        apply notStarted
        rw [Started, grown]
        exact ⟨atTime, List.mem_append_left _ listed⟩
      · intro ticked
        rw [grown] at notTicked
        exact notTicked (ticked.append more)
    cases next with
    | enqueueExternal _ | injectProbe _ => exact ⟨nothingSent.silent, nothingSent.phase⟩
    | step success =>
        obtain ⟨_, _, rfl⟩ | ⟨_, stepped⟩ := step_stepped success
        · exact nothingSent
        · exact stepped.nothingSent harmless unstarted.toConsistent unstarted.tracked notStarted
            notTicked nothingSent

/-- While nothing is sent, nobody has voted or learned anything. -/
theorem NothingSent.nothing (nothingSent : NothingSent state)
    (consistent : Consistent setup state) :
    state.sentMessages = [] ∧ state.coordinator.decision = none ∧
      ∀ {node : NodeId} {participant : Participant ρ},
        state.participants[node]? = some participant →
          participant.vote = none ∧ participant.decision = none := by
  refine ⟨nothingSent.silent, nothingSent.undecided, fun {node participant} found => ⟨?_, ?_⟩⟩
  · cases cast : participant.vote with
    | none => rfl
    | some vote =>
        have sent := (consistent.sound.vote_sent node vote).mpr
          ((consistent.view_vote found).trans cast)
        simp [view, nothingSent.silent] at sent
  · cases told : participant.decision with
    | none => rfl
    | some decision =>
        have decided := consistent.decision_of_participant found told
        cases nothingSent.undecided.symm.trans decided

/-- Without a StartTransaction nothing happens, unless the coordinator is ticked after a
recovery. -/
theorem nothing_before_start (reachable : (system setup environment).Reachable state)
    (unstarted : ¬ state.Started) (notTicked : ¬ TickedAfterRecovery state.actionLog) :
    state.sentMessages = [] ∧ state.coordinator.decision = none ∧
      ∀ {node : NodeId} {participant : Participant ρ},
        state.participants[node]? = some participant →
          participant.vote = none ∧ participant.decision = none := by
  have harmless : Harmless ρ setup fun _ => True := fun _ _ _ never => absurd trivial never
  have invariant := (unstarted_invariant harmless environment).reachable reachable
  have nothingSent := invariant.nothingSent unstarted
    fun ticked => notTicked ticked.tickedAfterRecovery
  exact nothingSent.nothing invariant.toConsistent

/-- Where the coordinator never aborts by itself, its ticks before the timeout do no harm. -/
theorem nothing_before_timeout (steadfast : ¬ Coordinator.MayAbort ρ setup.abortBias)
    (reachable : (system setup environment).Reachable state) (unstarted : ¬ state.Started)
    (notTicked : ¬ TickedAfterRecoveryWhen (setup.retransmitTimeout ≤ ·) state.actionLog) :
    state.sentMessages = [] ∧ state.coordinator.decision = none ∧
      ∀ {node : NodeId} {participant : Participant ρ},
        state.participants[node]? = some participant →
          participant.vote = none ∧ participant.decision = none := by
  have invariant := (unstarted_invariant (harmless_early steadfast) environment).reachable reachable
  exact (invariant.nothingSent unstarted notTicked).nothing invariant.toConsistent

theorem nothing_before_start_unanimous : ∃ state : Simulator ForcedRng,
    state.actionLog = [.externalEvent 0 (.crash .coordinator),
      .externalEvent 0 (.recover .coordinator)] ∧
    state.sentMessages = [] ∧ state.coordinator.decision = none := by
  let scheduled : Simulator ForcedRng :=
    Setup.unanimous.simulator.enqueueAll [(.crash .coordinator, 0), (.recover .coordinator, 0)]
  let state := scheduled.advance.advance
  have log : state.actionLog = [.externalEvent 0 (.crash .coordinator),
      .externalEvent 0 (.recover .coordinator)] := by
    decide +kernel
  have reachable : (system .unanimous anyEnvironment).Reachable state :=
    ⟨_, rfl, enqueueAll_steps.trans (advance_steps.trans advance_steps)⟩
  have unstarted : ¬ state.Started := by simp [Started, log]
  have notTicked : ¬ TickedAfterRecovery state.actionLog := by
    intro ticked
    obtain ⟨first, last, clock, event, same, ticks, _⟩ := ticked
    have listed : .externalEvent clock event ∈ state.actionLog := by simp [same]
    rw [log] at listed
    rcases ticks with rfl | rfl <;> simp at listed
  obtain ⟨silent, undecided, _⟩ := nothing_before_start reachable unstarted notTicked
  exact ⟨state, log, silent, undecided⟩

/-- The recovered coordinator asks for votes at its next tick. -/
theorem recovered_coordinator_starts :
    ¬ ∀ {state : Simulator ForcedRng}, (system .unanimous anyEnvironment).Reachable state →
      ¬ state.Started → state.sentMessages = [] := by
  intro silent
  let scheduled : Simulator ForcedRng := Setup.unanimous.simulator.enqueueAll
    [(.crash .coordinator, 0), (.recover .coordinator, 0), (.tickAll, 5)]
  let state := scheduled.advance.advance.advance
  have log : state.actionLog = [.externalEvent 0 (.crash .coordinator),
      .externalEvent 0 (.recover .coordinator), .externalEvent 5 .tickAll,
      .send 5 6 (.prepare ⟨0⟩), .send 5 6 (.prepare ⟨1⟩)] := by
    decide +kernel
  have reachable : (system .unanimous anyEnvironment).Reachable state :=
    ⟨_, rfl, enqueueAll_steps.trans
      (advance_steps.trans (advance_steps.trans advance_steps))⟩
  have nothing := silent reachable (by simp [Started, log])
  rw [sentMessages, log] at nothing
  cases nothing

end Simulator

end TwoPhaseCommit
