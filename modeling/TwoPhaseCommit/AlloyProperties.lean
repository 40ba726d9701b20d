import TwoPhaseCommit.AlloyScopes

/-! The asserts of the Alloy model at every scope, and what its fairness comes to. -/

set_option autoImplicit false

namespace TwoPhaseCommit.Alloy

variable {Node : Type} {messages : Set (Message Node)} {s s' : State Node}

/-! ## What a transition does to one component -/

section Components

theorem Acts.phase (acts : Acts messages s s') : s'.phase = s.phase ∨
    s.phase = .waiting ∧ s'.phase = .voting ∧ coordinatorSendPrepare messages s s' ∨
    s.phase = .voting ∧ s'.phase = .decided ∧ (∃ d, coordinatorDecide s s' d) ∨
    s.phase = .decided ∧ s'.phase = .done ∧ coordinatorSendDecision messages s s' := by
  cases acts with
  | sendPrepare act => exact .inr (.inl ⟨act.1, act.2.2.1, act⟩)
  | vote n act => exact .inl act.2.2.2.2.1
  | receiveVote n act => exact .inl act.2.2.2.2.2.2.1
  | decide d act => exact .inr (.inr (.inl ⟨act.1, act.2.2.1, d, act⟩))
  | sendDecision act => exact .inr (.inr (.inr ⟨act.1, act.2.2.2.1, act⟩))
  | receiveDecision n act => exact .inl act.2.2.2.2.2.2.1

theorem participantVote.hasVoted {n : Node} (act : participantVote messages s s' n) :
    s'.hasVoted = s.hasVoted ∪ {n} := by
  rcases act.2.2.1 with ⟨_, commit, abort⟩ | ⟨_, abort, commit⟩
  · rw [State.hasVoted, State.hasVoted, commit, abort, Set.union_right_comm]
  · rw [State.hasVoted, State.hasVoted, commit, abort, Set.union_assoc]

theorem participantReceiveDecision.participantDecided {n : Node}
    (act : participantReceiveDecision s s' n) :
    s'.participantDecided = s.participantDecided ∪ {n} := by
  obtain ⟨_, _, commit, abort, _⟩ := act
  by_cases sent : ∃ m ∈ s.sent, m.messageType = .decCommit ∧ m.dest = .node n
  · rw [State.participantDecided, State.participantDecided, (commit sent).1, (commit sent).2,
      Set.union_right_comm]
  · rw [State.participantDecided, State.participantDecided, (abort sent).1, (abort sent).2,
      Set.union_assoc]

theorem Acts.hasVoted (acts : Acts messages s s') : s'.hasVoted = s.hasVoted ∨
    ∃ n, participantVote messages s s' n ∧ s'.hasVoted = s.hasVoted ∪ {n} := by
  have unchanged : unchangedVotes s s' → s'.hasVoted = s.hasVoted := by
    intro same
    rw [State.hasVoted, State.hasVoted, same.1, same.2]
  cases acts with
  | sendPrepare act => exact .inl (unchanged act.2.2.2.2.2.1)
  | vote n act => exact .inr ⟨n, act, act.hasVoted⟩
  | receiveVote n act => exact .inl (unchanged act.2.2.2.2.2.2.2.2.2.1)
  | decide d act => exact .inl (unchanged act.2.2.2.2.2.2.1)
  | sendDecision act => exact .inl (unchanged act.2.2.2.2.2.2.1)
  | receiveDecision n act => exact .inl (unchanged act.2.2.2.2.1)

theorem Acts.participantDecided (acts : Acts messages s s') :
    s'.participantDecided = s.participantDecided ∨
    ∃ n, participantReceiveDecision s s' n ∧
      s'.participantDecided = s.participantDecided ∪ {n} := by
  have unchanged : unchangedParticipantDecision s s' →
      s'.participantDecided = s.participantDecided := by
    intro same
    rw [State.participantDecided, State.participantDecided, same.1, same.2]
  cases acts with
  | sendPrepare act => exact .inl (unchanged act.2.2.2.2.2.2)
  | vote n act => exact .inl (unchanged act.2.2.2.1)
  | receiveVote n act => exact .inl (unchanged act.2.2.2.2.2.2.2.2.2.2)
  | decide d act => exact .inl (unchanged act.2.2.2.2.2.2.2)
  | sendDecision act => exact .inl (unchanged act.2.2.2.2.2.2.2)
  | receiveDecision n act => exact .inr ⟨n, act, act.participantDecided⟩

end Components

/-! ## The invariant -/

structure Sound (messages : Set (Message Node)) (s : State Node) : Prop where
  prepared : s.phase ≠ .waiting →
    ∀ m ∈ messages, m.messageType = .prepare → m.origin = .coordinator → m ∈ s.sent
  undecided : s.phase = .waiting ∨ s.phase = .voting → s.decision = none
  decided : s.phase = .decided ∨ s.phase = .done → s.decision ≠ none
  announced : s.phase = .done → ∀ d, s.decision = some d →
    ∀ m ∈ messages, m.messageType = .ofDecision d → m.origin = .coordinator → m ∈ s.sent
  sent : ∀ m ∈ s.sent, ∀ d, m.messageType = .ofDecision d → s.phase = .done ∧ s.decision = some d
  committed : ∀ n ∈ s.participantCommitted, s.phase = .done ∧ s.decision = some .commit
  aborted : ∀ n ∈ s.participantAborted, s.phase = .done ∧ s.decision = some .abort
  valid : Validity s

theorem Sound.init (initial : s.init) : Sound messages s := by
  obtain ⟨sent, phase, decision, _, _, _, _, committed, aborted⟩ := initial
  constructor <;> simp [sent, phase, decision, committed, aborted, Validity]

section Preservation

private theorem Sound.sendPrepare (sound : Sound messages s)
    (act : coordinatorSendPrepare messages s s') : Sound messages s' := by
  obtain ⟨_, _, _, _, _, _, _, _, _⟩ := s'
  obtain ⟨waiting, rfl, rfl, rfl, ⟨rfl, rfl⟩, ⟨rfl, rfl⟩, rfl, rfl⟩ := act
  have quiet := sound.undecided (.inl waiting)
  have unsent : s.phase ≠ .done := by simp [waiting]
  refine ⟨fun _ m atom type origin => .inr ⟨atom, type, origin⟩, fun _ => quiet, by simp, nofun,
    ?_, fun n member => absurd (sound.committed n member).1 unsent,
    fun n member => absurd (sound.aborted n member).1 unsent, sound.valid⟩
  intro m either d type
  rcases either with earlier | ⟨_, prepare, _⟩
  · exact absurd (sound.sent m earlier d type).1 unsent
  · cases d <;> simp [prepare, MessageType.ofDecision] at type

/-- A step that is not about the decision, and sends none. -/
private theorem Sound.frame (sound : Sound messages s) (phase : s'.phase = s.phase)
    (decision : s'.decision = s.decision)
    (participants : unchangedParticipantDecision s s') (grows : s.sent ⊆ s'.sent)
    (added : ∀ m ∈ s'.sent, m ∈ s.sent ∨ ∀ d, m.messageType ≠ .ofDecision d)
    (valid : Validity s') : Sound messages s' where
  prepared begun m atom type origin := grows (sound.prepared (phase ▸ begun) m atom type origin)
  undecided := by rw [phase, decision]; exact sound.undecided
  decided := by rw [phase, decision]; exact sound.decided
  announced done d taken m atom type origin :=
    grows (sound.announced (phase ▸ done) d (decision ▸ taken) m atom type origin)
  sent m member d type := by
    rw [phase, decision]
    exact sound.sent m ((added m member).resolve_right fun other => other d type) d type
  committed n member := by
    rw [phase, decision]
    exact sound.committed n (participants.1 ▸ member)
  aborted n member := by
    rw [phase, decision]
    exact sound.aborted n (participants.2 ▸ member)
  valid := valid

private theorem Sound.vote (sound : Sound messages s) {n : Node}
    (act : participantVote messages s s' n) : Sound messages s' := by
  obtain ⟨_, _, votes, participants, phase, decision, _, commitVotes⟩ := act
  have valid : Validity s' := by
    rw [Validity, decision, commitVotes]
    exact sound.valid
  rcases votes with ⟨sent, _⟩ | ⟨sent, _⟩
  all_goals
    refine sound.frame phase decision participants (sent ▸ Set.subset_union_left) ?_ valid
    intro m member
    rw [sent] at member
    refine member.imp id fun added d => ?_
    cases d <;> simp [added.2.1, MessageType.ofDecision]

private theorem Sound.receiveVote (sound : Sound messages s) {n : Node}
    (act : coordinatorReceiveVote s s' n) : Sound messages s' := by
  obtain ⟨voting, _, _, _, _, _, phase, decision, sent, _, participants⟩ := act
  have undecided := sound.undecided (.inr voting)
  refine sound.frame phase decision participants sent.superset ?_ ?_
  · exact fun m member => .inl (sent.subset member)
  · intro commit
    cases (decision.trans undecided).symm.trans commit

private theorem Sound.decide (sound : Sound messages s) {d : Decision}
    (act : coordinatorDecide s s' d) : Sound messages s' := by
  obtain ⟨_, _, _, _, _, _, _, _, _⟩ := s'
  obtain ⟨voting, unanimous, rfl, rfl, ⟨rfl, rfl⟩, rfl, ⟨rfl, rfl⟩, rfl, rfl⟩ := act
  have unsent : s.phase ≠ .done := by simp [voting]
  refine ⟨fun _ => sound.prepared (by simp [voting]), by simp, fun _ => nofun, nofun,
    fun m member other type => absurd (sound.sent m member other type).1 unsent,
    fun n member => absurd (sound.committed n member).1 unsent,
    fun n member => absurd (sound.aborted n member).1 unsent, ?_⟩
  intro commit
  exact unanimous (Option.some.inj commit)

private theorem Sound.sendDecision (sound : Sound messages s)
    (act : coordinatorSendDecision messages s s') : Sound messages s' := by
  obtain ⟨decided, commit, abort, phase, decision, ⟨votes, commitVotes⟩, _, participants⟩ := act
  have unsent : s.phase ≠ .done := by simp [decided]
  obtain ⟨taken, some⟩ := Option.ne_none_iff_exists'.mp (sound.decided (.inl decided))
  have sent : s'.sent = s.sent ∪ {m | m ∈ messages ∧ m.messageType = .ofDecision taken ∧
      m.origin = .coordinator} := by
    cases taken with
    | commit => exact commit some
    | abort => exact abort (by simp [some])
  have only : ∀ d, s'.decision = .some d → d = taken := by
    intro d found
    exact (Option.some.inj ((decision.trans some).symm.trans found)).symm
  refine ⟨?_, by simp [phase], fun _ => ?_, ?_, ?_, ?_, ?_, ?_⟩
  · intro _ m atom type origin
    rw [sent]
    exact .inl (sound.prepared (by simp [decided]) m atom type origin)
  · simp [decision.trans some]
  · intro _ d found m atom type origin
    obtain rfl := only d found
    rw [sent]
    exact .inr ⟨atom, type, origin⟩
  · intro m member d type
    rw [sent] at member
    rcases member with earlier | ⟨_, announced, _⟩
    · exact absurd (sound.sent m earlier d type).1 unsent
    · have same : d = taken := by
        cases d <;> cases taken <;> simp_all [MessageType.ofDecision]
      exact ⟨phase, same ▸ decision.trans some⟩
  · exact fun n member => absurd (sound.committed n (participants.1 ▸ member)).1 unsent
  · exact fun n member => absurd (sound.aborted n (participants.2 ▸ member)).1 unsent
  · rw [Validity, decision, commitVotes]
    exact sound.valid

private theorem Sound.receiveDecision (sound : Sound messages s) {n : Node}
    (act : participantReceiveDecision s s' n) : Sound messages s' := by
  obtain ⟨_, ⟨m, listed, type, dest, _⟩, commit, abort, _, sent, phase, decision, _, commitVotes⟩ :=
    act
  have done : s.phase = .done := by
    rcases type with type | type
    · exact (sound.sent m listed .commit type).1
    · exact (sound.sent m listed .abort type).1
  have records : (∀ other ∈ s'.participantCommitted, s.decision = some .commit) ∧
      ∀ other ∈ s'.participantAborted, s.decision = some .abort := by
    by_cases committed : ∃ m ∈ s.sent, m.messageType = .decCommit ∧ m.dest = .node n
    · obtain ⟨added, same⟩ := commit committed
      obtain ⟨message, listed, type, _⟩ := committed
      have taken := (sound.sent message listed .commit type).2
      exact ⟨fun _ _ => taken, fun other member => (sound.aborted other (same ▸ member)).2⟩
    · obtain ⟨added, same⟩ := abort committed
      have taken := (sound.sent m listed .abort
        (type.resolve_left fun commit => committed ⟨m, listed, commit, dest⟩)).2
      exact ⟨fun other member => (sound.committed other (same ▸ member)).2, fun _ _ => taken⟩
  exact {
    prepared := by
      rw [phase, sent]
      exact sound.prepared
    undecided := by
      rw [phase, decision]
      exact sound.undecided
    decided := by
      rw [phase, decision]
      exact sound.decided
    announced := by
      rw [phase, decision, sent]
      exact sound.announced
    sent := by
      rw [phase, decision, sent]
      exact sound.sent
    committed := fun other member => ⟨phase.trans done, decision.trans (records.1 other member)⟩
    aborted := fun other member => ⟨phase.trans done, decision.trans (records.2 other member)⟩
    valid := by
      rw [Validity, decision, commitVotes]
      exact sound.valid }

theorem Sound.acts (sound : Sound messages s) (acts : Acts messages s s') : Sound messages s' := by
  cases acts with
  | sendPrepare act => exact sound.sendPrepare act
  | vote n act => exact sound.vote act
  | receiveVote n act => exact sound.receiveVote act
  | decide d act => exact sound.decide act
  | sendDecision act => exact sound.sendDecision act
  | receiveDecision n act => exact sound.receiveDecision act

theorem sound_invariant : (system messages).Invariant (Sound messages) where
  initial := Sound.init
  next sound step := sound.acts step.2

end Preservation

theorem Sound.agrees (sound : Sound messages s) : Agreement s := by
  have disjoint : ∀ p ∈ s.participantAborted, ∀ q, q ∉ s.participantCommitted := by
    intro p aborted q committed
    cases (sound.aborted p aborted).2.symm.trans (sound.committed q committed).2
  intro p1 decided1 p2 decided2 _
  rcases decided1 with committed1 | aborted1
  · rcases decided2 with committed2 | aborted2
    · exact iff_of_true committed1 committed2
    · exact absurd committed1 (disjoint p2 aborted2 p1)
  · exact iff_of_false (disjoint p1 aborted1 p1) (disjoint p1 aborted1 p2)

/-! ## Traces -/

section Trace

variable {run : Nat → State Node}

theorem Trace.behaviour (trace : Trace messages run) : (system messages).Behaviour run where
  initial := trace.init
  next time := by
    obtain ⟨grows, acts | stutters⟩ := trace.next time
    · exact .inr ⟨⟨grows, .inl acts⟩, acts⟩
    · exact .inl (stutter_iff.mp stutters)

/-- The asserts `Agreement` and `Validity`, for every scope and any messages. -/
theorem trace_safety (trace : Trace messages run) (time : Nat) :
    Agreement (run time) ∧ Validity (run time) :=
  have sound := trace.behaviour.invariant sound_invariant time
  ⟨sound.agrees, sound.valid⟩

theorem trace_safety_fin_two : ∃ (run : Nat → State (Fin 2)) (time : Nat),
    (run time).decision = some .commit ∧ Agreement (run time) ∧ Validity (run time) := by
  obtain ⟨run, time, trace, _, committed, _⟩ :=
    exists_complete_trace (fun _ : Fin 2 => .commit) fun _ _ => rfl
  exact ⟨run, time, committed, trace_safety trace time⟩

/-! ## Fairness -/

open Library.TransitionSystem (Stable exists_leaving eventually_forall)

section Stable

variable (trace : Trace messages run)

include trace

private theorem Trace.done_stable : Stable fun time => (run time).phase = .done :=
  trace.behaviour.stable (fun s => s.phase = .done) fun {s s'} done step => by
    rcases step.2.phase with same | ⟨waiting, _⟩ | ⟨voting, _⟩ | ⟨decided, _⟩
    · exact same.trans done
    · cases done.symm.trans waiting
    · cases done.symm.trans voting
    · cases done.symm.trans decided

private theorem Trace.voted_stable (n : Node) : Stable fun time => n ∈ (run time).hasVoted :=
  trace.behaviour.stable (fun s => n ∈ s.hasVoted) fun {s s'} voted step => by
    rcases step.2.hasVoted with same | ⟨_, _, grown⟩
    · exact same ▸ voted
    · exact grown ▸ .inl voted

private theorem Trace.decided_stable (n : Node) :
    Stable fun time => n ∈ (run time).participantDecided :=
  trace.behaviour.stable (fun s => n ∈ s.participantDecided) fun {s s'} decided step => by
    rcases step.2.participantDecided with same | ⟨_, _, grown⟩
    · exact same ▸ decided
    · exact grown ▸ .inl decided

private theorem Trace.complete_mono {first last : Nat} (later : first ≤ last)
    (complete : Complete (run first)) : Complete (run last) := by
  obtain ⟨done, voted, decided⟩ := complete
  refine ⟨trace.done_stable.mono later done, Set.eq_univ_of_forall fun n => ?_,
    Set.eq_univ_of_forall fun n => ?_⟩
  · exact (trace.voted_stable n).mono later (voted ▸ Set.mem_univ n)
  · exact (trace.decided_stable n).mono later (decided ▸ Set.mem_univ n)

/-- What held and no longer holds was left by an action. -/
private theorem Trace.exists_acts (property : State Node → Prop) {first last : Nat}
    (later : first ≤ last) (holds : property (run first)) (lost : ¬ property (run last)) :
    ∃ time ≥ first, property (run time) ∧ ¬ property (run (time + 1)) ∧
      Acts messages (run time) (run (time + 1)) := by
  obtain ⟨time, after, before, left⟩ :=
    exists_leaving (fun time => property (run time)) later holds lost
  refine ⟨time, after, before, left, ?_⟩
  rcases trace.behaviour.next time with same | step
  · exact absurd (same ▸ before) left
  · exact step.2

end Stable

/-- A complete trace owes no action to fairness: what a clause waits for has
happened when its condition was left. -/
private theorem Trace.fairness (trace : Trace messages run) {last : Nat}
    (complete : Complete (run last)) : Fairness messages run := by
  have completes : ∀ time, ∃ later ≥ time, Complete (run later) := fun time =>
    ⟨max time last, le_max_left .., trace.complete_mono (le_max_right ..) complete⟩
  refine ⟨fun time waiting => ?_, fun n time unvoted => ?_, fun n always => ?_,
    fun time voting => ?_, fun time decided => ?_, fun n time undecided => ?_⟩
  · obtain ⟨later, after, done, _⟩ := completes time
    obtain ⟨left, since, before, next, acts⟩ := trace.exists_acts
      (fun s => s.phase = .waiting) after waiting (by simp [done])
    rcases acts.phase with same | ⟨_, _, act⟩ | ⟨voting, _⟩ | ⟨decided, _⟩
    · exact absurd (same.trans before) next
    · exact ⟨left, since, act⟩
    · cases before.symm.trans voting
    · cases before.symm.trans decided
  · obtain ⟨later, after, _, voted, _⟩ := completes time
    obtain ⟨left, since, before, next, acts⟩ := trace.exists_acts
      (fun s => n ∉ s.hasVoted) after unvoted.1 (by simp [voted])
    rcases acts.hasVoted with same | ⟨other, act, grown⟩
    · exact absurd (same ▸ before) next
    · obtain rfl : n = other := by simpa [grown, before] using next
      exact ⟨left, since, act⟩
  · obtain ⟨time, voting⟩ := always
    obtain ⟨later, after, done, _⟩ := completes time
    cases done.symm.trans (voting later after).1
  · obtain ⟨later, after, done, _⟩ := completes time
    obtain ⟨left, since, before, next, acts⟩ := trace.exists_acts
      (fun s => s.phase = .voting) after voting (by simp [done])
    rcases acts.phase with same | ⟨waiting, _⟩ | ⟨_, _, act⟩ | ⟨decided, _⟩
    · exact absurd (same.trans before) next
    · cases before.symm.trans waiting
    · exact ⟨left, since, act⟩
    · cases before.symm.trans decided
  · obtain ⟨later, after, done, _⟩ := completes time
    obtain ⟨left, since, before, next, acts⟩ := trace.exists_acts
      (fun s => s.phase = .decided) after decided (by simp [done])
    rcases acts.phase with same | ⟨waiting, _⟩ | ⟨voting, _⟩ | ⟨_, _, act⟩
    · exact absurd (same.trans before) next
    · cases before.symm.trans waiting
    · cases before.symm.trans voting
    · exact ⟨left, since, act⟩
  · obtain ⟨later, after, _, _, decided⟩ := completes time
    obtain ⟨left, since, before, next, acts⟩ := trace.exists_acts
      (fun s => n ∉ s.participantDecided) after undecided.1 (by simp [decided])
    rcases acts.participantDecided with same | ⟨other, act, grown⟩
    · exact absurd (same ▸ before) next
    · obtain rfl : n = other := by simpa [grown, before] using next
      exact ⟨left, since, act⟩

private theorem Fairness.exists_done (fairness : Fairness messages run)
    (trace : Trace messages run) : ∃ time, (run time).phase = .done := by
  obtain ⟨prepared, _, _, _, voting, _⟩ := fairness.sendPrepare 0 trace.init.2.1
  obtain ⟨decided, _, _, _, _, taken, _⟩ := fairness.decide (prepared + 1) voting
  obtain ⟨announced, _, _, _, _, done, _⟩ := fairness.sendDecision (decided + 1) taken
  exact ⟨announced + 1, done⟩

private theorem Fairness.exists_complete [Finite Node] (fairness : Fairness messages run)
    (trace : Trace messages run) (population : MessagePopulation messages) :
    ∃ time, Complete (run time) := by
  obtain ⟨ended, done⟩ := fairness.exists_done trace
  have sound := trace.behaviour.invariant sound_invariant ended
  have voted : ∀ n, ∃ time, n ∈ (run time).hasVoted := by
    intro n
    by_cases voted : n ∈ (run ended).hasVoted
    · exact ⟨ended, voted⟩
    · obtain ⟨⟨m, ⟨atom, type, origin, dest⟩, _⟩, _⟩ := population n
      have asked := sound.prepared (by simp [done]) m atom type origin
      obtain ⟨time, _, act⟩ := fairness.vote n ended ⟨voted, m, asked, type, dest⟩
      exact ⟨time + 1, act.hasVoted ▸ .inr rfl⟩
  have decided : ∀ n, ∃ time, n ∈ (run time).participantDecided := by
    intro n
    by_cases decided : n ∈ (run ended).participantDecided
    · exact ⟨ended, decided⟩
    · have announced : ((run ended).decisionFor n).Nonempty := by
        obtain ⟨d, taken⟩ := Option.ne_none_iff_exists'.mp (sound.decided (.inr done))
        obtain ⟨_, _, _, commit, abort⟩ := population n
        cases d with
        | commit =>
            obtain ⟨m, ⟨atom, type, origin, dest⟩, _⟩ := commit
            exact ⟨m, sound.announced done _ taken m atom type origin, .inl type, dest, origin⟩
        | abort =>
            obtain ⟨m, ⟨atom, type, origin, dest⟩, _⟩ := abort
            exact ⟨m, sound.announced done _ taken m atom type origin, .inr type, dest, origin⟩
      obtain ⟨time, _, act⟩ := fairness.receiveDecision n ended ⟨decided, announced⟩
      exact ⟨time + 1, act.participantDecided ▸ .inr rfl⟩
  obtain ⟨first, voted⟩ := eventually_forall trace.voted_stable voted
  obtain ⟨second, decided⟩ := eventually_forall trace.decided_stable decided
  refine ⟨max ended (max first second), trace.done_stable.mono (le_max_left ..) done,
    Set.eq_univ_of_forall fun n => ?_, Set.eq_univ_of_forall fun n => ?_⟩
  · exact (trace.voted_stable n).mono (by omega) (voted n)
  · exact (trace.decided_stable n).mono (by omega) (decided n)

/-- Over finitely many nodes the six clauses of fairness come to one: the trace
completes. The assert `Termination` follows. -/
theorem fairness_iff [Finite Node] (population : MessagePopulation messages)
    (trace : Trace messages run) :
    (Fairness messages run ↔ ∃ time, Complete (run time)) ∧
      (Fairness messages run → Termination run) := by
  have complete := fun fairness : Fairness messages run =>
    fairness.exists_complete trace population
  refine ⟨⟨complete, fun ⟨_, complete⟩ => trace.fairness complete⟩, fun fairness => ?_⟩
  obtain ⟨time, _, _, decided⟩ := complete fairness
  exact ⟨time, decided⟩

theorem fairness_iff_fin_two : ∃ run : Nat → State (Fin 2),
    Fairness (population (Fin 2)) run ∧ Termination run := by
  obtain ⟨run, time, trace, complete, _⟩ :=
    exists_complete_trace (fun _ : Fin 2 => .commit) (d := .abort) nofun
  obtain ⟨fair, terminates⟩ := fairness_iff population_messagePopulation trace
  have fairness := fair.mpr ⟨time, complete⟩
  exact ⟨run, fairness, terminates fairness⟩

/-- At every scope the model can be run, fairly, to every outcome that the votes allow. -/
theorem exists_fair_trace [Finite Node] (cast : Node → Vote) {d : Decision}
    (allowed : d = .commit → ∀ n, cast n = .commit) :
    ∃ (run : Nat → State Node) (time : Nat), Trace (population Node) run ∧
      Fairness (population Node) run ∧ (run time).decision = some d ∧
      (run time).votedCommit = {n | cast n = .commit} ∧
      (run time).votedAbort = {n | cast n = .abort} ∧
      (d = .commit → (run time).participantCommitted = Set.univ) ∧
      (d = .abort → (run time).participantAborted = Set.univ) := by
  obtain ⟨run, time, trace, complete, outcome⟩ := exists_complete_trace cast allowed
  exact ⟨run, time, trace, trace.fairness complete, outcome⟩

theorem exists_fair_trace_fin_two : ∃ (run : Nat → State (Fin 2)) (time : Nat),
    Fairness (population (Fin 2)) run ∧ (run time).participantCommitted = Set.univ := by
  obtain ⟨run, time, _, fairness, _, _, _, committed, _⟩ :=
    exists_fair_trace (fun _ : Fin 2 => .commit) fun _ _ => rfl
  exact ⟨run, time, fairness, committed rfl⟩

end Trace

end TwoPhaseCommit.Alloy
