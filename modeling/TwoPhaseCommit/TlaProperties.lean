import TwoPhaseCommit.Tla

/-! Safety of the TLA+ specification, and the states in which it stops. -/

set_option autoImplicit false

namespace TwoPhaseCommit.Tla

variable {Participant : Type}

namespace Message

def prepare (p : Participant) : Message Participant := ⟨.prepare, .coordinator, .participant p⟩

def vote (p : Participant) (v : Value) : Message Participant := ⟨v, .participant p, .coordinator⟩

def decision (p : Participant) (d : Value) : Message Participant :=
  ⟨d, .coordinator, .participant p⟩

@[simp] theorem vote_inj {p q : Participant} {v w : Value} :
    vote p v = vote q w ↔ p = q ∧ v = w := by
  simp [vote, and_comm]

@[simp] theorem prepare_ne_vote {p q : Participant} {v : Value} : prepare p ≠ vote q v := by
  simp [prepare, vote]

@[simp] theorem vote_ne_prepare {p q : Participant} {v : Value} : vote p v ≠ prepare q := by
  simp [prepare, vote]

@[simp] theorem vote_ne_decision {p q : Participant} {v d : Value} : vote p v ≠ decision q d := by
  simp [vote, decision]

end Message

/-- `v` is one of the two votes. -/
def Value.IsVote (v : Value) : Prop := v = .voteCommit ∨ v = .voteAbort

/-! ## What each action does -/

section Actions

variable [DecidableEq Participant] {s s' : State Participant}

inductive Acts (s : State Participant) : State Participant → Prop where
  | sendPrepare : s.coordinatorPhase = .waiting →
      Acts s { s with
        messages := s.messages ∪ {msg | ∃ p, msg = .prepare p}
        coordinatorPhase := .voting }
  | receiveCommit {p : Participant} : s.coordinatorPhase = .voting → s.votes p = .none →
      .vote p .voteCommit ∈ s.messages →
      Acts s { s with votes := Function.update s.votes p .voteCommit }
  | receiveAbort {p : Participant} : s.coordinatorPhase = .voting → s.votes p = .none →
      .vote p .voteAbort ∈ s.messages →
      Acts s { s with
        votes := Function.update s.votes p .voteAbort
        coordinatorPhase := .decided
        coordinatorDecision := .abort }
  | decide : s.coordinatorPhase = .voting → (∀ p, s.votes p = .voteCommit) →
      Acts s { s with
        coordinatorPhase := .decided
        coordinatorDecision := .commit }
  | sendDecision : s.coordinatorPhase = .decided →
      Acts s { s with
        messages := s.messages ∪ {msg | ∃ p, msg = .decision p s.coordinatorDecision}
        coordinatorPhase := .done }
  | vote {p : Participant} {v : Value} {source : Actor Participant} :
      s.participantPhase p = .waiting →
      ⟨.prepare, source, .participant p⟩ ∈ s.messages → v.IsVote →
      Acts s { s with
        messages := s.messages ∪ {.vote p v}
        participantPhase := Function.update s.participantPhase p .voted }
  | receiveDecision {p : Participant} {d : Value} {source : Actor Participant} :
      s.participantPhase p = .voted ∨ s.participantPhase p = .waiting → s.decision p = .none →
      ⟨d, source, .participant p⟩ ∈ s.messages → d = .commit ∨ d = .abort →
      Acts s { s with
        decision := Function.update s.decision p d
        participantPhase := Function.update s.participantPhase p .decided }

private theorem acts_of_receiveVote {p : Participant} (received : coordinatorReceiveVote s s' p) :
    Acts s s' := by
  obtain ⟨_, _, _, _, _, _⟩ := s'
  obtain ⟨voting, unread, ⟨⟨type, _, _⟩, sent, isVote, rfl, rfl, rfl, effect⟩, rfl, rfl, rfl⟩ :=
    received
  rcases isVote with rfl | rfl
  · obtain ⟨rfl, rfl⟩ := effect
    exact .receiveCommit voting unread sent
  · obtain ⟨rfl, rfl⟩ := effect
    exact .receiveAbort voting unread sent

theorem acts_of_next (step : Next s s') : Acts s s' := by
  rcases step with prepared | ⟨p, received⟩ | decided | announced | ⟨p, voted⟩ | ⟨p, learned⟩
  · obtain ⟨_, _, _, _, _, _⟩ := s'
    obtain ⟨waiting, rfl, rfl, rfl, rfl, rfl, rfl⟩ := prepared
    exact .sendPrepare waiting
  · exact acts_of_receiveVote received
  · obtain ⟨_, _, _, _, _, _⟩ := s'
    obtain ⟨voting, unanimous, rfl, rfl, rfl, rfl, rfl, rfl⟩ := decided
    exact .decide voting unanimous
  · obtain ⟨_, _, _, _, _, _⟩ := s'
    obtain ⟨decided, rfl, rfl, rfl, rfl, rfl, rfl⟩ := announced
    exact .sendDecision decided
  · obtain ⟨_, _, _, _, _, _⟩ := s'
    obtain ⟨waiting, ⟨⟨_, _, _⟩, sent, rfl, rfl⟩, ⟨v, isVote, rfl, rfl⟩, rfl, rfl, rfl, rfl⟩ :=
      voted
    exact .vote waiting sent isVote
  · obtain ⟨_, _, _, _, _, _⟩ := s'
    obtain ⟨undecided, unaware, ⟨⟨_, _, _⟩, sent, type, rfl, rfl, rfl⟩, rfl, rfl, rfl, rfl⟩ :=
      learned
    exact .receiveDecision undecided unaware sent type

theorem Acts.next (acts : Acts s s') : Next s s' := by
  cases acts with
  | sendPrepare waiting => exact .inl ⟨waiting, rfl, rfl, rfl, rfl, rfl, rfl⟩
  | @receiveCommit p voting unread sent =>
      refine .inr (.inl ⟨p, voting, unread, ⟨_, sent, .inl rfl, rfl, rfl, rfl, ?_⟩, rfl, rfl, rfl⟩)
      exact ⟨rfl, rfl⟩
  | @receiveAbort p voting unread sent =>
      refine .inr (.inl ⟨p, voting, unread, ⟨_, sent, .inr rfl, rfl, rfl, rfl, ?_⟩, rfl, rfl, rfl⟩)
      exact ⟨rfl, rfl⟩
  | decide voting unanimous =>
      exact .inr (.inr (.inl ⟨voting, unanimous, rfl, rfl, rfl, rfl, rfl, rfl⟩))
  | sendDecision decided =>
      exact .inr (.inr (.inr (.inl ⟨decided, rfl, rfl, rfl, rfl, rfl, rfl⟩)))
  | @vote p v _ waiting sent isVote =>
      exact .inr (.inr (.inr (.inr (.inl
        ⟨p, waiting, ⟨_, sent, rfl, rfl⟩, ⟨v, isVote, rfl, rfl⟩, rfl, rfl, rfl, rfl⟩))))
  | @receiveDecision p _ _ undecided unaware sent type =>
      exact .inr (.inr (.inr (.inr (.inr
        ⟨p, undecided, unaware, ⟨_, sent, type, rfl, rfl, rfl⟩, rfl, rfl, rfl, rfl⟩))))

end Actions

/-! ## The invariant -/

/-- The message is one that the state accounts for. -/
inductive Accounted (s : State Participant) : Message Participant → Prop where
  | prepare (p : Participant) : s.coordinatorPhase ≠ .waiting → Accounted s (.prepare p)
  | vote {p : Participant} {v : Value} :
      v.IsVote → s.participantPhase p ≠ .waiting → Accounted s (.vote p v)
  | decision (p : Participant) :
      s.coordinatorPhase = .done → Accounted s (.decision p s.coordinatorDecision)

/-- The decision that the coordinator has taken rests on the votes it has received. -/
inductive Supported (s : State Participant) : Prop where
  | commit : s.coordinatorDecision = .commit → (∀ p, s.votes p = .voteCommit) → Supported s
  | abort (p : Participant) : s.coordinatorDecision = .abort → s.votes p = .voteAbort → Supported s

structure Sound (s : State Participant) : Prop where
  messages : ∀ msg ∈ s.messages, Accounted s msg
  prepared : s.coordinatorPhase ≠ .waiting → ∀ p, .prepare p ∈ s.messages
  announced : s.coordinatorPhase = .done → ∀ p, .decision p s.coordinatorDecision ∈ s.messages
  single : ∀ p v w, .vote p v ∈ s.messages → .vote p w ∈ s.messages → v = w
  cast : ∀ p, s.participantPhase p = .voted → ∃ v, v.IsVote ∧ .vote p v ∈ s.messages
  tallied : ∀ p, s.votes p ≠ .none → (s.votes p).IsVote ∧ .vote p (s.votes p) ∈ s.messages
  coordinator : (s.coordinatorPhase = .waiting ∨ s.coordinatorPhase = .voting) ∧
      s.coordinatorDecision = .none ∧ (∀ p, s.votes p ≠ .voteAbort) ∨
    (s.coordinatorPhase = .decided ∨ s.coordinatorPhase = .done) ∧ Supported s
  participant : ∀ p,
    (s.participantPhase p = .waiting ∨ s.participantPhase p = .voted) ∧ s.decision p = .none ∨
    s.participantPhase p = .decided ∧ s.coordinatorPhase = .done ∧
      s.decision p = s.coordinatorDecision

section Sound

variable {s s' : State Participant}

theorem Sound.init : Sound (State.init : State Participant) := by
  constructor <;> simp [State.init]

/-- A vote of `p` on the wire shows that `p` has left the waiting phase. -/
theorem Sound.voted (sound : Sound s) {p : Participant} {v : Value}
    (sent : .vote p v ∈ s.messages) : v.IsVote ∧ s.participantPhase p ≠ .waiting := by
  generalize shape : Message.vote p v = msg at sent
  cases sound.messages msg sent with
  | prepare _ _ => simp at shape
  | vote isVote voted =>
      obtain ⟨rfl, rfl⟩ := Message.vote_inj.mp shape
      exact ⟨isVote, voted⟩
  | decision _ _ => simp at shape

/-- A message of a decision shows that it has been taken. -/
theorem Sound.decided (sound : Sound s) {p : Participant} {source : Actor Participant} {d : Value}
    (sent : ⟨d, source, .participant p⟩ ∈ s.messages) (type : d = .commit ∨ d = .abort) :
    s.coordinatorPhase = .done ∧ s.coordinatorDecision = d := by
  generalize shape : (⟨d, source, .participant p⟩ : Message Participant) = msg at sent
  cases sound.messages msg sent with
  | prepare _ _ =>
      obtain ⟨rfl, _⟩ := Message.mk.inj shape
      rcases type with wrong | wrong <;> cases wrong
  | vote _ _ =>
      obtain ⟨_, _, wrong⟩ := Message.mk.inj shape
      cases wrong
  | decision q done =>
      obtain ⟨rfl, _⟩ := Message.mk.inj shape
      exact ⟨done, rfl⟩

private theorem Sound.sendPrepare (sound : Sound s) (waiting : s.coordinatorPhase = .waiting) :
    Sound { s with
      messages := s.messages ∪ {msg | ∃ p, msg = .prepare p}
      coordinatorPhase := .voting } := by
  have unsent : s.coordinatorPhase ≠ .done := by simp [waiting]
  have undecided := sound.coordinator.resolve_right (by simp [waiting])
  refine ⟨?_, ?_, nofun, ?_, ?_, ?_, .inl ⟨.inr rfl, undecided.2⟩, ?_⟩
  · intro msg either
    rcases either with sent | ⟨p, rfl⟩
    · cases sound.messages msg sent with
      | prepare p _ => exact .prepare p nofun
      | vote isVote voted => exact .vote isVote voted
      | decision p done => exact absurd done unsent
    · exact .prepare p nofun
  · exact fun _ p => .inr ⟨p, rfl⟩
  · simpa using sound.single
  · simpa using sound.cast
  · simpa using sound.tallied
  · intro p
    exact .inl ((sound.participant p).resolve_right fun decided => unsent decided.2.1)

section Tally

variable [DecidableEq Participant] {p : Participant} {v : Value}

private theorem Sound.tallied_update (sound : Sound s) (sent : .vote p v ∈ s.messages)
    (q : Participant) (counted : Function.update s.votes p v q ≠ .none) :
    (Function.update s.votes p v q).IsVote ∧
      .vote q (Function.update s.votes p v q) ∈ s.messages := by
  by_cases same : q = p
  · subst same
    simpa using ⟨(sound.voted sent).1, sent⟩
  · simp only [Function.update_of_ne same] at counted ⊢
    exact sound.tallied q counted

private theorem Sound.receiveCommit (sound : Sound s) (voting : s.coordinatorPhase = .voting)
    (sent : .vote p .voteCommit ∈ s.messages) :
    Sound { s with votes := Function.update s.votes p .voteCommit } := by
  have undecided := sound.coordinator.resolve_right (by simp [voting])
  refine { sound with
    messages := fun msg listed => ?_
    tallied := sound.tallied_update sent
    coordinator := .inl ⟨undecided.1, undecided.2.1, fun q => ?_⟩ }
  · cases sound.messages msg listed with
    | prepare p begun => exact .prepare p begun
    | vote isVote voted => exact .vote isVote voted
    | decision p done => exact .decision (s := { s with votes := _ }) p done
  · by_cases same : q = p
    · simp [same]
    · simpa [Function.update_of_ne same] using undecided.2.2 q

private theorem Sound.receiveAbort (sound : Sound s) (voting : s.coordinatorPhase = .voting)
    (sent : .vote p .voteAbort ∈ s.messages) :
    Sound { s with
      votes := Function.update s.votes p .voteAbort
      coordinatorPhase := .decided
      coordinatorDecision := .abort } := by
  have unsent : s.coordinatorPhase ≠ .done := by simp [voting]
  refine ⟨fun msg listed => ?_, fun _ => sound.prepared (by simp [voting]), nofun, sound.single,
    sound.cast, sound.tallied_update sent, .inr ⟨.inl rfl, .abort p rfl (by simp)⟩, fun q => ?_⟩
  · cases sound.messages msg listed with
    | prepare p _ => exact .prepare p nofun
    | vote isVote voted => exact .vote isVote voted
    | decision p done => exact absurd done unsent
  · exact .inl ((sound.participant q).resolve_right fun decided => unsent decided.2.1)

end Tally

private theorem Sound.decide (sound : Sound s) (voting : s.coordinatorPhase = .voting)
    (unanimous : ∀ p, s.votes p = .voteCommit) :
    Sound { s with coordinatorPhase := .decided, coordinatorDecision := .commit } := by
  have unsent : s.coordinatorPhase ≠ .done := by simp [voting]
  refine ⟨fun msg listed => ?_, fun _ => sound.prepared (by simp [voting]), nofun, sound.single,
    sound.cast, sound.tallied, .inr ⟨.inl rfl, .commit rfl unanimous⟩, fun q => ?_⟩
  · cases sound.messages msg listed with
    | prepare p _ => exact .prepare p nofun
    | vote isVote voted => exact .vote isVote voted
    | decision p done => exact absurd done unsent
  · exact .inl ((sound.participant q).resolve_right fun decided => unsent decided.2.1)

private theorem Sound.sendDecision (sound : Sound s) (decided : s.coordinatorPhase = .decided) :
    Sound { s with
      messages := s.messages ∪ {msg | ∃ p, msg = .decision p s.coordinatorDecision}
      coordinatorPhase := .done } := by
  have unsent : s.coordinatorPhase ≠ .done := by simp [decided]
  have supported := (sound.coordinator.resolve_left (by simp [decided])).2
  refine ⟨?_, fun _ p => .inl (sound.prepared (by simp [decided]) p), fun _ p => .inr ⟨p, rfl⟩,
    ?_, ?_, ?_, .inr ⟨.inr rfl, ?_⟩, fun q => ?_⟩
  · intro msg either
    rcases either with sent | ⟨p, rfl⟩
    · cases sound.messages msg sent with
      | prepare p _ => exact .prepare p nofun
      | vote isVote voted => exact .vote isVote voted
      | decision p done => exact absurd done unsent
    · exact .decision (s := { s with messages := _, coordinatorPhase := .done }) p rfl
  · simpa using sound.single
  · simpa using sound.cast
  · simpa using sound.tallied
  · cases supported with
    | commit taken unanimous => exact .commit taken unanimous
    | abort p taken objected => exact .abort p taken objected
  · exact .inl ((sound.participant q).resolve_right fun decided => unsent decided.2.1)

section Participant

variable [DecidableEq Participant] {p : Participant}

private theorem Sound.vote (sound : Sound s) {v : Value} (waiting : s.participantPhase p = .waiting)
    (isVote : v.IsVote) :
    Sound { s with
      messages := s.messages ∪ {.vote p v}
      participantPhase := Function.update s.participantPhase p .voted } := by
  have silent : ∀ w, .vote p w ∉ s.messages := fun w sent => (sound.voted sent).2 waiting
  refine ⟨?_, fun begun q => .inl (sound.prepared begun q),
    fun done q => .inl (sound.announced done q), ?_, ?_, ?_, ?_, ?_⟩
  · intro msg either
    rcases either with sent | rfl
    · cases sound.messages msg sent with
      | prepare q begun => exact .prepare q begun
      | @vote q w isVote voted =>
          refine .vote isVote ?_
          by_cases same : q = p
          · simp [same]
          · simpa [Function.update_of_ne same] using voted
      | decision q done =>
          exact .decision (s := { s with messages := _, participantPhase := _ }) q done
    · exact .vote isVote (by simp)
  · intro q first second
    by_cases same : q = p
    · subst same
      simp only [Set.mem_union, silent, Set.mem_singleton_iff, Message.vote_inj, true_and, false_or]
      exact fun left right => left.trans right.symm
    · simpa [same] using sound.single q first second
  · intro q voted
    by_cases same : q = p
    · subst same
      exact ⟨v, isVote, .inr rfl⟩
    · obtain ⟨w, isVote, sent⟩ :=
        sound.cast q (by simpa [Function.update_of_ne same] using voted)
      exact ⟨w, isVote, .inl sent⟩
  · exact fun q counted => (sound.tallied q counted).imp id .inl
  · refine sound.coordinator.imp id (And.imp id fun supported => ?_)
    cases supported with
    | commit taken unanimous => exact .commit taken unanimous
    | abort q taken objected => exact .abort q taken objected
  · intro q
    by_cases same : q = p
    · subst same
      exact .inl ⟨.inr (by simp), ((sound.participant q).resolve_right (by simp [waiting])).2⟩
    · simpa [Function.update_of_ne same] using sound.participant q

private theorem Sound.receiveDecision (sound : Sound s) {d : Value} {source : Actor Participant}
    (sent : ⟨d, source, .participant p⟩ ∈ s.messages) (type : d = .commit ∨ d = .abort) :
    Sound { s with
      decision := Function.update s.decision p d
      participantPhase := Function.update s.participantPhase p .decided } := by
  obtain ⟨done, taken⟩ := sound.decided sent type
  refine ⟨fun msg listed => ?_, sound.prepared, sound.announced, sound.single, ?_, sound.tallied,
    ?_, ?_⟩
  · cases sound.messages msg listed with
    | prepare q begun => exact .prepare q begun
    | @vote q w isVote voted =>
        refine .vote isVote ?_
        by_cases same : q = p
        · simp [same]
        · simpa [Function.update_of_ne same] using voted
    | decision q done =>
        exact .decision (s := { s with decision := _, participantPhase := _ }) q done
  · intro q voted
    by_cases same : q = p
    · simp [same] at voted
    · exact sound.cast q (by simpa [Function.update_of_ne same] using voted)
  · refine sound.coordinator.imp id (And.imp id fun supported => ?_)
    cases supported with
    | commit taken unanimous => exact .commit taken unanimous
    | abort q taken objected => exact .abort q taken objected
  · intro q
    by_cases same : q = p
    · subst same
      exact .inr (by simp [done, taken])
    · simpa [Function.update_of_ne same] using sound.participant q

theorem Sound.acts (sound : Sound s) (acts : Acts s s') : Sound s' := by
  cases acts with
  | sendPrepare waiting => exact sound.sendPrepare waiting
  | receiveCommit voting _ sent => exact sound.receiveCommit voting sent
  | receiveAbort voting _ sent => exact sound.receiveAbort voting sent
  | decide voting unanimous => exact sound.decide voting unanimous
  | sendDecision decided => exact sound.sendDecision decided
  | vote waiting _ isVote => exact sound.vote waiting isVote
  | receiveDecision _ _ sent type => exact sound.receiveDecision sent type

theorem sound_invariant : (system Participant).Invariant Sound where
  initial := by
    intro s same
    subst same
    exact .init
  next sound step := sound.acts (acts_of_next step)

end Participant

theorem Sound.typeCheck (sound : Sound s) : TypeCheck s where
  messages := by
    intro msg sent
    cases sound.messages msg sent with
    | prepare p _ => exact .inl ⟨.inl rfl, rfl, p, rfl⟩
    | @vote p v isVote _ => exact .inr ⟨isVote, ⟨p, rfl⟩, rfl⟩
    | decision p done =>
        have supported := (sound.coordinator.resolve_left (by simp [done])).2
        refine .inl ⟨.inr ?_, rfl, p, rfl⟩
        cases supported with
        | commit taken _ => exact .inl taken
        | abort _ taken _ => exact .inr taken
  coordinatorPhase := by
    rcases sound.coordinator with ⟨phase, _⟩ | ⟨phase, _⟩ <;> tauto
  coordinatorDecision := by
    rcases sound.coordinator with ⟨_, undecided, _⟩ | ⟨_, supported⟩
    · exact .inl undecided
    · cases supported with
      | commit taken _ => exact .inr (.inl taken)
      | abort _ taken _ => exact .inr (.inr taken)
  participantPhase p := by
    rcases sound.participant p with ⟨phase, _⟩ | ⟨phase, _⟩ <;> tauto
  votes p := or_iff_not_imp_left.mpr fun counted => (sound.tallied p counted).1
  decision p := by
    rcases sound.participant p with ⟨_, undecided⟩ | ⟨_, done, same⟩
    · exact .inl undecided
    · rw [same]
      cases (sound.coordinator.resolve_left (by simp [done])).2 with
      | commit taken _ => exact .inr (.inl taken)
      | abort _ taken _ => exact .inr (.inr taken)

theorem Sound.decision_eq (sound : Sound s) {p : Participant} (decided : s.decision p ≠ .none) :
    s.decision p = s.coordinatorDecision := by
  rcases sound.participant p with ⟨_, undecided⟩ | ⟨_, _, same⟩
  · exact absurd undecided decided
  · exact same

theorem Sound.agrees (sound : Sound s) : Agreement s := by
  intro p1 p2 decided
  rw [sound.decision_eq decided.1, sound.decision_eq decided.2]

theorem Sound.consistency (sound : Sound s) : Consistency s := by
  intro committed
  rcases sound.coordinator with ⟨_, undecided, _⟩ | ⟨_, supported⟩
  · simp [undecided] at committed
  · cases supported with
    | commit _ unanimous => exact unanimous
    | abort _ taken _ => simp [taken] at committed

theorem Sound.objection (sound : Sound s) (aborted : s.coordinatorDecision = .abort) :
    ∃ p, s.votes p = .voteAbort := by
  rcases sound.coordinator with ⟨_, undecided, _⟩ | ⟨_, supported⟩
  · simp [undecided] at aborted
  · cases supported with
    | commit taken _ => simp [taken] at aborted
    | abort p _ objected => exact ⟨p, objected⟩

theorem Sound.cast_of_counted (sound : Sound s) {p : Participant} {v : Value}
    (counted : s.votes p = v) (isVote : v ≠ .none) : .vote p v ∈ s.messages := by
  subst counted
  exact (sound.tallied p isVote).2

end Sound

/-- The three invariants that the specification names, and what a participant's
decision says about the votes that were cast. -/
theorem spec_safety [DecidableEq Participant] {run : Nat → State Participant} (spec : Spec run)
    (time : Nat) :
    TypeCheck (run time) ∧ Agreement (run time) ∧ Consistency (run time) ∧
      ∀ p, ((run time).decision p = .commit → ∀ q, .vote q .voteCommit ∈ (run time).messages) ∧
        ((run time).decision p = .abort → ∃ q, .vote q .voteAbort ∈ (run time).messages) := by
  have sound := spec.invariant sound_invariant time
  refine ⟨sound.typeCheck, sound.agrees, sound.consistency, fun p => ⟨?_, ?_⟩⟩
  · intro committed q
    have taken := sound.decision_eq (p := p) (by simp [committed])
    exact sound.cast_of_counted (sound.consistency (taken ▸ committed) q) nofun
  · intro aborted
    have taken := sound.decision_eq (p := p) (by simp [aborted])
    obtain ⟨q, objected⟩ := sound.objection (taken ▸ aborted)
    exact ⟨q, sound.cast_of_counted objected nofun⟩

variable (Participant) in
theorem exists_fairSpec [DecidableEq Participant] :
    ∃ run : Nat → State Participant, FairSpec run := by
  obtain ⟨run, _, behaviour, fair⟩ :=
    Library.TransitionSystem.exists_weaklyFair (system Participant) rfl
  exact ⟨run, behaviour, fair⟩

theorem spec_safety_fin_three : ∃ run : Nat → State (Fin 3), FairSpec run ∧
    ∀ time, TypeCheck (run time) ∧ Agreement (run time) ∧ Consistency (run time) := by
  obtain ⟨run, fairSpec⟩ := exists_fairSpec (Fin 3)
  refine ⟨run, fairSpec, fun time => ?_⟩
  obtain ⟨types, agree, consistent, _⟩ := spec_safety fairSpec.1 time
  exact ⟨types, agree, consistent⟩

/-! ## Where the specification stops -/

section Enabled

variable [DecidableEq Participant] {s : State Participant}

open Library.TransitionSystem (Enabled)

private theorem Acts.enabled {s' : State Participant} (acts : Acts s s') : Enabled Next s :=
  ⟨s', acts.next⟩

private theorem Sound.enabled_of_voting (sound : Sound s) (voting : s.coordinatorPhase = .voting) :
    Enabled Next s := by
  have undecided := (sound.coordinator.resolve_right (by simp [voting])).2
  have asked := sound.prepared (by simp [voting])
  by_cases unanimous : ∀ p, s.votes p = .voteCommit
  · exact (Acts.decide voting unanimous).enabled
  · push Not at unanimous
    obtain ⟨p, missing⟩ := unanimous
    have unread : s.votes p = .none := by
      rcases sound.typeCheck.votes p with unread | commit | abort
      · exact unread
      · exact absurd commit missing
      · exact absurd abort (undecided.2 p)
    have participant := (sound.participant p).resolve_right (by simp [voting])
    rcases participant.1 with waiting | voted
    · exact (Acts.vote waiting (asked p) (.inl rfl)).enabled
    · obtain ⟨v, isVote, sent⟩ := sound.cast p voted
      rcases isVote with rfl | rfl
      · exact (Acts.receiveCommit voting unread sent).enabled
      · exact (Acts.receiveAbort voting unread sent).enabled

theorem Sound.enabled_iff (sound : Sound s) :
    Enabled Next s ↔ ¬ (s.coordinatorPhase = .done ∧ ∀ p, s.participantPhase p = .decided) := by
  constructor
  · intro enabled complete
    obtain ⟨done, decided⟩ := complete
    obtain ⟨s', step⟩ := enabled
    have contradiction : ∀ p, s.participantPhase p ≠ .waiting ∧ s.participantPhase p ≠ .voted :=
      fun p => by simp [decided p]
    cases acts_of_next step with
    | vote waiting _ _ => exact (contradiction _).1 waiting
    | receiveDecision undecided _ _ _ =>
        exact undecided.elim (contradiction _).2 (contradiction _).1
    | _ => simp_all
  · intro incomplete
    rcases sound.typeCheck.coordinatorPhase with waiting | voting | decided | done
    · exact (Acts.sendPrepare waiting).enabled
    · exact sound.enabled_of_voting voting
    · exact (Acts.sendDecision decided).enabled
    · have undecided : ∃ p, s.participantPhase p ≠ .decided := by
        by_contra every
        push Not at every
        exact incomplete ⟨done, every⟩
      obtain ⟨p, undecided⟩ := undecided
      have participant := (sound.participant p).resolve_right fun decided => undecided decided.1
      have sent := sound.announced done p
      have type : s.coordinatorDecision = .commit ∨ s.coordinatorDecision = .abort := by
        cases (sound.coordinator.resolve_left (by simp [done])).2 with
        | commit taken _ => exact .inl taken
        | abort _ taken _ => exact .inr taken
      exact (Acts.receiveDecision participant.1.symm participant.2 sent type).enabled

end Enabled

end TwoPhaseCommit.Tla
