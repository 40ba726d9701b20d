import TwoPhaseCommit.TlaProperties
import Mathlib.Data.Set.Card

/-! How many steps the TLA+ specification takes, and the participants for which
fairness makes it terminate. -/

set_option autoImplicit false

namespace TwoPhaseCommit.Tla

variable {Participant : Type}

/-! ## How long it takes to stop -/

section StepsTaken

variable {s s' : State Participant}

/-- The steps of the coordinator so far. To abort is part of receiving a vote. -/
def progress (s : State Participant) : Nat :=
  match s.coordinatorPhase with
  | .waiting => 0
  | .voting => 1
  | .decided => if s.coordinatorDecision = .abort then 1 else 2
  | .done => if s.coordinatorDecision = .abort then 2 else 3
  | .voted => 0

/-- Every step is one of the coordinator, a vote sent, a vote received or a decision received. -/
noncomputable def stepsTaken (s : State Participant) : Nat :=
  progress s + {p | s.votes p ≠ .none}.ncard + {p | ∃ v, .vote p v ∈ s.messages}.ncard +
    {p | s.decision p ≠ .none}.ncard

private theorem ncard_update [Finite Participant] [DecidableEq Participant]
    {record : Participant → Value} {p : Participant} {v : Value} (fresh : record p = .none)
    (proper : v ≠ .none) :
    {q | Function.update record p v q ≠ .none}.ncard = {q | record q ≠ .none}.ncard + 1 := by
  rw [← Set.ncard_insert_of_notMem (a := p) (by simp [fresh])]
  congr 1
  ext q
  by_cases same : q = p
  · simp [same, proper]
  · simp [same]

theorem stepsTaken_le [Finite Participant] (s : State Participant) :
    stepsTaken s ≤ 3 * Nat.card Participant + 3 := by
  have coordinator : progress s ≤ 3 := by
    unfold progress
    split <;> (try split) <;> omega
  have votes := Set.ncard_le_card {p | s.votes p ≠ .none}
  have voters := Set.ncard_le_card {p | ∃ v, .vote p v ∈ s.messages}
  have decisions := Set.ncard_le_card {p | s.decision p ≠ .none}
  unfold stepsTaken
  omega

variable [DecidableEq Participant] [Finite Participant]

theorem Acts.stepsTaken (sound : Sound s) (acts : Acts s s') :
    stepsTaken s' = stepsTaken s + 1 := by
  cases acts with
  | sendPrepare waiting =>
      simp [Tla.stepsTaken, progress, waiting]
      omega
  | receiveCommit voting unread sent =>
      have proper : Value.voteCommit ≠ .none := by simp
      simp only [Tla.stepsTaken, progress, voting, ncard_update unread proper]
      omega
  | receiveAbort voting unread sent =>
      simp [Tla.stepsTaken, progress, voting, ncard_update unread]
      omega
  | decide voting unanimous =>
      simp [Tla.stepsTaken, progress, voting]
      omega
  | sendDecision decided =>
      have same : progress { s with
          messages := s.messages ∪ {msg | ∃ p, msg = .decision p s.coordinatorDecision}
          coordinatorPhase := .done } = progress s + 1 := by
        simp only [progress, decided]
        split <;> rfl
      simp [Tla.stepsTaken, same]
      omega
  | @vote p v _ waiting _ isVote =>
      have fresh : p ∉ {q | ∃ v, .vote q v ∈ s.messages} := fun ⟨w, sent⟩ =>
        (sound.voted sent).2 waiting
      have voters : {q | ∃ w, .vote q w ∈ s.messages ∪ {.vote p v}} =
          insert p {q | ∃ w, .vote q w ∈ s.messages} := by
        ext q
        simp [exists_or]
      simp only [Tla.stepsTaken, voters, Set.ncard_insert_of_notMem fresh, progress]
      omega
  | @receiveDecision _ d _ _ unaware _ type =>
      have proper : d ≠ .none := by
        rintro rfl
        simp at type
      simp only [Tla.stepsTaken, progress, ncard_update unaware proper]
      omega

open Library.TransitionSystem (Enabled Changing)

open Library.TransitionSystem.Behaviour (changes)

theorem changes_eq_stepsTaken {run : Nat → State Participant} (spec : Spec run) (time : Nat) :
    changes run time = stepsTaken (run time) := by
  have started : stepsTaken (run 0) = 0 := by
    rw [show run 0 = .init from spec.initial]
    simp [stepsTaken, progress, State.init]
  have raised := spec.changes_eq sound_invariant stepsTaken
    (fun sound step => (acts_of_next step).stepsTaken sound) time
  omega

/-- A behaviour changes the state at most `3N + 3` times. When it stops with a
commit it has done so exactly that often, after an abort at least `N + 4` times. -/
theorem spec_changes {run : Nat → State Participant} (spec : Spec run) (time : Nat) :
    changes run time ≤ 3 * Nat.card Participant + 3 ∧
      (¬ Enabled Next (run time) →
        ((run time).coordinatorDecision = .commit →
          changes run time = 3 * Nat.card Participant + 3) ∧
        ((run time).coordinatorDecision = .abort →
          Nat.card Participant + 4 ≤ changes run time ∧
          changes run time ≤ 3 * Nat.card Participant + 2)) := by
  rw [changes_eq_stepsTaken spec time]
  have sound := spec.invariant sound_invariant time
  generalize run time = s at sound
  refine ⟨stepsTaken_le s, fun disabled => ?_⟩
  rw [sound.enabled_iff, not_not] at disabled
  obtain ⟨done, decided⟩ := disabled
  have all : {p | s.decision p ≠ .none}.ncard = Nat.card Participant := by
    rw [← Set.ncard_univ]
    congr 1
    refine Set.eq_univ_of_forall fun p undecided => ?_
    obtain ⟨_, _, same⟩ := (sound.participant p).resolve_left (by simp [decided p])
    cases (sound.coordinator.resolve_left (by simp [done])).2 with
    | commit taken _ => simp [undecided, taken] at same
    | abort _ taken _ => simp [undecided, taken] at same
  constructor
  · intro committed
    have unanimous := sound.consistency committed
    have votes : {p | s.votes p ≠ .none}.ncard = Nat.card Participant := by
      simp [unanimous, Set.ncard_univ]
    have voters : {p | ∃ v, .vote p v ∈ s.messages}.ncard = Nat.card Participant := by
      rw [← Set.ncard_univ]
      congr 1
      exact Set.eq_univ_of_forall fun p => ⟨_, sound.cast_of_counted (unanimous p) nofun⟩
    simp only [stepsTaken, progress, done, committed, votes, voters, all]
    simp
    omega
  · intro aborted
    obtain ⟨p, objected⟩ := sound.objection aborted
    have some : 0 < {p | s.votes p ≠ .none}.ncard :=
      (Set.ncard_pos).mpr ⟨p, by simp [objected]⟩
    have backed : {p | s.votes p ≠ .none}.ncard ≤ {p | ∃ v, .vote p v ∈ s.messages}.ncard :=
      Set.ncard_le_ncard fun q counted => ⟨_, (sound.tallied q counted).2⟩
    have voters := Set.ncard_le_card {p | ∃ v, .vote p v ∈ s.messages}
    simp only [stepsTaken, progress, done, aborted, all, if_true]
    omega

omit [Finite Participant] in
/-- The specification stops only when it is complete. -/
theorem spec_stops_iff {run : Nat → State Participant} (spec : Spec run) (time : Nat) :
    ¬ Enabled Next (run time) ↔
      (run time).coordinatorPhase = .done ∧ ∀ p, (run time).participantPhase p = .decided := by
  rw [(spec.invariant sound_invariant time).enabled_iff, not_not]

theorem FairSpec.exists_stop {run : Nat → State Participant}
    (fairSpec : FairSpec run) : ∃ time, (run time).coordinatorPhase = .done ∧
      ∀ p, (run time).participantPhase p = .decided := by
  obtain ⟨spec, fair⟩ := fairSpec
  obtain ⟨time, sound, disabled⟩ := spec.exists_disabled fair sound_invariant
    (fun s => 3 * Nat.card Participant + 3 - stepsTaken s) fun {s s'} sound step => by
      have raised := (acts_of_next step).stepsTaken sound
      have bounded := stepsTaken_le s'
      omega
  exact ⟨time, not_not.mp (sound.enabled_iff.not.mp disabled)⟩

theorem spec_stops_iff_fin_three : ∃ (run : Nat → State (Fin 3)) (time : Nat), FairSpec run ∧
    Enabled Next (run 0) ∧ ¬ Enabled Next (run time) ∧ (run time).coordinatorPhase = .done := by
  obtain ⟨run, fairSpec⟩ := exists_fairSpec (Fin 3)
  obtain ⟨time, done, decided⟩ := fairSpec.exists_stop
  have started : run 0 = .init := fairSpec.1.initial
  have begins : ¬ ¬ Enabled Next (run 0) := by
    rw [spec_stops_iff fairSpec.1 0]
    simp [started, State.init]
  exact ⟨run, time, fairSpec, not_not.mp begins,
    (spec_stops_iff fairSpec.1 time).mpr ⟨done, decided⟩, done⟩

theorem spec_changes_fin_three : ∃ run : Nat → State (Fin 3), FairSpec run ∧
    ∃ time, changes run time = 12 ∨ 7 ≤ changes run time ∧ changes run time ≤ 11 := by
  obtain ⟨run, fairSpec⟩ := exists_fairSpec (Fin 3)
  obtain ⟨time, done, decided⟩ := fairSpec.exists_stop
  have sound := fairSpec.1.invariant sound_invariant time
  have bounds := (spec_changes fairSpec.1 time).2
    (sound.enabled_iff.not.mpr (not_not.mpr ⟨done, decided⟩))
  simp only [Nat.card_fin] at bounds
  refine ⟨run, fairSpec, time, ?_⟩
  rcases (sound.coordinator.resolve_left (by simp [done])).2 with ⟨taken, _⟩ | ⟨_, taken, _⟩
  · exact .inl (bounds.1 taken)
  · exact .inr (bounds.2 taken)

end StepsTaken

/-! ## Fairness makes it terminate -/

section Termination

variable [DecidableEq Participant]

theorem FairSpec.termination [Finite Participant] {run : Nat → State Participant}
    (fairSpec : FairSpec run) : Termination run := by
  obtain ⟨time, done, decided⟩ := fairSpec.exists_stop
  have sound := fairSpec.1.invariant sound_invariant time
  refine ⟨time, fun p undecided => ?_⟩
  obtain ⟨_, _, same⟩ := (sound.participant p).resolve_left (by simp [decided p])
  cases (sound.coordinator.resolve_left (by simp [done])).2 with
  | commit taken _ => simp [undecided, taken] at same
  | abort _ taken _ => simp [undecided, taken] at same

open Classical in
/-- The participants of an infinite sequence vote one after the other, and nothing
else happens. -/
noncomputable def votingRun (voter : Nat → Participant) : Nat → State Participant
  | 0 => .init
  | time + 1 => {
      messages := {msg | ∃ p, msg = .prepare p} ∪
        {msg | ∃ index < time, msg = .vote (voter index) .voteCommit}
      coordinatorPhase := .voting
      coordinatorDecision := .none
      participantPhase := fun p => if ∃ index < time, voter index = p then .voted else .waiting
      votes := fun _ => .none
      decision := fun _ => .none }

private theorem votingRun_acts {voter : Nat → Participant} (distinct : voter.Injective)
    (time : Nat) :
    Acts (votingRun voter time) (votingRun voter (time + 1)) ∧
      votingRun voter (time + 1) ≠ votingRun voter time := by
  cases time with
  | zero =>
      have same : votingRun voter 1 = { votingRun voter 0 with
          messages := (votingRun voter 0).messages ∪ {msg | ∃ p, msg = .prepare p}
          coordinatorPhase := .voting } := by
        simp [votingRun, State.init]
      refine ⟨same ▸ .sendPrepare rfl, fun unchanged => ?_⟩
      have phase := congrArg State.coordinatorPhase unchanged
      cases phase
  | succ time =>
      have fresh : ¬ ∃ index < time, voter index = voter time := by
        intro earlier
        obtain ⟨index, before, equal⟩ := earlier
        exact absurd (distinct equal) (by omega)
      have same : votingRun voter (time + 1 + 1) = { votingRun voter (time + 1) with
          messages := (votingRun voter (time + 1)).messages ∪ {.vote (voter time) .voteCommit}
          participantPhase :=
            Function.update (votingRun voter (time + 1)).participantPhase (voter time)
              .voted } := by
        simp only [votingRun, State.mk.injEq, true_and, and_true]
        constructor
        · ext msg
          simp only [Set.mem_union, Set.mem_ofPred_eq, Set.mem_singleton_iff,
            Nat.exists_lt_succ_right, or_assoc]
        · ext p
          by_cases last : p = voter time
          · subst last
            simpa using ⟨time, by omega, rfl⟩
          · have other : voter time ≠ p := fun equal => last equal.symm
            simp only [Function.update_of_ne last, Nat.exists_lt_succ_right, other, or_false]
      have waiting : (votingRun voter (time + 1)).participantPhase (voter time) = .waiting :=
        if_neg fresh
      refine ⟨same ▸ .vote waiting (.inl ⟨voter time, rfl⟩) (.inl rfl), fun unchanged => ?_⟩
      have phase := congrFun
        (congrArg State.participantPhase (same.symm.trans unchanged)) (voter time)
      simp [waiting] at phase

private theorem votingRun_fairSpec {voter : Nat → Participant} (distinct : voter.Injective) :
    FairSpec (votingRun voter) := by
  refine ⟨⟨rfl, fun time => .inr (votingRun_acts distinct time).1.next⟩, fun start _ => ?_⟩
  obtain ⟨acts, changed⟩ := votingRun_acts distinct start
  exact ⟨start, le_rfl, acts.next, changed⟩

/-- Weak fairness of `Next` is enough for termination exactly when there are
finitely many participants. -/
theorem termination_iff_finite :
    (∀ run : Nat → State Participant, FairSpec run → Termination run) ↔ Finite Participant := by
  constructor
  · intro terminates
    by_contra infinite
    rw [not_finite_iff_infinite] at infinite
    let voter := Infinite.natEmbedding Participant
    obtain ⟨time, decided⟩ := terminates _ (votingRun_fairSpec voter.injective)
    refine decided (voter 0) ?_
    cases time <;> rfl
  · intro _ run fairSpec
    exact fairSpec.termination

end Termination

end TwoPhaseCommit.Tla
