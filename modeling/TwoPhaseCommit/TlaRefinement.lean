import TwoPhaseCommit.ProtocolProperties
import TwoPhaseCommit.TlaAlloy

/-! A protocol whose coordinator does not abort on its own refines the TLA+
specification. The first Prepare stands for the broadcast, and the votes are
received when the decision is taken, so a lost tally is never seen. -/

set_option autoImplicit false

namespace TwoPhaseCommit

def Tla.Value.ofDecision : Option Decision → Tla.Value
  | some decision => decision.tla
  | Option.none => .none

namespace Protocol

variable {policy : Policy} {state after : State}

/-- The messages the TLA+ network holds for the votes, the decision and the phase. -/
inductive Carries (votes : NodeId → Option Vote) (decision : Option Decision)
    (phase : Tla.Phase) : Tla.Message policy.Node → Prop where
  | prepare (n : policy.Node) : phase ≠ .waiting → Carries votes decision phase (.prepare n)
  | vote {n : policy.Node} {cast : Vote} :
      votes n.1 = some cast → Carries votes decision phase (.vote n cast.tla)
  | decision {n : policy.Node} {decided : Decision} :
      decision = some decided → Carries votes decision phase (.decision n decided.tla)

def State.participantPhase (state : State) (node : NodeId) : Tla.Phase :=
  match state.learned node, state.vote node with
  | some _, _ => .decided
  | none, some _ => .voted
  | none, none => .waiting

/-- The TLA+ state of a protocol state, for a phase and the votes received. -/
def State.tla (state : State) (phase : Tla.Phase) (votes : policy.Node → Tla.Value) :
    Tla.State policy.Node where
  messages := {m | Carries state.vote state.decision phase m}
  coordinatorPhase := phase
  coordinatorDecision := .ofDecision state.decision
  participantPhase n := state.participantPhase n.1
  votes := votes
  decision n := .ofDecision (state.learned n.1)

/-- The phase and the votes received fit the protocol state. -/
structure Timed (state : State) (phase : Tla.Phase) (votes : policy.Node → Tla.Value) : Prop where
  undecided : state.decision = none →
    (phase = .voting ∨ phase = .waiting ∧ state.sent = ∅) ∧ votes = fun _ => .none
  decided : state.decision ≠ none → phase = .done

def Follows (policy : Policy) (state : State) (image : Tla.State policy.Node) : Prop :=
  Sound policy state ∧ ∃ phase votes, Timed state phase votes ∧ image = state.tla phase votes

section Carries

variable {phase : Tla.Phase}

theorem carries_vote_iff (n : policy.Node) {cast : Vote} :
    Carries state.vote state.decision phase (.vote n cast.tla) ↔ state.vote n.1 = some cast := by
  constructor
  · intro carries
    generalize shape : Tla.Message.vote n cast.tla = m at carries
    cases carries with
    | prepare _ _ => simp at shape
    | @vote other recorded found =>
        obtain ⟨rfl, same⟩ := Tla.Message.vote_inj.mp shape
        cases cast <;> cases recorded <;> first | exact found | cases same
    | decision _ => simp at shape
  · exact .vote

theorem carries_decision_iff (n : policy.Node) {decided : Decision} :
    Carries state.vote state.decision phase (.decision n decided.tla) ↔
      state.decision = some decided := by
  constructor
  · intro carries
    generalize shape : Tla.Message.decision n decided.tla = m at carries
    cases carries with
    | prepare _ _ => cases decided <;> cases shape
    | vote _ => exact absurd shape.symm (by simp)
    | @decision other recorded found =>
        cases decided <;> cases recorded <;> first | exact found | cases shape
  · exact .decision

end Carries

/-! ## The actions between images -/

section Actions

variable {phase : Tla.Phase} {votes : policy.Node → Tla.Value} (node : policy.Node)

abbrev TlaSteps (policy : Policy) : Tla.State policy.Node → Tla.State policy.Node → Prop :=
  (Tla.system policy.Node).Steps

private theorem tlaStep {s s' : Tla.State policy.Node} (acts : Tla.Acts s s') :
    TlaSteps policy s s' :=
  .single acts.next

private theorem vote_mem_tla {node : policy.Node} (cast : Vote)
    (recorded : state.vote node.1 = some cast) :
    .vote node cast.tla ∈ (state.tla phase votes).messages :=
  Carries.vote recorded

private theorem sendPrepare_tla :
    TlaSteps policy (state.tla .waiting votes) (state.tla .voting votes) := by
  have same : state.tla .voting votes = { state.tla .waiting votes with
      messages := (state.tla .waiting votes).messages ∪
        {msg | ∃ p : policy.Node, msg = .prepare p}
      coordinatorPhase := .voting } := by
    simp only [State.tla, Tla.State.mk.injEq, and_true]
    ext m
    constructor
    · intro carries
      rcases carries with ⟨n, _⟩ | cast | decided
      · exact .inr ⟨n, rfl⟩
      · exact .inl (.vote cast)
      · exact .inl (.decision decided)
    · intro either
      rcases either with (⟨_, waiting⟩ | cast | decided) | ⟨n, rfl⟩
      · exact absurd rfl waiting
      · exact .vote cast
      · exact .decision decided
      · exact .prepare n nofun
  rw [same]
  exact tlaStep (.sendPrepare rfl)

private theorem vote_tla {cast : Vote} (asked : phase ≠ .waiting)
    (fresh : state.vote node.1 = none) (unaware : state.learned node.1 = none) :
    TlaSteps policy (state.tla phase votes) ({ state with
      vote := Function.update state.vote node.1 (some cast)
      sent := insert (Message.vote node.1 cast) state.sent }.tla phase votes) := by
  have same : ({ state with
      vote := Function.update state.vote node.1 (some cast)
      sent := insert (Message.vote node.1 cast) state.sent }.tla phase votes) =
      { state.tla phase votes with
        messages := (state.tla phase votes).messages ∪ {.vote node cast.tla}
        participantPhase :=
          Function.update (state.tla phase votes).participantPhase node .voted } := by
    simp only [State.tla, Tla.State.mk.injEq, true_and, and_true]
    constructor
    · ext m
      constructor
      · intro carries
        rcases carries with ⟨n, begun⟩ | @⟨n, other, recorded⟩ | decided
        · exact .inl (.prepare n begun)
        · by_cases equal : n = node
          · subst equal
            obtain rfl : cast = other := by simpa using recorded
            exact .inr rfl
          · have different : n.1 ≠ node.1 := fun same => equal (Subtype.ext same)
            exact .inl (.vote (by simpa [Function.update_of_ne different] using recorded))
        · exact .inl (.decision decided)
      · intro either
        rcases either with (⟨n, begun⟩ | @⟨n, other, recorded⟩ | decided) | rfl
        · exact .prepare n begun
        · have different : n.1 ≠ node.1 := by
            intro same
            simp [same, fresh] at recorded
          exact .vote (by simpa [Function.update_of_ne different] using recorded)
        · exact .decision decided
        · exact .vote (by simp)
    · funext n
      by_cases equal : n = node
      · subst equal
        simp [State.participantPhase, unaware]
      · have different : n.1 ≠ node.1 := fun same => equal (Subtype.ext same)
        simp [State.participantPhase, Function.update_of_ne different, Function.update_of_ne equal]
  rw [same]
  refine tlaStep (.vote ?_ (Carries.prepare node asked) ?_)
  · simp [State.tla, State.participantPhase, unaware, fresh]
  · cases cast
    · exact .inl rfl
    · exact .inr rfl

private theorem receiveAll_tla [Finite policy.Node]
    (unanimous : ∀ n : policy.Node, state.vote n.1 = some .commit) :
    TlaSteps policy (state.tla .voting fun _ => .none)
      (state.tla .voting fun _ => .voteCommit) := by
  classical
  let stage : Set policy.Node → Tla.State policy.Node := fun seen =>
    state.tla .voting fun n => if n ∈ seen then .voteCommit else .none
  have swept : TlaSteps policy (stage ∅) (stage Set.univ) := by
    refine Library.TransitionSystem.Steps.sweep stage fun seen n unread => ?_
    have same : stage (insert n seen) = { stage seen with
        votes := Function.update (stage seen).votes n .voteCommit } := by
      simp only [stage, State.tla, Tla.State.mk.injEq, true_and, and_true]
      funext other
      by_cases equal : other = n <;> simp [equal]
    rw [same]
    exact (Tla.Acts.receiveCommit rfl (if_neg unread) (vote_mem_tla .commit (unanimous n))).next
  simpa only [stage, Set.mem_empty_iff_false, Set.mem_univ, if_true, if_false] using swept

private theorem announce_tla (votes : policy.Node → Tla.Value) (decision : Decision)
    (undecided : state.decision = none) :
    TlaSteps policy { state.tla .voting votes with
        coordinatorPhase := .decided
        coordinatorDecision := decision.tla }
      ({ state with
          decision := some decision
          tally := fun _ => none
          sent := state.sent ∪ announcement policy decision }.tla .done votes) := by
  let decided : Tla.State policy.Node := { state.tla .voting votes with
    coordinatorPhase := .decided
    coordinatorDecision := decision.tla }
  have same : ({ state with
      decision := some decision
      tally := fun _ => none
      sent := state.sent ∪ announcement policy decision }.tla .done votes) = { decided with
        messages := decided.messages ∪ {msg | ∃ p, msg = .decision p decided.coordinatorDecision}
        coordinatorPhase := .done } := by
    simp only [decided, State.tla, Tla.State.mk.injEq, true_and]
    refine ⟨?_, rfl, rfl, trivial⟩
    ext m
    constructor
    · intro carries
      rcases carries with ⟨n, _⟩ | cast | @⟨n, other, recorded⟩
      · exact .inl (.prepare n nofun)
      · exact .inl (.vote cast)
      · obtain rfl := Option.some.inj recorded
        exact .inr ⟨n, rfl⟩
    · intro either
      rcases either with (⟨n, _⟩ | cast | recorded) | ⟨n, rfl⟩
      · exact .prepare n nofun
      · exact .vote cast
      · cases undecided.symm.trans recorded
      · exact .decision rfl
  rw [same]
  exact tlaStep (.sendDecision rfl)

private theorem learn_tla {decision : Decision} (decided : state.decision = some decision)
    (unaware : state.learned node.1 = none) :
    TlaSteps policy (state.tla phase votes) ({ state with
      learned := Function.update state.learned node.1 (some decision)
      sent := insert (Message.ack node.1) state.sent }.tla phase votes) := by
  have same : ({ state with
      learned := Function.update state.learned node.1 (some decision)
      sent := insert (Message.ack node.1) state.sent }.tla phase votes) =
      { state.tla phase votes with
        decision := Function.update (state.tla phase votes).decision node decision.tla
        participantPhase :=
          Function.update (state.tla phase votes).participantPhase node .decided } := by
    simp only [State.tla, Tla.State.mk.injEq, true_and]
    constructor
    all_goals
      funext n
      by_cases equal : n = node
      · subst equal
        simp [State.participantPhase, Tla.Value.ofDecision]
      · have different : n.1 ≠ node.1 := fun same => equal (Subtype.ext same)
        simp [State.participantPhase, Function.update_of_ne different, Function.update_of_ne equal]
  rw [same]
  refine tlaStep (.receiveDecision ?_ ?_ (Carries.decision decided) ?_)
  · cases cast : state.vote node.1 with
    | none => exact .inr (by simp [State.tla, State.participantPhase, unaware, cast])
    | some _ => exact .inl (by simp [State.tla, State.participantPhase, unaware, cast])
  · simp [State.tla, unaware, Tla.Value.ofDecision]
  · cases decision
    · exact .inl rfl
    · exact .inr rfl

end Actions

/-! ## The simulation -/

section Answers

variable {image : Tla.State policy.Node} {node : NodeId} {vote : Vote} {decision : Decision}

private theorem start_follows : State.start.tla .waiting (fun _ : policy.Node => .none) = .init ∧
    Follows policy .start (State.start.tla .waiting fun _ => .none) := by
  have quiet : {m : Tla.Message policy.Node | Carries State.start.vote State.start.decision
      .waiting m} = ∅ := by
    refine Set.eq_empty_of_forall_notMem fun m carries => ?_
    rcases carries with ⟨_, waiting⟩ | cast | decided
    · exact waiting rfl
    · cases cast
    · cases decided
  refine ⟨?_, Sound.start, _, _, ⟨fun _ => ⟨.inr ⟨rfl, rfl⟩, rfl⟩, fun decided => ?_⟩, rfl⟩
  · simp only [State.tla, quiet]
    rfl
  · exact absurd rfl decided

/-- Something was sent, so the TLA+ coordinator has left the waiting phase. -/
theorem Timed.not_waiting {phase : Tla.Phase} {votes : policy.Node → Tla.Value}
    (timed : Timed state phase votes) {msg : Message} (sent : msg ∈ state.sent) :
    phase ≠ .waiting := by
  intro same
  subst same
  cases decided : state.decision with
  | none =>
      obtain voting | ⟨_, quiet⟩ := (timed.undecided decided).1
      · cases voting
      · simp [quiet] at sent
  | some _ => cases timed.decided (by simp [decided])

/-- The coordinator of an undecided image can be made to ask for votes. -/
private theorem Follows.voting (follows : Follows policy state image)
    (undecided : state.decision = none) :
    TlaSteps policy image (state.tla .voting fun _ => .none) := by
  obtain ⟨_, phase, votes, timed, rfl⟩ := follows
  obtain ⟨phase, rfl⟩ := timed.undecided undecided
  rcases phase with rfl | ⟨rfl, _⟩
  · exact .refl
  · exact sendPrepare_tla

private theorem timed_voting (undecided : state.decision = none) :
    Timed state .voting fun _ : policy.Node => .none where
  undecided _ := ⟨.inl rfl, rfl⟩
  decided decided := absurd undecided decided

private theorem Follows.castVote (follows : Follows policy state image)
    (asked : .prepare node ∈ state.sent) (fresh : state.vote node = none)
    (unaware : state.learned node = none)
    (sound : Sound policy { state with
      vote := Function.update state.vote node (some vote)
      sent := insert (.vote node vote) state.sent }) :
    ∃ answer, TlaSteps policy image answer ∧ Follows policy { state with
      vote := Function.update state.vote node (some vote)
      sent := insert (.vote node vote) state.sent } answer := by
  obtain ⟨before, phase, votes, timed, rfl⟩ := follows
  let voter : policy.Node := ⟨node, before.member_of_prepare asked⟩
  have ready := timed.not_waiting asked
  refine ⟨_, vote_tla voter ready fresh unaware, sound, phase, votes, ?_, rfl⟩
  refine { timed with undecided := fun undecided => ?_ }
  obtain ⟨phase, same⟩ := timed.undecided undecided
  exact ⟨.inl (phase.resolve_right fun ⟨waiting, _⟩ => ready waiting), same⟩

private theorem Follows.decide [Finite policy.Node] (steadfast : ¬ policy.mayAbort)
    (follows : Follows policy state image) (undecided : state.decision = none)
    (justified : Justified policy state decision)
    (sound : Sound policy { state with
      decision := some decision
      tally := fun _ => none
      sent := state.sent ∪ announcement policy decision }) :
    ∃ answer, TlaSteps policy image answer ∧ Follows policy { state with
      decision := some decision
      tally := fun _ => none
      sent := state.sent ∪ announcement policy decision } answer := by
  have before := follows.1
  have voting := follows.voting undecided
  have timed : ∀ votes : policy.Node → Tla.Value, Timed { state with
      decision := some decision
      tally := fun _ => none
      sent := state.sent ∪ announcement policy decision } .done votes :=
    fun votes => ⟨nofun, fun _ => rfl⟩
  cases decision with
  | commit =>
      have received := receiveAll_tla fun n : policy.Node =>
        before.tally n.1 .commit (justified n.1 n.2)
      have decides := tlaStep (Tla.Acts.decide
        (s := state.tla .voting fun _ : policy.Node => .voteCommit) rfl fun _ => rfl)
      exact ⟨_, voting.trans (received.trans (decides.trans (announce_tla _ .commit undecided))),
        sound, _, _,
        timed _, rfl⟩
  | abort =>
      obtain ⟨objector, member, counted⟩ := justified.resolve_left steadfast
      have received := tlaStep (Tla.Acts.receiveAbort (p := ⟨objector, member⟩)
        (s := state.tla .voting fun _ : policy.Node => .none) rfl rfl
        (vote_mem_tla .abort (before.tally objector .abort counted)))
      have announces := announce_tla
        (Function.update (fun _ => .none) (⟨objector, member⟩ : policy.Node) .voteAbort)
        .abort undecided
      exact ⟨_, voting.trans (received.trans announces), sound, _, _, timed _, rfl⟩

private theorem Follows.learn (follows : Follows policy state image)
    (announced : .decision node decision ∈ state.sent) (unaware : state.learned node = none)
    (sound : Sound policy { state with
      learned := Function.update state.learned node (some decision)
      sent := insert (.ack node) state.sent }) :
    ∃ answer, TlaSteps policy image answer ∧ Follows policy { state with
      learned := Function.update state.learned node (some decision)
      sent := insert (.ack node) state.sent } answer := by
  obtain ⟨before, phase, votes, timed, rfl⟩ := follows
  obtain ⟨member, decided⟩ := (before.decision_sent node decision).mp announced
  let learner : policy.Node := ⟨node, member⟩
  refine ⟨_, learn_tla learner decided unaware, sound, phase, votes, ?_, rfl⟩
  refine { timed with undecided := fun undecided => ?_ }
  cases decided.symm.trans undecided

end Answers

theorem tla_simulation (policy : Policy) [Finite policy.Node] (steadfast : ¬ policy.mayAbort) :
    (system policy).Simulation (Tla.system policy.Node) (Follows policy) where
  initial := by
    intro state same
    subst same
    exact ⟨_, start_follows⟩
  next := by
    intro state after image follows step
    have sound := follows.1.step step
    cases step with
    | prepare _ undecided =>
        exact ⟨_, follows.voting undecided, sound, _, _, timed_voting undecided, rfl⟩
    | castVote asked fresh unaware _ => exact follows.castVote asked fresh unaware sound
    | decide undecided justified => exact follows.decide steadfast undecided justified sound
    | learn announced unaware => exact follows.learn announced unaware sound
    | tallyVote _ _ | tallyAck _ | forget =>
        obtain ⟨_, phase, votes, timed, rfl⟩ := follows
        exact ⟨_, .refl, sound, phase, votes, { timed with }, rfl⟩

end Protocol

end TwoPhaseCommit
