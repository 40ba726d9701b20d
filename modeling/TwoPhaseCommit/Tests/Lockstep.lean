import TwoPhaseCommit.Simulator.CertainAbort
import TwoPhaseCommit.Tests.ManualProtocol

/-! Votes in lockstep. The driver of the deterministic tests comes to an end for any votes, after
five rounds, and what it asserts in the end holds. -/

set_option autoImplicit false

namespace TwoPhaseCommit.Tests

variable {ρ : Type} [ChaCha8Rng ρ]

/-! ## The participants -/

theorem clamp_eq_zero {bias : ℚ} (nonpos : bias ≤ 0) : clamp bias 0 1 = 0 := by
  unfold clamp
  split
  · rfl
  · rename_i above
    have zero : bias = 0 := le_antisymm nonpos (not_lt.mp above)
    rw [zero]
    exact if_neg (by decide)

theorem not_mayAbort_of_nonpos [LawfulChaCha8Rng ρ] {bias : ℚ} (nonpos : bias ≤ 0) :
    ¬ Coordinator.MayAbort ρ bias := by
  have scaled : bias / 10 ≤ 0 := div_nonpos_of_nonpos_of_nonneg nonpos (by decide)
  intro drawn
  rcases drawn with ⟨generator, drawn | drawn⟩
  · rw [clamp_eq_zero scaled, LawfulChaCha8Rng.randomBool_zero] at drawn
    cases drawn
  · rw [clamp_eq_zero nonpos, LawfulChaCha8Rng.randomBool_zero] at drawn
    cases drawn

theorem withFixedVote_coin [LawfulChaCha8Rng ρ] [CertainChaCha8Rng ρ] (id : NodeId) (vote : Vote) :
    (Participant.withFixedVote id vote : Participant ρ).coin = vote := by
  cases vote with
  | commit =>
      have zero : clamp 0 0 1 = 0 := by decide
      simp only [Participant.coin, Participant.withFixedVote, Participant.new, zero,
        LawfulChaCha8Rng.randomBool_zero, Bool.false_eq_true, ↓reduceIte]
  | abort =>
      apply Participant.coin_eq_abort
      exact (le_refl 1 : (1 : ℚ) ≤ 1)

theorem onMessage_prepare {participant : Participant ρ} (fresh : participant.phase = .waiting)
    (node : NodeId) (atTime : Nat) : participant.onMessage (.prepare node) atTime =
      (participant.cast, [.vote participant.id participant.coin]) := by
  have received := participant.onMessage_received (.prepare node) atTime
  generalize participant.onMessage (.prepare node) atTime = result at received
  obtain ⟨after, outgoing⟩ := result
  change Participant.Received participant _ after outgoing at received
  cases received with
  | casts _ _ => rfl
  | recasts voted _ => cases fresh.symm.trans voted
  | @learns decision _ type | @acknowledges decision _ type => cases decision <;> cases type
  | ignores decided _ =>
      refine absurd ?_ (decided rfl)
      rw [Participant.decision, fresh]
      rfl

theorem onMessage_decision {participant : Participant ρ} (undecided : participant.decision = none)
    (node : NodeId) (decision : Decision) (atTime : Nat) :
    participant.onMessage (.decision node decision) atTime =
      (participant.informed decision, [.ack participant.id]) := by
  have received := participant.onMessage_received (.decision node decision) atTime
  generalize participant.onMessage (.decision node decision) atTime = result at received
  obtain ⟨after, outgoing⟩ := result
  change Participant.Received participant _ after outgoing at received
  cases received with
  | casts _ type | recasts _ type => cases decision <;> cases type
  | learns _ type =>
      obtain rfl := Decision.messageType_inj.mp type
      rfl
  | acknowledges decided _ => exact absurd undecided decided
  | ignores _ other => exact absurd rfl (other decision)

section FixedParticipants

variable {votes : List Vote}

theorem fixedParticipants_get {index : Nat} {participant : Participant ρ}
    (found : (fixedParticipants ρ votes)[index]? = some participant) :
    ∃ vote, votes[index]? = some vote ∧ participant = .withFixedVote ⟨UInt8.ofNat index⟩ vote := by
  rw [fixedParticipants, List.getElem?_mapIdx, Option.map_eq_some_iff] at found
  obtain ⟨vote, listed, same⟩ := found
  exact ⟨vote, listed, same.symm⟩

theorem fixedParticipants_numbered (few : votes.length < 256) (index : Nat)
    (participant : Participant ρ)
    (found : (fixedParticipants ρ votes)[index]? = some participant) :
    participant.id.id.toNat = index := by
  obtain ⟨vote, listed, rfl⟩ := fixedParticipants_get found
  have bound := (List.getElem?_eq_some_iff.mp listed).1
  change (UInt8.ofNat index).toNat = index
  rw [UInt8.toNat_ofNat']
  omega

theorem fixedParticipants_ids (few : votes.length < 256) :
    (fixedParticipants ρ votes).map (·.id) = manualNodes votes := by
  have count : (UInt8.ofNat votes.length).toNat = votes.length := by
    rw [UInt8.toNat_ofNat']
    omega
  rw [manualNodes, Simulator.nodeIds, count]
  apply List.ext_getElem
  · simp [fixedParticipants]
  · intro index _ _
    simp [fixedParticipants, Participant.withFixedVote, Participant.new]

theorem castParticipants_numbered (few : votes.length < 256) (index : Nat)
    (participant : Participant ρ)
    (found : ((fixedParticipants ρ votes).map .cast)[index]? = some participant) :
    participant.id.id.toNat = index := by
  rw [List.getElem?_map, Option.map_eq_some_iff] at found
  obtain ⟨origin, there, rfl⟩ := found
  exact fixedParticipants_numbered few index origin there

/-- A participant that has not been asked yet. -/
theorem fixedParticipants_waiting {participant : Participant ρ}
    (listed : participant ∈ fixedParticipants ρ votes) :
    participant.phase = .waiting := by
  obtain ⟨index, found⟩ := List.mem_iff_getElem?.mp listed
  obtain ⟨vote, _, rfl⟩ := fixedParticipants_get found
  rfl

theorem fixedParticipants_coin [LawfulChaCha8Rng ρ] [CertainChaCha8Rng ρ]
    (few : votes.length < 256) {participant : Participant ρ}
    (listed : participant ∈ fixedParticipants ρ votes) :
    votes[participant.id.id.toNat]? = some participant.coin := by
  obtain ⟨index, found⟩ := List.mem_iff_getElem?.mp listed
  rw [fixedParticipants_numbered few index participant found]
  obtain ⟨vote, there, rfl⟩ := fixedParticipants_get found
  rw [there, withFixedVote_coin]

end FixedParticipants

/-! ## The run -/

section Run

variable [LawfulChaCha8Rng ρ] [CertainChaCha8Rng ρ] {votes : List Vote} {abortBias : ℚ}
  {decision : Decision}

variable (ρ) in
def ballots (votes : List Vote) : List (NodeId × Vote) :=
  (fixedParticipants ρ votes).map fun participant => (participant.id, participant.coin)

/-- What the loop leaves behind. -/
structure Outcome (votes : List Vote) (decision : Decision) (final : ManualState ρ) : Prop where
  coordinator : final.coord.phase = .done decision
  participants : ∀ participant ∈ final.participants, participant.decision = some decision
  within : final.observations.Within (facts votes decision)
  allDecided : allDecided final.observations (manualNodes votes) = true
  rounds : final.time = 5

theorem manualNodes_nodup (votes : List Vote) : (manualNodes votes).Nodup :=
  Simulator.nodes_nodup { Setup.unanimous with nParticipants := UInt8.ofNat votes.length }

theorem observed_new : Observed (facts votes decision) [] Observations.new where
  within := {
    vote := fun found => by simp [Observations.new] at found
    decision := nofun
    learned := fun found => by simp [Observations.new] at found }
  informed _ listed := absurd listed List.not_mem_nil

/-! ## The coordinator's part -/

variable (ρ) in
/-- The coordinator once the transaction has started. -/
def votingCoordinator (votes : List Vote) (abortBias : ℚ) : Coordinator ρ :=
  { (.new (manualNodes votes) 0 abortBias 5 : Coordinator ρ) with phase := .voting 1 ∅ }

omit [LawfulChaCha8Rng ρ] [CertainChaCha8Rng ρ] in
theorem replays_start (few : votes.length < 256) : Coordinator.machine.Replays
    (.new (manualNodes votes) 0 abortBias 5 : Coordinator ρ)
    ([Simulator.startMessage].map (.onMessage · 1)) (votingCoordinator ρ votes abortBias)
    ((fixedParticipants ρ votes).map fun participant => .prepare participant.id) := by
  have prepares : (fixedParticipants ρ votes).map (fun participant => .prepare participant.id) =
      (manualNodes votes).map (Coordinator.messageTo .prepare) := by
    rw [← fixedParticipants_ids (ρ := ρ) few, List.map_map]
    rfl
  rw [prepares]
  exact .single _ _ _

omit [LawfulChaCha8Rng ρ] [CertainChaCha8Rng ρ] in
variable (ρ) in
theorem replays_ballots (abortBias : ℚ) (asked : votes ≠ []) (few : votes.length < 256) :
    ∃ decision rng,
    Coordinator.Returns ρ abortBias (ballots ρ votes) decision ∧
      Coordinator.machine.Replays (votingCoordinator ρ votes abortBias)
        (((fixedParticipants ρ votes).map fun participant =>
          .vote participant.id participant.coin).map (.onMessage · 3))
        ((votingCoordinator ρ votes abortBias).announced decision 3 rng)
        ((fixedParticipants ρ votes).map fun participant =>
          .decision participant.id decision) := by
  have ids : (fixedParticipants ρ votes).map (·.id) = manualNodes votes := fixedParticipants_ids few
  have phase : (votingCoordinator ρ votes abortBias).phase = .voting 1 ∅ := rfl
  have early : 3 - 1 < (votingCoordinator ρ votes abortBias).config.retransmitTimeout :=
    show 3 - 1 < 5 by decide
  have distinct : ((ballots ρ votes).map Prod.fst).Nodup := by
    rw [ballots, List.map_map]
    exact ids ▸ manualNodes_nodup votes
  have complete : (∅ : Std.ExtTreeMap NodeId Vote).size + (ballots ρ votes).length =
      (votingCoordinator ρ votes abortBias).nodes.length := by
    have length := congrArg List.length ids
    rw [List.length_map] at length
    rw [Std.ExtTreeMap.size_empty, Nat.zero_add, ballots, List.length_map]
    exact length
  have cast : ballots ρ votes ≠ [] := by simpa [ballots, fixedParticipants] using asked
  obtain ⟨decision, rng, returns, counts⟩ :=
    Coordinator.replays_votes phase early distinct (by simp) (by simp) complete cast
  have calls : (ballots ρ votes).map (Call.vote 3) = ((fixedParticipants ρ votes).map
      fun participant => .vote participant.id participant.coin).map (.onMessage · 3) := by
    rw [ballots, List.map_map, List.map_map]
    rfl
  have told : (votingCoordinator ρ votes abortBias).nodes.map
      (Coordinator.messageTo decision.messageType) =
        (fixedParticipants ρ votes).map fun participant => .decision participant.id decision := by
    change (manualNodes votes).map _ = _
    rw [← ids, List.map_map]
    rfl
  rw [calls, told] at counts
  exact ⟨decision, rng, returns, counts⟩

omit [LawfulChaCha8Rng ρ] [CertainChaCha8Rng ρ] in
theorem replays_acknowledgements {rng : ρ} (asked : votes ≠ []) (few : votes.length < 256) :
    Coordinator.machine.Replays ((votingCoordinator ρ votes abortBias).announced decision 3 rng)
      (((fixedParticipants ρ votes).map fun participant => .ack participant.id).map
        (.onMessage · 5))
      { (votingCoordinator ρ votes abortBias).announced decision 3 rng with
        phase := .done decision } [] := by
  have ids : (fixedParticipants ρ votes).map (·.id) = manualNodes votes := fixedParticipants_ids few
  have phase : ((votingCoordinator ρ votes abortBias).announced decision 3 rng).phase =
    .awaitingAcks decision 3 ∅ := rfl
  have early : 5 - 3 < ((votingCoordinator ρ votes abortBias).announced decision 3
    rng).config.retransmitTimeout := show 5 - 3 < 5 by decide
  have calls : (manualNodes votes).map (Call.ack 5) = ((fixedParticipants ρ votes).map
      fun participant => .ack participant.id).map (.onMessage · 5) := by
    rw [← ids, List.map_map, List.map_map]
    rfl
  have some : manualNodes votes ≠ [] := by
    rw [← ids]
    simpa [fixedParticipants] using asked
  rw [← calls]
  exact Coordinator.replays_acks phase early (manualNodes_nodup votes) (by simp)
    (by rw [Std.ExtTreeSet.size_empty, Nat.zero_add]; rfl) some

/-! ## The rounds -/

variable (ρ) in
/-- Everybody is asked to vote. -/
def askedState (votes : List Vote) (abortBias : ℚ) (observations : Observations) :
    ManualState ρ where
  coord := votingCoordinator ρ votes abortBias
  participants := fixedParticipants ρ votes
  observations := observations
  queue := (fixedParticipants ρ votes).map fun participant => .prepare participant.id
  time := 1

variable (ρ) in
/-- Everybody has voted. -/
def votedState (votes : List Vote) (abortBias : ℚ) (observations : Observations) :
    ManualState ρ where
  coord := votingCoordinator ρ votes abortBias
  participants := (fixedParticipants ρ votes).map .cast
  observations := observations
  queue := (fixedParticipants ρ votes).map fun participant =>
    .vote participant.id participant.coin
  time := 2

/-- The coordinator has decided. -/
def announcedState (votes : List Vote) (abortBias : ℚ) (decision : Decision) (rng : ρ)
    (observations : Observations) : ManualState ρ where
  coord := (votingCoordinator ρ votes abortBias).announced decision 3 rng
  participants := (fixedParticipants ρ votes).map .cast
  observations := observations
  queue := (fixedParticipants ρ votes).map fun participant => .decision participant.id decision
  time := 3

/-- Everybody has the decision. -/
def informedState (votes : List Vote) (abortBias : ℚ) (decision : Decision) (rng : ρ)
    (observations : Observations) : ManualState ρ where
  coord := (votingCoordinator ρ votes abortBias).announced decision 3 rng
  participants := ((fixedParticipants ρ votes).map .cast).map (.informed · decision)
  observations := observations
  queue := (fixedParticipants ρ votes).map fun participant => .ack participant.id
  time := 4

/-- Everybody has acknowledged. -/
def doneState (votes : List Vote) (abortBias : ℚ) (decision : Decision) (rng : ρ)
    (observations : Observations) : ManualState ρ where
  coord := { (votingCoordinator ρ votes abortBias).announced decision 3 rng with
    phase := .done decision }
  participants := ((fixedParticipants ρ votes).map .cast).map (.informed · decision)
  observations := observations
  queue := []
  time := 5

omit [LawfulChaCha8Rng ρ] [CertainChaCha8Rng ρ] in
private theorem map_fixedParticipants_ne_nil {α : Type} (asked : votes ≠ [])
    (field : Participant ρ → α) : (fixedParticipants ρ votes).map field ≠ [] := by
  simpa [fixedParticipants] using asked

section Rounds

variable {delivered : List Message} {observations : Observations}

omit [LawfulChaCha8Rng ρ] [CertainChaCha8Rng ρ] in
variable (ρ) in
theorem round_start (asked : votes ≠ []) (few : votes.length < 256) (abortBias : ℚ)
    (decision : Decision) : ∃ after,
      (manualStart ρ votes abortBias).round = .ok (askedState ρ votes abortBias after) ∧
        Observed (facts votes decision) [Simulator.startMessage] after :=
  ManualState.round_coordinator (manualStart ρ votes abortBias) observed_new
    (List.forall_mem_singleton.mpr rfl) (List.forall_mem_singleton.mpr truthful_start)
    (replays_start few) (List.forall_mem_map.mpr fun _ _ => truthful_prepare _)
    (.inl (map_fixedParticipants_ne_nil asked _)) (show 0 + 1 < 100 by decide)

theorem round_prepares (asked : votes ≠ []) (few : votes.length < 256) (abortBias : ℚ)
    (observed : Observed (facts votes decision) delivered observations) : ∃ after,
      (askedState ρ votes abortBias observations).round = .ok (votedState ρ votes abortBias after) ∧
        Observed (facts votes decision)
          (delivered ++ (askedState ρ votes abortBias observations).queue) after := by
  have present : fixedParticipants ρ votes ≠ [] := by simpa [fixedParticipants] using asked
  exact ManualState.round_participants (askedState ρ votes abortBias observations) .prepare .cast
    (fun participant => .vote participant.id participant.coin) observed rfl
    (fixedParticipants_numbered few) (fun _ => rfl)
    (fun _ listed => onMessage_prepare (fixedParticipants_waiting listed) _ _)
    (fun _ listed => ⟨truthful_prepare _, truthful_vote (fixedParticipants_coin few listed)⟩)
    present (show 1 + 1 < 100 by decide)

theorem round_votes {rng : ρ} (asked : votes ≠ []) (few : votes.length < 256)
    (observed : Observed (facts votes decision) delivered observations)
    (counts : Coordinator.machine.Replays (votingCoordinator ρ votes abortBias)
      (((fixedParticipants ρ votes).map fun participant =>
        .vote participant.id participant.coin).map (.onMessage · 3))
      ((votingCoordinator ρ votes abortBias).announced decision 3 rng)
      ((fixedParticipants ρ votes).map fun participant => .decision participant.id decision)) :
    ∃ after, (votedState ρ votes abortBias observations).round =
        .ok (announcedState votes abortBias decision rng after) ∧
      Observed (facts votes decision)
        (delivered ++ (votedState ρ votes abortBias observations).queue) after := by
  have truthful : ∀ participant ∈ fixedParticipants ρ votes,
      Truthful (facts votes decision) (.vote participant.id participant.coin) :=
    fun _ listed => truthful_vote (fixedParticipants_coin few listed)
  exact ManualState.round_coordinator (votedState ρ votes abortBias observations) observed
    (List.forall_mem_map.mpr fun _ _ => rfl) (List.forall_mem_map.mpr truthful) counts
    (List.forall_mem_map.mpr fun _ _ => truthful_decision _)
    (.inl (map_fixedParticipants_ne_nil asked _)) (show 2 + 1 < 100 by decide)

omit [LawfulChaCha8Rng ρ] [CertainChaCha8Rng ρ] in
theorem round_decisions (asked : votes ≠ []) (few : votes.length < 256) (abortBias : ℚ) (rng : ρ)
    (observed : Observed (facts votes decision) delivered observations) : ∃ after,
      (announcedState votes abortBias decision rng observations).round =
          .ok (informedState votes abortBias decision rng after) ∧
        Observed (facts votes decision)
          (delivered ++ (announcedState votes abortBias decision rng observations).queue)
          after := by
  let self : ManualState ρ := announcedState votes abortBias decision rng observations
  have acks : (self.participants.map fun participant => Message.ack participant.id) =
      (fixedParticipants ρ votes).map fun participant => .ack participant.id := by
    simp only [self, announcedState, List.map_map]
    rfl
  obtain ⟨after, informed, observed⟩ := ManualState.round_participants self
    (.decision · decision) (.informed · decision) (fun participant => .ack participant.id)
    observed (by simp only [self, announcedState, List.map_map]; rfl)
    (castParticipants_numbered few) (fun _ => rfl)
    (List.forall_mem_map.mpr fun _ _ => onMessage_decision rfl _ _ _)
    (fun _ _ => ⟨truthful_decision _, truthful_ack _⟩)
    (map_fixedParticipants_ne_nil asked _) (show 3 + 1 < 100 by decide)
  rw [acks] at informed
  exact ⟨after, informed, observed⟩

omit [LawfulChaCha8Rng ρ] [CertainChaCha8Rng ρ] in
theorem round_acks (asked : votes ≠ []) (few : votes.length < 256) (abortBias : ℚ) (rng : ρ)
    (observed : Observed (facts votes decision) delivered observations) : ∃ after,
      (informedState votes abortBias decision rng observations).round =
          .ok (doneState votes abortBias decision rng after) ∧
        Observed (facts votes decision)
          (delivered ++ (informedState votes abortBias decision rng observations).queue) after :=
  ManualState.round_coordinator (informedState votes abortBias decision rng observations) observed
    (List.forall_mem_map.mpr fun _ _ => rfl) (List.forall_mem_map.mpr fun _ _ => truthful_ack _)
    (replays_acknowledgements asked few) (fun _ listed => absurd listed List.not_mem_nil)
    (.inr ⟨decision, rfl⟩) (show 4 + 1 < 100 by decide)

end Rounds

/-! ## The run -/

omit [LawfulChaCha8Rng ρ] [CertainChaCha8Rng ρ] in
private theorem doneState_outcome {rng : ρ} {delivered : List Message} {observations : Observations}
    (few : votes.length < 256)
    (observed : Observed (facts votes decision) delivered observations)
    (announced : ∀ participant ∈ fixedParticipants ρ votes,
      .decision participant.id decision ∈ delivered) :
    Outcome votes decision (doneState votes abortBias decision rng observations) where
  coordinator := rfl
  participants := List.forall_mem_map.mpr fun _ _ => rfl
  within := observed.within
  allDecided := by
    apply observed.allDecided
    intro node listed
    rw [← fixedParticipants_ids (ρ := ρ) few] at listed
    obtain ⟨participant, member, rfl⟩ := List.mem_map.mp listed
    exact announced participant member
  rounds := rfl

omit [LawfulChaCha8Rng ρ] in
private theorem not_commit_of_replays {rng : ρ} {calls : List Call} {outgoing : List Message}
    (certain : 1 ≤ (votingCoordinator ρ votes abortBias).config.abortBias)
    (counts : Coordinator.machine.Replays (votingCoordinator ρ votes abortBias) calls
      ((votingCoordinator ρ votes abortBias).announced decision 3 rng) outgoing) :
    decision ≠ .commit := by
  intro committed
  have abandons := Coordinator.run_abandons certain rfl (fun same => by cases same) calls
  rw [← counts.state] at abandons
  exact abandons (congrArg some committed)

variable (ρ) in
/-- Five rounds: the start, the requests, the votes, the decision, and the acknowledgements. -/
theorem lockstep (abortBias : ℚ) (asked : votes ≠ []) (few : votes.length < 256) :
    ∃ decision final,
    ManualState.loop 100 (manualStart ρ votes abortBias) = .ok final ∧
      Outcome votes decision final ∧
      Coordinator.Returns ρ abortBias (ballots ρ votes) decision ∧
      (1 ≤ abortBias → decision ≠ .commit) := by
  obtain ⟨decision, rng, returns, counts⟩ := replays_ballots ρ abortBias asked few
  obtain ⟨first, started, observed⟩ := round_start ρ asked few abortBias decision
  obtain ⟨second, voted, observed⟩ := round_prepares (ρ := ρ) asked few abortBias observed
  obtain ⟨third, decided, observed⟩ := round_votes asked few observed counts
  obtain ⟨fourth, informed, observed⟩ := round_decisions asked few abortBias rng observed
  obtain ⟨fifth, finished, observed⟩ := round_acks asked few abortBias rng observed
  refine ⟨decision, doneState votes abortBias decision rng fifth, ?_, ?_, returns,
    fun certain => not_commit_of_replays certain counts⟩
  · have some : ∀ message : Participant ρ → Message,
        (fixedParticipants ρ votes).map message ≠ [] := map_fixedParticipants_ne_nil asked
    apply (ManualState.loop_round (List.cons_ne_nil _ _) started).trans
    apply (ManualState.loop_round (some _) voted).trans
    apply (ManualState.loop_round (some _) decided).trans
    apply (ManualState.loop_round (some _) informed).trans
    apply (ManualState.loop_round (some _) finished).trans
    exact ManualState.loop_done rfl rfl
  · apply doneState_outcome few observed
    intro participant member
    refine List.mem_append_left _ (List.mem_append_right _ ?_)
    exact List.mem_map.mpr ⟨participant, member, rfl⟩

/-! ## The outcome -/

omit [ChaCha8Rng ρ] [LawfulChaCha8Rng ρ] [CertainChaCha8Rng ρ] in
theorem checked_of_within {observations : Observations}
    (within : observations.Within (facts votes decision))
    (unanimous : decision = .commit → ∀ vote ∈ votes, vote = .commit) :
    checkAllInvariants observations = .ok () := by
  rw [Observations.checkAllInvariants_ok_iff]
  refine ⟨?_, ?_, ?_⟩
  · intro first second ours theirs mine other
    have here := within.learned mine
    have there := within.learned other
    exact Option.some.inj (here.symm.trans there)
  · intro committed node vote found
    have commit := Option.some.inj (within.decision committed)
    exact unanimous commit vote (List.mem_of_getElem? (within.vote found))
  · intro aborted node known found committed
    have abort := (within.decision aborted).symm.trans (within.learned found)
    rw [committed] at abort
    cases abort

omit [ChaCha8Rng ρ] [LawfulChaCha8Rng ρ] [CertainChaCha8Rng ρ] in
private theorem forM_assert_ok {participants : List (Participant ρ)} {expected : Decision}
    (decided : ∀ participant ∈ participants, participant.decision = some expected) :
    participants.forM (fun participant => assert (participant.decision = some expected)
      (.unexpectedDecision participant.decision)) = .ok () := by
  induction participants with
  | nil => rfl
  | cons participant rest ih =>
      obtain ⟨here, others⟩ := List.forall_mem_cons.mp decided
      simp only [List.forM, here, decide_true, assert, ↓reduceIte]
      exact ih others

omit [ChaCha8Rng ρ] [LawfulChaCha8Rng ρ] [CertainChaCha8Rng ρ] in
/-- Nothing but the decision itself can be unexpected in the end. -/
theorem Outcome.check {final : ManualState ρ} (outcome : Outcome votes decision final)
    (unanimous : decision = .commit → ∀ vote ∈ votes, vote = .commit) (expected : Decision) :
    checkOutcome final (manualNodes votes) expected =
      if decision = expected then .ok () else .error (.unexpectedDecision (some decision)) := by
  have decided : final.coord.decision = some decision := by
    rw [Coordinator.decision, outcome.coordinator]
    rfl
  unfold checkOutcome
  simp only [checked_of_within outcome.within unanimous, outcome.allDecided, decided]
  by_cases same : decision = expected
  · subst same
    simp only [assert, decide_true, ↓reduceIte]
    exact forM_assert_ok outcome.participants
  · simp only [assert, Option.some.injEq, same, decide_false, ↓reduceIte]
    rfl

omit [LawfulChaCha8Rng ρ] [CertainChaCha8Rng ρ] in
private theorem mem_ballots {participant : Participant ρ}
    (listed : participant ∈ fixedParticipants ρ votes) :
    (participant.id, participant.coin) ∈ ballots ρ votes :=
  List.mem_map.mpr ⟨participant, listed, rfl⟩

theorem unanimous_of_returns (returns : Coordinator.Returns ρ abortBias (ballots ρ votes) decision)
    (commits : decision = .commit) : ∀ vote ∈ votes, vote = .commit := by
  intro vote listed
  obtain ⟨index, found⟩ := List.mem_iff_getElem?.mp listed
  have created : (fixedParticipants ρ votes)[index]? =
      some (.withFixedVote ⟨UInt8.ofNat index⟩ vote) := by
    rw [fixedParticipants, List.getElem?_mapIdx, found]
    rfl
  have ballot := returns.commit commits _ (mem_ballots (List.mem_of_getElem? created))
  rw [withFixedVote_coin] at ballot
  exact ballot

theorem objection_of_returns (returns : Coordinator.Returns ρ abortBias (ballots ρ votes) decision)
    (aborts : decision = .abort) : .abort ∈ votes ∨ Coordinator.MayAbort ρ abortBias := by
  rcases returns.abort aborts with ⟨ballot, listed, objects⟩ | drawn
  · obtain ⟨participant, member, rfl⟩ := List.mem_map.mp listed
    obtain ⟨index, found⟩ := List.mem_iff_getElem?.mp member
    obtain ⟨vote, there, rfl⟩ := fixedParticipants_get found
    change (Participant.withFixedVote _ vote : Participant ρ).coin = .abort at objects
    rw [withFixedVote_coin] at objects
    exact .inl (objects ▸ List.mem_of_getElem? there)
  · exact .inr drawn

variable (ρ) in
/-- For any votes the driver ends after five rounds and its assertions hold, but for the last one
if the coordinator may or may not object to votes that are all for Commit. -/
theorem manual_protocol (asked : votes ≠ []) (few : votes.length < 256) (abortBias : ℚ) :
    (∃ final, ManualState.loop 100 (manualStart ρ votes abortBias) = .ok final ∧
        final.time = 5) ∧
      (manualProtocol ρ votes abortBias = .ok () ∨
        (0 < abortBias ∧ abortBias < 1 ∧ (∀ vote ∈ votes, vote = .commit) ∧
          manualProtocol ρ votes abortBias = .error (.unexpectedDecision (some .abort)))) := by
  obtain ⟨decision, final, ran, outcome, returns, certain⟩ :=
    lockstep ρ abortBias asked few
  have unanimous := unanimous_of_returns returns
  have checked : manualProtocol ρ votes abortBias =
      if decision = expectedDecision votes abortBias then .ok ()
      else .error (.unexpectedDecision (some decision)) := by
    simp only [manualProtocol, ran, bind, Except.bind]
    exact outcome.check unanimous _
  refine ⟨⟨final, ran, outcome.rounds⟩, ?_⟩
  rw [checked]
  by_cases same : decision = expectedDecision votes abortBias
  · exact .inl (if_pos same)
  · right
    rw [if_neg same]
    cases decision with
    | commit =>
        refine absurd ?_ same
        rw [expectedDecision, if_neg fun above => certain above rfl, if_neg]
        intro objection
        obtain ⟨vote, listed, aborts⟩ := List.any_eq_true.mp objection
        rw [unanimous rfl vote listed] at aborts
        cases aborts
    | abort =>
        unfold expectedDecision at same
        split at same
        · exact absurd rfl same
        · rename_i below
          split at same
          · exact absurd rfl same
          · rename_i united
            have commits : ∀ vote ∈ votes, vote = .commit := by
              intro vote listed
              cases vote with
              | commit => rfl
              | abort => exact absurd (List.any_eq_true.mpr ⟨_, listed, rfl⟩) united
            have positive : 0 < abortBias := by
              by_contra nonpos
              rcases objection_of_returns returns rfl with objection | drawn
              · cases commits _ objection
              · exact not_mayAbort_of_nonpos (not_lt.mp nonpos) drawn
            exact ⟨positive, not_le.mp below, commits, rfl⟩

/-- The tests that call the driver. -/
theorem manual_protocol_two :
    (manualProtocol ForcedRng [.commit, .commit] 0 = .ok () ∧
      ∃ final, ManualState.loop 100 (manualStart ForcedRng [.commit, .commit] 0) = .ok final ∧
        final.time = 5) ∧
    manualProtocol ForcedRng [.commit, .abort] 0 = .ok () ∧
    manualProtocol ForcedRng [.commit, .commit] 1 = .ok () := by
  refine ⟨⟨?_, (manual_protocol ForcedRng (by decide) (by decide) 0).1⟩, ?_, ?_⟩
  · apply (manual_protocol ForcedRng (by decide) (by decide) 0).2.resolve_right
    exact fun fails => absurd fails.1 (by decide)
  · apply (manual_protocol ForcedRng (by decide) (by decide) 0).2.resolve_right
    exact fun fails => absurd fails.1 (by decide)
  · apply (manual_protocol ForcedRng (by decide) (by decide) 1).2.resolve_right
    exact fun fails => absurd fails.2.1 (by decide)

end Run

end TwoPhaseCommit.Tests
