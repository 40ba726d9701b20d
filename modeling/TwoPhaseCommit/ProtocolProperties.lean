import TwoPhaseCommit.Protocol

/-! Every message on the wire is backed by a durable record, and the records
agree. All facts are kept by every step of the protocol. -/

set_option autoImplicit false

namespace TwoPhaseCommit

namespace Message

variable {left right : NodeId}

@[simp] theorem prepare_inj : prepare left = prepare right ↔ left = right := by
  simp [prepare]

@[simp] theorem vote_inj {first second : Vote} :
    vote left first = vote right second ↔ left = right ∧ first = second := by
  simp [vote, and_comm]

@[simp] theorem decision_inj {first second : Decision} :
    decision left first = decision right second ↔ left = right ∧ first = second := by
  simp [decision, and_comm]

@[simp] theorem ack_inj : ack left = ack right ↔ left = right := by
  simp [ack]

@[simp] theorem prepare_ne_vote {cast : Vote} : prepare left ≠ vote right cast := by
  simp [prepare, vote]

@[simp] theorem prepare_ne_decision {decided : Decision} :
    prepare left ≠ decision right decided := by
  cases decided <;> simp [prepare, decision, Decision.messageType]

@[simp] theorem prepare_ne_ack : prepare left ≠ ack right := by
  simp [prepare, ack]

@[simp] theorem vote_ne_decision {cast : Vote} {decided : Decision} :
    vote left cast ≠ decision right decided := by
  simp [vote, decision]

@[simp] theorem vote_ne_ack {cast : Vote} : vote left cast ≠ ack right := by
  cases cast <;> simp [vote, ack, Vote.messageType]

@[simp] theorem decision_ne_ack {decided : Decision} : decision left decided ≠ ack right := by
  simp [decision, ack]

@[simp] theorem vote_ne_prepare {cast : Vote} : vote left cast ≠ prepare right :=
  prepare_ne_vote.symm

@[simp] theorem decision_ne_prepare {decided : Decision} :
    decision left decided ≠ prepare right :=
  prepare_ne_decision.symm

@[simp] theorem ack_ne_prepare : ack left ≠ prepare right := prepare_ne_ack.symm

@[simp] theorem decision_ne_vote {cast : Vote} {decided : Decision} :
    decision left decided ≠ vote right cast :=
  vote_ne_decision.symm

@[simp] theorem ack_ne_vote {cast : Vote} : ack left ≠ vote right cast := vote_ne_ack.symm

@[simp] theorem ack_ne_decision {decided : Decision} : ack left ≠ decision right decided :=
  decision_ne_ack.symm

end Message

namespace Protocol

namespace State

def send (state : State) (outgoing : List Message) : State :=
  { state with sent := state.sent ∪ {msg | msg ∈ outgoing} }

@[simp] theorem send_nil (state : State) : state.send [] = state := by
  simp [send]

theorem send_cons (state : State) (msg : Message) (rest : List Message) :
    state.send (msg :: rest) = { state with sent := insert msg state.sent }.send rest := by
  simp only [send, List.mem_cons, mk.injEq, true_and]
  ext other
  simp [or_assoc, or_left_comm]

theorem send_send (state : State) (first second : List Message) :
    (state.send first).send second = state.send (first ++ second) := by
  simp only [send, List.mem_append, mk.injEq, true_and]
  ext msg
  simp [or_assoc]

theorem send_of_subset {state : State} {outgoing : List Message}
    (known : ∀ msg ∈ outgoing, msg ∈ state.sent) : state.send outgoing = state := by
  have same : state.sent ∪ {msg | msg ∈ outgoing} = state.sent := Set.union_eq_left.mpr known
  simp [send, same]

end State

/-- The message belongs to the protocol of the given members. -/
inductive WellFormed (policy : Policy) : Message → Prop where
  | prepare {node : NodeId} : node ∈ policy.members → WellFormed policy (.prepare node)
  | vote {node : NodeId} {vote : Vote} :
      node ∈ policy.members → WellFormed policy (.vote node vote)
  | decision {node : NodeId} {decision : Decision} :
      node ∈ policy.members → WellFormed policy (.decision node decision)
  | ack {node : NodeId} : node ∈ policy.members → WellFormed policy (.ack node)

structure Sound (policy : Policy) (state : State) : Prop where
  wellFormed : ∀ msg ∈ state.sent, WellFormed policy msg
  vote_sent : ∀ node vote, .vote node vote ∈ state.sent ↔ state.vote node = some vote
  decision_sent : ∀ node decision, .decision node decision ∈ state.sent ↔
    node ∈ policy.members ∧ state.decision = some decision
  ack_sent : ∀ node, .ack node ∈ state.sent ↔ state.learned node ≠ none
  learned : ∀ node decision, state.learned node = some decision → state.decision = some decision
  tally : ∀ node vote, state.tally node = some vote → state.vote node = some vote
  acked : ∀ node ∈ state.acked, state.learned node ≠ none
  unanimous : state.decision = some .commit →
    ∀ node ∈ policy.members, state.vote node = some .commit
  objection : state.decision = some .abort →
    policy.mayAbort ∨ ∃ node ∈ policy.members, state.vote node = some .abort
  allowed : ∀ node vote, state.vote node = some vote → policy.mayVote node vote

variable {policy : Policy} {state after : State}

theorem Sound.start : Sound policy .start := by
  constructor <;> simp [State.start]

section WellFormed

variable {node : NodeId}

theorem wellFormed_prepare_iff : WellFormed policy (.prepare node) ↔ node ∈ policy.members := by
  constructor
  · intro formed
    generalize shape : Message.prepare node = msg at formed
    cases formed <;> simp_all
  · exact .prepare

theorem wellFormed_vote_iff {vote : Vote} :
    WellFormed policy (.vote node vote) ↔ node ∈ policy.members := by
  constructor
  · intro formed
    generalize shape : Message.vote node vote = msg at formed
    cases formed <;> simp_all
  · exact .vote

/-! A well-formed message is known by its type. -/

variable {msg : Message}

theorem WellFormed.member (formed : WellFormed policy msg) {node : NodeId}
    (recipient : msg.to = .node node) : node ∈ policy.members := by
  cases formed with
  | prepare member | decision member =>
      cases recipient
      exact member
  | vote _ | ack _ => cases recipient

theorem WellFormed.ne_start (formed : WellFormed policy msg) :
    msg.messageType ≠ .startTransaction := by
  cases formed with
  | prepare _ | ack _ => nofun
  | @vote _ vote _ => cases vote <;> nofun
  | @decision _ decision _ => cases decision <;> nofun

theorem WellFormed.eq_prepare (formed : WellFormed policy msg)
    (type : msg.messageType = .prepare) : ∃ node ∈ policy.members, msg = .prepare node := by
  cases formed with
  | prepare member => exact ⟨_, member, rfl⟩
  | @vote _ vote _ => cases vote <;> cases type
  | @decision _ decision _ => cases decision <;> cases type
  | ack _ => cases type

theorem WellFormed.eq_vote (formed : WellFormed policy msg) {vote : Vote}
    (type : msg.messageType = vote.messageType) :
    ∃ node ∈ policy.members, msg = .vote node vote := by
  cases formed with
  | prepare _ => cases vote <;> cases type
  | vote member =>
      obtain rfl := Vote.messageType_inj.mp type
      exact ⟨_, member, rfl⟩
  | @decision _ decision _ => cases vote <;> cases decision <;> cases type
  | ack _ => cases vote <;> cases type

theorem WellFormed.eq_decision (formed : WellFormed policy msg) {decision : Decision}
    (type : msg.messageType = decision.messageType) :
    ∃ node ∈ policy.members, msg = .decision node decision := by
  cases formed with
  | prepare _ => cases decision <;> cases type
  | @vote _ vote _ => cases vote <;> cases decision <;> cases type
  | decision member =>
      obtain rfl := Decision.messageType_inj.mp type
      exact ⟨_, member, rfl⟩
  | ack _ => cases decision <;> cases type

theorem WellFormed.eq_ack (formed : WellFormed policy msg) (type : msg.messageType = .ack) :
    ∃ node ∈ policy.members, msg = .ack node := by
  cases formed with
  | prepare _ => cases type
  | @vote _ vote _ => cases vote <;> cases type
  | @decision _ decision _ => cases decision <;> cases type
  | ack member => exact ⟨_, member, rfl⟩

end WellFormed

section Announcement

variable {node : NodeId} {announced : Decision}

@[simp] theorem decision_mem_announcement {decision : Decision} :
    .decision node decision ∈ announcement policy announced ↔
      node ∈ policy.members ∧ decision = announced := by
  constructor
  · intro belongs
    obtain ⟨member, belongs, same⟩ := belongs
    obtain ⟨rfl, rfl⟩ := Message.decision_inj.mp same
    exact ⟨belongs, rfl⟩
  · intro named
    obtain ⟨belongs, rfl⟩ := named
    exact ⟨node, belongs, rfl⟩

@[simp] theorem vote_not_mem_announcement {vote : Vote} :
    .vote node vote ∉ announcement policy announced := by
  intro listed
  obtain ⟨member, _, same⟩ := listed
  exact Message.vote_ne_decision same

@[simp] theorem ack_not_mem_announcement : .ack node ∉ announcement policy announced := by
  intro listed
  obtain ⟨member, _, same⟩ := listed
  exact Message.ack_ne_decision same

end Announcement

section Records

variable {node : NodeId}

theorem Sound.member_of_prepare (sound : Sound policy state)
    (sent : .prepare node ∈ state.sent) : node ∈ policy.members :=
  wellFormed_prepare_iff.mp (sound.wellFormed _ sent)

theorem Sound.member_of_vote (sound : Sound policy state) {vote : Vote}
    (cast : state.vote node = some vote) : node ∈ policy.members :=
  wellFormed_vote_iff.mp (sound.wellFormed _ ((sound.vote_sent node vote).mpr cast))

end Records

/-! ## Preservation, one step at a time -/

section Preservation

variable {node : NodeId}

private theorem Sound.prepare (sound : Sound policy state) (member : node ∈ policy.members) :
    Sound policy { state with sent := insert (.prepare node) state.sent } :=
  { sound with
    wellFormed := by
      intro msg either
      rcases either with rfl | sent
      · exact .prepare member
      · exact sound.wellFormed msg sent
    vote_sent := by simpa using sound.vote_sent
    decision_sent := by simpa using sound.decision_sent
    ack_sent := by simpa using sound.ack_sent }

private theorem Sound.castVote (sound : Sound policy state) {vote : Vote}
    (asked : .prepare node ∈ state.sent) (fresh : state.vote node = none)
    (allowed : policy.mayVote node vote) :
    Sound policy { state with
      vote := Function.update state.vote node (some vote)
      sent := insert (.vote node vote) state.sent } := by
  have grows : ∀ other cast, state.vote other = some cast →
      Function.update state.vote node (some vote) other = some cast := by
    intro other cast found
    rw [Function.update_of_ne (by rintro rfl; simp_all), found]
  exact { sound with
    wellFormed := by
      intro msg either
      rcases either with rfl | sent
      · exact .vote (sound.member_of_prepare asked)
      · exact sound.wellFormed msg sent
    vote_sent := by
      intro other cast
      by_cases same : other = node
      · subst same
        simp [sound.vote_sent, fresh, eq_comm]
      · simp [sound.vote_sent, same]
    decision_sent := by simpa using sound.decision_sent
    ack_sent := by simpa using sound.ack_sent
    tally := fun other cast counted => grows _ _ (sound.tally other cast counted)
    unanimous := fun decided other member => grows _ _ (sound.unanimous decided other member)
    objection := fun decided => (sound.objection decided).imp id
      fun ⟨other, member, cast⟩ => ⟨other, member, grows _ _ cast⟩
    allowed := by
      intro other cast found
      by_cases same : other = node
      · subst same
        obtain rfl : vote = cast := by simpa using found
        exact allowed
      · exact sound.allowed other cast (by simpa [Function.update_of_ne same] using found) }

private theorem Sound.tallyVote (sound : Sound policy state) {vote : Vote}
    (cast : .vote node vote ∈ state.sent) :
    Sound policy { state with tally := Function.update state.tally node (some vote) } :=
  { sound with
    tally := by
      intro other counted found
      by_cases same : other = node
      · subst same
        obtain rfl : vote = counted := by simpa using found
        exact (sound.vote_sent other vote).mp cast
      · exact sound.tally other counted (by simpa [Function.update_of_ne same] using found) }

private theorem Sound.decide (sound : Sound policy state) {decision : Decision}
    (undecided : state.decision = none) (justified : Justified policy state decision) :
    Sound policy { state with
      decision := some decision
      tally := fun _ => none
      sent := state.sent ∪ announcement policy decision } :=
  { sound with
    wellFormed := by
      intro msg either
      rcases either with sent | ⟨node, member, rfl⟩
      · exact sound.wellFormed msg sent
      · exact .decision member
    vote_sent := by simpa using sound.vote_sent
    decision_sent := by
      intro node other
      simp [sound.decision_sent, undecided, eq_comm]
    ack_sent := by simpa using sound.ack_sent
    learned := by
      intro node other learned
      simp [sound.learned node other learned] at undecided
    tally := by simp
    unanimous := by
      intro committed node member
      obtain rfl : decision = .commit := by simpa using committed
      exact sound.tally node .commit (justified node member)
    objection := by
      intro aborted
      obtain rfl : decision = .abort := by simpa using aborted
      exact justified.imp id fun ⟨node, member, counted⟩ =>
        ⟨node, member, sound.tally node .abort counted⟩ }

private theorem Sound.learn (sound : Sound policy state) {decision : Decision}
    (announced : .decision node decision ∈ state.sent) :
    Sound policy { state with
      learned := Function.update state.learned node (some decision)
      sent := insert (.ack node) state.sent } := by
  obtain ⟨member, decided⟩ := (sound.decision_sent node decision).mp announced
  exact { sound with
    wellFormed := by
      intro msg either
      rcases either with rfl | sent
      · exact .ack member
      · exact sound.wellFormed msg sent
    vote_sent := by simpa using sound.vote_sent
    decision_sent := by simpa using sound.decision_sent
    ack_sent := by
      intro other
      by_cases same : other = node
      · subst same
        simp
      · simpa [Function.update_of_ne same, same] using sound.ack_sent other
    learned := by
      intro other known found
      by_cases same : other = node
      · subst same
        obtain rfl : decision = known := by simpa using found
        exact decided
      · exact sound.learned other known (by simpa [Function.update_of_ne same] using found)
    acked := by
      intro other acked
      by_cases same : other = node
      · subst same
        simp
      · simpa [Function.update_of_ne same] using sound.acked other acked }

private theorem Sound.tallyAck (sound : Sound policy state)
    (acknowledged : .ack node ∈ state.sent) :
    Sound policy { state with acked := insert node state.acked } :=
  { sound with
    acked := by
      intro other either
      rcases either with rfl | acked
      · exact (sound.ack_sent other).mp acknowledged
      · exact sound.acked other acked }

private theorem Sound.forget (sound : Sound policy state) :
    Sound policy { state with tally := fun _ => none, acked := ∅ } :=
  { sound with
    tally := by simp
    acked := by simp }

theorem Sound.step (sound : Sound policy state) (step : Step policy state after) :
    Sound policy after := by
  cases step with
  | prepare member _ => exact sound.prepare member
  | castVote asked fresh _ allowed => exact sound.castVote asked fresh allowed
  | tallyVote cast _ => exact sound.tallyVote cast
  | decide undecided justified => exact sound.decide undecided justified
  | learn announced _ => exact sound.learn announced
  | tallyAck acknowledged => exact sound.tallyAck acknowledged
  | forget => exact sound.forget

theorem Sound.steps (sound : Sound policy state) (path : (system policy).Steps state after) :
    Sound policy after :=
  Library.TransitionSystem.Steps.preserves Sound.step path sound

end Preservation

/-! ## Records are final -/

/-- No durable record is ever changed or lost, and no message unsent. -/
structure Extends (state after : State) : Prop where
  vote : ∀ node vote, state.vote node = some vote → after.vote node = some vote
  learned : ∀ node decision, state.learned node = some decision →
    after.learned node = some decision
  decision : ∀ decision, state.decision = some decision → after.decision = some decision
  sent : state.sent ⊆ after.sent

theorem Extends.refl (state : State) : Extends state state :=
  ⟨fun _ _ => id, fun _ _ => id, fun _ => id, fun _ => id⟩

theorem Extends.trans {first second third : State} (before : Extends first second)
    (after : Extends second third) : Extends first third where
  vote node vote found := after.vote node vote (before.vote node vote found)
  learned node decision found := after.learned node decision (before.learned node decision found)
  decision decision found := after.decision decision (before.decision decision found)
  sent _ member := after.sent (before.sent member)

theorem Step.extends (step : Step policy state after) : Extends state after := by
  have kept : ∀ {α : Type} {record : NodeId → Option α} {node : NodeId} {value : Option α},
      record node = none → ∀ other found, record other = some found →
        Function.update record node value other = some found := by
    intro α record node value fresh other found recorded
    rw [Function.update_of_ne (by rintro rfl; simp_all), recorded]
  cases step with
  | prepare _ _ => exact { Extends.refl state with sent := Set.subset_insert _ _ }
  | castVote _ fresh _ _ =>
      exact { Extends.refl state with
        vote := kept fresh
        sent := Set.subset_insert _ _ }
  | tallyVote _ _ => exact { Extends.refl state with }
  | decide undecided _ =>
      exact { Extends.refl state with
        decision := by simp [undecided]
        sent := Set.subset_union_left }
  | learn _ unaware =>
      exact { Extends.refl state with
        learned := kept unaware
        sent := Set.subset_insert _ _ }
  | tallyAck _ => exact { Extends.refl state with }
  | forget => exact { Extends.refl state with }

theorem steps_extends (path : (system policy).Steps state after) : Extends state after :=
  Library.TransitionSystem.Steps.relates (fun _ => True) Extends (fun _ _ => trivial)
    Extends.refl Extends.trans (fun _ step => Step.extends step) path trivial

end Protocol

end TwoPhaseCommit
