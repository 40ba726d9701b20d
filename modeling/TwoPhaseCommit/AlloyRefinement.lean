import TwoPhaseCommit.Alloy
import TwoPhaseCommit.ProtocolProperties

/-! The protocol refines the Alloy model. Where the protocol loses a tally the
Alloy coordinator keeps the votes it has received, and the first Prepare stands
for the broadcast to all nodes. -/

set_option autoImplicit false

namespace TwoPhaseCommit

namespace Alloy

variable {Node : Type}

def MessageType.ofVote : Vote → MessageType
  | .commit => .voteCommit
  | .abort => .voteAbort

def MessageType.ofDecision : Decision → MessageType
  | .commit => .decCommit
  | .abort => .decAbort

namespace Message

def prepare (n : Node) : Message Node := ⟨.prepare, .coordinator, .node n⟩

def vote (n : Node) (vote : Vote) : Message Node := ⟨.ofVote vote, .node n, .coordinator⟩

def decision (n : Node) (decision : Decision) : Message Node :=
  ⟨.ofDecision decision, .coordinator, .node n⟩

/-- The atoms that `messagePopulation` asks for, and no others. -/
inductive Populates : Message Node → Prop where
  | prepare (n : Node) : Populates (prepare n)
  | vote (n : Node) (cast : Vote) : Populates (vote n cast)
  | decision (n : Node) (decided : Decision) : Populates (decision n decided)

end Message

section Populates

variable {Node : Type} {m : Message Node}

theorem Message.populates_prepare_iff :
    m.Populates ∧ m.messageType = .prepare ∧ m.origin = .coordinator ↔ ∃ n, m = .prepare n := by
  constructor
  · intro populated
    obtain ⟨populates, type, _⟩ := populated
    cases populates with
    | prepare n => exact ⟨n, rfl⟩
    | vote n cast => cases cast <;> cases type
    | decision n decided => cases decided <;> cases type
  · intro named
    obtain ⟨n, rfl⟩ := named
    exact ⟨.prepare n, rfl, rfl⟩

theorem Message.populates_vote_iff {n : Node} {cast : Vote} :
    m.Populates ∧ m.messageType = .ofVote cast ∧ m.origin = .node n ∧ m.dest = .coordinator ↔
      m = .vote n cast := by
  constructor
  · obtain ⟨_, _, _⟩ := m
    intro populated
    obtain ⟨_, rfl, rfl, rfl⟩ := populated
    rfl
  · intro same
    subst same
    exact ⟨.vote n cast, rfl, rfl, rfl⟩

theorem Message.populates_decision_iff {decided : Decision} :
    m.Populates ∧ m.messageType = .ofDecision decided ∧ m.origin = .coordinator ↔
      ∃ n, m = .decision n decided := by
  constructor
  · intro populated
    obtain ⟨populates, type, _⟩ := populated
    cases populates with
    | prepare n => cases decided <;> cases type
    | vote n cast => cases cast <;> cases decided <;> cases type
    | decision n other =>
        cases other <;> cases decided <;> cases type <;> exact ⟨n, rfl⟩
  · intro named
    obtain ⟨n, rfl⟩ := named
    exact ⟨.decision n decided, rfl, rfl⟩

end Populates

def population (Node : Type) : Set (Message Node) := {m | m.Populates}

theorem population_messagePopulation : MessagePopulation (population Node) := by
  have unique : ∀ {type : MessageType} {origin dest : Actor Node},
      Message.Populates ⟨type, origin, dest⟩ → ∃! m, m ∈ population Node ∧
        m.messageType = type ∧ m.origin = origin ∧ m.dest = dest := by
    intro type origin dest populates
    refine ⟨_, ⟨populates, rfl, rfl, rfl⟩, ?_⟩
    rintro ⟨_, _, _⟩ ⟨_, rfl, rfl, rfl⟩
    rfl
  exact fun n => ⟨unique (.prepare n), unique (.vote n .commit), unique (.vote n .abort),
    unique (.decision n .commit), unique (.decision n .abort)⟩

end Alloy

namespace Protocol

open Alloy (MessageType)

abbrev Policy.Node (policy : Policy) : Type := {node : NodeId // node ∈ policy.members}

variable {policy : Policy} {state after : State}

/-- The messages the Alloy network holds for the votes, the decision and the phase. -/
inductive Sends (votes : NodeId → Option Vote) (decision : Option Decision)
    (phase : Alloy.Phase) : Alloy.Message policy.Node → Prop where
  | prepare (n : policy.Node) : phase ≠ .waiting → Sends votes decision phase (.prepare n)
  | vote {n : policy.Node} {vote : Vote} :
      votes n.1 = some vote → Sends votes decision phase (.vote n vote)
  | decision {n : policy.Node} {announced : Decision} :
      decision = some announced → Sends votes decision phase (.decision n announced)

/-- The Alloy state of a protocol state, for a phase and the votes received. -/
def State.image (state : State) (phase : Alloy.Phase) (received : Set policy.Node) :
    Alloy.State policy.Node where
  sent := {m | Sends state.vote state.decision phase m}
  phase := phase
  decision := state.decision
  votesReceived := received
  commitVotes := {n | n ∈ received ∧ state.vote n.1 = some .commit}
  votedCommit := {n | state.vote n.1 = some .commit}
  votedAbort := {n | state.vote n.1 = some .abort}
  participantCommitted := {n | state.learned n.1 = some .commit}
  participantAborted := {n | state.learned n.1 = some .abort}

/-- The phase and the received votes fit the protocol state. -/
structure Fits (state : State) (phase : Alloy.Phase) (received : Set policy.Node) : Prop where
  undecided : state.decision = none → phase = .voting ∨ phase = .waiting ∧ state.sent = ∅
  decided : state.decision ≠ none → phase = .done
  voted : ∀ n ∈ received, state.vote n.1 ≠ none
  counted : ∀ (n : policy.Node) (vote : Vote), state.tally n.1 = some vote → n ∈ received

/-- The Alloy state is an image of the sound protocol state. -/
def Linked (policy : Policy) (state : State) (image : Alloy.State policy.Node) : Prop :=
  Sound policy state ∧ ∃ phase received, Fits state phase received ∧
    image = state.image phase received

/-! ## The actions between images -/

section Actions

variable {phase : Alloy.Phase} {received : Set policy.Node}

abbrev Actions (policy : Policy) : Alloy.State policy.Node → Alloy.State policy.Node → Prop :=
  (Alloy.system (Alloy.population policy.Node)).Steps

private theorem action {s s' : Alloy.State policy.Node} (grows : s.sent ⊆ s'.sent)
    (acts : Alloy.Acts (Alloy.population policy.Node) s s') : Actions policy s s' :=
  .single ⟨⟨grows, .inl acts⟩, acts⟩

private theorem sends_vote_iff (phase : Alloy.Phase) (n : policy.Node) {vote : Vote} :
    Sends state.vote state.decision phase (.vote n vote) ↔ state.vote n.1 = some vote := by
  constructor
  · intro sends
    generalize shape : Alloy.Message.vote n vote = m at sends
    cases sends with
    | prepare _ _ => cases vote <;> cases shape
    | @vote _ other cast => cases vote <;> cases other <;> cases shape <;> exact cast
    | @decision _ other _ => cases vote <;> cases other <;> cases shape
  · exact .vote

private theorem update_eq_some_iff {α : Type} {record : NodeId → Option α} {node n : policy.Node}
    (fresh : record node.1 = none) {value other : α} :
    Function.update record node.1 (some value) n.1 = some other ↔
      record n.1 = some other ∨ n = node ∧ value = other := by
  by_cases same : n = node
  · subst same
    simp [fresh]
  · have different : n.1 ≠ node.1 := fun equal => same (Subtype.ext equal)
    simp [Function.update_of_ne different, same]

private theorem sendPrepare_image :
    Actions policy (state.image .waiting received) (state.image .voting received) := by
  have sent : (state.image .voting received).sent = (state.image .waiting received).sent ∪
      {m | m ∈ Alloy.population policy.Node ∧ m.messageType = .prepare ∧
        m.origin = .coordinator} := by
    ext m
    simp only [State.image, Alloy.population, Set.mem_union, Set.mem_ofPred_eq,
      Alloy.Message.populates_prepare_iff]
    constructor
    · intro sends
      rcases sends with ⟨n, _⟩ | cast | decided
      · exact .inr ⟨n, rfl⟩
      · exact .inl (.vote cast)
      · exact .inl (.decision decided)
    · intro either
      rcases either with (⟨n, waiting⟩ | cast | decided) | ⟨n, rfl⟩
      · exact absurd rfl waiting
      · exact .vote cast
      · exact .decision decided
      · exact .prepare n nofun
  refine action (sent ▸ Set.subset_union_left) (Alloy.Acts.sendPrepare ?_)
  exact ⟨rfl, sent, rfl, rfl, ⟨rfl, rfl⟩, ⟨rfl, rfl⟩, rfl, rfl⟩

private theorem vote_image (node : policy.Node) (vote : Vote) (asked : phase ≠ .waiting)
    (fresh : state.vote node.1 = none) (unread : node ∉ received) :
    Actions policy (state.image phase received)
      ({ state with
          vote := Function.update state.vote node.1 (some vote)
          sent := insert (Message.vote node.1 vote) state.sent }.image phase received) := by
  let after : State := { state with
    vote := Function.update state.vote node.1 (some vote)
    sent := insert (Message.vote node.1 vote) state.sent }
  have sent : (after.image phase received).sent = (state.image phase received).sent ∪
      {m | m ∈ Alloy.population policy.Node ∧ m.messageType = .ofVote vote ∧
        m.origin = .node node ∧ m.dest = .coordinator} := by
    ext m
    simp only [State.image, Alloy.population, Set.mem_union, Set.mem_ofPred_eq,
      Alloy.Message.populates_vote_iff]
    constructor
    · intro sends
      rcases sends with ⟨n, ready⟩ | cast | decided
      · exact .inl (.prepare n ready)
      · rcases (update_eq_some_iff fresh).mp cast with earlier | ⟨rfl, rfl⟩
        · exact .inl (.vote earlier)
        · exact .inr rfl
      · exact .inl (.decision decided)
    · intro either
      rcases either with (⟨n, ready⟩ | cast | decided) | rfl
      · exact .prepare n ready
      · exact .vote ((update_eq_some_iff fresh).mpr (.inl cast))
      · exact .decision decided
      · exact .vote ((update_eq_some_iff fresh).mpr (.inr ⟨rfl, rfl⟩))
  have votes : ∀ other : Vote, {n : policy.Node | after.vote n.1 = some other} =
      {n | state.vote n.1 = some other} ∪ {n | n = node ∧ vote = other} := by
    intro other
    ext n
    exact update_eq_some_iff fresh
  have commitVotes : (after.image phase received).commitVotes =
      (state.image phase received).commitVotes := by
    ext n
    refine and_congr_right fun member => (update_eq_some_iff fresh).trans (or_iff_left ?_)
    exact fun ⟨same, _⟩ => unread (same ▸ member)
  have unvoted : node ∉ (state.image phase received).hasVoted := by
    simp [Alloy.State.hasVoted, State.image, fresh]
  have invited : ((state.image phase received).prepareFor node).Nonempty :=
    ⟨.prepare node, .prepare node asked, rfl, rfl⟩
  refine action (sent ▸ Set.subset_union_left) (Alloy.Acts.vote node
    ⟨unvoted, invited, ?_, ⟨rfl, rfl⟩, rfl, rfl, rfl, commitVotes⟩)
  cases vote with
  | commit =>
      refine .inl ⟨sent, ?_, ?_⟩
      · exact (votes .commit).trans (by simp [State.image])
      · exact (votes .abort).trans (by simp [State.image])
  | abort =>
      refine .inr ⟨sent, ?_, ?_⟩
      · exact (votes .abort).trans (by simp [State.image])
      · exact (votes .commit).trans (by simp [State.image])

private theorem receiveVote_image (node : policy.Node) {vote : Vote}
    (cast : state.vote node.1 = some vote) (unread : node ∉ received) :
    Actions policy (state.image .voting received) (state.image .voting (received ∪ {node})) := by
  have available : ((state.image .voting received).voteFrom node).Nonempty :=
    ⟨.vote node vote, .vote cast, by cases vote <;> simp [Alloy.Message.vote, MessageType.ofVote],
      rfl, rfl⟩
  have commit : (∃ m ∈ (state.image .voting received).sent, m.messageType = .voteCommit ∧
      m.origin = .node node ∧ m.dest = .coordinator) ↔ state.vote node.1 = some .commit := by
    rw [← sends_vote_iff .voting node]
    constructor
    · intro sent
      obtain ⟨⟨_, _, _⟩, sent, rfl, rfl, rfl⟩ := sent
      exact sent
    · exact fun sent => ⟨_, sent, rfl, rfl, rfl⟩
  refine action subset_rfl (Alloy.Acts.receiveVote node ⟨rfl, unread, available, rfl, ?_, ?_, rfl,
    rfl, rfl, ⟨rfl, rfl⟩, rfl, rfl⟩)
  · intro voted
    have agreed := commit.mp voted
    ext n
    simp only [State.image, Set.mem_ofPred_eq, Set.mem_union, Set.mem_singleton_iff, or_and_right]
    exact or_congr_right ⟨And.left, fun same => ⟨same, same ▸ agreed⟩⟩
  · intro objected
    ext n
    simp only [State.image, Set.mem_ofPred_eq, Set.mem_union, Set.mem_singleton_iff, or_and_right]
    exact or_iff_left fun ⟨same, agreed⟩ => objected (commit.mpr (same ▸ agreed))

private theorem decide_image {decision : Decision} (undecided : state.decision = none)
    (unanimous : decision = .commit → ∀ n : policy.Node, n ∈ received ∧
      state.vote n.1 = some .commit) :
    Actions policy (state.image .voting received)
      ({ state with
          decision := some decision
          tally := fun _ => none
          sent := state.sent ∪ announcement policy decision }.image .done received) := by
  let decided : Alloy.State policy.Node := { state.image .voting received with
    phase := .decided
    decision := some decision }
  let after : State := { state with
    decision := some decision
    tally := fun _ => none
    sent := state.sent ∪ announcement policy decision }
  have decides : Actions policy (state.image .voting received) decided := by
    refine action subset_rfl (Alloy.Acts.decide decision
      ⟨rfl, fun commit => ?_, rfl, rfl, ⟨rfl, rfl⟩, rfl, ⟨rfl, rfl⟩, rfl, rfl⟩)
    exact Set.eq_univ_of_forall (unanimous commit)
  have sent : (after.image .done received).sent = decided.sent ∪
      {m | m ∈ Alloy.population policy.Node ∧ m.messageType = .ofDecision decision ∧
        m.origin = .coordinator} := by
    ext m
    simp only [decided, State.image, Alloy.population, Set.mem_union, Set.mem_ofPred_eq,
      Alloy.Message.populates_decision_iff]
    constructor
    · intro sends
      rcases sends with ⟨n, _⟩ | cast | @⟨n, other, announced⟩
      · exact .inl (.prepare n nofun)
      · exact .inl (.vote cast)
      · obtain rfl : decision = other := Option.some.inj announced
        exact .inr ⟨n, rfl⟩
    · intro either
      rcases either with (⟨n, _⟩ | cast | earlier) | ⟨n, rfl⟩
      · exact .prepare n nofun
      · exact .vote cast
      · cases undecided.symm.trans earlier
      · exact .decision rfl
  have announces : Actions policy decided (after.image .done received) := by
    refine action (sent ▸ Set.subset_union_left) (Alloy.Acts.sendDecision
      ⟨rfl, fun commit => ?_, fun abort => ?_, rfl, rfl, ⟨rfl, rfl⟩, ⟨rfl, rfl⟩, rfl, rfl⟩)
    · cases commit
      exact sent
    · cases decision with
      | commit => exact absurd rfl abort
      | abort => exact sent
  exact decides.trans announces

private theorem learn_image (node : policy.Node) {decision : Decision}
    (decided : state.decision = some decision) (unaware : state.learned node.1 = none) :
    Actions policy (state.image phase received)
      ({ state with
          learned := Function.update state.learned node.1 (some decision)
          sent := insert (Message.ack node.1) state.sent }.image phase received) := by
  let after : State := { state with
    learned := Function.update state.learned node.1 (some decision)
    sent := insert (Message.ack node.1) state.sent }
  have sent : (after.image phase received).sent = (state.image phase received).sent := by
    ext m
    constructor <;>
    · intro sends
      rcases sends with ⟨n, ready⟩ | cast | decided
      · exact .prepare n ready
      · exact .vote cast
      · exact .decision decided
  have learned : ∀ other : Decision, {n : policy.Node | after.learned n.1 = some other} =
      {n | state.learned n.1 = some other} ∪ {n | n = node ∧ decision = other} := by
    intro other
    ext n
    exact update_eq_some_iff unaware
  have undecided : node ∉ (state.image phase received).participantDecided := by
    simp [Alloy.State.participantDecided, State.image, unaware]
  have available : ((state.image phase received).decisionFor node).Nonempty :=
    ⟨.decision node decision, .decision decided,
      by cases decision <;> simp [Alloy.Message.decision, MessageType.ofDecision], rfl, rfl⟩
  have commit : (∃ m ∈ (state.image phase received).sent, m.messageType = .decCommit ∧
      m.dest = .node node) ↔ decision = .commit := by
    constructor
    · intro sent
      rcases sent with ⟨m, _ | @⟨_, vote, _⟩ | @⟨_, other, earlier⟩, type, _⟩
      · cases type
      · cases vote <;> cases type
      · cases other with
        | commit => exact Option.some.inj (decided.symm.trans earlier)
        | abort => cases type
    · intro same
      subst same
      exact ⟨.decision node .commit, .decision decided, rfl, rfl⟩
  refine action sent.superset (Alloy.Acts.receiveDecision node
    ⟨undecided, available, fun some => ?_, fun none => ?_, ⟨rfl, rfl⟩, sent, rfl, rfl, rfl, rfl⟩)
  · obtain rfl := commit.mp some
    exact ⟨(learned .commit).trans (by simp [State.image]),
      (learned .abort).trans (by simp [State.image])⟩
  · cases decision with
    | commit => exact absurd (commit.mpr rfl) none
    | abort =>
        exact ⟨(learned .abort).trans (by simp [State.image]),
          (learned .commit).trans (by simp [State.image])⟩

end Actions

/-! ## The simulation -/

private theorem start_linked : Alloy.State.init (State.start.image .waiting (∅ : Set policy.Node)) ∧
    Linked policy .start (State.start.image .waiting ∅) := by
  have quiet : (State.start.image .waiting (∅ : Set policy.Node)).sent = ∅ := by
    refine Set.eq_empty_of_forall_notMem ?_
    intro m sends
    rcases sends with ⟨n, waiting⟩ | cast | decided
    · exact waiting rfl
    · cases cast
    · cases decided
  refine ⟨⟨quiet, rfl, rfl, rfl, ?_⟩, Sound.start, _, _, ?_, rfl⟩
  · simp [State.image, State.start]
  · constructor
    · intro _
      exact .inr ⟨rfl, rfl⟩
    · intro decided
      exact absurd rfl decided
    · intro n read
      cases read
    · intro n vote counted
      cases counted

/-- An undecided coordinator can be made to vote without a change of the records. -/
private theorem reaches_voting {image : Alloy.State policy.Node}
    (linked : Linked policy state image)
    (undecided : state.decision = none) : ∃ received, Fits state .voting received ∧
      Actions policy image (state.image .voting received) := by
  obtain ⟨_, phase, received, fits, rfl⟩ := linked
  have voting : Fits state .voting received :=
    { fits with
      undecided := fun _ => .inl rfl
      decided := fun decided => absurd undecided decided }
  rcases fits.undecided undecided with rfl | ⟨rfl, _⟩
  · exact ⟨received, voting, .refl⟩
  · exact ⟨received, voting, sendPrepare_image⟩

/-- Something was sent, so the Alloy coordinator has left the waiting phase. -/
theorem Fits.not_waiting {phase : Alloy.Phase} {received : Set policy.Node}
    (fits : Fits state phase received) {msg : Message} (sent : msg ∈ state.sent) :
    phase ≠ .waiting := by
  intro same
  subst same
  cases decided : state.decision with
  | none =>
      obtain voting | ⟨_, quiet⟩ := fits.undecided decided
      · cases voting
      · simp [quiet] at sent
  | some decision => cases fits.decided (by simp [decided])

section Answers

variable {image : Alloy.State policy.Node} {node : NodeId} {vote : Vote} {decision : Decision}

private theorem Linked.castVote (linked : Linked policy state image)
    (asked : .prepare node ∈ state.sent) (fresh : state.vote node = none)
    (sound : Sound policy { state with
      vote := Function.update state.vote node (some vote)
      sent := insert (.vote node vote) state.sent }) :
    ∃ answer, Actions policy image answer ∧ Linked policy { state with
      vote := Function.update state.vote node (some vote)
      sent := insert (.vote node vote) state.sent } answer := by
  obtain ⟨before, phase, received, fits, rfl⟩ := linked
  let voter : policy.Node := ⟨node, before.member_of_prepare asked⟩
  have unread : voter ∉ received := fun read => fits.voted voter read fresh
  have ready := fits.not_waiting asked
  refine ⟨_, vote_image voter vote ready fresh unread, sound, phase, received, ?_, rfl⟩
  refine { fits with undecided := fun undecided => ?_, voted := fun n read => ?_ }
  · exact .inl ((fits.undecided undecided).resolve_right fun ⟨waiting, _⟩ => ready waiting)
  · intro silent
    have earlier := fits.voted n read
    by_cases same : n.1 = node
    · simp [same] at silent
    · exact earlier (by simpa [same] using silent)

private theorem Linked.tallyVote (linked : Linked policy state image)
    (cast : .vote node vote ∈ state.sent) (undecided : state.decision = none)
    (sound : Sound policy { state with tally := Function.update state.tally node (some vote) }) :
    ∃ answer, Actions policy image answer ∧ Linked policy
      { state with tally := Function.update state.tally node (some vote) } answer := by
  obtain ⟨received, fits, path⟩ := reaches_voting linked undecided
  have known := (linked.1.vote_sent node vote).mp cast
  let voter : policy.Node := ⟨node, linked.1.member_of_vote known⟩
  have counted : ∀ (n : policy.Node) (other : Vote),
      Function.update state.tally node (some vote) n.1 = some other →
        n = voter ∨ n ∈ received := by
    intro n other found
    by_cases same : n.1 = node
    · exact .inl (Subtype.ext same)
    · exact .inr (fits.counted n other (by simpa [same] using found))
  by_cases read : voter ∈ received
  · refine ⟨_, path, sound, .voting, received, { fits with counted := ?_ }, rfl⟩
    exact fun n other found => (counted n other found).elim (fun same => same ▸ read) id
  · refine ⟨_, path.trans (receiveVote_image voter known read), sound, .voting,
      received ∪ {voter}, { fits with voted := ?_, counted := ?_ }, rfl⟩
    · intro n either
      rcases either with earlier | rfl
      · exact fits.voted n earlier
      · simp [voter, known]
    · exact fun n other found => (counted n other found).symm

private theorem Linked.decide (linked : Linked policy state image)
    (undecided : state.decision = none) (justified : Justified policy state decision)
    (sound : Sound policy { state with
      decision := some decision
      tally := fun _ => none
      sent := state.sent ∪ announcement policy decision }) :
    ∃ answer, Actions policy image answer ∧ Linked policy { state with
      decision := some decision
      tally := fun _ => none
      sent := state.sent ∪ announcement policy decision } answer := by
  obtain ⟨received, fits, path⟩ := reaches_voting linked undecided
  have unanimous : decision = .commit → ∀ n : policy.Node,
      n ∈ received ∧ state.vote n.1 = some .commit := by
    intro same n
    subst same
    have counted := justified n.1 n.2
    exact ⟨fits.counted n .commit counted, linked.1.tally n.1 .commit counted⟩
  refine ⟨_, path.trans (decide_image undecided unanimous), sound, .done, received, ?_, rfl⟩
  exact { fits with
    undecided := nofun
    decided := fun _ => rfl
    counted := nofun }

private theorem Linked.learn (linked : Linked policy state image)
    (announced : .decision node decision ∈ state.sent) (unaware : state.learned node = none)
    (sound : Sound policy { state with
      learned := Function.update state.learned node (some decision)
      sent := insert (.ack node) state.sent }) :
    ∃ answer, Actions policy image answer ∧ Linked policy { state with
      learned := Function.update state.learned node (some decision)
      sent := insert (.ack node) state.sent } answer := by
  obtain ⟨before, phase, received, fits, rfl⟩ := linked
  obtain ⟨member, decided⟩ := (before.decision_sent node decision).mp announced
  let learner : policy.Node := ⟨node, member⟩
  refine ⟨_, learn_image learner decided unaware, sound, phase, received, ?_, rfl⟩
  refine { fits with undecided := fun undecided => ?_ }
  cases decided.symm.trans undecided

end Answers

theorem alloy_simulation (policy : Policy) : (system policy).Simulation
    (Alloy.system (Alloy.population policy.Node)) (Linked policy) where
  initial := by
    intro state same
    subst same
    exact ⟨_, start_linked⟩
  next := by
    intro state after image linked step
    have sound := linked.1.step step
    cases step with
    | prepare _ undecided =>
        obtain ⟨received, fits, path⟩ := reaches_voting linked undecided
        exact ⟨_, path, sound, .voting, received, { fits with undecided := fun _ => .inl rfl }, rfl⟩
    | castVote asked fresh _ _ => exact linked.castVote asked fresh sound
    | tallyVote cast undecided => exact linked.tallyVote cast undecided sound
    | decide undecided justified => exact linked.decide undecided justified sound
    | learn announced unaware => exact linked.learn announced unaware sound
    | tallyAck _ =>
        obtain ⟨_, phase, received, fits, rfl⟩ := linked
        exact ⟨_, .refl, sound, phase, received, { fits with }, rfl⟩
    | forget =>
        obtain ⟨_, phase, received, fits, rfl⟩ := linked
        exact ⟨_, .refl, sound, phase, received, { fits with counted := nofun }, rfl⟩

end Protocol

end TwoPhaseCommit
