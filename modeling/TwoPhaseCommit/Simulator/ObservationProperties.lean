import TwoPhaseCommit.Simulator.Properties
import TwoPhaseCommit.Library.OrderedMap

/-! What the recorders keep of a history of sent and delivered messages, when
their assertions hold, and what the invariant check accepts. -/

set_option autoImplicit false

namespace TwoPhaseCommit

theorem bind_ok {ε α β : Type} {computation : Except ε α} {next : α → Except ε β} {result : β}
    (success : computation >>= next = .ok result) :
    ∃ value, computation = .ok value ∧ next value = .ok result := by
  cases computation with
  | error error => cases success
  | ok value => exact ⟨value, rfl, success⟩

/-- A call of `recordSent` or `recordDelivered`. -/
inductive Observation where
  | sent (msg : Message)
  | delivered (msg : Message)
  deriving DecidableEq, Repr

namespace Observation

def Casts : Observation → NodeId → Vote → Prop
  | .sent msg, node, vote => msg.messageType = vote.messageType ∧ msg.from = .node node
  | .delivered _, _, _ => False

def Announces : Observation → Decision → Prop
  | .sent msg, decision => msg.messageType = decision.messageType ∧ msg.from = .coordinator
  | .delivered _, _ => False

def Informs : Observation → NodeId → Decision → Prop
  | .delivered msg, node, decision =>
      msg.messageType = decision.messageType ∧ msg.to = .node node
  | .sent _, _, _ => False

end Observation

namespace Observations

def record (self : Observations) : Observation → Except Conflict Observations
  | .sent msg => self.recordSent msg
  | .delivered msg => self.recordDelivered msg

/-- The observations after a history are those before it and the facts of the history. -/
structure Records (before : Observations) (history : List Observation) (after : Observations) :
    Prop where
  votes : ∀ node vote, after.votes[node]? = some vote ↔
    before.votes[node]? = some vote ∨ ∃ observation ∈ history, observation.Casts node vote
  coordinatorDecision : ∀ decision, after.coordinatorDecision = some decision ↔
    before.coordinatorDecision = some decision ∨
      ∃ observation ∈ history, observation.Announces decision
  participantDecisions : ∀ node decision, after.participantDecisions[node]? = some decision ↔
    before.participantDecisions[node]? = some decision ∨
      ∃ observation ∈ history, observation.Informs node decision

variable {before middle after : Observations}

theorem Records.nil (observations : Observations) : Records observations [] observations := by
  constructor <;> simp

theorem Records.append {first second : List Observation} (early : Records before first middle)
    (late : Records middle second after) : Records before (first ++ second) after := by
  constructor
  · intro node vote
    rw [late.votes, early.votes]
    simp only [List.mem_append, or_and_right, exists_or, or_assoc]
  · intro decision
    rw [late.coordinatorDecision, early.coordinatorDecision]
    simp only [List.mem_append, or_and_right, exists_or, or_assoc]
  · intro node decision
    rw [late.participantDecisions, early.participantDecisions]
    simp only [List.mem_append, or_and_right, exists_or, or_assoc]

/-! ## One recording -/

section Record

variable {node : NodeId} {vote : Vote} {decision : Decision} {observation : Observation}

/-- What an observation is about decides which recorder it reaches. -/
inductive Concerns (self : Observations) (observation : Observation) :
    Except Conflict Observations → Prop where
  | vote {node : NodeId} {vote : Vote} :
      (∀ other cast, observation.Casts other cast ↔ other = node ∧ cast = vote) →
      (∀ decision, ¬ observation.Announces decision) →
      (∀ node decision, ¬ observation.Informs node decision) →
      Concerns self observation (self.recordVote node vote)
  | announcement {decision : Decision} :
      (∀ node vote, ¬ observation.Casts node vote) →
      (∀ other, observation.Announces other ↔ other = decision) →
      (∀ node decision, ¬ observation.Informs node decision) →
      Concerns self observation (self.recordCoordinatorDecision decision)
  | delivery {node : NodeId} {decision : Decision} :
      (∀ node vote, ¬ observation.Casts node vote) →
      (∀ decision, ¬ observation.Announces decision) →
      (∀ other known, observation.Informs other known ↔ other = node ∧ known = decision) →
      Concerns self observation (self.recordParticipantDecision node decision)
  | nothing :
      (∀ node vote, ¬ observation.Casts node vote) →
      (∀ decision, ¬ observation.Announces decision) →
      (∀ node decision, ¬ observation.Informs node decision) →
      Concerns self observation (.ok self)

private theorem concerns_vote (self : Observations) {msg : Message} (vote : Vote)
    (type : msg.messageType = vote.messageType) (sender : msg.from = .node node) :
    Concerns self (.sent msg) (self.recordVote node vote) :=
  .vote (by simp [Observation.Casts, type, sender, and_comm, eq_comm])
    (by simp [Observation.Announces, sender]) (fun _ _ => id)

private theorem concerns_announcement (self : Observations) {msg : Message} (decision : Decision)
    (type : msg.messageType = decision.messageType) (sender : msg.from = .coordinator) :
    Concerns self (.sent msg) (self.recordCoordinatorDecision decision) :=
  .announcement (by simp [Observation.Casts, sender])
    (by simp [Observation.Announces, type, sender, eq_comm]) (fun _ _ => id)

private theorem concerns_delivery (self : Observations) {msg : Message} (decision : Decision)
    (type : msg.messageType = decision.messageType) (recipient : msg.to = .node node) :
    Concerns self (.delivered msg) (self.recordParticipantDecision node decision) :=
  .delivery (fun _ _ => id) (fun _ => id)
    (by simp [Observation.Informs, type, recipient, and_comm, eq_comm])

theorem record_concerns (self : Observations) (observation : Observation) :
    Concerns self observation (self.record observation) := by
  cases observation with
  | sent msg =>
      simp only [record, recordSent]
      split
      · rename_i type sender
        exact concerns_vote self .commit type sender
      · rename_i type sender
        exact concerns_vote self .abort type sender
      · rename_i type sender
        exact concerns_announcement self .commit type sender
      · rename_i type sender
        exact concerns_announcement self .abort type sender
      · rename_i noCommitVote noAbortVote noCommit noAbort
        refine .nothing ?_ ?_ (fun _ _ => id)
        · rintro node (_ | _) ⟨type, sender⟩
          · exact noCommitVote node type sender
          · exact noAbortVote node type sender
        · rintro (_ | _) ⟨type, sender⟩
          · exact noCommit type sender
          · exact noAbort type sender
  | delivered msg =>
      simp only [record, recordDelivered]
      split
      · rename_i type recipient
        exact concerns_delivery self .commit type recipient
      · rename_i type recipient
        exact concerns_delivery self .abort type recipient
      · rename_i noCommit noAbort
        refine .nothing (fun _ _ => id) (fun _ => id) ?_
        rintro node (_ | _) ⟨type, recipient⟩
        · exact noCommit node type recipient
        · exact noAbort node type recipient

private theorem recordVote_ok (success : before.recordVote node vote = .ok after) :
    after.coordinatorDecision = before.coordinatorDecision ∧
      after.participantDecisions = before.participantDecisions ∧
      ∀ other cast, after.votes[other]? = some cast ↔
        before.votes[other]? = some cast ∨ other = node ∧ cast = vote := by
  unfold recordVote at success
  split at success
  · rename_i existing found
    split at success
    · rename_i same
      cases success
      refine ⟨rfl, rfl, fun other cast => (or_iff_left_of_imp ?_).symm⟩
      intro same
      obtain ⟨rfl, rfl⟩ := same
      rw [found, same]
    · cases success
  · rename_i fresh
    cases success
    exact ⟨rfl, rfl, fun other cast => Library.OrderedMap.getElem?_insert_fresh fresh⟩

private theorem recordCoordinatorDecision_ok
    (success : before.recordCoordinatorDecision decision = .ok after) :
    after.votes = before.votes ∧ after.participantDecisions = before.participantDecisions ∧
      ∀ other, after.coordinatorDecision = some other ↔
        before.coordinatorDecision = some other ∨ other = decision := by
  unfold recordCoordinatorDecision at success
  split at success
  · rename_i existing found
    split at success
    · rename_i same
      cases success
      refine ⟨rfl, rfl, fun other => (or_iff_left_of_imp ?_).symm⟩
      intro same
      subst same
      rw [found, same]
    · cases success
  · rename_i fresh
    cases success
    exact ⟨rfl, rfl, by simp [fresh, eq_comm]⟩

private theorem recordParticipantDecision_ok
    (success : before.recordParticipantDecision node decision = .ok after) :
    after.votes = before.votes ∧ after.coordinatorDecision = before.coordinatorDecision ∧
      ∀ other known, after.participantDecisions[other]? = some known ↔
        before.participantDecisions[other]? = some known ∨ other = node ∧ known = decision := by
  unfold recordParticipantDecision at success
  split at success
  · rename_i existing found
    split at success
    · rename_i same
      cases success
      refine ⟨rfl, rfl, fun other known => (or_iff_left_of_imp ?_).symm⟩
      intro same
      obtain ⟨rfl, rfl⟩ := same
      rw [found, same]
    · cases success
  · rename_i fresh
    cases success
    exact ⟨rfl, rfl, fun other known => Library.OrderedMap.getElem?_insert_fresh fresh⟩

theorem record_ok (success : before.record observation = .ok after) :
    Records before [observation] after := by
  have concerns := before.record_concerns observation
  rw [success] at concerns
  generalize outcome : Except.ok after = result at concerns
  cases concerns with
  | vote casts announces informs =>
      obtain ⟨sameDecision, sameDeliveries, votes⟩ := recordVote_ok outcome.symm
      constructor <;> simp [*]
  | announcement casts announces informs =>
      obtain ⟨sameVotes, sameDeliveries, decisions⟩ := recordCoordinatorDecision_ok outcome.symm
      constructor <;> simp [*]
  | delivery casts announces informs =>
      obtain ⟨sameVotes, sameDecision, deliveries⟩ := recordParticipantDecision_ok outcome.symm
      constructor <;> simp [*]
  | nothing casts announces informs =>
      cases outcome
      constructor <;> simp [*]

end Record

/-! ## A history -/

theorem foldlM_record_ok {history : List Observation}
    (success : history.foldlM record before = .ok after) : Records before history after := by
  induction history generalizing before with
  | nil =>
      cases success
      exact .nil _
  | cons observation rest ih =>
      rw [List.foldlM_cons] at success
      obtain ⟨middle, first, remaining⟩ := bind_ok success
      exact (record_ok first).append (ih remaining)

/-- One vote a participant, one decision, one delivered decision a participant. -/
structure Facts where
  vote : NodeId → Option Vote
  decision : Option Decision
  learned : NodeId → Option Decision

structure Within (facts : Facts) (observations : Observations) : Prop where
  vote : ∀ {node : NodeId} {vote : Vote}, observations.votes[node]? = some vote →
    facts.vote node = some vote
  decision : ∀ {decision : Decision}, observations.coordinatorDecision = some decision →
    facts.decision = some decision
  learned : ∀ {node : NodeId} {decision : Decision},
    observations.participantDecisions[node]? = some decision → facts.learned node = some decision

structure Agrees (facts : Facts) (observation : Observation) : Prop where
  vote : ∀ {node vote}, observation.Casts node vote → facts.vote node = some vote
  decision : ∀ {decision}, observation.Announces decision → facts.decision = some decision
  learned : ∀ {node decision}, observation.Informs node decision →
    facts.learned node = some decision

variable {facts : Facts}

theorem Records.within {history : List Observation} (records : Records before history after)
    (within : before.Within facts) (agrees : ∀ observation ∈ history, Agrees facts observation) :
    after.Within facts where
  vote found := (records.votes _ _).mp found |>.elim within.vote
    fun ⟨observation, member, casts⟩ => (agrees observation member).vote casts
  decision found := (records.coordinatorDecision _).mp found |>.elim within.decision
    fun ⟨observation, member, announces⟩ => (agrees observation member).decision announces
  learned found := (records.participantDecisions _ _).mp found |>.elim within.learned
    fun ⟨observation, member, informs⟩ => (agrees observation member).learned informs

/-- No assertion fires on an observation that agrees with the facts recorded so far. -/
theorem exists_record_ok {observation : Observation} (within : before.Within facts)
    (agrees : Agrees facts observation) : ∃ after, before.record observation = .ok after := by
  have concerns := before.record_concerns observation
  generalize before.record observation = result at concerns
  cases concerns with
  | @vote node vote casts _ _ =>
      unfold recordVote
      split
      · rename_i existing found
        have same := (within.vote found).symm.trans (agrees.vote ((casts node vote).mpr ⟨rfl, rfl⟩))
        rw [if_pos (Option.some.inj same)]
        exact ⟨_, rfl⟩
      · exact ⟨_, rfl⟩
  | @announcement decision _ announces _ =>
      unfold recordCoordinatorDecision
      split
      · rename_i existing found
        have same := (within.decision found).symm.trans
          (agrees.decision ((announces decision).mpr rfl))
        rw [if_pos (Option.some.inj same)]
        exact ⟨_, rfl⟩
      · exact ⟨_, rfl⟩
  | @delivery node decision _ _ informs =>
      unfold recordParticipantDecision
      split
      · rename_i existing found
        have same := (within.learned found).symm.trans
          (agrees.learned ((informs node decision).mpr ⟨rfl, rfl⟩))
        rw [if_pos (Option.some.inj same)]
        exact ⟨_, rfl⟩
      · exact ⟨_, rfl⟩
  | nothing _ _ _ => exact ⟨_, rfl⟩

theorem exists_foldlM_record_ok (history : List Observation) (within : before.Within facts)
    (agrees : ∀ observation ∈ history, Agrees facts observation) :
    ∃ after, history.foldlM record before = .ok after := by
  induction history generalizing before with
  | nil => exact ⟨before, rfl⟩
  | cons observation rest ih =>
      obtain ⟨agree, others⟩ := List.forall_mem_cons.mp agrees
      obtain ⟨middle, first⟩ := exists_record_ok within agree
      obtain ⟨after, remaining⟩ := ih
        ((record_ok first).within within (by simpa using agree)) others
      refine ⟨after, ?_⟩
      rw [List.foldlM_cons, first]
      exact remaining

/-! ## The invariant check -/

section Check

variable {observations : Observations}

def Agreement (observations : Observations) : Prop :=
  ∀ {first second : NodeId} {ours theirs : Decision},
    observations.participantDecisions[first]? = some ours →
    observations.participantDecisions[second]? = some theirs → ours = theirs

/-- No recorded vote contradicts a commit, no delivered decision an abort. -/
structure Validity (observations : Observations) : Prop where
  commit : observations.coordinatorDecision = some .commit →
    ∀ {node : NodeId} {vote : Vote}, observations.votes[node]? = some vote → vote = .commit
  abort : observations.coordinatorDecision = some .abort →
    ∀ {node : NodeId} {decision : Decision},
      observations.participantDecisions[node]? = some decision → decision ≠ .commit

private theorem filter_nonempty_iff {decisions : Std.ExtTreeMap NodeId Decision}
    {decision : Decision} :
    (!((decisions.toList.filter (·.2 = decision)).map (·.1)).isEmpty) = true ↔
      ∃ node : NodeId, decisions[node]? = some decision := by
  simp only [Bool.not_eq_true', List.isEmpty_eq_false_iff_exists_mem, List.mem_map, List.mem_filter,
    Prod.exists, Std.ExtTreeMap.mem_toList_iff_getElem?_eq_some, decide_eq_true_eq]
  exact ⟨fun ⟨_, node, _, ⟨found, same⟩, _⟩ => ⟨node, same ▸ found⟩,
    fun ⟨node, found⟩ => ⟨node, node, decision, ⟨found, rfl⟩, rfl⟩⟩

theorem checkAgreement_ok_iff : checkAgreement observations = .ok () ↔ Agreement observations := by
  unfold checkAgreement
  split
  · rename_i small
    refine iff_of_true rfl fun {first second ours theirs} mine other => ?_
    have same : first = second := Library.OrderedMap.eq_of_size_lt_two small
      (Library.OrderedMap.mem_iff_exists.mpr ⟨_, mine⟩)
      (Library.OrderedMap.mem_iff_exists.mpr ⟨_, other⟩)
    subst same
    exact Option.some.inj (mine.symm.trans other)
  · dsimp only
    split
    · rename_i split
      rw [Bool.and_eq_true, filter_nonempty_iff, filter_nonempty_iff] at split
      obtain ⟨⟨first, committed⟩, second, aborted⟩ := split
      exact iff_of_false nofun fun agreement => nomatch agreement committed aborted
    · rename_i united
      rw [Bool.and_eq_true, filter_nonempty_iff, filter_nonempty_iff] at united
      refine iff_of_true rfl fun {first second ours theirs} mine other => ?_
      cases ours <;> cases theirs
      · rfl
      · exact absurd ⟨⟨_, mine⟩, _, other⟩ united
      · exact absurd ⟨⟨_, other⟩, _, mine⟩ united
      · rfl

theorem checkValidity_ok_iff : checkValidity observations = .ok () ↔ Validity observations := by
  unfold checkValidity
  split
  · rename_i committed
    split
    · rename_i node vote objection
      have found := Std.ExtTreeMap.mem_toList_iff_getElem?_eq_some.mp
        (List.mem_of_find?_eq_some objection)
      refine iff_of_false nofun fun validity => ?_
      simpa [validity.commit committed found] using List.find?_some objection
    · rename_i unanimous
      refine iff_of_true rfl ⟨fun _ {node vote} found => ?_, fun aborted => ?_⟩
      · simpa using List.find?_eq_none.mp unanimous (node, vote)
          (Std.ExtTreeMap.mem_toList_iff_getElem?_eq_some.mpr found)
      · cases committed.symm.trans aborted
  · rename_i aborted
    split
    · rename_i node decision offence
      have found := Std.ExtTreeMap.mem_toList_iff_getElem?_eq_some.mp
        (List.mem_of_find?_eq_some offence)
      refine iff_of_false nofun fun validity => ?_
      exact validity.abort aborted found (by simpa using List.find?_some offence)
    · rename_i clean
      refine iff_of_true rfl ⟨fun committed => ?_, fun _ {node decision} found => ?_⟩
      · cases aborted.symm.trans committed
      · simpa using List.find?_eq_none.mp clean (node, decision)
          (Std.ExtTreeMap.mem_toList_iff_getElem?_eq_some.mpr found)
  · rename_i undecided
    refine iff_of_true rfl ⟨fun committed => ?_, fun aborted => ?_⟩
    · cases undecided.symm.trans committed
    · cases undecided.symm.trans aborted

theorem checkAllInvariants_ok_iff :
    checkAllInvariants observations = .ok () ↔ Agreement observations ∧ Validity observations := by
  rw [← checkAgreement_ok_iff, ← checkValidity_ok_iff, checkAllInvariants]
  cases checkAgreement observations with
  | error text => exact iff_of_false nofun fun both => nomatch both.1
  | ok _ => exact (and_iff_right rfl).symm

end Check

/-! ## The check on a whole history -/

section History

/-- The participant has sent this vote. -/
def HasCast (history : List Observation) (node : NodeId) (vote : Vote) : Prop :=
  ∃ observation ∈ history, observation.Casts node vote

/-- The coordinator has sent this decision. -/
def HasAnnounced (history : List Observation) (decision : Decision) : Prop :=
  ∃ observation ∈ history, observation.Announces decision

/-- The participant was delivered this decision. -/
def HasInformed (history : List Observation) (node : NodeId) (decision : Decision) : Prop :=
  ∃ observation ∈ history, observation.Informs node decision

/-- AC1, AC2 for a set of participants, and the safety of an abort. -/
structure SafeHistory (participants : List NodeId) (history : List Observation) : Prop where
  agreement : ∀ {first second ours theirs}, HasInformed history first ours →
    HasInformed history second theirs → ours = theirs
  commit : HasAnnounced history .commit →
    (∀ node ∈ participants, HasCast history node .commit) ∧ ∀ node, ¬ HasCast history node .abort
  abort : HasAnnounced history .abort → ∀ node, ¬ HasInformed history node .commit

variable {participants : List NodeId} {history : List Observation} {observations : Observations}

/-- What the check really accepts: of the votes it sees only those that were sent. -/
theorem check_ok_iff (recorded : history.foldlM record .new = .ok observations) :
    checkAllInvariants observations = .ok () ↔
      (∀ first second, HasInformed history first .commit → ¬ HasInformed history second .abort) ∧
      (HasAnnounced history .commit → ∀ node, ¬ HasCast history node .abort) ∧
      (HasAnnounced history .abort → ∀ node, ¬ HasInformed history node .commit) := by
  have records := foldlM_record_ok recorded
  have votes : ∀ node vote, observations.votes[node]? = some vote ↔ HasCast history node vote :=
    fun node vote => (records.votes node vote).trans (or_iff_right (by simp [new]))
  have announced : ∀ decision, observations.coordinatorDecision = some decision ↔
      HasAnnounced history decision :=
    fun decision => (records.coordinatorDecision decision).trans (or_iff_right (by simp [new]))
  have informed : ∀ node decision, observations.participantDecisions[node]? = some decision ↔
      HasInformed history node decision := fun node decision =>
    (records.participantDecisions node decision).trans (or_iff_right (by simp [new]))
  rw [checkAllInvariants_ok_iff]
  constructor
  · intro safe
    obtain ⟨agreement, validity⟩ := safe
    refine ⟨fun first second committed aborted => ?_, fun commit node cast => ?_,
      fun abort node told => ?_⟩
    · cases agreement ((informed first _).mpr committed) ((informed second _).mpr aborted)
    · cases validity.commit ((announced _).mpr commit) ((votes node _).mpr cast)
    · exact validity.abort ((announced _).mpr abort) ((informed node _).mpr told) rfl
  · intro safe
    obtain ⟨agreement, commit, abort⟩ := safe
    refine ⟨fun {first second ours theirs} mine other => ?_, ⟨fun decided {node vote} found => ?_,
      fun decided {node decision} found same => ?_⟩⟩
    · have mine := (informed first ours).mp mine
      have other := (informed second theirs).mp other
      cases ours <;> cases theirs
      · rfl
      · exact absurd other (agreement first second mine)
      · exact absurd mine (agreement second first other)
      · rfl
    · cases vote with
      | commit => rfl
      | abort =>
          exact absurd ((votes node .abort).mp found) (commit ((announced _).mp decided) node)
    · exact abort ((announced _).mp decided) node ((informed node .commit).mp (same ▸ found))

theorem not_hasAnnounced_both (recorded : history.foldlM record .new = .ok observations)
    (commit : HasAnnounced history .commit) : ¬ HasAnnounced history .abort := by
  intro abort
  have records := foldlM_record_ok recorded
  have first := (records.coordinatorDecision .commit).mpr (.inr commit)
  have second := (records.coordinatorDecision .abort).mpr (.inr abort)
  cases first.symm.trans second

/-- The check is exact unless a commit is announced while some participant has not
voted and nothing else is wrong. -/
theorem check_exact_iff (recorded : history.foldlM record .new = .ok observations) :
    (checkAllInvariants observations = .ok () ↔ SafeHistory participants history) ↔
      (HasAnnounced history .commit →
        (∀ node ∈ participants, ∃ vote, HasCast history node vote) ∨
        (∃ node, HasCast history node .abort) ∨
        ∃ first second, HasInformed history first .commit ∧ HasInformed history second .abort) := by
  rw [check_ok_iff recorded]
  constructor
  · intro exact announced
    by_cases objection : ∃ node, HasCast history node .abort
    · exact .inr (.inl objection)
    · by_cases split : ∃ first second,
          HasInformed history first .commit ∧ HasInformed history second .abort
      · exact .inr (.inr split)
      · have safe := exact.mp ⟨fun first second left right => split ⟨first, second, left, right⟩,
          fun _ node cast => objection ⟨node, cast⟩,
          fun aborted => absurd aborted (not_hasAnnounced_both recorded announced)⟩
        exact .inl fun node member => ⟨_, (safe.commit announced).1 node member⟩
  · intro complete
    constructor
    · intro safe
      obtain ⟨agreement, commit, abort⟩ := safe
      refine ⟨fun {first second ours theirs} mine other => ?_, fun announced => ?_, abort⟩
      · cases ours <;> cases theirs
        · rfl
        · exact absurd other (agreement first second mine)
        · exact absurd mine (agreement second first other)
        · rfl
      · refine ⟨fun node member => ?_, commit announced⟩
        rcases complete announced with voted | ⟨other, objection⟩ | ⟨first, second, left, right⟩
        · obtain ⟨vote, cast⟩ := voted node member
          cases vote with
          | commit => exact cast
          | abort => exact absurd cast (commit announced node)
        · exact absurd objection (commit announced other)
        · exact absurd right (agreement first second left)
    · intro safe
      exact ⟨fun first second left right => (nomatch safe.agreement left right),
        fun announced => (safe.commit announced).2, safe.abort⟩

/-- A commit announced after both votes are in is within the condition. -/
theorem check_exact_iff_all_voted :
    checkAllInvariants {
      votes := (∅ : Std.ExtTreeMap NodeId Vote).insert ⟨0⟩ .commit
      coordinatorDecision := some .commit
      participantDecisions := ∅ } = .ok () ↔
    SafeHistory [⟨0⟩]
      [.sent ⟨.voteCommit, .node ⟨0⟩, .coordinator⟩,
        .sent ⟨.decisionCommit, .coordinator, .node ⟨0⟩⟩] := by
  refine (check_exact_iff rfl).mpr fun _ => .inl fun node member => ?_
  obtain rfl := List.mem_singleton.mp member
  exact ⟨.commit, _, .head _, rfl, rfl⟩

/-- The check accepts a commit that is announced before anyone has voted. -/
theorem check_accepts_commit_without_votes :
    List.foldlM record new [.sent ⟨.decisionCommit, .coordinator, .node ⟨0⟩⟩] =
      .ok { new with coordinatorDecision := some .commit } ∧
    ¬ (checkAllInvariants { new with coordinatorDecision := some .commit } = .ok () ↔
      SafeHistory [⟨0⟩] [.sent ⟨.decisionCommit, .coordinator, .node ⟨0⟩⟩]) := by
  refine ⟨rfl, fun exact => ?_⟩
  have accepted : checkAllInvariants { new with coordinatorDecision := some .commit } = .ok () :=
    rfl
  have announced : HasAnnounced [.sent ⟨.decisionCommit, .coordinator, .node ⟨0⟩⟩] .commit :=
    ⟨_, .head _, rfl, rfl⟩
  obtain ⟨observation, member, cast⟩ := ((exact.mp accepted).commit announced).1 ⟨0⟩ (.head _)
  obtain rfl := List.mem_singleton.mp member
  exact nomatch cast.1

end History

end Observations

end TwoPhaseCommit
