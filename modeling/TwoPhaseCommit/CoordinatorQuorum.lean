import TwoPhaseCommit.CoordinatorCalls
import TwoPhaseCommit.CoordinatorProgress

/-! What the coordinator counts. It records an answer under the id of its sender and
compares the number of ids with the number of nodes, so a quorum is one of the managed
nodes just when no other node has answered. -/

set_option autoImplicit false

namespace TwoPhaseCommit.Coordinator

variable {ρ : Type} [ChaCha8Rng ρ] {self middle after start : Coordinator ρ} {call : Call}
  {outgoing : List Message} {round : List Call}

/-- The call may enter the phase of this rank: it comes in another phase, or is a recovery. -/
def reenters (rank : Nat) (self : Coordinator ρ) (call : Call) : Bool :=
  self.phase.rank != rank || call.isRecover

/-- The calls since the last entry into `voting`, the entering one included. -/
def votingRound (start : Coordinator ρ) (calls : List Call) : List Call :=
  machine.since (reenters 3) start calls

/-- The calls since the last entry into `awaitingAcks`, the entering one included. -/
def ackRound (start : Coordinator ρ) (calls : List Call) : List Call :=
  machine.since (reenters 1) start calls

/-! ## Votes -/

/-- The recorded votes are those the calls have delivered, the first of each node. -/
structure Tallies (votes : Std.ExtTreeMap NodeId Vote) (round : List Call) : Prop where
  counted : ∀ {node : NodeId} {vote : Vote}, votes[node]? = some vote →
    ∃ call ∈ round, call.Delivers vote.messageType node
  recorded : ∀ call ∈ round, ∀ {node : NodeId} {vote : Vote},
    call.Delivers vote.messageType node → node ∈ votes

theorem tallies_empty : Tallies ∅ [] where
  counted found := by simp at found
  recorded := nofun

section Tallies

variable {votes : Std.ExtTreeMap NodeId Vote}

theorem Tallies.skip (tallies : Tallies votes round)
    (known : ∀ {node : NodeId} {vote : Vote}, call.Delivers vote.messageType node →
      node ∈ votes) : Tallies votes (round ++ [call]) where
  counted found := by
    obtain ⟨earlier, member, delivers⟩ := tallies.counted found
    exact ⟨earlier, List.mem_append_left _ member, delivers⟩
  recorded other member node vote delivers := by
    rcases List.mem_append.mp member with earlier | last
    · exact tallies.recorded other earlier delivers
    · obtain rfl := List.mem_singleton.mp last
      exact known delivers

theorem Tallies.insert (tallies : Tallies votes round) {node : NodeId} {vote : Vote}
    (delivers : call.Delivers vote.messageType node) :
    Tallies (votes.insert node vote) (round ++ [call]) where
  counted {other cast} found := by
    rw [Library.OrderedMap.getElem?_insert] at found
    split at found
    · rename_i same
      cases same
      cases found
      exact ⟨call, List.mem_append_right _ (.head _), delivers⟩
    · obtain ⟨earlier, member, delivered⟩ := tallies.counted found
      exact ⟨earlier, List.mem_append_left _ member, delivered⟩
  recorded other member voter cast delivered := by
    rw [Library.OrderedMap.mem_insert]
    rcases List.mem_append.mp member with earlier | last
    · exact .inr (tallies.recorded other earlier delivered)
    · obtain rfl := List.mem_singleton.mp last
      exact .inl (delivered.node_eq delivers).1

theorem Tallies.commit_iff (tallies : Tallies votes round)
    (unanimous : ∀ (node : NodeId) (vote : Vote), votes[node]? = some vote → vote = .commit)
    (node : NodeId) : node ∈ votes ↔ ∃ call ∈ round, call.Delivers .voteCommit node := by
  constructor
  · intro present
    obtain ⟨vote, found⟩ := Library.OrderedMap.mem_iff_exists.mp present
    cases unanimous node vote found
    exact tallies.counted found
  · intro delivered
    obtain ⟨call, member, delivers⟩ := delivered
    exact tallies.recorded call member
      (show call.Delivers Vote.commit.messageType node from delivers)

theorem Tallies.covers_iff (tallies : Tallies votes round) {nodes : List NodeId}
    (full : votes.size = nodes.length) (nodup : nodes.Nodup)
    (unanimous : ∀ (node : NodeId) (vote : Vote), votes[node]? = some vote → vote = .commit) :
    (∀ node ∈ nodes, ∃ call ∈ round, call.Delivers .voteCommit node) ↔
      ∀ call ∈ round, ∀ (node : NodeId) (vote : Vote),
        call.Delivers vote.messageType node → node ∈ nodes := by
  simp only [← tallies.commit_iff unanimous]
  rw [Library.OrderedMap.covers_iff full nodup]
  constructor
  · exact fun inside call member node vote delivers =>
      inside node (tallies.recorded call member delivers)
  · intro managed node present
    obtain ⟨vote, found⟩ := Library.OrderedMap.mem_iff_exists.mp present
    obtain ⟨call, member, delivers⟩ := tallies.counted found
    exact managed call member node vote delivers

end Tallies

/-- The votes of the phase, if it has any, are those of the round. -/
def Counts (self : Coordinator ρ) (round : List Call) : Prop :=
  ∀ last votes, self.phase = .voting last votes → Tallies votes round

section Voting

variable {msg : Message} {atTime : Nat}

private theorem Ticked.voting_of_voting {last : Nat} {votes : Std.ExtTreeMap NodeId Vote}
    (ticked : Ticked self atTime after outgoing) (phase : after.phase = .voting last votes) :
    ∃ last, self.phase = .voting last votes := by
  cases ticked with
  | idle _ | awaitsAcks _ _ => exact ⟨last, phase⟩
  | resendsPrepare before _ | awaitsVotes before _ =>
      cases phase
      exact ⟨_, before⟩
  | aborts _ _ | sendsDecision _ | resendsDecision _ _ => cases phase

private theorem Ticked.waiting_of_waiting (ticked : Ticked self atTime after outgoing)
    (phase : after.phase = .waiting) : self.phase = .waiting := by
  cases ticked with
  | idle _ | awaitsAcks _ _ => exact phase
  | resendsPrepare _ _ | awaitsVotes _ _ | aborts _ _ | sendsDecision _
  | resendsDecision _ _ => cases phase

private theorem Ticked.undecided (ticked : Ticked self atTime after outgoing)
    (undecided : self.decision = none) :
    after.decision = none ∨ after.decision = some .abort := by
  cases ticked with
  | idle _ | awaitsAcks _ _ => exact .inl undecided
  | resendsPrepare _ _ | awaitsVotes _ _ => exact .inl rfl
  | aborts _ _ => exact .inr rfl
  | sendsDecision before | resendsDecision before _ =>
      rw [Coordinator.decision, before] at undecided
      cases undecided

omit [ChaCha8Rng ρ] in
private theorem mem_of_ignored {last : Nat} {votes : Std.ExtTreeMap NodeId Vote}
    (phase : self.phase = .voting last votes) (ignored : ¬ self.Accepts msg)
    {node : NodeId} {vote : Vote}
    (delivers : (Call.onMessage msg atTime).Delivers vote.messageType node) : node ∈ votes := by
  obtain ⟨_, _, same, type, sender⟩ := delivers
  cases same
  cases vote <;> simp_all [Accepts, Vote.messageType]

/-- The round that the call belongs to, once the tick is over. -/
private theorem Ticked.counts (ticked : Ticked self atTime after outgoing) (call : Call)
    (up : call.isRecover = false) (counts : self.Counts round) :
    after.Counts (if self.reenters 3 call then [] else round) ∧
      (after.phase = .waiting → (if self.reenters 3 call then [] else round) = []) := by
  constructor
  · intro last votes phase
    obtain ⟨earlier, before⟩ := ticked.voting_of_voting phase
    rw [reenters, before, up]
    exact counts earlier votes before
  · intro phase
    rw [reenters, ticked.waiting_of_waiting phase]
    rfl

private theorem Received.counts (received : Received self msg atTime after outgoing)
    (counts : self.Counts round) (entered : self.phase = .waiting → round = []) :
    after.Counts (round ++ [.onMessage msg atTime]) := by
  intro last votes phase
  cases received with
  | starts waiting type =>
      cases phase
      rw [entered waiting]
      apply tallies_empty.skip
      intro node vote delivers
      obtain ⟨_, _, same, cast, _⟩ := delivers
      cases same
      rw [type] at cast
      cases vote <;> cases cast
  | recordsVote before type sender _ _ =>
      cases phase
      exact (counts _ _ before).insert ⟨msg, atTime, rfl, type, sender⟩
  | ignores ignored => exact (counts _ _ phase).skip (mem_of_ignored phase ignored)
  | decides _ _ _ _ _ | recordsAck _ _ _ _ | completes _ _ _ _ => cases phase

/-- A Commit is decided on a full set of votes, all for it. -/
private theorem Received.commits (received : Received self msg atTime after outgoing)
    (counts : self.Counts round) (undecided : self.decision = none)
    (commits : after.decision = some .commit) :
    ∃ votes, Tallies votes (round ++ [.onMessage msg atTime]) ∧
      votes.size = self.nodes.length ∧
      ∀ (node : NodeId) (vote : Vote), votes[node]? = some vote → vote = .commit := by
  cases received with
  | @decides _ votes node vote decision _ before type sender _ verdict =>
      cases commits
      have tallies := (counts _ _ before).insert ⟨msg, atTime, rfl, type, sender⟩
      exact ⟨votes.insert node vote, tallies, verdict⟩
  | starts _ _ | recordsVote _ _ _ _ _ => cases commits
  | recordsAck before _ _ _ | completes before _ _ _ =>
      rw [Coordinator.decision, before] at undecided
      cases undecided
  | ignores _ => cases undecided.symm.trans commits

theorem Called.counts (called : Called self call after outgoing) (counts : self.Counts round) :
    after.Counts ((if self.reenters 3 call then [] else round) ++ [call]) := by
  cases called with
  | receives ticked received =>
      obtain ⟨middle, entered⟩ := ticked.counts (.onMessage _ _) rfl counts
      exact received.counts middle entered
  | ticks ticked =>
      intro last votes phase
      apply ((ticked.counts (.tick _) rfl counts).1 last votes phase).skip
      intro node vote delivers
      obtain ⟨_, _, same, _⟩ := delivers
      cases same
  | recovers =>
      intro last votes phase
      rw [reenters, Call.isRecover, Bool.or_true, if_pos rfl]
      have cleared : votes = ∅ := by
        unfold recover at phase
        split at phase <;> cases phase
        rfl
      rw [cleared]
      apply tallies_empty.skip
      intro node vote delivers
      obtain ⟨_, _, same, _⟩ := delivers
      cases same

theorem Called.commits (called : Called self call after outgoing)
    (durable : self.durableState.decision = self.decision) (counts : self.Counts round)
    (undecided : self.decision = none) (commits : after.decision = some .commit) :
    ∃ votes, Tallies votes ((if self.reenters 3 call then [] else round) ++ [call]) ∧
      votes.size = self.nodes.length ∧
      ∀ (node : NodeId) (vote : Vote), votes[node]? = some vote → vote = .commit := by
  cases called with
  | receives ticked received =>
      rw [← ticked.sameSetup.nodes]
      rcases ticked.undecided undecided with still | aborted
      · exact received.commits (ticked.counts (.onMessage _ _) rfl counts).1 still commits
      · have upheld := received.upholds (ticked.upholds durable).durable
        cases (upheld.stays aborted).symm.trans commits
  | ticks ticked =>
      rcases ticked.undecided undecided with still | aborted
      · cases still.symm.trans commits
      · cases aborted.symm.trans commits
  | recovers =>
      rw [recover_decision _ durable] at commits
      cases undecided.symm.trans commits

theorem run_counts (begun : start.phase = .waiting) (calls : List Call) :
    (machine.run start calls).Counts (votingRound start calls) := by
  apply Library.Machine.since_induction machine (reenters 3) fun round state => state.Counts round
  · intro last votes phase
    cases begun.symm.trans phase
  · exact fun call counts => (machine_called _ call).counts counts

end Voting

/-! ## Acknowledgements -/

/-- The recorded acknowledgements are those the calls have delivered. -/
def Acknowledges (acks : Std.ExtTreeSet NodeId) (round : List Call) : Prop :=
  ∀ node, node ∈ acks ↔ ∃ call ∈ round, call.Delivers .ack node

/-- The acknowledgements of the phase, if it has any, are those of the round. -/
def CountsAcks (self : Coordinator ρ) (round : List Call) : Prop :=
  ∀ decision last acks, self.phase = .awaitingAcks decision last acks → Acknowledges acks round

theorem acknowledges_empty : Acknowledges ∅ [] := by
  intro node
  simp

section Acknowledges

variable {acks : Std.ExtTreeSet NodeId} {msg : Message} {atTime : Nat}

theorem Acknowledges.skip (acknowledges : Acknowledges acks round)
    (other : ∀ node, ¬ call.Delivers .ack node) : Acknowledges acks (round ++ [call]) := by
  intro node
  rw [acknowledges node]
  simp [or_and_right, exists_or, other node]

theorem Acknowledges.insert (acknowledges : Acknowledges acks round) {node : NodeId}
    (delivers : call.Delivers .ack node) :
    Acknowledges (acks.insert node) (round ++ [call]) := by
  intro other
  have last : call.Delivers .ack other ↔ other = node :=
    ⟨fun delivered => (delivered.node_eq delivers).1, fun same => same ▸ delivers⟩
  rw [Library.OrderedSet.mem_insert, acknowledges other, ← last]
  simp [or_and_right, exists_or, or_comm]

theorem Acknowledges.covers_iff (acknowledges : Acknowledges acks round) {nodes : List NodeId}
    (full : acks.size = nodes.length) (nodup : nodes.Nodup) :
    (∀ node ∈ nodes, ∃ call ∈ round, call.Delivers .ack node) ↔
      ∀ call ∈ round, ∀ node : NodeId, call.Delivers .ack node → node ∈ nodes := by
  simp only [← acknowledges _]
  rw [Library.OrderedSet.covers_iff full nodup]
  constructor
  · exact fun inside call member node delivers =>
      inside node ((acknowledges node).mpr ⟨call, member, delivers⟩)
  · intro managed node present
    obtain ⟨call, member, delivers⟩ := (acknowledges node).mp present
    exact managed call member node delivers

private theorem Ticked.countsAcks (ticked : Ticked self atTime after outgoing) (call : Call)
    (up : call.isRecover = false) (counts : self.CountsAcks round) :
    after.CountsAcks (if self.reenters 1 call then [] else round) ∧
      (after.phase.rank = 3 → (if self.reenters 1 call then [] else round) = []) := by
  have entered : self.phase.rank ≠ 1 → (if self.reenters 1 call then [] else round) = [] := by
    intro elsewhere
    simp [reenters, elsewhere]
  have within : ∀ {decision last acks}, self.phase = .awaitingAcks decision last acks →
      Acknowledges acks (if self.reenters 1 call then [] else round) := by
    intro decision last acks before
    rw [reenters, before, up]
    exact counts _ _ _ before
  constructor
  · intro decision last acks phase
    cases ticked with
    | idle _ | awaitsAcks _ _ => exact within phase
    | resendsDecision before _ =>
        cases phase
        exact within before
    | aborts before _ | sendsDecision before =>
        cases phase
        rw [entered (by simp [before, CoordinatorPhase.rank])]
        exact acknowledges_empty
    | resendsPrepare _ _ | awaitsVotes _ _ => cases phase
  · intro voting
    apply entered
    rcases ticked.progress with ⟨keeps, _⟩ | advanced
    · rw [← keeps.rank, voting]
      decide
    · omega

private theorem Ticked.unfinished (ticked : Ticked self atTime after outgoing)
    (unfinished : self.phase.rank ≠ 0) : after.phase.rank ≠ 0 := by
  cases ticked with
  | idle _ | awaitsAcks _ _ => exact unfinished
  | aborts _ _ | resendsPrepare _ _ | awaitsVotes _ _ | sendsDecision _
  | resendsDecision _ _ => exact Nat.succ_ne_zero _

private theorem not_delivers_ack {type : MessageType} (same : msg.messageType = type)
    (other : type ≠ .ack) (node : NodeId) : ¬ (Call.onMessage msg atTime).Delivers .ack node := by
  intro delivers
  obtain ⟨_, _, call, ack, _⟩ := delivers
  cases call
  exact other (same.symm.trans ack)

private theorem Received.countsAcks (received : Received self msg atTime after outgoing)
    (counts : self.CountsAcks round) (entered : self.phase.rank = 3 → round = []) :
    after.CountsAcks (round ++ [.onMessage msg atTime]) := by
  intro decision last acks phase
  cases received with
  | @decides _ _ _ vote _ _ before type _ _ _ =>
      cases phase
      rw [entered (by rw [before]; rfl)]
      apply acknowledges_empty.skip
      exact not_delivers_ack type (by cases vote <;> decide)
  | recordsAck before type sender _ =>
      cases phase
      exact (counts _ _ _ before).insert ⟨msg, atTime, rfl, type, sender⟩
  | ignores ignored =>
      apply (counts _ _ _ phase).skip
      intro node delivers
      obtain ⟨_, _, same, type, sender⟩ := delivers
      cases same
      apply ignored
      rw [Accepts, type, phase]
      exact ⟨node, sender⟩
  | starts _ _ | recordsVote _ _ _ _ _ | completes _ _ _ _ => cases phase

/-- The protocol is complete with a full set of acknowledgements. -/
private theorem Received.completed (received : Received self msg atTime after outgoing)
    (counts : self.CountsAcks round) {decision : Decision} (unfinished : self.phase.rank ≠ 0)
    (done : after.phase = .done decision) :
    ∃ acks, Acknowledges acks (round ++ [.onMessage msg atTime]) ∧
      acks.size = self.nodes.length := by
  cases received with
  | @completes _ _ acks node before type sender full =>
      have acknowledged := (counts _ _ _ before).insert ⟨msg, atTime, rfl, type, sender⟩
      exact ⟨acks.insert node, acknowledged, full⟩
  | ignores _ =>
      rw [done] at unfinished
      cases unfinished rfl
  | starts _ _ | recordsVote _ _ _ _ _ | decides _ _ _ _ _ | recordsAck _ _ _ _ => cases done

theorem Called.countsAcks (called : Called self call after outgoing)
    (counts : self.CountsAcks round) :
    after.CountsAcks ((if self.reenters 1 call then [] else round) ++ [call]) := by
  cases called with
  | receives ticked received =>
      obtain ⟨middle, entered⟩ := ticked.countsAcks (.onMessage _ _) rfl counts
      exact received.countsAcks middle entered
  | ticks ticked =>
      intro decision last acks phase
      apply ((ticked.countsAcks (.tick _) rfl counts).1 decision last acks phase).skip
      intro node delivers
      obtain ⟨_, _, same, _⟩ := delivers
      cases same
  | recovers =>
      intro decision last acks phase
      unfold recover at phase
      split at phase <;> cases phase

theorem Called.completed (called : Called self call after outgoing)
    (counts : self.CountsAcks round) {decision : Decision} (unfinished : self.phase.rank ≠ 0)
    (done : after.phase = .done decision) :
    ∃ acks, Acknowledges acks ((if self.reenters 1 call then [] else round) ++ [call]) ∧
      acks.size = self.nodes.length := by
  cases called with
  | receives ticked received =>
      rw [← ticked.sameSetup.nodes]
      exact received.completed (ticked.countsAcks (.onMessage _ _) rfl counts).1
        (ticked.unfinished unfinished) done
  | ticks ticked =>
      have continues := ticked.unfinished unfinished
      rw [done] at continues
      cases continues rfl
  | recovers =>
      unfold recover at done
      split at done <;> cases done

theorem run_countsAcks (begun : start.phase = .waiting) (calls : List Call) :
    (machine.run start calls).CountsAcks (ackRound start calls) := by
  apply Library.Machine.since_induction machine (reenters 1) fun round state =>
    state.CountsAcks round
  · intro decision last acks phase
    cases begun.symm.trans phase
  · exact fun call counts => (machine_called _ call).countsAcks counts

end Acknowledges

/-! ## Quorums -/

/-- Every one of the nodes has delivered a message of this type in the round. -/
def Quorum (nodes : List NodeId) (type : MessageType) (round : List Call) : Prop :=
  ∀ node ∈ nodes, ∃ call ∈ round, call.Delivers type node

/-- A call that decides Commit or completes the protocol does so on a quorum of the nodes
just when no other node has answered in the round. -/
theorem quorum_iff {nodes : List NodeId} (nodup : nodes.Nodup) {start : Coordinator ρ}
    {rngSeed : UInt64} {abortBias : ℚ} {retransmitTimeout : Nat}
    (created : start = new nodes rngSeed abortBias retransmitTimeout) (calls : List Call)
    (call : Call) :
    ((machine.run start calls).decision = none →
      (machine.run start (calls ++ [call])).decision = some .commit →
        (Quorum nodes .voteCommit (votingRound start (calls ++ [call])) ↔
          ∀ delivered ∈ votingRound start (calls ++ [call]), ∀ (node : NodeId) (vote : Vote),
            delivered.Delivers vote.messageType node → node ∈ nodes)) ∧
    ((∀ decision, (machine.run start calls).phase ≠ .done decision) →
      ∀ decision, (machine.run start (calls ++ [call])).phase = .done decision →
        (Quorum nodes .ack (ackRound start (calls ++ [call])) ↔
          ∀ delivered ∈ ackRound start (calls ++ [call]), ∀ node : NodeId,
            delivered.Delivers .ack node → node ∈ nodes)) := by
  have begun : start.phase = .waiting := by rw [created]; rfl
  have recorded : start.durableState.decision = start.decision := by rw [created]; rfl
  have managed : (machine.run start calls).nodes = nodes := by
    rw [(run_sameSetup start calls).nodes, created]
    rfl
  have called := machine_called (machine.run start calls) call
  rw [Library.Machine.run_concat, votingRound, ackRound, Library.Machine.since_concat,
    Library.Machine.since_concat]
  constructor
  · intro undecided commits
    obtain ⟨votes, tallies, full, unanimous⟩ := called.commits (run_upholds recorded calls).1
      (run_counts begun calls) undecided commits
    exact tallies.covers_iff (managed ▸ full) nodup unanimous
  · intro unfinished decision done
    have running : (machine.run start calls).phase.rank ≠ 0 := by
      cases phase : (machine.run start calls).phase with
      | done decision => exact absurd phase (unfinished decision)
      | waiting | voting _ _ | decided _ | awaitingAcks _ _ _ => exact Nat.succ_ne_zero _
    obtain ⟨acks, acknowledges, full⟩ := called.completed (run_countsAcks begun calls) running done
    exact acknowledges.covers_iff (managed ▸ full) nodup

/-- The votes come from the nodes, the last acknowledgement from an id that is not managed. -/
theorem quorum_iff_two_nodes :
    Quorum [⟨0⟩, ⟨1⟩] .voteCommit (votingRound (new [⟨0⟩, ⟨1⟩] 0 0 5 : Coordinator ForcedRng)
      [startCall, voteCall ⟨0⟩, voteCall ⟨1⟩]) ∧
    ¬ Quorum [⟨0⟩, ⟨1⟩] .ack (ackRound (new [⟨0⟩, ⟨1⟩] 0 0 5 : Coordinator ForcedRng)
      [startCall, voteCall ⟨0⟩, voteCall ⟨1⟩, ackCall ⟨0⟩, ackCall ⟨7⟩]) := by
  have created : (new [⟨0⟩, ⟨1⟩] 0 0 5 : Coordinator ForcedRng) = new [⟨0⟩, ⟨1⟩] 0 0 5 := rfl
  have commits := (quorum_iff (by decide) created [startCall, voteCall ⟨0⟩] (voteCall ⟨1⟩)).1
    (by decide +kernel) (by decide +kernel)
  have completes := (quorum_iff (by decide) created
    [startCall, voteCall ⟨0⟩, voteCall ⟨1⟩, ackCall ⟨0⟩] (ackCall ⟨7⟩)).2
  have unfinished : ∀ decision, (machine.run (new [⟨0⟩, ⟨1⟩] 0 0 5 : Coordinator ForcedRng)
      [startCall, voteCall ⟨0⟩, voteCall ⟨1⟩, ackCall ⟨0⟩]).phase ≠ .done decision := by
    intro decision
    cases decision <;> decide +kernel
  constructor
  · apply commits.mpr
    have round : votingRound (new [⟨0⟩, ⟨1⟩] 0 0 5 : Coordinator ForcedRng)
        ([startCall, voteCall ⟨0⟩] ++ [voteCall ⟨1⟩]) =
          [startCall, voteCall ⟨0⟩, voteCall ⟨1⟩] := by decide +kernel
    rw [round]
    intro delivered member node vote delivers
    obtain ⟨msg, atTime, same, _, sender⟩ := delivers
    simp only [List.mem_cons, List.not_mem_nil, or_false] at member
    rcases member with rfl | rfl | rfl
    · cases same
      cases sender
    · cases same
      cases sender
      decide
    · cases same
      cases sender
      decide
  · refine (completes unfinished .commit (by decide +kernel)).not.mpr fun managed => ?_
    have round : ackCall ⟨7⟩ ∈ ackRound (new [⟨0⟩, ⟨1⟩] 0 0 5 : Coordinator ForcedRng)
        ([startCall, voteCall ⟨0⟩, voteCall ⟨1⟩, ackCall ⟨0⟩] ++ [ackCall ⟨7⟩]) := by
      decide +kernel
    have member := managed _ round ⟨7⟩ ⟨_, _, rfl, rfl, rfl⟩
    simp at member

/-- A vote from an id that is not managed stands in for the vote of a node. -/
theorem stray_vote_commits : ¬ ∀ (calls : List Call) (call : Call),
    (machine.run (new [⟨0⟩, ⟨1⟩] 0 0 5 : Coordinator ForcedRng) calls).decision = none →
    (machine.run (new [⟨0⟩, ⟨1⟩] 0 0 5 : Coordinator ForcedRng) (calls ++ [call])).decision =
      some .commit →
    Quorum [⟨0⟩, ⟨1⟩] .voteCommit
      (votingRound (new [⟨0⟩, ⟨1⟩] 0 0 5 : Coordinator ForcedRng) (calls ++ [call])) := by
  intro counted
  have quorum := counted [startCall, voteCall ⟨0⟩] (voteCall ⟨7⟩) (by decide +kernel)
    (by decide +kernel)
  obtain ⟨delivered, member, delivers⟩ := quorum ⟨1⟩ (by decide)
  have round : votingRound (new [⟨0⟩, ⟨1⟩] 0 0 5 : Coordinator ForcedRng)
      ([startCall, voteCall ⟨0⟩] ++ [voteCall ⟨7⟩]) =
        [startCall, voteCall ⟨0⟩, voteCall ⟨7⟩] := by decide +kernel
  rw [round] at member
  obtain ⟨msg, atTime, same, _, sender⟩ := delivers
  simp only [List.mem_cons, List.not_mem_nil, or_false] at member
  rcases member with rfl | rfl | rfl
  · cases same
    cases sender
  · cases same
    cases sender
  · cases same
    cases sender

end TwoPhaseCommit.Coordinator
