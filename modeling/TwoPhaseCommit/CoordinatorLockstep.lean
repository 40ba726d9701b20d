import TwoPhaseCommit.CoordinatorCalls
import TwoPhaseCommit.Protocol

/-! The coordinator in lockstep with its nodes: all votes arrive at one time, and so do all
acknowledgements, before a timeout is over. -/

set_option autoImplicit false

namespace TwoPhaseCommit

/-- The call that hands over a vote. -/
def Call.vote (atTime : Nat) (ballot : NodeId × Vote) : Call :=
  .onMessage (.vote ballot.1 ballot.2) atTime

/-- The call that hands over an acknowledgement. -/
def Call.ack (atTime : Nat) (node : NodeId) : Call := .onMessage (.ack node) atTime

namespace Coordinator

variable {ρ : Type} [ChaCha8Rng ρ] {self : Coordinator ρ} {atTime : Nat}

/-! ## Votes -/

variable (ρ) in
/-- What the ballots, all of them, let the coordinator decide. -/
structure Returns (abortBias : ℚ) (ballots : List (NodeId × Vote)) (decision : Decision) :
    Prop where
  commit : decision = .commit → ∀ ballot ∈ ballots, ballot.2 = .commit
  abort : decision = .abort →
    (∃ ballot ∈ ballots, ballot.2 = .abort) ∨ MayAbort ρ abortBias

private theorem tick_early {decision : Decision} {last : Nat} {acks : Std.ExtTreeSet NodeId}
    (phase : self.phase = .awaitingAcks decision last acks)
    (early : atTime - last < self.config.retransmitTimeout) : self.tick atTime = (self, []) := by
  simp only [tick, phase]
  exact if_neg (Nat.not_le.mpr early)

/-- Votes that come late change nothing. -/
private theorem replays_late_votes {decision : Decision} {acks : Std.ExtTreeSet NodeId}
    (phase : self.phase = .awaitingAcks decision atTime acks)
    (positive : 0 < self.config.retransmitTimeout) (ballots : List (NodeId × Vote)) :
    machine.Replays self (ballots.map (Call.vote atTime)) self [] := by
  induction ballots with
  | nil => exact .refl _ _
  | cons ballot rest ih =>
      obtain ⟨node, vote⟩ := ballot
      have silent : self.onMessage (.vote node vote) atTime = (self, []) := by
        simp only [onMessage, tick_early phase (Nat.sub_self atTime ▸ positive), receive, phase]
        cases vote <;> rfl
      have one : machine.Replays self [Call.vote atTime (node, vote)] self [] := by
        have single := Library.Machine.Replays.single machine self (Call.vote atTime (node, vote))
        have next : machine.step self (Call.vote atTime (node, vote)) = (self, []) := silent
        rw [Library.Machine.next, Library.Machine.output, next] at single
        exact single
      exact one.append ih

omit [ChaCha8Rng ρ] in
private theorem commit_of_insert {votes : Std.ExtTreeMap NodeId Vote} {node : NodeId} {vote : Vote}
    (commits : ∀ (other : NodeId) (cast : Vote),
      (votes.insert node vote)[other]? = some cast → cast = .commit) : vote = .commit := by
  apply commits node vote
  rw [Library.OrderedMap.getElem?_insert, if_pos rfl]

/-- A fresh vote is recorded, or it completes the decision. -/
private theorem called_vote {last : Nat} {votes : Std.ExtTreeMap NodeId Vote} {node : NodeId}
    {vote : Vote} {after : Coordinator ρ} {outgoing : List Message}
    (called : Called self (Call.vote atTime (node, vote)) after outgoing)
    (phase : self.phase = .voting last votes)
    (early : atTime - last < self.config.retransmitTimeout) (fresh : node ∉ votes)
    (unanimous : ∀ (other : NodeId) (cast : Vote), votes[other]? = some cast → cast = .commit) :
    (∃ decision rng, after = self.announced decision atTime rng ∧
      outgoing = self.nodes.map (messageTo decision.messageType) ∧
      (decision = .commit → vote = .commit ∧ votes.size + 1 = self.nodes.length) ∧
      (decision = .abort → vote = .abort ∨ MayAbort ρ self.config.abortBias)) ∨
    (∃ rng, after = { self with
        phase := .voting last (votes.insert node vote)
        config := { self.config with rng := rng } } ∧
      outgoing = [] ∧ vote = .commit ∧ votes.size + 1 ≠ self.nodes.length) := by
  have size : (votes.insert node vote).size = votes.size + 1 := by
    rw [Std.ExtTreeMap.size_insert, if_neg (by simpa using fresh)]
  have type : (Message.vote node vote).messageType = vote.messageType := rfl
  cases called with
  | receives ticks receives =>
      cases ticks with
      | idle quiet => simp [isQuiescent, phase] at quiet
      | resendsPrepare voting due =>
          cases phase.symm.trans voting
          omega
      | sendsDecision other | resendsDecision other _ | awaitsAcks other _ =>
          cases phase.symm.trans other
      | @aborts _ _ rng voting drawn =>
          -- the coordinator aborts before it looks at the vote
          cases receives with
          | starts other _ | recordsVote other _ _ _ _ | decides other _ _ _ _ => cases other
          | recordsAck _ other _ _ | completes _ other _ _ => cases vote <;> cases other
          | ignores _ =>
              refine .inl ⟨.abort, rng, rfl, List.append_nil _, ?_, fun _ => .inr drawn⟩
              exact fun same => by cases same
      | @awaitsVotes _ _ rng voting _ =>
          cases phase.symm.trans voting
          cases receives with
          | starts other _ | recordsAck other _ _ _ | completes other _ _ _ => cases other
          | @recordsVote _ _ sender cast voting same sender _ undecided =>
              cases voting
              cases sender
              obtain rfl := Vote.messageType_inj.mp (type.symm.trans same)
              obtain ⟨short, commits⟩ := undecided
              rw [size] at short
              exact .inr ⟨rng, rfl, rfl, commit_of_insert commits, short⟩
          | @decides _ _ sender cast decision later voting same sender _ verdict =>
              cases voting
              cases sender
              obtain rfl := Vote.messageType_inj.mp (type.symm.trans same)
              refine .inl ⟨decision, later, rfl, rfl, ?_, ?_⟩
              · intro commits
                subst commits
                obtain ⟨full, commits⟩ := verdict
                exact ⟨commit_of_insert commits, size.symm.trans full⟩
              · intro aborts
                subst aborts
                rcases verdict with ⟨other, objection⟩ | drawn
                · rw [Library.OrderedMap.getElem?_insert] at objection
                  split at objection
                  · exact .inl (Option.some.inj objection)
                  · cases unanimous other .abort objection
                · exact .inr drawn
          | ignores unaccepted =>
              refine absurd ?_ unaccepted
              cases vote <;> exact ⟨node, rfl, fresh⟩

/-- Any votes that complete the tally end in one announcement. -/
theorem replays_votes {ballots : List (NodeId × Vote)} {last : Nat}
    {votes : Std.ExtTreeMap NodeId Vote} (phase : self.phase = .voting last votes)
    (early : atTime - last < self.config.retransmitTimeout)
    (distinct : (ballots.map Prod.fst).Nodup) (fresh : ∀ ballot ∈ ballots, ballot.1 ∉ votes)
    (unanimous : ∀ (node : NodeId) (vote : Vote), votes[node]? = some vote → vote = .commit)
    (complete : votes.size + ballots.length = self.nodes.length) (asked : ballots ≠ []) :
    ∃ decision rng, Returns ρ self.config.abortBias ballots decision ∧
      machine.Replays self (ballots.map (Call.vote atTime)) (self.announced decision atTime rng)
        (self.nodes.map (messageTo decision.messageType)) := by
  induction ballots generalizing self votes with
  | nil => exact absurd rfl asked
  | cons ballot rest ih =>
      obtain ⟨node, vote⟩ := ballot
      have positive : 0 < self.config.retransmitTimeout := Nat.lt_of_le_of_lt (Nat.zero_le _) early
      obtain ⟨absent, others⟩ := List.forall_mem_cons.mp fresh
      obtain ⟨unlike, apart⟩ := List.nodup_cons.mp distinct
      rw [List.length_cons] at complete
      have one := Library.Machine.Replays.single machine self (Call.vote atTime (node, vote))
      have called := machine_called self (Call.vote atTime (node, vote))
      generalize machine.next self (Call.vote atTime (node, vote)) = after at one called
      generalize machine.output self (Call.vote atTime (node, vote)) = outgoing at one called
      rcases called_vote called phase early absent unanimous with
        ⟨decision, rng, rfl, rfl, commits, aborts⟩ | ⟨rng, rfl, rfl, commit, short⟩
      · -- the rest of the votes come late
        refine ⟨decision, rng, ⟨?_, ?_⟩, ?_⟩
        · intro same
          obtain ⟨commit, full⟩ := commits same
          have nothing : rest = [] := List.eq_nil_of_length_eq_zero (by omega)
          subst nothing
          exact List.forall_mem_singleton.mpr commit
        · intro same
          exact (aborts same).imp_left fun objection => ⟨_, .head _, objection⟩
        · have announced : (self.announced decision atTime rng).phase =
              .awaitingAcks decision atTime ∅ := rfl
          have both := one.append (replays_late_votes announced positive rest)
          rw [List.append_nil] at both
          exact both
      · have more : rest ≠ [] := by
          intro nothing
          subst nothing
          exact short complete
        have size : (votes.insert node vote).size = votes.size + 1 := by
          rw [Std.ExtTreeMap.size_insert, if_neg (by simpa using absent)]
        have left : (votes.insert node vote).size + rest.length = self.nodes.length := by omega
        have unrecorded : ∀ ballot ∈ rest, ballot.1 ∉ votes.insert node vote := by
          intro ballot listed recorded
          rcases Library.OrderedMap.mem_insert.mp recorded with same | recorded
          · subst same
            exact unlike (List.mem_map.mpr ⟨ballot, listed, rfl⟩)
          · exact others ballot listed recorded
        have commits : ∀ (other : NodeId) (cast : Vote),
            (votes.insert node vote)[other]? = some cast → cast = .commit := by
          intro other cast found
          rw [Library.OrderedMap.getElem?_insert] at found
          split at found
          · exact (Option.some.inj found).symm.trans commit
          · exact unanimous other cast found
        let middle : Coordinator ρ := { self with
          phase := .voting last (votes.insert node vote)
          config := { self.config with rng := rng } }
        have phase : middle.phase = .voting last (votes.insert node vote) := rfl
        obtain ⟨decision, later, returns, replays⟩ :=
          ih phase early apart unrecorded commits left more
        refine ⟨decision, later, ⟨?_, ?_⟩, one.append replays⟩
        · exact fun same => List.forall_mem_cons.mpr ⟨commit, returns.commit same⟩
        · intro same
          exact (returns.abort same).imp_left fun ⟨ballot, listed, objection⟩ =>
            ⟨ballot, .tail _ listed, objection⟩

/-! ## Acknowledgements -/

/-- Acknowledgements of all nodes finish the transaction. -/
theorem replays_acks {senders : List NodeId} {decision : Decision} {last : Nat}
    {acks : Std.ExtTreeSet NodeId} (phase : self.phase = .awaitingAcks decision last acks)
    (early : atTime - last < self.config.retransmitTimeout) (distinct : senders.Nodup)
    (fresh : ∀ sender ∈ senders, sender ∉ acks)
    (complete : acks.size + senders.length = self.nodes.length) (asked : senders ≠ []) :
    machine.Replays self (senders.map (Call.ack atTime)) { self with phase := .done decision }
      [] := by
  induction senders generalizing self acks with
  | nil => exact absurd rfl asked
  | cons sender rest ih =>
      obtain ⟨absent, others⟩ := List.forall_mem_cons.mp fresh
      obtain ⟨unlike, apart⟩ := List.nodup_cons.mp distinct
      rw [List.length_cons] at complete
      have size : (acks.insert sender).size = acks.size + 1 := by
        rw [Std.ExtTreeSet.size_insert, if_neg (by simpa using absent)]
      have acked : self.onMessage (.ack sender) atTime =
          (self.receiveAck decision last acks (.node sender), []) := by
        simp only [onMessage, tick_early phase early, receive, phase]
        rfl
      have one : machine.Replays self [Call.ack atTime sender]
          (self.receiveAck decision last acks (.node sender)) [] := by
        have single := Library.Machine.Replays.single machine self (Call.ack atTime sender)
        have next : machine.step self (Call.ack atTime sender) =
          (self.receiveAck decision last acks (.node sender), []) := acked
        rw [Library.Machine.next, Library.Machine.output, next] at single
        exact single
      by_cases full : (acks.insert sender).size = self.nodes.length
      · have nothing : rest = [] := List.eq_nil_of_length_eq_zero (by omega)
        subst nothing
        rw [receiveAck, if_pos full] at one
        exact one
      · have more : rest ≠ [] := by
          intro nothing
          subst nothing
          exact full (size.trans complete)
        have left : (acks.insert sender).size + rest.length = self.nodes.length := by omega
        have unrecorded : ∀ other ∈ rest, other ∉ acks.insert sender := by
          intro other listed recorded
          rcases Library.OrderedSet.mem_insert.mp recorded with same | recorded
          · exact unlike (same ▸ listed)
          · exact others other listed recorded
        rw [receiveAck, if_neg full] at one
        exact one.append (ih rfl early apart unrecorded left more)

end Coordinator

end TwoPhaseCommit
