import TwoPhaseCommit.CoordinatorCalls
import TwoPhaseCommit.CoordinatorProgress

/-! Retransmission in any sequence of calls: the coordinator asks again exactly those
who have not answered, someone is always left to ask, and the timeout passes between
two batches of the same messages. -/

set_option autoImplicit false

namespace TwoPhaseCommit.Coordinator

variable {ρ : Type} [ChaCha8Rng ρ] {self after start : Coordinator ρ} {call : Call}
  {outgoing : List Message}

/-! ## Recovery -/

/-- The coin flip of the next tick in `voting`. -/
def abortsNext (self : Coordinator ρ) : Bool :=
  (ChaCha8Rng.randomBool self.config.rng (clamp (self.config.abortBias / 10) 0 1)).1

/-- What a recovered coordinator has to tell every node. -/
def reengagement (self : Coordinator ρ) : List Message :=
  match self.durableState.decision with
  | some decision => self.nodes.map (messageTo decision.messageType)
  | none => self.nodes.map (messageTo (if self.abortsNext then .decisionAbort else .prepare))

theorem tick_voting {last : Nat} {votes : Std.ExtTreeMap NodeId Vote}
    (phase : self.phase = .voting last votes) (atTime : Nat) :
    (self.tick atTime).2 =
      if self.abortsNext then self.nodes.map (messageTo .decisionAbort)
      else if self.config.retransmitTimeout ≤ atTime - last then
        (self.nodes.filter fun node => !votes.contains node).map (messageTo .prepare)
      else [] := by
  have drawn : (ChaCha8Rng.randomBool self.config.rng
      (clamp (self.config.abortBias / 10) 0 1)).1 = self.abortsNext := rfl
  simp only [tick, phase, drawn]
  cases self.abortsNext with
  | true => rfl
  | false =>
      simp only [Bool.false_eq_true, ↓reduceIte]
      split <;> rfl

theorem tick_awaitingAcks {decision : Decision} {last : Nat} {acks : Std.ExtTreeSet NodeId}
    (phase : self.phase = .awaitingAcks decision last acks) (atTime : Nat) :
    (self.tick atTime).2 =
      if self.config.retransmitTimeout ≤ atTime - last then
        (self.nodes.filter fun node => !acks.contains node).map (messageTo decision.messageType)
      else [] := by
  simp only [tick, phase]
  split <;> rfl

/-- The first tick after a recovery reaches every node unless the timeout is larger than the
time, so that the backdated time of the last Prepare is cut off at zero. -/
theorem recover_tick_iff (managed : self.nodes ≠ []) {recovery atTime : Nat}
    (later : recovery ≤ atTime) :
    ((self.recover recovery).tick atTime).2 = self.reengagement ↔
      self.durableState.decision ≠ none ∨ self.abortsNext = true ∨
        self.config.retransmitTimeout ≤ atTime := by
  cases stored : self.durableState.decision with
  | some decision =>
      simp [recover, stored, tick, trySendDecision, reengagement]
  | none =>
      have restored : self.recover recovery =
          { self with phase := .voting (recovery - self.config.retransmitTimeout) ∅ } := by
        simp only [recover, stored]
      have due : self.config.retransmitTimeout ≤
          atTime - (recovery - self.config.retransmitTimeout) ↔
            self.config.retransmitTimeout ≤ atTime := by omega
      have drawn : (self.recover recovery).abortsNext = self.abortsNext := by rw [restored]; rfl
      rw [restored] at drawn ⊢
      rw [tick_voting rfl, drawn, reengagement, stored]
      simp only [due]
      cases self.abortsNext with
      | true => simp
      | false =>
          by_cases reached : self.config.retransmitTimeout ≤ atTime
          · simp [reached]
          · simp [reached, managed]

/-- With a vote missing the timeout counts, with a durable decision it does not. -/
theorem recover_tick_iff_timeout : ∃ voting decided : Coordinator ForcedRng,
    voting = machine.run (new [⟨0⟩, ⟨1⟩] 0 0 5) [startCall, voteCall ⟨0⟩] ∧
      decided = machine.run (new [⟨0⟩, ⟨1⟩] 0 0 5) [startCall, voteCall ⟨0⟩, voteCall ⟨1⟩] ∧
      ((voting.recover 3).tick 5).2 = voting.reengagement ∧
      ((voting.recover 3).tick 4).2 ≠ voting.reengagement ∧
      ((decided.recover 3).tick 4).2 = decided.reengagement := by
  refine ⟨_, _, rfl, rfl, ?_, ?_, ?_⟩
  · apply (recover_tick_iff (by decide +kernel) (by decide +kernel)).mpr
    exact .inr (.inr (by decide +kernel))
  · exact (recover_tick_iff (by decide +kernel) (by decide +kernel)).not.mpr (by decide +kernel)
  · exact (recover_tick_iff (by decide +kernel) (by decide +kernel)).mpr (.inl (by decide +kernel))

theorem recover_tick_before_timeout : ¬ ∀ (calls : List Call) (recovery atTime : Nat),
    recovery ≤ atTime →
      (((machine.run (new [⟨0⟩] 0 0 5 : Coordinator ForcedRng) calls).recover recovery).tick
        atTime).2 = (machine.run (new [⟨0⟩] 0 0 5 : Coordinator ForcedRng) calls).reengagement := by
  intro reengages
  have sent := reengages [] 2 2 (Nat.le_refl 2)
  have silent : (((new [⟨0⟩] 0 0 5 : Coordinator ForcedRng).recover 2).tick 2).2 = [] := by
    decide +kernel
  have expected : (new [⟨0⟩] 0 0 5 : Coordinator ForcedRng).reengagement =
      [messageTo .prepare ⟨0⟩] := by decide +kernel
  rw [Library.Machine.run_nil, silent, expected] at sent
  cases sent

/-! ## Someone is always left to ask -/

/-- Fewer answers are recorded than there are nodes. -/
def Incomplete (self : Coordinator ρ) : Prop :=
  match self.phase with
  | .voting _ votes => votes.size < self.nodes.length
  | .awaitingAcks _ _ acks => acks.size < self.nodes.length
  | .waiting | .decided _ | .done _ => True

section Incomplete

variable {atTime : Nat}

omit [ChaCha8Rng ρ] in
private theorem announced_incomplete (managed : self.nodes ≠ []) (decision : Decision) (rng : ρ) :
    (self.announced decision atTime rng).Incomplete := by
  simpa [Incomplete, announced] using List.length_pos_iff.mpr managed

theorem Ticked.incomplete (ticked : Ticked self atTime after outgoing) (managed : self.nodes ≠ [])
    (incomplete : self.Incomplete) : after.Incomplete := by
  cases ticked with
  | idle _ | awaitsAcks _ _ => exact incomplete
  | aborts _ _ | sendsDecision _ => exact announced_incomplete managed _ _
  | resendsPrepare phase _ | awaitsVotes phase _ | resendsDecision phase _ =>
      rw [Incomplete, phase] at incomplete
      exact incomplete

theorem Received.incomplete {msg : Message} (received : Received self msg atTime after outgoing)
    (managed : self.nodes ≠ []) (incomplete : self.Incomplete) : after.Incomplete := by
  cases received with
  | starts _ _ => simpa [Incomplete] using List.length_pos_iff.mpr managed
  | recordsVote phase _ _ _ undecided =>
      rw [Incomplete, phase] at incomplete
      apply Nat.lt_of_le_of_ne _ undecided.1
      exact Nat.le_trans Std.ExtTreeMap.size_insert_le incomplete
  | decides _ _ _ _ _ => exact announced_incomplete managed _ _
  | recordsAck phase _ _ short =>
      rw [Incomplete, phase] at incomplete
      apply Nat.lt_of_le_of_ne _ short
      exact Nat.le_trans Std.ExtTreeSet.size_insert_le incomplete
  | completes _ _ _ _ => trivial
  | ignores _ => exact incomplete

theorem Called.incomplete (called : Called self call after outgoing) (managed : self.nodes ≠ [])
    (incomplete : self.Incomplete) : after.Incomplete := by
  cases called with
  | receives ticked received =>
      apply received.incomplete
      · rw [ticked.sameSetup.nodes]
        exact managed
      · exact ticked.incomplete managed incomplete
  | ticks ticked => exact ticked.incomplete managed incomplete
  | recovers =>
      unfold recover
      split
      · trivial
      · simpa [Incomplete] using List.length_pos_iff.mpr managed

theorem run_incomplete (managed : start.nodes ≠ []) (incomplete : start.Incomplete)
    (calls : List Call) : (machine.run start calls).Incomplete := by
  have both : (machine.run start calls).nodes = start.nodes ∧
      (machine.run start calls).Incomplete := by
    apply Library.Machine.run_preserves fun state : Coordinator ρ =>
      state.nodes = start.nodes ∧ state.Incomplete
    · intro state call _ holds
      have called := machine_called state call
      exact ⟨called.sameSetup.nodes.trans holds.1, called.incomplete (holds.1 ▸ managed) holds.2⟩
    · exact ⟨rfl, incomplete⟩
  exact both.2

end Incomplete

/-! ## What one call sends -/

/-- A batch of Prepares and then a batch of decisions, each in the order of the nodes. -/
def Batched (nodes : List NodeId) (outgoing : List Message) : Prop :=
  ∃ (asked told : List NodeId) (decision : Decision),
    asked.Sublist nodes ∧ told.Sublist nodes ∧
      outgoing = asked.map (messageTo .prepare) ++ told.map (messageTo decision.messageType)

section Batches

variable {atTime : Nat}

private theorem Ticked.batch (ticked : Ticked self atTime after outgoing) :
    outgoing = [] ∨
      (after.phase.rank = 3 ∧ ∃ asked : List NodeId, asked.Sublist self.nodes ∧
        outgoing = asked.map (messageTo .prepare)) ∨
      after.phase.rank = 1 ∧ ∃ (told : List NodeId) (decision : Decision),
        told.Sublist self.nodes ∧ outgoing = told.map (messageTo decision.messageType) := by
  cases ticked with
  | idle _ | awaitsVotes _ _ | awaitsAcks _ _ => exact .inl rfl
  | aborts _ _ => exact .inr (.inr ⟨rfl, self.nodes, .abort, .refl _, rfl⟩)
  | resendsPrepare _ _ => exact .inr (.inl ⟨rfl, _, List.filter_sublist, rfl⟩)
  | sendsDecision _ => exact .inr (.inr ⟨rfl, self.nodes, _, .refl _, rfl⟩)
  | resendsDecision _ _ => exact .inr (.inr ⟨rfl, _, _, List.filter_sublist, rfl⟩)

private theorem Received.batch {msg : Message}
    (received : Received self msg atTime after outgoing) :
    outgoing = [] ∨
      (self.phase.rank = 4 ∧ outgoing = self.nodes.map (messageTo .prepare)) ∨
      self.phase.rank = 3 ∧ ∃ decision : Decision,
        outgoing = self.nodes.map (messageTo decision.messageType) := by
  cases received with
  | recordsVote _ _ _ _ _ | recordsAck _ _ _ _ | completes _ _ _ _ | ignores _ => exact .inl rfl
  | starts phase _ =>
      rw [phase]
      exact .inr (.inl ⟨rfl, rfl⟩)
  | decides phase _ _ _ _ =>
      rw [phase]
      exact .inr (.inr ⟨rfl, _, rfl⟩)

omit [ChaCha8Rng ρ] in
private theorem batched_asked {nodes asked : List NodeId} (sublist : asked.Sublist nodes) :
    Batched nodes (asked.map (messageTo .prepare)) :=
  ⟨asked, [], .commit, sublist, List.nil_sublist _, (List.append_nil _).symm⟩

omit [ChaCha8Rng ρ] in
private theorem batched_told {nodes told : List NodeId} (sublist : told.Sublist nodes)
    (decision : Decision) : Batched nodes (told.map (messageTo decision.messageType)) :=
  ⟨[], told, decision, List.nil_sublist _, sublist, rfl⟩

/-- The tick before a message and the answer to it do not send two batches of a kind. -/
theorem Called.batched (called : Called self call after outgoing) :
    Batched self.nodes outgoing := by
  cases called with
  | receives ticked received =>
      have nodes := ticked.sameSetup.nodes
      rcases ticked.batch with
        rfl | ⟨voting, asked, sublist, rfl⟩ | ⟨announced, told, decision, sublist, rfl⟩
      · rcases received.batch with rfl | ⟨_, rfl⟩ | ⟨_, decision, rfl⟩
        · exact batched_asked (List.nil_sublist _)
        · rw [nodes]
          exact batched_asked (.refl _)
        · rw [nodes]
          exact batched_told (.refl _) decision
      · rcases received.batch with rfl | ⟨waiting, _⟩ | ⟨_, decision, rfl⟩
        · rw [List.append_nil]
          exact batched_asked sublist
        · cases voting.symm.trans waiting
        · exact ⟨asked, _, decision, sublist, nodes ▸ .refl _, rfl⟩
      · rcases received.batch with rfl | ⟨waiting, _⟩ | ⟨voting, _⟩
        · rw [List.append_nil]
          exact batched_told sublist decision
        · cases announced.symm.trans waiting
        · cases announced.symm.trans voting
  | ticks ticked =>
      rcases ticked.batch with rfl | ⟨_, asked, sublist, rfl⟩ | ⟨_, told, decision, sublist, rfl⟩
      · exact batched_asked (List.nil_sublist _)
      · exact batched_asked sublist
      · exact batched_told sublist decision
  | recovers => exact batched_asked (List.nil_sublist _)

end Batches

/-! ## The time between batches -/

/-- The rank of the phase that repeats messages of this type. -/
def repeatedAt? : MessageType → Option Nat
  | .prepare => some 3
  | .decisionCommit | .decisionAbort => some 1
  | .startTransaction | .voteCommit | .voteAbort | .ack => none

@[simp] theorem repeatedAt?_decision (decision : Decision) :
    repeatedAt? decision.messageType = some 1 := by
  cases decision <;> rfl

/-- The phase of this rank has last sent at this time or later, or it is over. -/
def SentSince (self : Coordinator ρ) (rank atTime : Nat) : Prop :=
  self.phase.rank ≤ rank ∧
    (self.phase.rank = rank → ∃ last, self.phase.lastSent? = some last ∧ atTime ≤ last)

section Spacing

variable {msg : Message} {rank first atTime : Nat}

omit [ChaCha8Rng ρ] in
private theorem sentSince_of_rank_lt (lower : self.phase.rank < rank) :
    self.SentSince rank first :=
  ⟨Nat.le_of_lt lower, fun same => absurd same (Nat.ne_of_lt lower)⟩

omit [ChaCha8Rng ρ] in
private theorem sentSince_of_lastSent {last : Nat} (bounded : self.phase.rank ≤ rank)
    (sent : self.phase.lastSent? = some last) (later : first ≤ last) :
    self.SentSince rank first :=
  ⟨bounded, fun _ => ⟨last, sent, later⟩⟩

private theorem messageType_of_mem {nodes : List NodeId} {type : MessageType}
    (sent : msg ∈ nodes.map (messageTo type)) : msg.messageType = type := by
  obtain ⟨node, _, rfl⟩ := List.mem_map.mp sent
  rfl

omit [ChaCha8Rng ρ] in
/-- Entering a later phase sends the messages of that phase, not those of an earlier one. -/
private theorem SentSince.advance (nodes : List NodeId) {type : MessageType}
    (since : self.SentSince rank first) (lower : after.phase.rank < self.phase.rank)
    (own : repeatedAt? type = some after.phase.rank) :
    after.SentSince rank first ∧
      ∀ msg ∈ nodes.map (messageTo type), repeatedAt? msg.messageType ≠ some rank := by
  have below := Nat.lt_of_lt_of_le lower since.1
  refine ⟨sentSince_of_rank_lt below, fun msg sent repeated => ?_⟩
  rw [messageType_of_mem sent, own] at repeated
  exact absurd (Option.some.inj repeated) (Nat.ne_of_lt below)

omit [ChaCha8Rng ρ] in
/-- Repeating the messages of a phase takes the timeout since the last time. -/
private theorem SentSince.repeats {last timeout : Nat} (since : self.SentSince rank first)
    (sent : self.phase.lastSent? = some last) (due : timeout ≤ atTime - last)
    (later : first ≤ atTime) (same : self.phase.rank = rank) : first + timeout ≤ atTime := by
  obtain ⟨other, found, earlier⟩ := since.2 same
  cases sent.symm.trans found
  omega

/-- A tick repeats the messages of the phase once they are as old as the timeout. -/
theorem Ticked.spaced (ticked : Ticked self atTime after outgoing)
    (since : self.SentSince rank first) (later : first ≤ atTime) :
    after.SentSince rank first ∧ ∀ msg ∈ outgoing, repeatedAt? msg.messageType = some rank →
      first + self.config.retransmitTimeout ≤ atTime := by
  cases ticked with
  | idle _ | awaitsAcks _ _ => exact ⟨since, nofun⟩
  | awaitsVotes phase _ =>
      rw [SentSince, phase] at since
      exact ⟨since, nofun⟩
  | @aborts _ _ rng phase _ =>
      have lower : (self.announced .abort atTime rng).phase.rank < self.phase.rank := by
        rw [phase]
        exact (show 1 < 3 by decide)
      obtain ⟨kept, foreign⟩ := since.advance self.nodes lower (repeatedAt?_decision .abort)
      exact ⟨kept, fun msg sent repeated => absurd repeated (foreign msg sent)⟩
  | @sendsDecision decision phase =>
      have lower : (self.announced decision atTime self.config.rng).phase.rank <
          self.phase.rank := by
        rw [phase]
        exact (show 1 < 2 by decide)
      obtain ⟨kept, foreign⟩ := since.advance self.nodes lower (repeatedAt?_decision decision)
      exact ⟨kept, fun msg sent repeated => absurd repeated (foreign msg sent)⟩
  | @resendsPrepare last _ _ phase due =>
      have sent : self.phase.lastSent? = some last := by rw [phase]; rfl
      refine ⟨sentSince_of_lastSent ?_ rfl later, fun msg listed repeated => ?_⟩
      · rw [SentSince, phase] at since
        exact since.1
      · rw [messageType_of_mem listed] at repeated
        apply since.repeats sent due later
        rw [phase]
        exact Option.some.inj repeated
  | @resendsDecision _ last _ phase due =>
      have sent : self.phase.lastSent? = some last := by rw [phase]; rfl
      refine ⟨sentSince_of_lastSent ?_ rfl later, fun msg listed repeated => ?_⟩
      · rw [SentSince, phase] at since
        exact since.1
      · rw [messageType_of_mem listed, repeatedAt?_decision] at repeated
        apply since.repeats sent due later
        rw [phase]
        exact Option.some.inj repeated

theorem Received.spaced (received : Received self msg atTime after outgoing)
    (since : self.SentSince rank first) :
    after.SentSince rank first ∧ ∀ sent ∈ outgoing, repeatedAt? sent.messageType ≠ some rank := by
  cases received with
  | ignores _ => exact ⟨since, nofun⟩
  | starts phase _ =>
      apply since.advance
      · rw [phase]
        exact (show 3 < 4 by decide)
      · rfl
  | decides phase _ _ _ _ =>
      apply since.advance
      · rw [phase]
        exact (show 1 < 3 by decide)
      · exact repeatedAt?_decision _
  | recordsVote phase _ _ _ _ | recordsAck phase _ _ _ =>
      rw [SentSince, phase] at since
      exact ⟨since, nofun⟩
  | completes phase _ _ _ =>
      rw [SentSince, phase] at since
      have bounded : 1 ≤ rank := since.1
      exact ⟨sentSince_of_rank_lt bounded, nofun⟩

theorem Ticked.sentSince (ticked : Ticked self atTime after outgoing) (sent : msg ∈ outgoing)
    (repeated : repeatedAt? msg.messageType = some rank) : after.SentSince rank atTime := by
  cases ticked with
  | idle _ | awaitsVotes _ _ | awaitsAcks _ _ => cases sent
  | aborts _ _ | resendsPrepare _ _ =>
      rw [messageType_of_mem sent] at repeated
      cases repeated
      exact sentSince_of_lastSent (Nat.le_refl _) rfl (Nat.le_refl _)
  | sendsDecision _ | resendsDecision _ _ =>
      rw [messageType_of_mem sent, repeatedAt?_decision] at repeated
      cases repeated
      exact sentSince_of_lastSent (Nat.le_refl _) rfl (Nat.le_refl _)

theorem Received.sentSince {other : Message} (received : Received self other atTime after outgoing)
    (sent : msg ∈ outgoing) (repeated : repeatedAt? msg.messageType = some rank) :
    after.SentSince rank atTime := by
  cases received with
  | recordsVote _ _ _ _ _ | recordsAck _ _ _ _ | completes _ _ _ _ | ignores _ => cases sent
  | starts _ _ =>
      rw [messageType_of_mem sent] at repeated
      cases repeated
      exact sentSince_of_lastSent (Nat.le_refl _) rfl (Nat.le_refl _)
  | decides _ _ _ _ _ =>
      rw [messageType_of_mem sent, repeatedAt?_decision] at repeated
      cases repeated
      exact sentSince_of_lastSent (Nat.le_refl _) rfl (Nat.le_refl _)

/-- A call that sends records when it did. -/
theorem Called.sentSince (called : Called self call after outgoing) (sent : msg ∈ outgoing)
    (repeated : repeatedAt? msg.messageType = some rank) : after.SentSince rank call.time := by
  cases called with
  | receives ticked received =>
      rcases List.mem_append.mp sent with sent | sent
      · exact (received.spaced (ticked.sentSince sent repeated)).1
      · exact received.sentSince sent repeated
  | ticks ticked => exact ticked.sentSince sent repeated
  | recovers => cases sent

/-- No later call sends the same before the timeout, unless the coordinator recovers. -/
theorem Called.spaced (called : Called self call after outgoing)
    (since : self.SentSince rank first) (later : first ≤ call.time)
    (up : call.isRecover = false) :
    after.SentSince rank first ∧ ∀ msg ∈ outgoing, repeatedAt? msg.messageType = some rank →
      first + self.config.retransmitTimeout ≤ call.time := by
  cases called with
  | receives ticked received =>
      obtain ⟨kept, repeats⟩ := ticked.spaced since later
      obtain ⟨final, foreign⟩ := received.spaced kept
      refine ⟨final, fun msg sent repeated => ?_⟩
      rcases List.mem_append.mp sent with sent | sent
      · exact repeats msg sent repeated
      · exact absurd repeated (foreign msg sent)
  | ticks ticked => exact ticked.spaced since later
  | recovers => cases up

/-- Between two calls that send such messages, with no recovery and no step back in time
between them, the timeout passes. -/
def Spaced (start : Coordinator ρ) (kind : MessageType → Prop) : Prop :=
  ∀ {earlier between : List Call} {first second : Call},
    (∀ call ∈ between, call.isRecover = false) →
    ((first :: between ++ [second]).map Call.time).Pairwise (· ≤ ·) →
    (∃ msg ∈ machine.output (machine.run start earlier) first, kind msg.messageType) →
    (∃ msg ∈ machine.output (machine.run start (earlier ++ first :: between)) second,
      kind msg.messageType) →
    first.time + start.config.retransmitTimeout ≤ second.time

theorem spaced_of_repeatedAt (rank : Nat) {kind : MessageType → Prop}
    (ranked : ∀ type, kind type → repeatedAt? type = some rank) : Spaced start kind := by
  intro earlier between first second up ordered sends resends
  obtain ⟨msg, sent, kindly⟩ := sends
  obtain ⟨again, resent, likewise⟩ := resends
  rw [List.cons_append, List.map_cons, List.pairwise_cons, List.forall_mem_map] at ordered
  have later : ∀ call ∈ between ++ [second], first.time ≤ call.time := ordered.1
  have since := (machine_called (machine.run start earlier) first).sentSince sent (ranked _ kindly)
  rw [Library.Machine.run_append, Library.Machine.run_cons] at resent
  have kept : (machine.run (machine.next (machine.run start earlier) first) between).SentSince
      rank first.time := by
    apply Library.Machine.run_preserves fun state : Coordinator ρ =>
      state.SentSince rank first.time
    · intro state call member since
      exact ((machine_called state call).spaced since
        (later call (List.mem_append_left _ member)) (up call member)).1
    · exact since
  have awake : second.isRecover = false := by
    cases second with
    | recover atTime => cases resent
    | onMessage _ _ | tick _ => rfl
  have apart := ((machine_called _ second).spaced kept
    (later second (List.mem_append_right _ (.head _))) awake).2 again resent (ranked _ likewise)
  rw [← Library.Machine.run_cons, ← Library.Machine.run_append,
    (run_sameSetup start _).retransmitTimeout] at apart
  exact apart

end Spacing

/-! ## Retransmission -/

/-- What the next tick of this coordinator does. -/
structure Retransmits (self : Coordinator ρ) : Prop where
  voting : ∀ {last : Nat} {votes : Std.ExtTreeMap NodeId Vote},
    self.phase = .voting last votes → self.abortsNext = false →
      (self.nodes.filter fun node => !votes.contains node) ≠ [] ∧
      ∀ atTime, (self.tick atTime).2 =
        if self.config.retransmitTimeout ≤ atTime - last then
          (self.nodes.filter fun node => !votes.contains node).map (messageTo .prepare)
        else []
  awaitingAcks : ∀ {decision : Decision} {last : Nat} {acks : Std.ExtTreeSet NodeId},
    self.phase = .awaitingAcks decision last acks →
      (self.nodes.filter fun node => !acks.contains node) ≠ [] ∧
      ∀ atTime, (self.tick atTime).2 =
        if self.config.retransmitTimeout ≤ atTime - last then
          (self.nodes.filter fun node => !acks.contains node).map
            (messageTo decision.messageType)
        else []
  quiescent : self.isQuiescent = true ↔
    self.phase = .waiting ∨ ∃ decision, self.phase = .done decision
  rests : self.isQuiescent = true → ∀ atTime, self.tick atTime = (self, [])

theorem Incomplete.retransmits (incomplete : self.Incomplete) (nodup : self.nodes.Nodup) :
    self.Retransmits where
  voting {last votes} phase steady := by
    rw [Incomplete, phase] at incomplete
    obtain ⟨node, member, absent⟩ := Library.OrderedMap.exists_not_mem nodup incomplete
    refine ⟨List.ne_nil_of_mem (List.mem_filter.mpr ⟨member, ?_⟩), fun atTime => ?_⟩
    · simpa [← Std.ExtTreeMap.contains_iff_mem] using absent
    · rw [tick_voting phase, steady]
      rfl
  awaitingAcks {decision last acks} phase := by
    rw [Incomplete, phase] at incomplete
    obtain ⟨node, member, absent⟩ := Library.OrderedSet.exists_not_mem nodup incomplete
    refine ⟨List.ne_nil_of_mem (List.mem_filter.mpr ⟨member, ?_⟩), fun atTime => ?_⟩
    · simpa [← Std.ExtTreeSet.contains_iff_mem] using absent
    · exact tick_awaitingAcks phase atTime
  quiescent := by
    unfold isQuiescent
    cases self.phase <;> simp
  rests quiescent atTime := by
    unfold isQuiescent at quiescent
    unfold tick
    cases phase : self.phase <;> simp_all

theorem retransmission {nodes : List NodeId} (managed : nodes ≠ []) (nodup : nodes.Nodup)
    (rngSeed : UInt64) (abortBias : ℚ) (retransmitTimeout : Nat) :
    (∀ calls : List Call,
      Retransmits (machine.run
        (new nodes rngSeed abortBias retransmitTimeout : Coordinator ρ) calls) ∧
      ∀ call : Call, Batched nodes (machine.output (machine.run
        (new nodes rngSeed abortBias retransmitTimeout : Coordinator ρ) calls) call)) ∧
    Spaced (new nodes rngSeed abortBias retransmitTimeout : Coordinator ρ) (· = .prepare) ∧
    Spaced (new nodes rngSeed abortBias retransmitTimeout : Coordinator ρ)
      fun type => ∃ decision : Decision, type = decision.messageType := by
  let start : Coordinator ρ := new nodes rngSeed abortBias retransmitTimeout
  have begun : start.Incomplete := trivial
  refine ⟨fun calls => ?_, ?_, ?_⟩
  · have same : (machine.run start calls).nodes = nodes := (run_sameSetup start calls).nodes
    constructor
    · apply (run_incomplete managed begun calls).retransmits
      rw [same]
      exact nodup
    · intro call
      have batched := (machine_called (machine.run start calls) call).batched
      rwa [same] at batched
  · apply spaced_of_repeatedAt 3
    intro type same
    rw [same]
    rfl
  · apply spaced_of_repeatedAt 1
    intro type same
    obtain ⟨decision, rfl⟩ := same
    exact repeatedAt?_decision decision

theorem retransmission_two_nodes : Spaced
    (new [⟨0⟩, ⟨1⟩] 0 0 5 : Coordinator ForcedRng) (· = .prepare) :=
  (retransmission (by decide) (by decide) 0 0 5).2.1

end TwoPhaseCommit.Coordinator
