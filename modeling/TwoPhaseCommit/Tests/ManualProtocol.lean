import TwoPhaseCommit.CoordinatorLockstep
import TwoPhaseCommit.Simulator
import TwoPhaseCommit.Simulator.ObservationProperties

/-! The driver of the deterministic tests in `tests/simulation.rs`: the protocol in lockstep, with
fixed votes and no simulator. What one of its rounds does when nobody lies. -/

set_option autoImplicit false

namespace TwoPhaseCommit.Tests

variable {ρ : Type} [ChaCha8Rng ρ]

/-- How the driver panics. -/
inductive ManualPanic where
  | conflict (conflict : Conflict)
  | indexOutOfBounds (index : Nat)
  | notTerminated
  | invariantViolated (error : String)
  | notAllDecided
  | unexpectedDecision (decision : Option Decision)
  deriving DecidableEq, Repr

def assert (condition : Bool) (panic : ManualPanic) : Except ManualPanic Unit :=
  if condition then .ok () else .error panic

structure ManualState (ρ : Type) where
  coord : Coordinator ρ
  participants : List (Participant ρ)
  observations : Observations
  queue : List Message
  time : Nat

namespace ManualState

def isDone (self : ManualState ρ) : Bool :=
  match self.coord.phase with
  | .done _ => true
  | _ => false

/-- Record the outgoing messages and queue them. -/
def send (self : ManualState ρ) (outgoing : List Message) :
    Except ManualPanic (ManualState ρ) := do
  let observations ←
    (outgoing.foldlM Observations.recordSent self.observations).mapError .conflict
  return { self with observations := observations, queue := self.queue ++ outgoing }

/-- One message of the batch. -/
def deliver (self : ManualState ρ) (msg : Message) : Except ManualPanic (ManualState ρ) := do
  let observations ← (self.observations.recordDelivered msg).mapError .conflict
  let self := { self with observations := observations }
  match msg.to with
  | .coordinator =>
      let (coord, outgoing) := self.coord.onMessage msg self.time
      { self with coord := coord }.send outgoing
  | .node id =>
      let index := id.id.toNat
      match self.participants[index]? with
      | some participant =>
          let (participant, outgoing) := participant.onMessage msg self.time
          { self with participants := self.participants.set index participant }.send outgoing
      | none => throw (.indexOutOfBounds index)

/-- The ticks of the coordinator and of the participants. -/
def tick (self : ManualState ρ) : Except ManualPanic (ManualState ρ) := do
  let (coord, outgoing) := self.coord.tick self.time
  let self ← { self with coord := coord }.send outgoing
  let ticked := self.participants.map (·.tick self.time)
  { self with participants := ticked.map Prod.fst }.send (ticked.flatMap Prod.snd)

/-- The body of the loop. -/
def round (self : ManualState ρ) : Except ManualPanic (ManualState ρ) := do
  let self := { self with time := self.time + 1 }
  let batch := self.queue
  let self ← batch.foldlM deliver { self with queue := [] }
  let self ← if self.queue.isEmpty && !self.isDone then self.tick else pure self
  assert (self.time < 100) .notTerminated
  return self

/-- The loop. The assertion in its body ends it before the fuel is spent. -/
def loop : Nat → ManualState ρ → Except ManualPanic (ManualState ρ)
  | 0, _ => .error .notTerminated
  | fuel + 1, self => do
      if !self.queue.isEmpty || !self.isDone then
        loop fuel (← self.round)
      else return self

end ManualState

def expectedDecision (votes : List Vote) (abortBias : ℚ) : Decision :=
  if 1 ≤ abortBias then .abort
  else if votes.any (· == .abort) then .abort
  else .commit

/-- What is asserted in the end. -/
def checkOutcome (self : ManualState ρ) (nodes : List NodeId) (expected : Decision) :
    Except ManualPanic Unit := do
  (checkAllInvariants self.observations).mapError .invariantViolated
  assert (allDecided self.observations nodes) .notAllDecided
  assert (self.coord.decision = some expected) (.unexpectedDecision self.coord.decision)
  self.participants.forM fun participant =>
    assert (participant.decision = some expected) (.unexpectedDecision participant.decision)

variable (ρ) in
def fixedParticipants (votes : List Vote) : List (Participant ρ) :=
  votes.mapIdx fun index vote => .withFixedVote ⟨UInt8.ofNat index⟩ vote

/-- The nodes are numbered up to the length of the votes as a `u8`. -/
def manualNodes (votes : List Vote) : List NodeId :=
  Simulator.nodeIds (UInt8.ofNat votes.length)

variable (ρ) in
def manualStart (votes : List Vote) (abortBias : ℚ) : ManualState ρ where
  coord := .new (manualNodes votes) 0 abortBias 5
  participants := fixedParticipants ρ votes
  observations := .new
  queue := [Simulator.startMessage]
  time := 0

variable (ρ) in
def manualProtocol (votes : List Vote) (abortBias : ℚ) : Except ManualPanic Unit := do
  let final ← ManualState.loop 100 (manualStart ρ votes abortBias)
  checkOutcome final (manualNodes votes) (expectedDecision votes abortBias)

/-! ## Recording -/

/-- What may be observed: the votes, and one decision. -/
def facts (votes : List Vote) (decision : Decision) : Observations.Facts where
  vote node := votes[node.id.toNat]?
  decision := some decision
  learned _ := some decision

/-- A message that tells no lies, whether it is sent or delivered. -/
structure Truthful (facts : Observations.Facts) (msg : Message) : Prop where
  sent : Observations.Agrees facts (.sent msg)
  delivered : Observations.Agrees facts (.delivered msg)

/-- The observations are true, and every delivered decision is among them. -/
structure Observed (facts : Observations.Facts) (delivered : List Message)
    (observations : Observations) : Prop where
  within : observations.Within facts
  informed : ∀ msg ∈ delivered, ∀ {node : NodeId} {decision : Decision},
    (Observation.delivered msg).Informs node decision →
      observations.participantDecisions[node]? = some decision

section Truthful

variable {votes : List Vote} {decision : Decision}

private theorem truthful_of {msg : Message}
    (vote : ∀ {node : NodeId} {vote : Vote}, msg.messageType = vote.messageType →
      msg.from = .node node → votes[node.id.toNat]? = some vote)
    (decided : ∀ {other : Decision}, msg.messageType = other.messageType → other = decision) :
    Truthful (facts votes decision) msg where
  sent := {
    vote := fun casts => vote casts.1 casts.2
    decision := fun announces => congrArg some (decided announces.1).symm
    learned := nofun }
  delivered := {
    vote := nofun
    decision := nofun
    learned := fun informs => congrArg some (decided informs.1).symm }

/-- A message that carries neither a vote nor a decision. -/
private theorem truthful_of_neutral {msg : Message}
    (noVote : ∀ vote : Vote, msg.messageType ≠ vote.messageType)
    (noDecision : ∀ other : Decision, msg.messageType ≠ other.messageType) :
    Truthful (facts votes decision) msg :=
  truthful_of (fun type => absurd type (noVote _)) fun type => absurd type (noDecision _)

theorem truthful_start : Truthful (facts votes decision) Simulator.startMessage := by
  apply truthful_of_neutral
  · intro vote
    cases vote <;> decide
  · intro other
    cases other <;> decide

theorem truthful_prepare (node : NodeId) : Truthful (facts votes decision) (.prepare node) := by
  apply truthful_of_neutral
  · intro vote
    cases vote <;> exact fun type => by cases type
  · intro other
    cases other <;> exact fun type => by cases type

theorem truthful_ack (node : NodeId) : Truthful (facts votes decision) (.ack node) := by
  apply truthful_of_neutral
  · intro vote
    cases vote <;> exact fun type => by cases type
  · intro other
    cases other <;> exact fun type => by cases type

theorem truthful_vote {node : NodeId} {vote : Vote} (cast : votes[node.id.toNat]? = some vote) :
    Truthful (facts votes decision) (.vote node vote) := by
  apply truthful_of
  · intro sender other type same
    cases same
    obtain rfl := Vote.messageType_inj.mp type
    exact cast
  · exact fun type => absurd type Vote.messageType_ne_decision

theorem truthful_decision (node : NodeId) :
    Truthful (facts votes decision) (.decision node decision) := by
  apply truthful_of
  · exact fun type => absurd type Decision.messageType_ne_vote
  · exact fun type => (Decision.messageType_inj.mp type).symm

end Truthful

section Observed

variable {facts : Observations.Facts} {delivered : List Message} {observations : Observations}

theorem Observed.sends (observed : Observed facts delivered observations) {outgoing : List Message}
    (truthful : ∀ msg ∈ outgoing, Truthful facts msg) : ∃ after,
      outgoing.foldlM Observations.recordSent observations = .ok after ∧
        Observed facts delivered after := by
  have agrees : ∀ observation ∈ outgoing.map Observation.sent,
      Observations.Agrees facts observation := by
    intro observation listed
    obtain ⟨msg, sent, rfl⟩ := List.mem_map.mp listed
    exact (truthful msg sent).sent
  obtain ⟨after, recorded⟩ := Observations.exists_foldlM_record_ok _ observed.within agrees
  have records := Observations.foldlM_record_ok recorded
  rw [List.foldlM_map] at recorded
  refine ⟨after, recorded, records.within observed.within agrees, ?_⟩
  intro msg listed node decision informs
  exact (records.participantDecisions node decision).mpr
    (.inl (observed.informed msg listed informs))

theorem Observed.delivers (observed : Observed facts delivered observations) {msg : Message}
    (truthful : Truthful facts msg) : ∃ after,
      observations.recordDelivered msg = .ok after ∧
        Observed facts (delivered ++ [msg]) after := by
  obtain ⟨after, recorded⟩ :=
    Observations.exists_record_ok observed.within truthful.delivered
  have records := Observations.record_ok recorded
  refine ⟨after, recorded, ?_, ?_⟩
  · apply records.within observed.within
    exact List.forall_mem_singleton.mpr truthful.delivered
  · intro other listed node decision informs
    rw [records.participantDecisions]
    rcases List.mem_append.mp listed with earlier | last
    · exact .inl (observed.informed other earlier informs)
    · obtain rfl := List.mem_singleton.mp last
      exact .inr ⟨_, .head _, informs⟩

/-- A decision that was delivered is known. -/
theorem Observed.allDecided (observed : Observed facts delivered observations)
    {nodes : List NodeId} {decision : Decision}
    (told : ∀ node ∈ nodes, .decision node decision ∈ delivered) :
    allDecided observations nodes = true := by
  rw [TwoPhaseCommit.allDecided, List.all_eq_true]
  intro node listed
  have known := observed.informed _ (told node listed) ⟨rfl, rfl⟩
  exact Std.ExtTreeMap.mem_iff_contains.mp (Library.OrderedMap.mem_iff_exists.mpr ⟨_, known⟩)

end Observed

namespace ManualState

variable {facts : Observations.Facts} {delivered : List Message}

omit [ChaCha8Rng ρ] in
theorem send_ok (self : ManualState ρ) (observed : Observed facts delivered self.observations)
    {outgoing : List Message} (truthful : ∀ msg ∈ outgoing, Truthful facts msg) : ∃ observations,
      self.send outgoing =
        .ok { self with observations := observations, queue := self.queue ++ outgoing } ∧
      Observed facts delivered observations := by
  obtain ⟨observations, recorded, after⟩ := observed.sends truthful
  refine ⟨observations, ?_, after⟩
  simp only [send, recorded]
  rfl

variable {self : ManualState ρ}

theorem deliver_coordinator {msg : Message} (observed : Observed facts delivered self.observations)
    (recipient : msg.to = .coordinator) (truthful : Truthful facts msg)
    (answers : ∀ answer ∈ (self.coord.onMessage msg self.time).2, Truthful facts answer) :
    ∃ observations, self.deliver msg = .ok { self with
        coord := (self.coord.onMessage msg self.time).1
        observations := observations
        queue := self.queue ++ (self.coord.onMessage msg self.time).2 } ∧
      Observed facts (delivered ++ [msg]) observations := by
  obtain ⟨heard, recorded, after⟩ := observed.delivers truthful
  obtain ⟨observations, sent, final⟩ := send_ok { self with
    coord := (self.coord.onMessage msg self.time).1
    observations := heard } after answers
  refine ⟨observations, ?_, final⟩
  simp only [deliver, recorded, recipient]
  exact sent

theorem deliver_participant {msg : Message} {id : NodeId} {participant : Participant ρ}
    (observed : Observed facts delivered self.observations) (recipient : msg.to = .node id)
    (found : self.participants[id.id.toNat]? = some participant) (truthful : Truthful facts msg)
    (answers : ∀ answer ∈ (participant.onMessage msg self.time).2, Truthful facts answer) :
    ∃ observations, self.deliver msg = .ok { self with
        participants :=
          self.participants.set id.id.toNat (participant.onMessage msg self.time).1
        observations := observations
        queue := self.queue ++ (participant.onMessage msg self.time).2 } ∧
      Observed facts (delivered ++ [msg]) observations := by
  obtain ⟨heard, recorded, after⟩ := observed.delivers truthful
  obtain ⟨observations, sent, final⟩ := send_ok { self with
    participants := self.participants.set id.id.toNat (participant.onMessage msg self.time).1
    observations := heard } after answers
  refine ⟨observations, ?_, final⟩
  simp only [deliver, recorded, recipient, found]
  exact sent

/-! ## A batch -/

/-- A batch for the coordinator. -/
theorem foldlM_deliver_coordinator {batch returned : List Message} {after : Coordinator ρ}
    (observed : Observed facts delivered self.observations)
    (recipient : ∀ msg ∈ batch, msg.to = .coordinator)
    (truthful : ∀ msg ∈ batch, Truthful facts msg)
    (replays : Coordinator.machine.Replays self.coord (batch.map (.onMessage · self.time)) after
      returned)
    (answers : ∀ msg ∈ returned, Truthful facts msg) : ∃ observations,
      batch.foldlM deliver self = .ok { self with
        coord := after
        observations := observations
        queue := self.queue ++ returned } ∧
      Observed facts (delivered ++ batch) observations := by
  induction batch generalizing self delivered returned with
  | nil =>
      obtain ⟨rfl, rfl⟩ := replays
      refine ⟨self.observations, ?_, by rwa [List.append_nil]⟩
      change Except.ok self = .ok { self with queue := self.queue ++ [] }
      rw [List.append_nil]
  | cons msg rest ih =>
      obtain ⟨here, others⟩ := List.forall_mem_cons.mp recipient
      obtain ⟨truth, truths⟩ := List.forall_mem_cons.mp truthful
      obtain ⟨more, rfl, resumes⟩ := replays.cons_inv
      obtain ⟨now, later⟩ := List.forall_mem_append.mp answers
      obtain ⟨heard, delivers, middle⟩ := deliver_coordinator observed here truth now
      let current : ManualState ρ := { self with
        coord := (self.coord.onMessage msg self.time).1
        observations := heard
        queue := self.queue ++ (self.coord.onMessage msg self.time).2 }
      have observed : Observed facts (delivered ++ [msg]) current.observations := middle
      obtain ⟨observations, remains, final⟩ := ih observed others truths resumes later
      rw [List.foldlM_cons, delivers]
      refine ⟨observations, remains.trans ?_, ?_⟩
      · simp only [current, List.append_assoc]
        rfl
      · simpa using final

/-- A batch with one message for every participant that is left. -/
theorem foldlM_deliver_participants {request : NodeId → Message}
    {answer : Participant ρ → Participant ρ} {reply : Participant ρ → Message}
    {treated waiting : List (Participant ρ)}
    (observed : Observed facts delivered self.observations)
    (participants : self.participants = treated ++ waiting)
    (numbered : ∀ (index : Nat) (participant : Participant ρ),
      waiting[index]? = some participant → participant.id.id.toNat = treated.length + index)
    (recipient : ∀ node, (request node).to = .node node)
    (answers : ∀ participant ∈ waiting, participant.onMessage (request participant.id) self.time =
      (answer participant, [reply participant]))
    (truthful : ∀ participant ∈ waiting,
      Truthful facts (request participant.id) ∧ Truthful facts (reply participant)) :
    ∃ observations,
      (waiting.map fun participant => request participant.id).foldlM deliver self = .ok { self with
        participants := treated ++ waiting.map answer
        observations := observations
        queue := self.queue ++ waiting.map reply } ∧
      Observed facts (delivered ++ waiting.map fun participant => request participant.id)
        observations := by
  induction waiting generalizing self delivered treated with
  | nil =>
      refine ⟨self.observations, ?_, by rwa [List.map_nil, List.append_nil]⟩
      change Except.ok self = .ok { self with
        participants := treated ++ []
        queue := self.queue ++ [] }
      rw [List.append_nil, ← participants.trans (List.append_nil treated), List.append_nil]
  | cons participant rest ih =>
      obtain ⟨now, later⟩ := List.forall_mem_cons.mp answers
      obtain ⟨⟨asks, tells⟩, truths⟩ := List.forall_mem_cons.mp truthful
      have index : participant.id.id.toNat = treated.length := numbered 0 participant rfl
      have found : self.participants[participant.id.id.toNat]? = some participant := by
        rw [index, participants]
        simp
      obtain ⟨heard, delivers, middle⟩ := deliver_participant observed (recipient _) found asks
        (by rw [now]; exact List.forall_mem_singleton.mpr tells)
      rw [now, index, participants, List.set_append_right _ _ (Nat.le_refl _), Nat.sub_self,
        List.set_cons_zero] at delivers
      have renumbered : ∀ (position : Nat) (other : Participant ρ), rest[position]? = some other →
          other.id.id.toNat = (treated ++ [answer participant]).length + position := by
        intro position other there
        rw [numbered (position + 1) other there, List.length_append, List.length_singleton]
        omega
      let current : ManualState ρ := { self with
        participants := treated ++ answer participant :: rest
        observations := heard
        queue := self.queue ++ [reply participant] }
      have split : current.participants = (treated ++ [answer participant]) ++ rest := by
        rw [List.append_assoc]
        rfl
      have observed : Observed facts (delivered ++ [request participant.id])
          current.observations := middle
      obtain ⟨observations, others, final⟩ := ih observed split renumbered later truths
      rw [List.map_cons, List.foldlM_cons, delivers]
      refine ⟨observations, others.trans ?_, ?_⟩
      · simp only [current, List.append_assoc, List.singleton_append, List.map_cons]
      · simpa using final

/-! ## A round -/

theorem round_ok {middle : ManualState ρ}
    (delivers : self.queue.foldlM deliver { self with time := self.time + 1, queue := [] } =
      .ok middle)
    (busy : middle.queue ≠ [] ∨ middle.isDone = true) (early : middle.time < 100) :
    self.round = .ok middle := by
  have active : (middle.queue.isEmpty && !middle.isDone) = false := by
    rcases busy with busy | busy
    · simp [busy]
    · simp [busy]
  simp only [round, delivers, bind, Except.bind, active, pure, Except.pure, Bool.false_eq_true,
    ↓reduceIte, early, assert, decide_true]

theorem round_coordinator (self : ManualState ρ) {returned : List Message} {after : Coordinator ρ}
    (observed : Observed facts delivered self.observations)
    (recipient : ∀ msg ∈ self.queue, msg.to = .coordinator)
    (truthful : ∀ msg ∈ self.queue, Truthful facts msg)
    (replays : Coordinator.machine.Replays self.coord
      (self.queue.map (.onMessage · (self.time + 1))) after returned)
    (answers : ∀ msg ∈ returned, Truthful facts msg)
    (busy : returned ≠ [] ∨ ∃ decision, after.phase = .done decision)
    (early : self.time + 1 < 100) : ∃ observations,
      self.round = .ok { self with
        coord := after
        observations := observations
        queue := returned
        time := self.time + 1 } ∧
      Observed facts (delivered ++ self.queue) observations := by
  let current : ManualState ρ := { self with time := self.time + 1, queue := [] }
  have before : Observed facts delivered current.observations := observed
  obtain ⟨observations, delivers, final⟩ :=
    foldlM_deliver_coordinator before recipient truthful replays answers
  refine ⟨observations, round_ok delivers ?_ early, final⟩
  rcases busy with busy | ⟨decision, done⟩
  · exact .inl busy
  · exact .inr (by simp [isDone, done])

theorem round_participants (self : ManualState ρ) (request : NodeId → Message)
    (answer : Participant ρ → Participant ρ) (reply : Participant ρ → Message)
    (observed : Observed facts delivered self.observations)
    (asked : self.queue = self.participants.map fun participant => request participant.id)
    (numbered : ∀ (index : Nat) (participant : Participant ρ),
      self.participants[index]? = some participant → participant.id.id.toNat = index)
    (recipient : ∀ node, (request node).to = .node node)
    (answers : ∀ participant ∈ self.participants,
      participant.onMessage (request participant.id) (self.time + 1) =
        (answer participant, [reply participant]))
    (truthful : ∀ participant ∈ self.participants,
      Truthful facts (request participant.id) ∧ Truthful facts (reply participant))
    (present : self.participants ≠ []) (early : self.time + 1 < 100) : ∃ observations,
      self.round = .ok { self with
        participants := self.participants.map answer
        observations := observations
        queue := self.participants.map reply
        time := self.time + 1 } ∧
      Observed facts (delivered ++ self.queue) observations := by
  let current : ManualState ρ := { self with time := self.time + 1, queue := [] }
  have before : Observed facts delivered current.observations := observed
  have offset : ∀ (index : Nat) (participant : Participant ρ),
      self.participants[index]? = some participant →
        participant.id.id.toNat = ([] : List (Participant ρ)).length + index := by
    intro index participant found
    rw [numbered index participant found, List.length_nil, Nat.zero_add]
  obtain ⟨observations, delivers, final⟩ :=
    foldlM_deliver_participants before (List.nil_append _).symm offset recipient answers truthful
  rw [← asked] at delivers final
  refine ⟨observations, round_ok delivers (.inl ?_) early, final⟩
  simpa using present

theorem loop_round {fuel : Nat} {after : ManualState ρ} (running : self.queue ≠ [])
    (advances : self.round = .ok after) : loop (fuel + 1) self = loop fuel after := by
  have active : (!self.queue.isEmpty || !self.isDone) = true := by simp [running]
  simp only [loop, active, ↓reduceIte, advances, bind, Except.bind]

theorem loop_done {fuel : Nat} {decision : Decision} (drained : self.queue = [])
    (done : self.coord.phase = .done decision) : loop (fuel + 1) self = .ok self := by
  simp [loop, drained, isDone, done, pure, Except.pure]

end ManualState

end TwoPhaseCommit.Tests
