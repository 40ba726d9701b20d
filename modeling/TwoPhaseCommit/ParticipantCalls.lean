import TwoPhaseCommit.Calls
import TwoPhaseCommit.ParticipantProperties

/-! Any sequence of calls of a participant, with messages from any senders and at any
times: a recovery goes unnoticed, and one draw decides every vote. -/

set_option autoImplicit false

namespace TwoPhaseCommit

def Message.IsVote (msg : Message) : Prop :=
  ∃ vote : Vote, msg.messageType = vote.messageType

namespace Participant

variable {ρ : Type} [ChaCha8Rng ρ] {self after : Participant ρ} {call : Call}
  {outgoing : List Message}

def machine : Library.Machine (Participant ρ) Call (List Message) := StateMachine.machine

/-- The messages that the calls return, in order. -/
def returned (start : Participant ρ) (calls : List Call) : List Message :=
  (machine.trace start calls).flatMap Prod.snd

/-- Every outcome of one call. -/
inductive Called (self : Participant ρ) : Call → Participant ρ → List Message → Prop where
  | receives {msg : Message} {atTime : Nat} {after : Participant ρ} {outgoing : List Message} :
      Received self msg after outgoing → Called self (.onMessage msg atTime) after outgoing
  | ticks {atTime : Nat} : Called self (.tick atTime) self []
  | recovers {atTime : Nat} : Called self (.recover atTime) (self.recover atTime) []

theorem machine_called (self : Participant ρ) (call : Call) :
    Called self call (machine.next self call) (machine.output self call) := by
  cases call with
  | onMessage msg atTime => exact .receives (self.onMessage_received msg atTime)
  | tick atTime => exact .ticks
  | recover atTime => exact .recovers

/-- What one call keeps of the records, and what it says about them. -/
structure Upholds (before after : Participant ρ) (outgoing : List Message) : Prop where
  valid : after.Valid
  id : after.id = before.id
  vote : ∀ {vote : Vote}, before.vote = some vote → after.vote = some vote
  decision : ∀ {decision : Decision}, before.decision = some decision →
    after.decision = some decision
  votes : ∀ msg ∈ outgoing, ∀ {vote : Vote}, msg.messageType = vote.messageType →
    before.decision = none ∧ msg = .vote before.id vote ∧ after.vote = some vote

section Upholds

omit [ChaCha8Rng ρ]

theorem Upholds.silent (valid : after.Valid) (id : after.id = self.id)
    (vote : ∀ {vote : Vote}, self.vote = some vote → after.vote = some vote)
    (decision : ∀ {decision : Decision}, self.decision = some decision →
      after.decision = some decision) : Upholds self after [] :=
  ⟨valid, id, vote, decision, nofun⟩

theorem Upholds.refl (valid : self.Valid) : Upholds self self [] :=
  .silent valid rfl (fun voted => voted) fun decided => decided

theorem Upholds.trans {first second third : Participant ρ} {earlier later : List Message}
    (before : Upholds first second earlier) (after : Upholds second third later) :
    Upholds first third [] :=
  .silent after.valid (after.id.trans before.id) (fun voted => after.vote (before.vote voted))
    fun decided => after.decision (before.decision decided)

theorem Upholds.sendsVote (upholds : Upholds self after []) {vote : Vote}
    (undecided : self.decision = none) (voted : after.vote = some vote) :
    Upholds self after [.vote self.id vote] := by
  refine { upholds with votes := fun msg listed other type => ?_ }
  obtain rfl := List.mem_singleton.mp listed
  obtain rfl := Vote.messageType_inj.mp type
  exact ⟨undecided, rfl, voted⟩

theorem Upholds.sendsAck (upholds : Upholds self after []) : Upholds self after [.ack self.id] := by
  refine { upholds with votes := fun msg listed vote type => ?_ }
  obtain rfl := List.mem_singleton.mp listed
  cases vote <;> cases type

end Upholds

theorem Received.upholds {msg : Message} (received : Received self msg after outgoing)
    (valid : self.Valid) : Upholds self after outgoing := by
  have kept := received.valid valid
  cases received with
  | casts phase _ =>
      have unvoted : self.vote = none := by rw [vote, phase]; rfl
      have undecided : self.decision = none := by rw [decision, phase]; rfl
      apply Upholds.sendsVote
      · refine .silent kept rfl (fun voted => ?_) fun decided => ?_
        · simp [unvoted] at voted
        · simp [undecided] at decided
      · exact undecided
      · rfl
  | recasts phase _ =>
      apply (Upholds.refl valid).sendsVote
      · rw [decision, phase]
        rfl
      · rw [vote, phase]
        rfl
  | learns undecided _ =>
      apply Upholds.sendsAck
      refine .silent kept rfl (fun voted => voted) fun decided => ?_
      simp [undecided] at decided
  | acknowledges _ _ => exact (Upholds.refl valid).sendsAck
  | ignores _ _ => exact .refl valid

theorem Called.upholds (called : Called self call after outgoing) (valid : self.Valid) :
    Upholds self after outgoing := by
  cases called with
  | receives received => exact received.upholds valid
  | ticks => exact .refl valid
  | recovers =>
      rw [recover_eq_self valid]
      exact .refl valid

/-! ## Runs -/

theorem new_valid (id : NodeId) (rngSeed : UInt64) (abortBias : ℚ) :
    (new id rngSeed abortBias : Participant ρ).Valid :=
  ⟨rfl, rfl⟩

theorem next_upholds (valid : self.Valid) (call : Call) :
    Upholds self (machine.next self call) (machine.output self call) :=
  (machine_called self call).upholds valid

/-- Every vote returned so far is the one that was cast. -/
private def Cast (self : Participant ρ) (trace : List (Call × List Message))
    (state : Participant ρ) : Prop :=
  Upholds self state [] ∧ ∀ msg ∈ trace.flatMap Prod.snd, ∀ {vote : Vote},
    msg.messageType = vote.messageType → msg = .vote self.id vote ∧ state.vote = some vote

private theorem Cast.extend {trace : List (Call × List Message)} {state : Participant ρ}
    (cast : Cast self trace state) (call : Call) :
    Cast self (trace ++ [(call, machine.output state call)]) (machine.next state call) := by
  obtain ⟨upheld, votes⟩ := cast
  have next := next_upholds upheld.valid call
  refine ⟨upheld.trans next, fun msg listed vote type => ?_⟩
  rw [List.flatMap_append, List.flatMap_singleton] at listed
  rcases List.mem_append.mp listed with earlier | last
  · obtain ⟨same, voted⟩ := votes msg earlier type
    exact ⟨same, next.vote voted⟩
  · obtain ⟨_, same, voted⟩ := next.votes msg last type
    exact ⟨upheld.id ▸ same, voted⟩

private theorem run_cast (valid : self.Valid) (calls : List Call) :
    Cast self (machine.trace self calls) (machine.run self calls) :=
  Library.Machine.trace_induction (Cast self) ⟨.refl valid, nofun⟩
    (fun call cast => cast.extend call) calls

theorem trace_erased (valid : self.Valid) (calls : List Call) :
    (machine.trace self calls).filter (!·.1.isRecover) =
        machine.trace self (calls.filter (!·.isRecover)) ∧
      machine.run self calls = machine.run self (calls.filter (!·.isRecover)) := by
  apply Library.Machine.trace_filter (fun call : Call => !call.isRecover) Valid
  · exact fun call valid => (next_upholds valid call).valid
  · intro state call valid erased
    cases call with
    | onMessage _ _ | tick _ => cases erased
    | recover atTime => exact recover_eq_self valid atTime
  · exact valid

/-- Whatever the calls are, their recoveries go unnoticed and the votes agree. -/
structure Seamless (start : Participant ρ) (calls : List Call) : Prop where
  erased : (machine.trace start calls).filter (!·.1.isRecover) =
    machine.trace start (calls.filter (!·.isRecover))
  state : machine.run start calls = machine.run start (calls.filter (!·.isRecover))
  recover : ∀ atTime, (machine.run start calls).recover atTime = machine.run start calls
  votes : ∀ first ∈ returned start calls, ∀ second ∈ returned start calls,
    first.IsVote → second.IsVote → first = second
  vote : ∀ {vote : Vote}, (machine.run start calls).vote = some vote → ∀ more : List Call,
    (machine.run start (calls ++ more)).vote = some vote
  decision : ∀ {decision : Decision}, (machine.run start calls).decision = some decision →
    ∀ more : List Call, (machine.run start (calls ++ more)).decision = some decision
  decided : (machine.run start calls).decision ≠ none → ∀ call : Call,
    ∀ msg ∈ machine.output (machine.run start calls) call, ¬ msg.IsVote

theorem seamless_of_valid {start : Participant ρ} (valid : start.Valid) (calls : List Call) :
    Seamless start calls := by
  have cast := run_cast valid calls
  have later := cast.1.valid
  have erased := trace_erased valid calls
  constructor
  · exact erased.1
  · exact erased.2
  · exact recover_eq_self later
  · intro first listed second listedToo isVote isVoteToo
    obtain ⟨vote, type⟩ := isVote
    obtain ⟨other, typeToo⟩ := isVoteToo
    obtain ⟨rfl, voted⟩ := cast.2 first listed type
    obtain ⟨rfl, votedToo⟩ := cast.2 second listedToo typeToo
    rw [voted] at votedToo
    cases votedToo
    rfl
  · intro vote voted more
    rw [Library.Machine.run_append]
    exact (run_cast later more).1.vote voted
  · intro decision decided more
    rw [Library.Machine.run_append]
    exact (run_cast later more).1.decision decided
  · intro decided call msg listed isVote
    obtain ⟨vote, type⟩ := isVote
    exact decided ((next_upholds later call).votes msg listed type).1

end Participant

/-! ## The draws -/

/-- A generator that counts what is drawn from it. -/
structure Counted (ρ : Type) where
  generator : ρ
  draws : Nat

variable {ρ : Type}

def Counted.draw {α : Type} (self : Counted ρ) (drawn : α × ρ) : α × Counted ρ :=
  (drawn.1, { generator := drawn.2, draws := self.draws + 1 })

variable [ChaCha8Rng ρ]

instance : ChaCha8Rng (Counted ρ) where
  seedFromU64 seed := { generator := ChaCha8Rng.seedFromU64 seed, draws := 0 }
  random self := self.draw (ChaCha8Rng.random self.generator)
  randomBool self probability := self.draw (ChaCha8Rng.randomBool self.generator probability)
  randomRange self start finish := self.draw (ChaCha8Rng.randomRange self.generator start finish)

namespace Participant

/-- The participant without the count of its draws. -/
def uncounted (self : Participant (Counted ρ)) : Participant ρ :=
  { id := self.id
    phase := self.phase
    durableState := self.durableState
    config := { rng := self.config.rng.generator, abortBias := self.config.abortBias } }

theorem machine_uncounted (self : Participant (Counted ρ)) (call : Call) :
    machine.output self call = machine.output self.uncounted call ∧
      (machine.next self call).uncounted = machine.next self.uncounted call := by
  cases call with
  | onMessage msg atTime =>
      obtain ⟨id, phase, durable, config⟩ := self
      obtain ⟨type, sender, recipient⟩ := msg
      cases type <;> cases phase <;> exact ⟨rfl, rfl⟩
  | tick atTime => exact ⟨rfl, rfl⟩
  | recover atTime =>
      obtain ⟨id, phase, ⟨vote, decision⟩, config⟩ := self
      cases vote <;> cases decision <;> exact ⟨rfl, rfl⟩

/-- The coin is flipped for the first vote and never again. -/
structure Drawn (participant : Participant (Counted ρ)) : Prop where
  valid : participant.Valid
  draws : participant.config.rng.draws = if participant.vote = none then 0 else 1

theorem Called.drawn {self after : Participant (Counted ρ)} {call : Call}
    {outgoing : List Message} (called : Called self call after outgoing) (drawn : Drawn self) :
    Drawn after := by
  refine ⟨(called.upholds drawn.valid).valid, ?_⟩
  have draws := drawn.draws
  cases called with
  | receives received =>
      cases received with
      | casts phase _ =>
          have unvoted : self.vote = none := by rw [vote, phase]; rfl
          rw [if_pos unvoted] at draws
          exact congrArg (· + 1) draws
      | recasts _ _ | learns _ _ | acknowledges _ _ | ignores _ _ => exact draws
  | ticks => exact draws
  | recovers =>
      rw [recover_eq_self drawn.valid]
      exact draws

theorem run_drawn {start : Participant (Counted ρ)} (drawn : Drawn start) (calls : List Call) :
    Drawn (machine.run start calls) :=
  Library.Machine.run_preserves Drawn (fun call _ drawn => (machine_called _ call).drawn drawn)
    drawn

theorem trace_uncounted (start : Participant (Counted ρ)) (calls : List Call) :
    machine.trace start calls = machine.trace start.uncounted calls ∧
      (machine.run start calls).uncounted = machine.run start.uncounted calls := by
  apply Library.Machine.trace_eq fun self image => uncounted self = image
  · intro state image call same
    rw [← same]
    exact machine_uncounted state call
  · rfl

/-- No crash of a participant shows, its votes and its decision are final, and it draws
once at most: counting the draws changes nothing else. -/
theorem crashes_invisible (id : NodeId) (rngSeed : UInt64) (abortBias : ℚ) (calls : List Call) :
    let start : Participant ρ := new id rngSeed abortBias
    let counted : Participant (Counted ρ) := new id rngSeed abortBias
    Seamless start calls ∧
      machine.trace counted calls = machine.trace start calls ∧
      (machine.run counted calls).uncounted = machine.run start calls ∧
      (machine.run counted calls).config.rng.draws ≤ 1 := by
  intro start counted
  have once : Drawn (machine.run counted calls) := run_drawn ⟨new_valid _ _ _, rfl⟩ calls
  refine ⟨seamless_of_valid (new_valid id rngSeed abortBias) calls, ?_, ?_, ?_⟩
  · exact (trace_uncounted counted calls).1
  · exact (trace_uncounted counted calls).2
  · rw [once.draws]
    split <;> decide

end Participant

end TwoPhaseCommit
