import TwoPhaseCommit.Participant
import TwoPhaseCommit.ProtocolProperties

/-! Everything one call can do to a participant, the facts every call keeps, and
the protocol runs the calls amount to. -/

set_option autoImplicit false

namespace TwoPhaseCommit.Participant

variable {ρ : Type}

/-- The durable records are those of the phase. -/
structure Valid (participant : Participant ρ) : Prop where
  vote : participant.durableState.vote = participant.vote
  decision : participant.durableState.decision = participant.decision

/-- A crash forgets nothing: recovery restores the phase it finds. -/
theorem recover_eq_self {self : Participant ρ} (valid : self.Valid) (atTime : Nat) :
    self.recover atTime = self := by
  obtain ⟨id, phase, ⟨vote, decision⟩, config⟩ := self
  obtain ⟨sameVote, sameDecision⟩ := valid
  cases phase <;>
    simp_all [Participant.vote, Participant.decision, ParticipantPhase.vote,
      ParticipantPhase.decision, recover]

section Calls

variable [ChaCha8Rng ρ]

/-- The vote the next coin flip yields. -/
def coin (self : Participant ρ) : Vote :=
  if (ChaCha8Rng.randomBool self.config.rng (clamp self.config.abortBias 0 1)).1 then .abort
  else .commit

def cast (self : Participant ρ) : Participant ρ :=
  { self with
    durableState := { self.durableState with vote := some self.coin }
    phase := .voted self.coin
    config := { self.config with
      rng := (ChaCha8Rng.randomBool self.config.rng (clamp self.config.abortBias 0 1)).2 } }

def informed (self : Participant ρ) (decision : Decision) : Participant ρ :=
  { self with
    durableState := { self.durableState with decision := some decision }
    phase := .decided self.phase.vote decision }

/-- Every outcome of a delivered message. -/
inductive Received (self : Participant ρ) (msg : Message) :
    Participant ρ → List Message → Prop where
  | casts :
      self.phase = .waiting → msg.messageType = .prepare →
      Received self msg self.cast [.vote self.id self.coin]
  | recasts {vote : Vote} :
      self.phase = .voted vote → msg.messageType = .prepare →
      Received self msg self [.vote self.id vote]
  | learns {decision : Decision} :
      self.decision = none → msg.messageType = decision.messageType →
      Received self msg (self.informed decision) [.ack self.id]
  | acknowledges {decision : Decision} :
      self.decision ≠ none → msg.messageType = decision.messageType →
      Received self msg self [.ack self.id]
  | ignores :
      (msg.messageType = .prepare → self.decision ≠ none) →
      (∀ decision : Decision, msg.messageType ≠ decision.messageType) →
      Received self msg self []

theorem onMessage_received (self : Participant ρ) (msg : Message) (atTime : Nat) :
    Received self msg (self.onMessage msg atTime).1 (self.onMessage msg atTime).2 := by
  simp only [onMessage, tick, List.nil_append, receive]
  split
  · rename_i type phase
    exact .casts phase type
  · rename_i type phase
    exact .recasts phase type
  · rename_i type phase
    exact .learns (by simp [decision, ParticipantPhase.decision, phase])
      (show msg.messageType = Decision.commit.messageType from type)
  · rename_i type phase
    exact .learns (by simp [decision, ParticipantPhase.decision, phase])
      (show msg.messageType = Decision.commit.messageType from type)
  · rename_i type phase
    exact .learns (by simp [decision, ParticipantPhase.decision, phase])
      (show msg.messageType = Decision.abort.messageType from type)
  · rename_i type phase
    exact .learns (by simp [decision, ParticipantPhase.decision, phase])
      (show msg.messageType = Decision.abort.messageType from type)
  · rename_i type phase
    exact .acknowledges (by simp [decision, ParticipantPhase.decision, phase])
      (show msg.messageType = Decision.commit.messageType from type)
  · rename_i type phase
    exact .acknowledges (by simp [decision, ParticipantPhase.decision, phase])
      (show msg.messageType = Decision.abort.messageType from type)
  · refine .ignores (fun type => ?_) fun decided type => ?_
    · cases phase : self.phase <;> simp_all [decision, ParticipantPhase.decision]
    · cases decided <;> cases phase : self.phase <;> simp_all [Decision.messageType]

/-- The fields that are set once, and the generator while no vote is cast. -/
structure Descends (origin participant : Participant ρ) : Prop where
  id : participant.id = origin.id
  abortBias : participant.config.abortBias = origin.config.abortBias
  undrawn : participant.durableState.vote = none → participant.config.rng = origin.config.rng

theorem Descends.coin {origin self : Participant ρ} (descends : Descends origin self)
    (fresh : self.durableState.vote = none) : self.coin = origin.coin := by
  simp only [Participant.coin, descends.abortBias, descends.undrawn fresh]

theorem Received.descends {origin self after : Participant ρ} {msg : Message}
    {outgoing : List Message} (received : Received self msg after outgoing)
    (descends : Descends origin self) : Descends origin after := by
  cases received with
  | casts _ _ => exact ⟨descends.id, descends.abortBias, by simp [cast]⟩
  | recasts _ _ => exact descends
  | learns _ _ => exact ⟨descends.id, descends.abortBias, descends.undrawn⟩
  | acknowledges _ _ => exact descends
  | ignores _ _ => exact descends

theorem Received.valid {self after : Participant ρ} {msg : Message} {outgoing : List Message}
    (received : Received self msg after outgoing) (valid : self.Valid) : after.Valid := by
  cases received with
  | casts phase _ =>
      refine ⟨rfl, ?_⟩
      have undecided := valid.decision
      simp only [decision, phase] at undecided
      exact undecided
  | recasts _ _ => exact valid
  | learns _ _ => exact ⟨valid.vote, rfl⟩
  | acknowledges _ _ => exact valid
  | ignores _ _ => exact valid

/-- A participant votes when it is asked only. -/
theorem Received.voted {self after : Participant ρ} {msg : Message} {outgoing : List Message}
    (received : Received self msg after outgoing) {vote : Vote}
    (cast : after.durableState.vote = some vote) :
    self.durableState.vote = some vote ∨ msg.messageType = .prepare := by
  cases received with
  | casts _ type => exact .inr type
  | recasts _ _ | learns _ _ | acknowledges _ _ | ignores _ _ => exact .inl cast

/-- A participant learns from the first decision message only. -/
theorem Received.learned {self after : Participant ρ} {msg : Message} {outgoing : List Message}
    (received : Received self msg after outgoing) (valid : self.Valid) {decision : Decision} :
    after.durableState.decision = some decision ↔ self.durableState.decision = some decision ∨
      self.durableState.decision = none ∧ msg.messageType = decision.messageType := by
  rw [valid.decision]
  cases received with
  | casts _ type =>
      have other : msg.messageType ≠ decision.messageType := by rw [type]; cases decision <;> nofun
      simp [other, cast, valid.decision]
  | recasts _ type =>
      have other : msg.messageType ≠ decision.messageType := by rw [type]; cases decision <;> nofun
      simp [other, valid.decision]
  | learns fresh type => simp [fresh, type, informed]
  | acknowledges decided _ => simp [decided, valid.decision]
  | ignores _ other => simp [other, valid.decision]

end Calls

end TwoPhaseCommit.Participant

namespace TwoPhaseCommit

open Protocol

variable {ρ : Type}

/-- The protocol state with the records of a participant put in. -/
def Protocol.State.withParticipant (state : State) (participant : Participant ρ) : State :=
  { state with
    vote := Function.update state.vote participant.id participant.durableState.vote
    learned := Function.update state.learned participant.id participant.durableState.decision }

namespace Participant

variable [ChaCha8Rng ρ] {policy : Policy} {state : State} {self after : Participant ρ}

/-- The message was really sent to this participant. -/
structure Addressed (state : State) (node : NodeId) (msg : Message) : Prop where
  prepare : msg.messageType = .prepare → .prepare node ∈ state.sent
  decision : ∀ {decision}, msg.messageType = Decision.messageType decision →
    .decision node decision ∈ state.sent

theorem Received.refines (state : State) {msg : Message} {outgoing : List Message}
    (received : Received self msg after outgoing) (valid : self.Valid)
    (mayVote : self.durableState.vote = none → policy.mayVote self.id self.coin)
    (sound : Sound policy (state.withParticipant self)) (addressed : Addressed state self.id msg) :
    (system policy).Steps (state.withParticipant self)
      ((state.withParticipant after).send outgoing) := by
  cases received with
  | casts phase type =>
      have fresh : self.durableState.vote = none := by
        rw [valid.vote, vote, phase]
        rfl
      have unaware : self.durableState.decision = none := by
        rw [valid.decision, Participant.decision, phase]
        rfl
      have path : (system policy).Steps (state.withParticipant self) _ :=
        .single (.castVote (addressed.prepare type) (by simpa [State.withParticipant] using fresh)
          (by simpa [State.withParticipant] using unaware) (mayVote fresh))
      convert path using 1
      rw [State.send_cons, State.send_nil]
      simp [State.withParticipant, cast]
  | @recasts vote phase type =>
      have cast : self.durableState.vote = some vote := by
        rw [valid.vote, Participant.vote, phase]
        rfl
      have known : .vote self.id vote ∈ (state.withParticipant self).sent :=
        (sound.vote_sent self.id vote).mpr (by simpa [State.withParticipant] using cast)
      rw [State.send_of_subset (by simpa using known)]
      exact .refl
  | @learns decision undecided type =>
      have unaware : self.durableState.decision = none := by rw [valid.decision, undecided]
      have path : (system policy).Steps (state.withParticipant self) _ :=
        .single (.learn (addressed.decision type) (by simpa [State.withParticipant] using unaware))
      convert path using 1
      rw [State.send_cons, State.send_nil]
      simp [State.withParticipant, informed]
  | acknowledges decided type =>
      have known : .ack self.id ∈ (state.withParticipant self).sent :=
        (sound.ack_sent self.id).mpr (by
          simpa [State.withParticipant, valid.decision] using decided)
      rw [State.send_of_subset (by simpa using known)]
      exact .refl
  | ignores _ _ => simpa using .refl

end Participant

end TwoPhaseCommit
