import TwoPhaseCommit.CoordinatorProgress

/-! How often the coordinator may still send to its nodes when it is done by a given time: once
for every phase that asks, and once for every timeout until then. -/

set_option autoImplicit false

namespace TwoPhaseCommit

/-- The number of volleys that may still be sent until the end of the transaction, which is `span`
after its start. -/
def CoordinatorPhase.volleys (phase : CoordinatorPhase) (span timeout finish : Nat) : Nat :=
  match phase with
  | .waiting | .decided _ => 2 + span / timeout
  | .voting last _ => 1 + (finish - last) / timeout
  | .awaitingAcks _ last _ => (finish - last) / timeout
  | .done _ => 0

namespace Coordinator

variable {ρ : Type} [ChaCha8Rng ρ] {self middle after : Coordinator ρ}
  {atTime span timeout finish : Nat} {outgoing : List Message}

/-- The call sends some volleys, which the rest of the transaction has to do without. -/
def Spends (span timeout finish : Nat) (before after : Coordinator ρ)
    (outgoing : List Message) : Prop :=
  ∃ count, outgoing.length ≤ count * before.nodes.length ∧
    after.phase.volleys span timeout finish + count ≤ before.phase.volleys span timeout finish

omit [ChaCha8Rng ρ] in
theorem Spends.refl (self : Coordinator ρ) : Spends span timeout finish self self [] :=
  ⟨0, Nat.zero_le _, Nat.le_refl _⟩

omit [ChaCha8Rng ρ] in
theorem Spends.trans {more : List Message} (first : Spends span timeout finish self middle outgoing)
    (nodes : middle.nodes = self.nodes) (second : Spends span timeout finish middle after more) :
    Spends span timeout finish self after (outgoing ++ more) := by
  obtain ⟨early, sent, left⟩ := first
  obtain ⟨late, answered, rest⟩ := second
  rw [nodes] at answered
  refine ⟨early + late, ?_, by omega⟩
  rw [List.length_append, Nat.add_mul]
  exact Nat.add_le_add sent answered

omit [ChaCha8Rng ρ] in
private theorem spends_silently (kept : after.phase.volleys span timeout finish ≤
    self.phase.volleys span timeout finish) : Spends span timeout finish self after [] :=
  ⟨0, Nat.zero_le _, kept⟩

omit [ChaCha8Rng ρ] in
private theorem spends_volley {nodes : List NodeId} (type : MessageType)
    (some : nodes.length ≤ self.nodes.length)
    (left : after.phase.volleys span timeout finish + 1 ≤ self.phase.volleys span timeout finish) :
    Spends span timeout finish self after (nodes.map (messageTo type)) := by
  refine ⟨1, ?_, left⟩
  rw [List.length_map, Nat.one_mul]
  exact some

/-- Later there is time for fewer volleys. -/
private theorem volleys_later {phase : CoordinatorPhase} {last : Nat}
    (past : phase.NotSentAfter atTime) (same : phase.lastSent? = some last) (timeout finish : Nat) :
    (finish - atTime) / timeout ≤ (finish - last) / timeout :=
  Nat.div_le_div_right (Nat.sub_le_sub_left (past last same) finish)

/-- After another timeout there is time for one volley less. -/
private theorem volleys_after_timeout {last : Nat} (positive : 0 < timeout)
    (due : timeout ≤ atTime - last) (inTime : atTime ≤ finish) :
    (finish - atTime) / timeout + 1 ≤ (finish - last) / timeout := by
  rw [← Nat.add_div_right _ positive]
  exact Nat.div_le_div_right (by omega)

theorem Ticked.spends (ticked : Ticked self atTime after outgoing)
    (announced : ∀ decision, self.phase ≠ .decided decision)
    (past : self.phase.NotSentAfter atTime) (positive : 0 < self.config.retransmitTimeout)
    (inTime : self.isQuiescent = false → atTime ≤ finish) :
    Spends span self.config.retransmitTimeout finish self after outgoing := by
  cases ticked with
  | idle _ | awaitsAcks _ _ => exact .refl self
  | awaitsVotes phase _ =>
      apply spends_silently
      rw [phase]
  | @aborts last votes _ phase _ =>
      apply spends_volley _ (Nat.le_refl _)
      have sent : self.phase.lastSent? = some last := by rw [phase]; rfl
      have fewer := volleys_later past sent self.config.retransmitTimeout finish
      rw [phase]
      simp only [CoordinatorPhase.volleys, Coordinator.announced]
      omega
  | @resendsPrepare last votes _ phase due =>
      apply spends_volley _ (List.length_filter_le _ _)
      have busy : self.isQuiescent = false := by rw [isQuiescent, phase]
      have fewer := volleys_after_timeout positive due (inTime busy)
      rw [phase]
      simp only [CoordinatorPhase.volleys]
      omega
  | sendsDecision phase => exact absurd phase (announced _)
  | @resendsDecision decision last acks phase due =>
      apply spends_volley _ (List.length_filter_le _ _)
      have busy : self.isQuiescent = false := by rw [isQuiescent, phase]
      have fewer := volleys_after_timeout positive due (inTime busy)
      rw [phase]
      exact fewer

theorem Received.spends {msg : Message} (received : Received self msg atTime after outgoing)
    (past : self.phase.NotSentAfter atTime)
    (starts : self.phase = .waiting → finish ≤ atTime + span) :
    Spends span timeout finish self after outgoing := by
  cases received with
  | ignores _ => exact .refl self
  | starts phase _ =>
      apply spends_volley _ (Nat.le_refl _)
      have enough : (finish - atTime) / timeout ≤ span / timeout :=
        Nat.div_le_div_right (Nat.sub_le_iff_le_add'.mpr (starts phase))
      rw [phase]
      simp only [CoordinatorPhase.volleys]
      omega
  | recordsVote phase _ _ _ _ | recordsAck phase _ _ _ =>
      apply spends_silently
      rw [phase]
      exact Nat.le_refl _
  | @decides last _ _ _ _ _ phase _ _ _ _ =>
      apply spends_volley _ (Nat.le_refl _)
      have sent : self.phase.lastSent? = some last := by rw [phase]; rfl
      have fewer := volleys_later past sent timeout finish
      rw [phase]
      simp only [CoordinatorPhase.volleys, Coordinator.announced]
      omega
  | completes _ _ _ _ =>
      apply spends_silently
      exact Nat.zero_le _

theorem onMessage_spends (self : Coordinator ρ) (msg : Message)
    (announced : ∀ decision, self.phase ≠ .decided decision)
    (past : self.phase.NotSentAfter atTime) (positive : 0 < self.config.retransmitTimeout)
    (inTime : self.isQuiescent = false → atTime ≤ finish)
    (starts : self.phase = .waiting → finish ≤ atTime + span) :
    Spends span self.config.retransmitTimeout finish self (self.onMessage msg atTime).1
      (self.onMessage msg atTime).2 := by
  have ticked := self.tick_ticked atTime
  have received := (self.tick atTime).1.receive_received msg atTime
  apply (ticked.spends announced past positive inTime).trans ticked.sameSetup.nodes
  apply received.spends (ticked.notSentAfter past)
  exact fun waiting => starts (ticked.silent_of_waiting waiting).1

end Coordinator

end TwoPhaseCommit
