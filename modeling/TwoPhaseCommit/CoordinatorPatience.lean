import TwoPhaseCommit.CoordinatorProgress

/-! What a call does that comes before the retransmission timeout: it sends nothing, or the
messages of a new phase. -/

set_option autoImplicit false

namespace TwoPhaseCommit

namespace Coordinator

variable {ρ : Type} [ChaCha8Rng ρ] {self middle after : Coordinator ρ} {atTime : Nat}
  {outgoing : List Message}

/-- The call comes before the coordinator repeats itself. -/
def Early (self : Coordinator ρ) (atTime : Nat) : Prop :=
  ∀ last, self.phase.lastSent? = some last → atTime - last < self.config.retransmitTimeout

/-- The coordinator stays in its phase or finishes, and sends nothing. -/
structure Silent (before after : Coordinator ρ) : Prop where
  nodes : after.nodes = before.nodes
  decision : after.decision = before.decision
  rank : after.phase.rank ≤ before.phase.rank
  lastSent : ∀ last, after.phase.lastSent? = some last →
    before.phase.lastSent? = some last ∧ after.phase.rank = before.phase.rank

/-- Every outcome of a call before the timeout: nothing is sent, or the messages of a new phase. -/
inductive Unhurried (self : Coordinator ρ) (atTime : Nat) (after : Coordinator ρ) :
    List Message → Prop where
  | waits : Silent self after → Unhurried self atTime after []
  | starts :
      self.phase = .waiting → after.phase = .voting atTime ∅ →
      Unhurried self atTime after (self.nodes.map (messageTo .prepare))
  | decides {decision : Decision} :
      self.phase ≠ .waiting → self.decision = none → after.decision = some decision →
      (∀ last, after.phase.lastSent? = some last → last = atTime) →
      Unhurried self atTime after (self.nodes.map (messageTo decision.messageType))

omit [ChaCha8Rng ρ] in
theorem Silent.refl (self : Coordinator ρ) : Silent self self :=
  ⟨rfl, rfl, Nat.le_refl _, fun _ same => ⟨same, rfl⟩⟩

omit [ChaCha8Rng ρ] in
theorem Silent.trans (before : Silent self middle) (later : Silent middle after) :
    Silent self after where
  nodes := later.nodes.trans before.nodes
  decision := later.decision.trans before.decision
  rank := Nat.le_trans later.rank before.rank
  lastSent last same := by
    obtain ⟨kept, rank⟩ := later.lastSent last same
    obtain ⟨first, kept⟩ := before.lastSent last kept
    exact ⟨first, rank.trans kept⟩

theorem Ticked.unhurried (ticked : Ticked self atTime after outgoing) (early : self.Early atTime)
    (announced : ∀ decision, self.phase ≠ .decided decision) :
    (Silent self after ∧ outgoing = []) ∨
      ∃ decision, self.phase ≠ .waiting ∧ self.decision = none ∧
        after = self.announced decision atTime after.config.rng ∧
        outgoing = self.nodes.map (messageTo decision.messageType) := by
  cases ticked with
  | idle _ | awaitsAcks _ _ => exact .inl ⟨.refl self, rfl⟩
  | awaitsVotes phase _ =>
      refine .inl ⟨⟨rfl, ?_, ?_, fun last same => ⟨?_, ?_⟩⟩, rfl⟩
      all_goals simp_all [decision, CoordinatorPhase.decision, CoordinatorPhase.rank]
  | aborts phase _ =>
      refine .inr ⟨.abort, ?_, ?_, rfl, rfl⟩
      · simp [phase]
      · rw [decision, phase]
        rfl
  | sendsDecision phase => exact absurd phase (announced _)
  | resendsPrepare phase due | resendsDecision phase due =>
      exact absurd due (Nat.not_le_of_lt (early _ (by rw [phase]; rfl)))

omit [ChaCha8Rng ρ] in
theorem Silent.waiting (silent : Silent self after) (waiting : after.phase = .waiting) :
    self.phase = .waiting := by
  by_contra begun
  have lower := Nat.lt_of_le_of_lt silent.rank (ne_waiting_iff.mp begun)
  rw [waiting] at lower
  exact Nat.lt_irrefl _ lower

omit [ChaCha8Rng ρ] in
theorem Silent.stays (silent : Silent self after) (waiting : self.phase = .waiting) :
    after.phase = .waiting := by
  have undecided := silent.decision
  unfold Coordinator.decision at undecided
  rw [waiting] at undecided
  cases phase : after.phase with
  | waiting => rfl
  | decided _ | awaitingAcks _ _ _ | done _ =>
      rw [phase] at undecided
      cases undecided
  | voting last _ =>
      have sent := (silent.lastSent last (by rw [phase]; rfl)).1
      rw [waiting] at sent
      cases sent

theorem Received.unhurried {msg : Message} (received : Received self msg atTime after outgoing) :
    Unhurried self atTime after outgoing := by
  cases received with
  | starts phase _ => exact .starts phase rfl
  | decides phase _ _ _ _ =>
      refine .decides ?_ ?_ rfl fun last same => ?_
      · simp [phase]
      · rw [decision, phase]
        rfl
      · exact (Option.some.inj same).symm
  | recordsVote phase _ _ _ _ | recordsAck phase _ _ _ =>
      refine .waits ⟨rfl, ?_, ?_, fun last same => ⟨?_, ?_⟩⟩
      all_goals simp_all [decision, CoordinatorPhase.decision, CoordinatorPhase.rank,
        CoordinatorPhase.lastSent?]
  | completes phase _ _ _ =>
      refine .waits ⟨rfl, ?_, ?_, fun last same => ?_⟩
      · rw [decision, decision, phase]
        rfl
      · exact Nat.zero_le _
      · cases same
  | ignores _ => exact .waits (.refl self)

theorem onMessage_unhurried (self : Coordinator ρ) (msg : Message) (early : self.Early atTime)
    (announced : ∀ decision, self.phase ≠ .decided decision) :
    Unhurried self atTime (self.onMessage msg atTime).1 (self.onMessage msg atTime).2 := by
  have received := ((self.tick atTime).1.receive_received msg atTime).unhurried
  have nodes : (self.tick atTime).1.nodes = self.nodes := (self.tick_ticked atTime).sameSetup.nodes
  change Unhurried self atTime ((self.tick atTime).1.receive msg atTime).1
    ((self.tick atTime).2 ++ ((self.tick atTime).1.receive msg atTime).2)
  generalize ((self.tick atTime).1.receive msg atTime).2 = answers at received ⊢
  rcases (self.tick_ticked atTime).unhurried early announced with
    ⟨silent, nothing⟩ | ⟨verdict, begun, undecided, ticked, sent⟩
  · rw [nothing, List.nil_append]
    cases received with
    | waits later => exact .waits (silent.trans later)
    | starts waiting voting =>
        rw [nodes]
        exact .starts (silent.waiting waiting) voting
    | decides later undecided decided now =>
        rw [nodes]
        have begun : self.phase ≠ .waiting := fun waiting => later (silent.stays waiting)
        exact .decides begun (silent.decision ▸ undecided) decided now
  · have decided : (self.tick atTime).1.decision = some verdict := by
      rw [ticked]
      rfl
    cases received with
    | waits later =>
        rw [sent, List.append_nil]
        refine .decides begun undecided (later.decision.trans decided) fun last same => ?_
        have kept := (later.lastSent last same).1
        rw [ticked] at kept
        exact (Option.some.inj kept).symm
    | starts waiting _ =>
        rw [decision, waiting] at decided
        cases decided
    | decides _ missing _ _ => cases missing.symm.trans decided

theorem tick_unhurried (self : Coordinator ρ) (early : self.Early atTime)
    (announced : ∀ decision, self.phase ≠ .decided decision) :
    Unhurried self atTime (self.tick atTime).1 (self.tick atTime).2 := by
  rcases (self.tick_ticked atTime).unhurried early announced with
    ⟨silent, nothing⟩ | ⟨verdict, begun, undecided, ticked, sent⟩
  · rw [nothing]
    exact .waits silent
  · rw [sent, ticked]
    exact .decides begun undecided rfl fun last same => (Option.some.inj same).symm

omit [ChaCha8Rng ρ] in
/-- A phase that asks has asked before, or begins with the call. -/
theorem Unhurried.lastSent (unhurried : Unhurried self atTime after outgoing) {last : Nat}
    (sent : after.phase.lastSent? = some last) :
    (self.phase.lastSent? = some last ∧ after.phase.rank = self.phase.rank) ∨
      last = atTime ∧ after.phase.rank < self.phase.rank := by
  cases unhurried with
  | waits silent => exact .inl (silent.lastSent last sent)
  | starts waiting voting =>
      rw [voting] at sent
      refine .inr ⟨(Option.some.inj sent).symm, ?_⟩
      rw [waiting, voting]
      exact Nat.lt_succ_self 3
  | decides _ undecided decided now =>
      refine .inr ⟨now last sent, ?_⟩
      have before : 3 ≤ self.phase.rank := by
        rw [decision] at undecided
        cases phase : self.phase <;> simp_all [CoordinatorPhase.decision, CoordinatorPhase.rank]
      have later : after.phase.rank ≤ 2 := by
        rw [decision] at decided
        cases phase : after.phase <;> simp_all [CoordinatorPhase.decision, CoordinatorPhase.rank]
      omega

end Coordinator

end TwoPhaseCommit
