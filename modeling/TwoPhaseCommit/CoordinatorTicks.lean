import TwoPhaseCommit.CoordinatorProgress

/-! What ticks alone do to a coordinator. One that is quiescent stays as it is, any other sends
something or waits, and never gets to the end of the protocol by itself. -/

set_option autoImplicit false

namespace TwoPhaseCommit.Coordinator

variable {ρ : Type} [ChaCha8Rng ρ] {self after : Coordinator ρ} {atTime clock : Nat}
  {outgoing : List Message}

theorem ticked_of_tick (ticks : self.tick atTime = (after, outgoing)) :
    Ticked self atTime after outgoing := by
  have ticked := self.tick_ticked atTime
  rwa [ticks] at ticked

theorem Ticked.isQuiescent (ticked : Ticked self atTime after outgoing) :
    after.isQuiescent = self.isQuiescent := by
  cases ticked with
  | idle _ | awaitsAcks _ _ => rfl
  | aborts phase _ | resendsPrepare phase _ | awaitsVotes phase _ | sendsDecision phase
  | resendsDecision phase _ => simp [Coordinator.isQuiescent, announced, phase]

theorem Ticked.eq_of_quiescent (ticked : Ticked self atTime after outgoing)
    (quiescent : self.isQuiescent = true) : after = self ∧ outgoing = [] := by
  cases ticked with
  | idle _ => exact ⟨rfl, rfl⟩
  | aborts phase _ | resendsPrepare phase _ | awaitsVotes phase _ | sendsDecision phase
  | resendsDecision phase _ | awaitsAcks phase _ =>
      simp [Coordinator.isQuiescent, phase] at quiescent

/-- A tick that sends nothing finds nothing to do or comes before the timeout. -/
theorem Ticked.silent (ticked : Ticked self atTime after outgoing) (silent : outgoing = [])
    (valid : self.Valid) (managed : self.nodes ≠ []) (nodup : self.nodes.Nodup) :
    (self.isQuiescent = true ∧ after = self) ∨
      ∃ last, self.phase.lastSent? = some last ∧ after.phase.lastSent? = some last ∧
        atTime - last < self.config.retransmitTimeout := by
  have complete : (self.nodes.filter fun node => !self.phase.recorded node) = [] →
      ∀ node ∈ self.nodes, self.phase.recorded node = true := by
    intro none node member
    simpa using List.filter_eq_nil_iff.mp none node member
  cases ticked with
  | idle quiescent => exact .inl ⟨quiescent, rfl⟩
  | aborts _ _ | sendsDecision _ => exact absurd (List.map_eq_nil_iff.mp silent) managed
  | awaitsVotes phase early => exact .inr ⟨_, by rw [phase]; rfl, rfl, early⟩
  | awaitsAcks phase early => exact .inr ⟨_, by rw [phase]; rfl, by rw [phase]; rfl, early⟩
  | resendsPrepare phase _ | resendsDecision phase _ =>
      rw [phase] at complete
      have recorded := complete (List.map_eq_nil_iff.mp silent)
      rw [← phase] at recorded
      have quiescent := valid.quiescent_of_recorded managed nodup (by simp [phase]) recorded
      simp [Coordinator.isQuiescent, phase] at quiescent

/-- A tick that comes late enough shows in the phase. -/
theorem Ticked.phase_ne (ticked : Ticked self atTime after outgoing)
    (active : self.isQuiescent = false)
    (late : ∀ last, self.phase.lastSent? = some last →
      last < atTime ∧ self.config.retransmitTimeout ≤ atTime - last) :
    after.phase ≠ self.phase := by
  cases ticked with
  | idle quiescent => cases active.symm.trans quiescent
  | aborts phase _ | sendsDecision phase =>
      rw [phase]
      exact nofun
  | awaitsVotes phase early | awaitsAcks phase early =>
      rw [phase] at late
      exact absurd early (Nat.not_lt_of_le (late _ rfl).2)
  | resendsPrepare phase _ =>
      rw [phase] at late ⊢
      intro same
      exact Nat.ne_of_gt (late _ rfl).1 (CoordinatorPhase.voting.inj same).1
  | resendsDecision phase _ =>
      rw [phase] at late ⊢
      intro same
      exact Nat.ne_of_gt (late _ rfl).1 (CoordinatorPhase.awaitingAcks.inj same).2.1

/-! ## Ticks at successive times -/

/-- One of this many ticks, at the times that follow the clock, sends something. -/
def sendsWithin : Nat → Coordinator ρ → Nat → Bool
  | 0, _, _ => false
  | ticks + 1, self, clock =>
      let (after, outgoing) := self.tick (clock + 1)
      !outgoing.isEmpty || sendsWithin ticks after (clock + 1)

theorem sendsWithin_succ {ticks : Nat} : sendsWithin (ticks + 1) self clock = true ↔
    (self.tick (clock + 1)).2 ≠ [] ∨
      sendsWithin ticks (self.tick (clock + 1)).1 (clock + 1) = true := by
  simp [sendsWithin]

/-- A coordinator with something left to do sends once its timeout is over. -/
theorem sendsWithin_of_due {ticks : Nat} (valid : self.Valid) (managed : self.nodes ≠ [])
    (nodup : self.nodes.Nodup) (active : self.isQuiescent = false)
    (due : ∀ last, self.phase.lastSent? = some last →
      last + self.config.retransmitTimeout ≤ clock + (ticks + 1)) :
    sendsWithin (ticks + 1) self clock = true := by
  induction ticks generalizing self clock with
  | zero =>
      rw [sendsWithin_succ]
      left
      intro silent
      rcases (self.tick_ticked (clock + 1)).silent silent valid managed nodup with
        ⟨quiescent, _⟩ | ⟨last, sent, _, early⟩
      · cases active.symm.trans quiescent
      · have enough := due last sent
        omega
  | succ ticks ih =>
      rw [sendsWithin_succ, or_iff_not_imp_left, Classical.not_not]
      intro silent
      have ticked := self.tick_ticked (clock + 1)
      have setup := ticked.sameSetup
      apply ih (ticked.valid valid) (setup.nodes ▸ managed) (setup.nodes ▸ nodup)
        (ticked.isQuiescent.trans active)
      intro last sent
      rcases ticked.silent silent valid managed nodup with ⟨_, kept⟩ | ⟨before, earlier, later, _⟩
      · have enough := due last (kept ▸ sent)
        rw [kept]
        omega
      · cases sent.symm.trans later
        have enough := due last earlier
        rw [setup.retransmitTimeout]
        omega

/-- Without spontaneous aborts a coordinator waits for its timeout, and without participants it has
nobody to write to. -/
theorem sendsWithin_eq_false {ticks : Nat} (past : self.phase.NotSentAfter clock)
    (steadfast : ¬ MayAbort ρ self.config.abortBias)
    (patient : self.nodes = [] ∨ ∃ last, self.phase.lastSent? = some last ∧
      clock + ticks < last + self.config.retransmitTimeout) :
    sendsWithin ticks self clock = false := by
  induction ticks generalizing self clock with
  | zero => rfl
  | succ ticks ih =>
      have ticked := self.tick_ticked (clock + 1)
      rw [← Bool.not_eq_true, sendsWithin_succ, not_or, Classical.not_not, Bool.not_eq_true]
      generalize (self.tick (clock + 1)).1 = after at ticked
      generalize (self.tick (clock + 1)).2 = outgoing at ticked
      have waited : self.phase.NotSentAfter (clock + 1) := fun last sent =>
        Nat.le_succ_of_le (past last sent)
      have early : self.nodes = [] ∨ ∃ last, self.phase.lastSent? = some last ∧
          clock + 1 + ticks < last + self.config.retransmitTimeout := by
        rwa [Nat.add_right_comm]
      -- whoever sends at this tick has nobody to send to
      have nobody : ∀ last, self.phase.lastSent? = some last →
          self.config.retransmitTimeout ≤ clock + 1 - last → self.nodes = [] := by
        intro last sent due
        refine patient.resolve_right fun ⟨before, same, enough⟩ => ?_
        cases sent.symm.trans same
        have bound := past last sent
        omega
      cases ticked with
      | idle _ => exact ⟨rfl, ih waited steadfast early⟩
      | aborts _ mayAbort => exact absurd mayAbort steadfast
      | awaitsVotes phase _ =>
          rw [phase] at waited early
          exact ⟨rfl, ih waited steadfast early⟩
      | awaitsAcks _ _ => exact ⟨rfl, ih waited steadfast early⟩
      | resendsPrepare phase due =>
          rw [phase] at nobody
          have none : self.nodes = [] := nobody _ rfl due
          refine ⟨by simp [none], ih ?_ steadfast (.inl none)⟩
          intro last sent
          cases sent
          exact Nat.le_refl _
      | resendsDecision phase due =>
          rw [phase] at nobody
          have none : self.nodes = [] := nobody _ rfl due
          refine ⟨by simp [none], ih ?_ steadfast (.inl none)⟩
          intro last sent
          cases sent
          exact Nat.le_refl _
      | sendsDecision phase =>
          rw [phase] at patient
          have none : self.nodes = [] := patient.resolve_right fun ⟨_, sent, _⟩ => by cases sent
          refine ⟨by simp [none], ih ?_ steadfast (.inl none)⟩
          intro last sent
          cases sent
          exact Nat.le_refl _

/-- Without spontaneous aborts, a coordinator with something left to do sends at one of the ticks
exactly if it has somebody to write to and its timeout is over by the last of them. -/
theorem sendsWithin_iff {ticks : Nat} (valid : self.Valid) (nodup : self.nodes.Nodup)
    (active : self.isQuiescent = false) (past : self.phase.NotSentAfter clock)
    (steadfast : ¬ MayAbort ρ self.config.abortBias) :
    sendsWithin (ticks + 1) self clock = true ↔
      self.nodes ≠ [] ∧ ∀ last, self.phase.lastSent? = some last →
        last + self.config.retransmitTimeout ≤ clock + (ticks + 1) := by
  constructor
  · intro sends
    refine ⟨fun none => ?_, fun last sent => ?_⟩
    · cases sends.symm.trans (sendsWithin_eq_false past steadfast (.inl none))
    · rw [← Nat.not_lt]
      intro early
      cases sends.symm.trans (sendsWithin_eq_false past steadfast (.inr ⟨last, sent, early⟩))
  · intro reasons
    exact sendsWithin_of_due valid reasons.1 nodup active reasons.2

end TwoPhaseCommit.Coordinator
