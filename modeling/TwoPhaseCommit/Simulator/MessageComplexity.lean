import TwoPhaseCommit.Simulator.Economy
import Mathlib.Data.List.ProdSigma

/-! How many messages a transaction takes while no actor crashes. When no message is sent twice,
four messages for each participant are enough, and a commit takes exactly that many. -/

set_option autoImplicit false

namespace TwoPhaseCommit.Simulator

open Protocol

variable {ρ : Type} [ChaCha8Rng ρ] {setup : Setup} {state : Simulator ρ}

/-- The place of a message in the transaction. -/
def slot (msg : Message) : Nat × Option NodeId :=
  (msg.messageType.stage, msg.node?)

def slots (setup : Setup) (stages : List Nat) : List (Nat × Option NodeId) :=
  stages ×ˢ setup.nodes.map some

private theorem slots_nodup {stages : List Nat} (distinct : stages.Nodup) :
    (slots setup stages).Nodup :=
  distinct.product ((nodes_nodup setup).map (Option.some_injective _))

private theorem length_slots (stages : List Nat) :
    (slots setup stages).length = stages.length * setup.nParticipants.toNat := by
  rw [slots, List.length_product, List.length_map, Setup.nodes, nodeIds, List.length_map,
    List.length_range]

@[simp] private theorem slot_prepare (node : NodeId) : slot (.prepare node) = (1, some node) := rfl

@[simp] private theorem slot_vote (node : NodeId) (vote : Vote) :
    slot (.vote node vote) = (2, some node) := by
  cases vote <;> rfl

@[simp] private theorem slot_decision (node : NodeId) (decision : Decision) :
    slot (.decision node decision) = (3, some node) := by
  cases decision <;> rfl

@[simp] private theorem slot_ack (node : NodeId) : slot (.ack node) = (4, some node) := rfl

/-- A sent message is known by its place. -/
private theorem eq_of_slot {view : State} (sound : Sound (setup.policy ρ) view)
    {first second : Message} (one : first ∈ view.sent) (two : second ∈ view.sent)
    (same : slot first = slot second) : first = second := by
  have formed := sound.wellFormed second two
  cases sound.wellFormed first one with
  | prepare _ => cases formed <;> simp_all
  | @vote node cast _ =>
      cases formed with
      | @vote other recast _ =>
          obtain rfl : node = other := by simpa using same
          have voted := (sound.vote_sent node cast).mp one
          cases voted.symm.trans ((sound.vote_sent node recast).mp two)
          rfl
      | prepare _ | decision _ | ack _ => simp at same
  | @decision node decided _ =>
      cases formed with
      | @decision other redecided _ =>
          obtain rfl : node = other := by simpa using same
          have known := ((sound.decision_sent node decided).mp one).2
          cases known.symm.trans ((sound.decision_sent node redecided).mp two).2
          rfl
      | prepare _ | vote _ | ack _ => simp at same
  | ack _ => cases formed <;> simp_all

private theorem slot_mem_slots {view : State} (sound : Sound (setup.policy ρ) view)
    {msg : Message} (sent : msg ∈ view.sent) : slot msg ∈ slots setup [1, 2, 3, 4] := by
  have placed : ∀ {stage : Nat} {node : NodeId}, stage ∈ [1, 2, 3, 4] → node ∈ setup.nodes →
      (stage, some node) ∈ slots setup [1, 2, 3, 4] := fun listed member =>
    List.mem_product.mpr ⟨listed, List.mem_map_of_mem member⟩
  cases sound.wellFormed msg sent with
  | prepare member =>
      rw [slot_prepare]
      exact placed (by decide) member
  | vote member =>
      rw [slot_vote]
      exact placed (by decide) member
  | decision member =>
      rw [slot_decision]
      exact placed (by decide) member
  | ack member =>
      rw [slot_ack]
      exact placed (by decide) member

omit [ChaCha8Rng ρ] in
private theorem length_le_of_slots {stages : List Nat} (distinct : stages.Nodup)
    (sent : ∀ stage ∈ stages, ∀ node ∈ setup.nodes,
      ∃ msg ∈ state.sentMessages, slot msg = (stage, some node)) :
    stages.length * setup.nParticipants.toNat ≤ state.sentMessages.length := by
  rw [← length_slots, ← List.length_map slot]
  apply (List.subperm_of_subset (slots_nodup distinct) _).length_le
  intro place listed
  obtain ⟨stage, recipient⟩ := place
  obtain ⟨chosen, named⟩ := List.mem_product.mp listed
  obtain ⟨node, member, rfl⟩ := List.mem_map.mp named
  obtain ⟨msg, sent, same⟩ := sent stage chosen node member
  exact List.mem_map.mpr ⟨msg, sent, same⟩

/-- The messages of a finished transaction, and of a committed one. -/
private theorem Economical.sent_of_done (economical : Economical setup state)
    {decision : Decision} (done : state.coordinator.phase = .done decision) {node : NodeId}
    (member : node ∈ setup.nodes) :
    .prepare node ∈ state.sentMessages ∧ .decision node decision ∈ state.sentMessages ∧
      .ack node ∈ state.sentMessages ∧
        (decision = .commit → .vote node .commit ∈ state.sentMessages) := by
  have decided : state.view.decision = some decision := by
    rw [economical.toConsistent.view_decision, Coordinator.decision, done]
    rfl
  refine ⟨economical.prepared (by rw [done]; exact fun same => by cases same) node member,
    ?_, ?_, ?_⟩
  · exact (economical.sound.decision_sent node decision).mpr ⟨member, decided⟩
  · apply (economical.sound.ack_sent node).mpr
    rw [economical.toConsistent.learned_of_done done member]
    exact Option.some_ne_none decision
  · intro commit
    subst commit
    exact (economical.sound.vote_sent node .commit).mpr
      (economical.sound.unanimous decided node member)

/-- With a timeout that is longer than a round trip, a transaction without crashes takes at most
four messages for each participant, whatever the ticks, and a commit takes exactly four. -/
theorem message_complexity [BoundedChaCha8Rng ρ] (participants : 1 ≤ setup.nParticipants)
    (patient : 2 * setup.latency < setup.retransmitTimeout)
    (reachable : (system setup crashFree).Reachable state) :
    state.sentMessages.Nodup ∧
      state.sentMessages.length ≤ 4 * setup.nParticipants.toNat ∧
      ∀ decision, state.coordinator.phase = .done decision →
        3 * setup.nParticipants.toNat ≤ state.sentMessages.length ∧
          (decision = .commit →
            state.sentMessages.length = 4 * setup.nParticipants.toNat) := by
  have economical := (economical_invariant participants patient).reachable reachable
  have most : state.sentMessages.length ≤ 4 * setup.nParticipants.toNat := by
    rw [← List.length_map slot]
    have distinct : (state.sentMessages.map slot).Nodup :=
      economical.sent.map_on fun first one second two => eq_of_slot economical.sound one two
    have within : state.sentMessages.map slot ⊆ slots setup [1, 2, 3, 4] := by
      intro place listed
      obtain ⟨msg, sent, rfl⟩ := List.mem_map.mp listed
      exact slot_mem_slots economical.sound sent
    have bound := (List.subperm_of_subset distinct within).length_le
    rwa [length_slots] at bound
  refine ⟨economical.sent, most, fun decision done => ⟨?_, fun commit => ?_⟩⟩
  · apply length_le_of_slots (by decide : [1, 3, 4].Nodup)
    intro stage listed node member
    obtain ⟨prepare, decided, ack, _⟩ := economical.sent_of_done done member
    simp only [List.mem_cons, List.not_mem_nil, or_false] at listed
    rcases listed with rfl | rfl | rfl
    · exact ⟨_, prepare, rfl⟩
    · exact ⟨_, decided, slot_decision node decision⟩
    · exact ⟨_, ack, rfl⟩
  · apply Nat.le_antisymm most
    apply length_le_of_slots (by decide : [1, 2, 3, 4].Nodup)
    intro stage listed node member
    obtain ⟨prepare, decided, ack, vote⟩ := economical.sent_of_done done member
    simp only [List.mem_cons, List.not_mem_nil, or_false] at listed
    rcases listed with rfl | rfl | rfl | rfl
    · exact ⟨_, prepare, rfl⟩
    · exact ⟨_, vote commit, slot_vote node .commit⟩
    · exact ⟨_, decided, slot_decision node decision⟩
    · exact ⟨_, ack, rfl⟩

theorem message_complexity_unanimous : ∃ state : Simulator ForcedRng,
    state.coordinator.phase = .done .commit ∧ state.sentMessages.length = 8 := by
  have ended : runEndsIn (ρ := ForcedRng) .unanimous [(.startTransaction, 0), (.tickAll, 3)] 20
      (fun state => decide (state.coordinator.phase = .done .commit)) = true := by
    decide +kernel
  obtain ⟨state, ran, done⟩ := exists_run_of_runEndsIn ended
  have reachable : (system .unanimous crashFree).Reachable state := by
    refine ⟨_, rfl, .trans (.single (.enqueueExternal ?_)) (.trans (.single (.enqueueExternal ?_))
      (run_steps ran))⟩
    · exact fun _ => nofun
    · exact fun _ => nofun
  have counts := message_complexity (by decide) (by decide) reachable
  exact ⟨state, of_decide_eq_true done, (counts.2.2 _ (of_decide_eq_true done)).2 rfl⟩

end TwoPhaseCommit.Simulator
