import TwoPhaseCommit.Simulator.Safety

/-! The observations on the wire are the records of the actors, so no assertion
of a recorder fires, the invariant check passes and no step panics. -/

set_option autoImplicit false

namespace TwoPhaseCommit

open Protocol

/-! ## Observations of a sound protocol state -/

/-- What may be observed in a protocol state. -/
def Protocol.State.facts (state : State) : Observations.Facts where
  vote := state.vote
  decision := state.decision
  learned _ := state.decision

namespace Observations

variable {policy : Policy} {state after : State} {observations : Observations}

/-- The observations are exactly the records of the protocol state. A decision is
observed only if there is a node to send it to. -/
structure Reflects (observations : Observations) (state : State) : Prop where
  votes : ∀ node : NodeId, observations.votes[node]? = state.vote node
  coordinatorDecision : ∀ decision, observations.coordinatorDecision = some decision ↔
    ∃ node, .decision node decision ∈ state.sent
  participantDecisions : ∀ node : NodeId,
    observations.participantDecisions[node]? = state.learned node

theorem Reflects.decided (reflects : Reflects observations state) (sound : Sound policy state)
    {decision : Decision} (found : observations.coordinatorDecision = some decision) :
    state.decision = some decision := by
  obtain ⟨node, sent⟩ := (reflects.coordinatorDecision decision).mp found
  exact ((sound.decision_sent node decision).mp sent).2

theorem Reflects.within (reflects : Reflects observations state) (sound : Sound policy state)
    (grows : Extends state after) : Within after.facts observations where
  vote found := grows.vote _ _ (reflects.votes _ ▸ found)
  decision found := grows.decision _ (reflects.decided sound found)
  learned found := grows.decision _
    (sound.learned _ _ (reflects.participantDecisions _ ▸ found))

section Messages

variable {msg : Message} {node : NodeId} {vote : Vote} {decision : Decision}

theorem eq_vote_of_casts (sound : Sound policy state) (sent : msg ∈ state.sent)
    (casts : (Observation.sent msg).Casts node vote) : msg = .vote node vote := by
  obtain ⟨type, sender⟩ := casts
  obtain ⟨other, _, rfl⟩ := (sound.wellFormed msg sent).eq_vote type
  cases sender
  rfl

theorem decided_of_announces (sound : Sound policy state) (sent : msg ∈ state.sent)
    (announces : (Observation.sent msg).Announces decision) : state.decision = some decision := by
  obtain ⟨other, _, rfl⟩ := (sound.wellFormed msg sent).eq_decision announces.1
  exact ((sound.decision_sent other decision).mp sent).2

theorem decided_of_informs (sound : Sound policy state) (sent : msg ∈ state.sent)
    (informs : (Observation.delivered msg).Informs node decision) :
    state.decision = some decision := by
  obtain ⟨other, _, rfl⟩ := (sound.wellFormed msg sent).eq_decision informs.1
  exact ((sound.decision_sent other decision).mp sent).2

theorem agrees_sent (sound : Sound policy state) (sent : msg ∈ state.sent) :
    Agrees state.facts (.sent msg) where
  vote casts := (sound.vote_sent _ _).mp (eq_vote_of_casts sound sent casts ▸ sent)
  decision announces := decided_of_announces sound sent announces
  learned := nofun

theorem agrees_delivered (sound : Sound policy state) (sent : msg ∈ state.sent) :
    Agrees state.facts (.delivered msg) where
  vote := nofun
  decision := nofun
  learned informs := decided_of_informs sound sent informs

end Messages

theorem Reflects.checked (reflects : Reflects observations state) (sound : Sound policy state) :
    checkAllInvariants observations = .ok () := by
  rw [checkAllInvariants_ok_iff]
  have decided : ∀ {node : NodeId} {decision : Decision},
      observations.participantDecisions[node]? = some decision →
        state.decision = some decision :=
    fun found => sound.learned _ _ (reflects.participantDecisions _ ▸ found)
  refine ⟨fun mine other => Option.some.inj ((decided mine).symm.trans (decided other)), ?_, ?_⟩
  · intro committed node vote found
    rw [reflects.votes] at found
    exact Option.some.inj (found.symm.trans
      (sound.unanimous (reflects.decided sound committed) node (sound.member_of_vote found)))
  · rintro aborted node decision found rfl
    cases (reflects.decided sound aborted).symm.trans (decided found)

end Observations

namespace Simulator

variable {ρ : Type} [ChaCha8Rng ρ] {setup : Setup} {environment : Environment ρ}
  {state middle after : Simulator ρ} {event : Event} {outgoing : List Message}

/-! ## One event -/

omit [ChaCha8Rng ρ] in
private theorem not_informs_of_receives {msg : Message} (genuine : Genuine state event)
    (receives : coordinatorMessage? event = some msg) {node : NodeId} {decision : Decision} :
    ¬ ∃ observation ∈ heard event, observation.Informs node decision := by
  rcases coordinatorMessage?_cases receives with ⟨rfl, _⟩ | rfl
  · simp [heard]
  · simp [heard, Observation.Informs, ← genuine.1]

/-- A participant has learned a decision if it knew it or the event delivers it. -/
theorem Dispatched.learned (dispatched : Dispatched state event middle outgoing)
    (staffed : Staffed setup state) (sound : Sound (setup.policy ρ) state.view)
    (genuine : Genuine state event) (node : NodeId) (decision : Decision) :
    middle.view.learned node = some decision ↔ state.view.learned node = some decision ∨
      ∃ observation ∈ heard event, observation.Informs node decision := by
  cases dispatched with
  | coordinatorReceives receives =>
      exact (or_iff_left (not_informs_of_receives genuine receives)).symm
  | @participantReceives recipient msg participant found =>
      have member := staffed.participant found
      have received := participant.onMessage_received msg state.clock
      have after : (participant.onMessage msg state.clock).1.id = recipient := by
        rw [(received.descends ⟨rfl, rfl, fun _ => rfl⟩).id, member.id]
      have informs : (∃ observation ∈ heard (.internal (.deliver (.node recipient) msg)),
          observation.Informs node decision) ↔
            node = recipient ∧ msg.messageType = decision.messageType := by
        simp [heard, Observation.Informs, ← genuine.1, and_comm, eq_comm]
      rw [view_insert after, informs]
      by_cases same : node = recipient
      · subst same
        have known : state.view.learned node = participant.durableState.decision := by
          simp [view, found]
        have told : msg.messageType = decision.messageType →
            participant.durableState.decision = none ∨
              participant.durableState.decision = some decision := by
          intro type
          have informs : (Observation.delivered msg).Informs node decision :=
            ⟨type, genuine.1.symm⟩
          have decided := Observations.decided_of_informs sound genuine.2 informs
          cases durable : participant.durableState.decision with
          | none => exact .inl rfl
          | some earlier =>
              exact .inr ((sound.learned node earlier (known.trans durable)).symm.trans decided)
        simp only [State.withParticipant, after, Function.update_self,
          received.learned member.valid, known, true_and]
        exact ⟨Or.imp_right And.right, fun either => either.elim .inl fun type =>
          (told type).elim (fun fresh => .inr ⟨fresh, type⟩) .inl⟩
      · simp [State.withParticipant, after, same]
  | @nobodyReceives recipient msg missing =>
      refine (or_iff_left ?_).symm
      intro informed
      obtain ⟨observation, listed, informs⟩ := informed
      obtain rfl := List.mem_singleton.mp listed
      obtain ⟨other, member, rfl⟩ := (sound.wellFormed msg genuine.2).eq_decision informs.1
      obtain rfl : other = recipient := by simpa [Message.decision] using genuine.1.symm
      have present := (staffed.managed other).mpr member
      exact absurd missing (Option.ne_none_iff_exists'.mpr
        (Library.OrderedMap.mem_iff_exists.mp present))
  | participantRecovers _ found =>
      rw [Participant.recover_eq_self (staffed.participant found).valid,
        Library.OrderedMap.insert_eq_self found]
      exact (or_iff_left (by simp [heard])).symm
  | coordinatorTicks _ _ | rests _ _ | nodeTicks | crashes | coordinatorRecovers _ | staysUp _ =>
      exact (or_iff_left (by simp [heard])).symm

private theorem reflects_step {heard : List Observation} {outgoing : List Message}
    {start final : State} {before observations : Observations}
    (reflects : before.Reflects start) (sound : Sound (setup.policy ρ) start)
    (finalSound : Sound (setup.policy ρ) final)
    (sent : ∀ msg, msg ∈ final.sent ↔ msg ∈ start.sent ∨ msg ∈ outgoing)
    (learned : ∀ node decision, final.learned node = some decision ↔
      start.learned node = some decision ∨
        ∃ observation ∈ heard, observation.Informs node decision)
    (silent : ∀ observation ∈ heard, ∃ msg, observation = .delivered msg)
    (records : before.Records (heard ++ outgoing.map .sent) observations) :
    observations.Reflects final := by
  have fromOutgoing : ∀ {holds : Observation → Prop}, (∀ msg, ¬ holds (.delivered msg)) →
      ((∃ observation ∈ heard ++ outgoing.map .sent, holds observation) ↔
        ∃ msg ∈ outgoing, holds (.sent msg)) := by
    intro holds never
    constructor
    · intro found
      obtain ⟨observation, listed, found⟩ := found
      rcases List.mem_append.mp listed with listed | listed
      · obtain ⟨msg, rfl⟩ := silent observation listed
        exact absurd found (never msg)
      · obtain ⟨msg, member, rfl⟩ := List.mem_map.mp listed
        exact ⟨msg, member, found⟩
    · intro found
      obtain ⟨msg, member, found⟩ := found
      exact ⟨_, List.mem_append_right _ (List.mem_map_of_mem member), found⟩
  constructor
  · refine fun node => Option.ext fun vote => ?_
    rw [records.votes, reflects.votes, fromOutgoing (fun _ => id), ← finalSound.vote_sent,
      sent, sound.vote_sent]
    refine or_congr_right ⟨?_, fun listed => ⟨_, listed, rfl, rfl⟩⟩
    intro found
    obtain ⟨msg, listed, casts⟩ := found
    exact Observations.eq_vote_of_casts finalSound ((sent msg).mpr (.inr listed)) casts ▸ listed
  · intro decision
    rw [records.coordinatorDecision, reflects.coordinatorDecision, fromOutgoing (fun _ => id)]
    simp only [sent, exists_or]
    refine or_congr_right ⟨?_, fun ⟨node, listed⟩ => ⟨_, listed, rfl, rfl⟩⟩
    intro found
    obtain ⟨msg, listed, announces⟩ := found
    obtain ⟨node, _, rfl⟩ :=
      (finalSound.wellFormed msg ((sent msg).mpr (.inr listed))).eq_decision announces.1
    exact ⟨node, listed⟩
  · refine fun node => Option.ext fun decision => ?_
    rw [records.participantDecisions, reflects.participantDecisions, learned]
    refine or_congr_right ⟨?_, ?_⟩
    · intro found
      obtain ⟨observation, listed, informs⟩ := found
      rcases List.mem_append.mp listed with listed | listed
      · exact ⟨observation, listed, informs⟩
      · obtain ⟨msg, _, rfl⟩ := List.mem_map.mp listed
        exact informs.elim
    · exact fun ⟨observation, listed, informs⟩ =>
        ⟨observation, List.mem_append_left _ listed, informs⟩

/-- What a delivery records was sent. -/
private theorem Consistent.heard_sent (consistent : Consistent setup state)
    {popped : TimestampedEvent} (queued : popped ∈ state.eventQueue.pending)
    {observation : Observation} (listed : observation ∈ heard popped.event) :
    ∃ msg ∈ state.view.sent, observation = .delivered msg := by
  have genuine := consistent.genuine queued
  cases kind : popped.event with
  | external event => simp [heard, kind] at listed
  | internal event =>
      obtain ⟨recipient, msg⟩ := event
      rw [kind] at genuine listed
      exact ⟨msg, genuine.2, List.mem_singleton.mp listed⟩

private theorem Consistent.step_handled (consistent : Consistent setup state)
    (reflects : state.observations.Reflects state.view) {popped : TimestampedEvent}
    {queue : EventQueue} (pops : state.eventQueue.Pops popped queue)
    (reaches : state.Reaches popped.event) :
    ∃ after, state.step = .ok (true, after) ∧ after.observations.Reflects after.view := by
  have within := reflects.within consistent.sound (Extends.refl _)
  obtain ⟨delivered, first⟩ := Observations.exists_foldlM_record_ok _ within
    fun observation listed => by
      obtain ⟨msg, sent, rfl⟩ := consistent.heard_sent pops.mem listed
      exact Observations.agrees_delivered consistent.sound sent
  obtain ⟨staffed, sound, genuine⟩ := consistent.taken pops delivered
  have dispatched := (state.taken popped queue delivered).dispatch_dispatched popped.event
  have path := (dispatched.refines staffed sound genuine).2
  have learned := dispatched.learned staffed sound genuine
  generalize result : (state.taken popped queue delivered).dispatch popped.event = outcome
    at dispatched path learned
  obtain ⟨middle, outgoing⟩ := outcome
  simp only [view_taken] at path learned
  have later := consistent.sound.steps path
  have grows := steps_extends path
  have sent : ∀ msg, msg ∈ (middle.view.send outgoing).sent ↔
      msg ∈ state.view.sent ∨ msg ∈ outgoing := by
    intro msg
    have earlier := dispatched.sentMessages.trans (sentMessages_taken state popped queue delivered)
    simp [State.send, view, earlier]
  obtain ⟨observations, second⟩ := Observations.exists_foldlM_record_ok (outgoing.map .sent)
    ((Observations.foldlM_record_ok first).within (reflects.within consistent.sound grows)
      fun observation listed => by
        obtain ⟨msg, earlier, rfl⟩ := consistent.heard_sent pops.mem listed
        exact Observations.agrees_delivered later ((sent msg).mpr (.inl earlier)))
    fun observation listed => by
      obtain ⟨msg, news, rfl⟩ := List.mem_map.mp listed
      exact Observations.agrees_sent later ((sent msg).mpr (.inr news))
  have final : observations.Reflects (middle.view.send outgoing) :=
    reflects_step reflects consistent.sound later sent
      learned (fun observation listed => by
        obtain ⟨msg, _, same⟩ := consistent.heard_sent pops.mem listed
        exact ⟨msg, same⟩)
      ((Observations.foldlM_record_ok first).append (Observations.foldlM_record_ok second))
  have stepped := step_handles pops reaches first (by rw [result]; exact second)
    (final.checked later)
  rw [result] at stepped
  refine ⟨_, stepped, ?_⟩
  rw [sendAll_observations, view_sendAll]
  exact final

/-- A step of a consistent simulator that has recorded its past succeeds. -/
theorem Consistent.step_ok (consistent : Consistent setup state)
    (reflects : state.observations.Reflects state.view) {popped : TimestampedEvent}
    {queue : EventQueue} (pops : state.eventQueue.Pops popped queue) :
    ∃ after, state.step = .ok (true, after) ∧ after.observations.Reflects after.view := by
  by_cases reaches : state.Reaches popped.event
  · exact consistent.step_handled reflects pops reaches
  · cases kind : popped.event with
    | external event => simp [Reaches, kind] at reaches
    | internal event =>
        obtain ⟨recipient, msg⟩ := event
        have down : state.isOperating msg.to = false := by simpa [Reaches, kind] using reaches
        refine ⟨_, step_drops pops kind down, ?_⟩
        change state.observations.Reflects (state.dropped popped.timestamp queue msg).view
        rw [view_dropped]
        exact reflects

/-! ## Runs -/

/-- A consistent state whose observations are the records of its actors. -/
structure Faithful (setup : Setup) (state : Simulator ρ) : Prop extends
    Consistent setup state where
  reflects : state.observations.Reflects state.view

theorem simulator_faithful : Faithful setup (setup.simulator (ρ := ρ)) where
  toConsistent := simulator_consistent
  reflects := by
    rw [simulator_view]
    exact ⟨fun _ => Std.ExtTreeMap.getElem?_empty, by simp [State.start, Setup.simulator, new,
      Observations.new], fun _ => Std.ExtTreeMap.getElem?_empty⟩

theorem Faithful.step_ok (faithful : Faithful setup state)
    (pending : state.eventQueue.pending ≠ []) :
    ∃ after, state.step = .ok (true, after) ∧ Stepped state after ∧ Faithful setup after := by
  obtain ⟨popped, queue, pops⟩ := EventQueue.exists_pops pending
  obtain ⟨after, success, reflects⟩ := faithful.toConsistent.step_ok faithful.reflects pops
  obtain ⟨no, _⟩ | ⟨_, stepped⟩ := step_stepped success
  · cases no
  · exact ⟨after, success, stepped, (stepped.refines faithful.toConsistent).1, reflects⟩

theorem step_of_empty (drained : state.eventQueue.pending = []) :
    state.step = .ok (false, state) := by
  rw [step, EventQueue.next_eq_none_iff.mpr drained]

theorem Faithful.step_ne_error (faithful : Faithful setup state) (panic : Panic) :
    state.step ≠ .error panic := by
  intro failed
  by_cases drained : state.eventQueue.pending = []
  · cases (step_of_empty drained).symm.trans failed
  · obtain ⟨after, success, _⟩ := faithful.step_ok drained
    cases success.symm.trans failed

theorem Faithful.next (faithful : Faithful setup state) (next : Next environment state after) :
    Faithful setup after := by
  refine ⟨(next.refines faithful.toConsistent).1, ?_⟩
  cases next with
  | enqueueExternal _ => exact faithful.reflects
  | injectProbe _ => exact faithful.reflects
  | step success =>
      by_cases drained : state.eventQueue.pending = []
      · cases (step_of_empty drained).symm.trans success
        exact faithful.reflects
      · obtain ⟨result, stepped, _, final⟩ := faithful.step_ok drained
        cases stepped.symm.trans success
        exact final.reflects

theorem faithful_invariant (setup : Setup) (environment : Environment ρ) :
    (system setup environment).Invariant (Faithful setup) where
  initial := by
    intro state same
    subst same
    exact simulator_faithful
  next := Faithful.next

theorem nodes_ne_nil (participants : 1 ≤ setup.nParticipants) : setup.nodes ≠ [] := by
  have positive : 1 ≤ setup.nParticipants.toNat := participants
  simp only [Setup.nodes, nodeIds, ne_eq, List.map_eq_nil_iff, List.range_eq_nil]
  omega

theorem Faithful.decision_iff (faithful : Faithful setup state) (node : NodeId)
    (decision : Decision) :
    state.observations.participantDecisions[node]? = some decision ↔
      ∃ participant, state.participants[node]? = some participant ∧
        participant.decision = some decision := by
  rw [faithful.reflects.participantDecisions]
  simp only [view, Option.bind_eq_some_iff]
  exact exists_congr fun participant => and_congr_right fun found => by
    rw [(faithful.participant found).valid.decision]

theorem Faithful.allDecided_iff (faithful : Faithful setup state) :
    state.allDecided = true ↔ ∀ {node : NodeId} {participant : Participant ρ},
      state.participants[node]? = some participant → participant.decision ≠ none := by
  simp only [allDecided, TwoPhaseCommit.allDecided, List.all_eq_true, faithful.nodes,
    Std.ExtTreeMap.contains_iff_mem, Library.OrderedMap.mem_iff_exists]
  constructor
  · intro all node participant found
    obtain ⟨decision, recorded⟩ := all node (faithful.mem_nodes found)
    obtain ⟨same, again, decided⟩ := (faithful.decision_iff node decision).mp recorded
    obtain rfl := Option.some.inj (found.symm.trans again)
    simp [decided]
  · intro all node member
    obtain ⟨participant, found⟩ := faithful.exists_participant member
    obtain ⟨decision, decided⟩ := Option.ne_none_iff_exists'.mp (all found)
    exact ⟨decision, (faithful.decision_iff node decision).mpr ⟨participant, found, decided⟩⟩

theorem observations_faithful (participants : 1 ≤ setup.nParticipants)
    (reachable : (system setup environment).Reachable state) :
    (∀ (node : NodeId) (vote : Vote), state.observations.votes[node]? = some vote ↔
      ∃ participant, state.participants[node]? = some participant ∧
        participant.vote = some vote) ∧
    (∀ (node : NodeId) (decision : Decision),
      state.observations.participantDecisions[node]? = some decision ↔
        ∃ participant, state.participants[node]? = some participant ∧
          participant.decision = some decision) ∧
    state.observations.coordinatorDecision = state.coordinator.decision ∧
    (state.allDecided = true ↔ ∀ {node : NodeId} {participant : Participant ρ},
      state.participants[node]? = some participant → participant.decision ≠ none) ∧
    checkAllInvariants state.observations = .ok () ∧
    ∀ panic, state.step ≠ .error panic := by
  obtain ⟨node, member⟩ := List.exists_mem_of_ne_nil _ (nodes_ne_nil participants)
  have faithful := (faithful_invariant setup environment).reachable reachable
  have consistent := faithful.toConsistent
  have reflects := faithful.reflects
  have votes : ∀ (node : NodeId) (vote : Vote), state.observations.votes[node]? = some vote ↔
      ∃ participant, state.participants[node]? = some participant ∧
        participant.vote = some vote := by
    intro node vote
    rw [reflects.votes]
    simp only [view, Option.bind_eq_some_iff]
    exact exists_congr fun participant => and_congr_right fun found => by
      rw [(consistent.participant found).valid.vote]
  refine ⟨votes, faithful.decision_iff, ?_, faithful.allDecided_iff,
    reflects.checked consistent.sound, faithful.step_ne_error⟩
  · refine Option.ext fun decision => ?_
    rw [reflects.coordinatorDecision, ← consistent.view_decision]
    constructor
    · intro announced
      obtain ⟨other, sent⟩ := announced
      exact ((consistent.sound.decision_sent other decision).mp sent).2
    · intro decided
      exact ⟨node, (consistent.sound.decision_sent node decision).mpr ⟨member, decided⟩⟩

theorem observations_faithful_unanimous : ∃ state after : Simulator ForcedRng,
    .drop 2 (.vote ⟨0⟩ .commit) ∈ state.actionLog ∧
      state.observations.coordinatorDecision = some .commit ∧
      .externalEvent 20 (.crash (.node ⟨0⟩)) ∈ after.actionLog ∧
      checkAllInvariants after.observations = .ok () ∧ ∀ panic, after.step ≠ .error panic := by
  obtain ⟨state, after, ⟨new, initial, before⟩, path, lost, committed, _, crashed⟩ :=
    unanimous_recovers
  obtain ⟨_, _, decision, _⟩ := observations_faithful (by decide) ⟨new, initial, before⟩
  obtain ⟨_, _, _, _, checked, safe⟩ :=
    observations_faithful (by decide) ⟨new, initial, before.trans path⟩
  exact ⟨state, after, lost, decision.trans committed, crashed, checked, safe⟩

end Simulator

end TwoPhaseCommit
