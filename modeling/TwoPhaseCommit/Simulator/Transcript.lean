import TwoPhaseCommit.CoordinatorEvidence
import TwoPhaseCommit.Simulator.Replay
import TwoPhaseCommit.Simulator.Start

/-! The action log as a transcript of the protocol. Every message in it is warranted by the
entries before it: what was delivered to its sender, what its sender drew, and what was sent
already. -/

set_option autoImplicit false

namespace TwoPhaseCommit

open Protocol

/-- According to the log, the message was sent. -/
def Sent (log : List LogEntry) (msg : Message) : Prop :=
  ∃ clock deliverAt, .send clock deliverAt msg ∈ log

/-- According to the log, the message has reached its recipient. -/
def Heard (log : List LogEntry) (msg : Message) : Prop :=
  ∃ clock, .deliver clock msg ∈ log

/-- According to the log, the coordinator had a reason to begin. -/
def Opened (log : List LogEntry) : Prop :=
  (∃ clock, .externalEvent clock .startTransaction ∈ log) ∨ Revived log

section Warrant

variable (ρ : Type) [ChaCha8Rng ρ] (setup : Setup) (earlier : List LogEntry)

/-- Replayed up to one of the calls in the log, the coordinator draws Abort in that call. -/
def Drawn : Prop :=
  ∃ before call after, callsOf .coordinator earlier = before ++ call :: after ∧
    (Coordinator.machine.run (setup.simulator (ρ := ρ)).coordinator before).abortsByFlip call = true

/-- The votes that the coordinator has received support the decision, or its own flip did. -/
def Founded : Decision → Prop
  | .commit => ∀ node ∈ setup.nodes, Heard earlier (.vote node .commit)
  | .abort => Drawn ρ setup earlier ∨ ∃ node ∈ setup.nodes, Heard earlier (.vote node .abort)

/-- The message may be sent after this log. -/
inductive MaySend : Message → Prop where
  | prepare {node : NodeId} :
      node ∈ setup.nodes → Opened earlier →
      (∀ other decision, ¬ Sent earlier (.decision other decision)) → MaySend (.prepare node)
  | vote {node : NodeId} {vote : Vote} :
      Heard earlier (.prepare node) → (∀ decision, ¬ Heard earlier (.decision node decision)) →
      (∀ other, Sent earlier (.vote node other) → other = vote) → MaySend (.vote node vote)
  | decision {node : NodeId} {decision : Decision} :
      node ∈ setup.nodes → Opened earlier → Founded ρ setup earlier decision →
      (∀ recipient other, Sent earlier (.decision recipient other) → other = decision) →
      MaySend (.decision node decision)
  | ack {node : NodeId} {decision : Decision} :
      Heard earlier (.decision node decision) → MaySend (.ack node)

/-- The entry may follow this log. -/
def Warranted : LogEntry → Prop
  | .externalEvent _ _ => True
  | .deliver _ msg | .drop _ msg => Sent earlier msg
  | .send _ _ msg => MaySend ρ setup earlier msg

end Warrant

section Log

variable {log : List LogEntry} {msg : Message}

theorem Heard.append (heard : Heard log msg) (more : List LogEntry) : Heard (log ++ more) msg := by
  obtain ⟨clock, listed⟩ := heard
  exact ⟨clock, List.mem_append_left _ listed⟩

theorem Opened.append (opened : Opened log) (more : List LogEntry) : Opened (log ++ more) :=
  opened.imp (fun ⟨clock, listed⟩ => ⟨clock, List.mem_append_left _ listed⟩)
    fun revived => revived.append more

theorem callsOf_prefix (actor : ActorId) (log more : List LogEntry) :
    callsOf actor log <+: callsOf actor (log ++ more) := by
  induction more using List.reverseRecOn with
  | nil => simp
  | append_singleton earlier entry ih =>
      rw [← List.append_assoc, callsOf_concat]
      exact ih.trans (List.prefix_append _ _)

theorem Drawn.append {ρ : Type} [ChaCha8Rng ρ] {setup : Setup} (drawn : Drawn ρ setup log)
    (more : List LogEntry) : Drawn ρ setup (log ++ more) := by
  obtain ⟨before, call, after, listed, flipped⟩ := drawn
  obtain ⟨calls, grown⟩ := callsOf_prefix .coordinator log more
  refine ⟨before, call, after ++ calls, ?_, flipped⟩
  rw [← grown, listed, List.append_assoc, List.cons_append]

theorem heard_concat {entry : LogEntry} :
    Heard (log ++ [entry]) msg ↔ Heard log msg ∨ ∃ clock, entry = .deliver clock msg := by
  simp only [Heard, List.mem_append, List.mem_singleton, exists_or, eq_comm]

theorem heard_logEntry {event : Event} {clock : Nat} :
    Heard (log ++ [event.logEntry clock]) msg ↔ Heard log msg ∨
      ∃ recipient, event = .internal (.deliver recipient msg) := by
  rw [heard_concat]
  refine or_congr_right ?_
  cases event with
  | external event => simp [Event.logEntry]
  | internal event =>
      obtain ⟨recipient, other⟩ := event
      simp [Event.logEntry]

end Log

namespace Simulator

variable {ρ : Type} [ChaCha8Rng ρ] {setup : Setup} {environment : Environment ρ}
  {state middle after : Simulator ρ} {event : Event} {outgoing : List Message}

omit [ChaCha8Rng ρ] in
theorem sent_iff {msg : Message} : Sent state.actionLog msg ↔ msg ∈ state.sentMessages := by
  rw [sentMessages, List.mem_filterMap]
  constructor
  · intro sent
    obtain ⟨clock, deliverAt, listed⟩ := sent
    exact ⟨_, listed, rfl⟩
  · intro listed
    obtain ⟨entry, listed, same⟩ := listed
    cases entry with
    | send clock deliverAt other =>
        cases same
        exact ⟨clock, deliverAt, listed⟩
    | externalEvent _ _ | deliver _ _ | drop _ _ => cases same

theorem sendAll_heard (self : Simulator ρ) (outgoing : List Message) {msg : Message} :
    Heard (self.sendAll outgoing).actionLog msg ↔ Heard self.actionLog msg := by
  induction outgoing generalizing self with
  | nil => rfl
  | cons first rest ih =>
      refine (ih (self.enqueueMessage first)).trans ?_
      obtain ⟨deliverAt, rng, _, same⟩ := self.enqueueMessage_eq first
      rw [same]
      simp [heard_concat]

/-- Messages are logged in turn, each judged by the log with those before it. -/
theorem history_sendAll {relation : List LogEntry → LogEntry → Prop} (self : Simulator ρ)
    (history : Library.History relation self.actionLog)
    (judged : ∀ first msg last deliverAt, outgoing = first ++ msg :: last →
      relation (self.sendAll first).actionLog (.send self.clock deliverAt msg)) :
    Library.History relation (self.sendAll outgoing).actionLog := by
  induction outgoing using List.reverseRecOn with
  | nil => exact history
  | append_singleton earlier msg ih =>
      have before := ih fun first other last deliverAt same =>
        judged first other (last ++ [msg]) deliverAt (by rw [same]; simp)
      obtain ⟨deliverAt, rng, _, same⟩ := (self.sendAll earlier).enqueueMessage_eq msg
      have last := judged earlier msg [] deliverAt rfl
      rw [sendAll_clock] at same
      have final : self.sendAll (earlier ++ [msg]) = (self.sendAll earlier).enqueueMessage msg := by
        simp [sendAll]
      rw [final, same]
      exact .snoc before last

/-! ## What the actors know, and what the log says -/

/-- The coordinator goes by votes and flips that are in the log. -/
def Grounded (setup : Setup) (log : List LogEntry) (coordinator : Coordinator ρ) : Prop :=
  coordinator.RestsOn (fun node vote => Heard log (.vote node vote)) (Drawn ρ setup log)

theorem Grounded.append {coordinator : Coordinator ρ} {log : List LogEntry}
    (grounded : Grounded setup log coordinator) (more : List LogEntry) :
    Grounded setup (log ++ more) coordinator :=
  grounded.mono (fun _ _ heard => heard.append more) fun drawn => drawn.append more

/-- The actors know what the log says that they have heard. -/
structure Informed (setup : Setup) (log : List LogEntry) (state : Simulator ρ) : Prop where
  opened : state.coordinator.phase ≠ .waiting → Opened log
  grounded : Grounded setup log state.coordinator
  asked : ∀ node vote, state.view.vote node = some vote → Heard log (.prepare node)
  told : ∀ node decision, state.view.learned node = some decision ↔
    Heard log (.decision node decision)

/-- What holds in every state of every run. -/
structure Recorded (setup : Setup) (state : Simulator ρ) : Prop extends
    Consistent setup state where
  tracked : Tracked state
  history : Library.History (Warranted ρ setup) state.actionLog
  informed : Informed setup state.actionLog state
  replayed : Replayed setup state

variable {log : List LogEntry} {msg : Message}

/-- An event that tells no participant anything. -/
private theorem Informed.concat (informed : Informed setup log state) (middle : Simulator ρ)
    {entry : LogEntry} (participants : middle.participants = state.participants)
    (quiet : ∀ clock node decision, entry ≠ .deliver clock (.decision node decision))
    (opened : middle.coordinator.phase ≠ .waiting → Opened (log ++ [entry]))
    (grounded : Grounded setup (log ++ [entry]) middle.coordinator) :
    Informed setup (log ++ [entry]) middle where
  opened := opened
  grounded := grounded
  asked node vote cast := by
    have same : middle.view.vote = state.view.vote := by simp only [view, participants]
    rw [same] at cast
    exact (informed.asked node vote cast).append _
  told node decision := by
    have same : middle.view.learned = state.view.learned := by simp only [view, participants]
    rw [same, heard_concat, informed.told node decision]
    refine (or_iff_left fun delivered => ?_).symm
    obtain ⟨clock, same⟩ := delivered
    exact quiet clock node decision same

/-- An event of which no actor takes notice. -/
private theorem Informed.external (informed : Informed setup log state) (middle : Simulator ρ)
    (participants : middle.participants = state.participants)
    (coordinator : middle.coordinator = state.coordinator) (clock : Nat) (event : ExternalEvent) :
    Informed setup (log ++ [.externalEvent clock event]) middle := by
  apply informed.concat middle participants
  · intro time node decision same
    cases same
  · rw [coordinator]
    exact fun begun => (informed.opened begun).append _
  · rw [coordinator]
    exact informed.grounded.append _

/-- The coordinator is in the state to which the log leads. -/
def Traced (setup : Setup) (log : List LogEntry) (coordinator : Coordinator ρ) : Prop :=
  coordinator = Coordinator.machine.run setup.simulator.coordinator (callsOf .coordinator log)

/-- A flip that comes up in a call is in the log with the call. -/
private theorem Traced.drawn {coordinator : Coordinator ρ} (traced : Traced setup log coordinator)
    {entry : LogEntry} {call : Call}
    (called : entry.call? .coordinator (down log .coordinator) = some call)
    (flips : coordinator.abortsByFlip call = true) : Drawn ρ setup (log ++ [entry]) := by
  refine ⟨callsOf .coordinator log, call, [], ?_, ?_⟩
  · rw [callsOf_concat, called, Option.toList_some]
  · rw [← traced]
    exact flips

private theorem informed_of_receives (receives : coordinatorMessage? event = some msg)
    (informed : Informed setup log state) (traced : Traced setup log state.coordinator)
    (staffed : Staffed setup state) (sound : Sound (setup.policy ρ) state.view)
    (genuine : Genuine state event) :
    Informed setup (log ++ [event.logEntry state.clock])
      { state with coordinator := (state.coordinator.onMessage msg state.clock).1 } := by
  have ticked := state.coordinator.tick_ticked state.clock
  have called : (event.logEntry state.clock).call? .coordinator (down log .coordinator) =
      some (.onMessage msg state.clock) := call?_of_receives receives genuine
  have draws : state.coordinator.abortsByFlip (.onMessage msg state.clock) = true →
      Drawn ρ setup (log ++ [event.logEntry state.clock]) := traced.drawn called
  rw [Coordinator.abortsByFlip, Bool.or_eq_true] at draws
  have before := informed.grounded.append [event.logEntry state.clock]
  have managed := (receives_backed sound genuine receives).1
  rw [← staffed.nodes, ← ticked.sameSetup.nodes] at managed
  have grounded := (before.tick state.clock (draws ∘ .inl)).receive msg state.clock
    (ticked.valid staffed.valid) managed
  rcases coordinatorMessage?_cases receives with ⟨rfl, rfl⟩ | rfl
  · apply informed.concat
    · rfl
    · intro time node decision same
      cases same
    · exact fun _ => .inl ⟨_, List.mem_append_right _ (.head _)⟩
    · apply grounded _ (draws ∘ .inr)
      intro node vote type
      cases vote <;> cases type
  · have formed := sound.wellFormed msg genuine.2
    apply informed.concat
    · rfl
    · intro time node decision same
      have recipient := genuine.1
      rw [(LogEntry.deliver.inj same).2] at recipient
      cases recipient
    · intro begun
      refine (informed.opened fun waiting => begun ?_).append _
      rw [Coordinator.onMessage_of_waiting waiting formed.ne_start]
      exact waiting
    · apply grounded _ (draws ∘ .inr)
      intro node vote type sender
      obtain ⟨voter, _, rfl⟩ := formed.eq_vote type
      cases sender
      exact heard_logEntry.mpr (.inr ⟨_, rfl⟩)

/-- A participant that has been told a decision is told the same one again. -/
private theorem informed_of_participant {node : NodeId} {participant : Participant ρ}
    (found : state.participants[node]? = some participant) (informed : Informed setup log state)
    (staffed : Staffed setup state) (sound : Sound (setup.policy ρ) state.view)
    (genuine : Genuine state (.internal (.deliver (.node node) msg))) (clock : Nat) :
    Informed setup (log ++ [.deliver clock msg])
      { state with participants :=
          state.participants.insert node (participant.onMessage msg state.clock).1 } := by
  have member := staffed.participant found
  have received := participant.onMessage_received msg state.clock
  have id : (participant.onMessage msg state.clock).1.id = node := by
    rw [(received.descends ⟨rfl, rfl, fun _ => rfl⟩).id, member.id]
  have voted : state.view.vote node = participant.durableState.vote := by simp [view, found]
  have aware : state.view.learned node = participant.durableState.decision := by
    simp [view, found]
  have formed := sound.wellFormed msg genuine.2
  constructor
  · exact fun begun => (informed.opened begun).append _
  · exact informed.grounded.append _
  · intro other vote cast
    rw [view_insert id] at cast
    simp only [State.withParticipant, id] at cast
    by_cases same : other = node
    · subst same
      rw [Function.update_self] at cast
      rcases received.voted cast with before | type
      · exact (informed.asked other vote (voted.trans before)).append _
      · obtain ⟨recipient, _, rfl⟩ := formed.eq_prepare type
        cases genuine.1
        exact ⟨clock, List.mem_append_right _ (.head _)⟩
    · rw [Function.update_of_ne same] at cast
      exact (informed.asked other vote cast).append _
  · intro other decision
    rw [view_insert id, heard_concat, ← informed.told]
    simp only [State.withParticipant, id]
    by_cases same : other = node
    · subst same
      rw [Function.update_self, received.learned member.valid, aware]
      constructor
      · intro either
        rcases either with before | ⟨_, type⟩
        · exact .inl before
        · obtain ⟨recipient, _, rfl⟩ := formed.eq_decision type
          cases genuine.1
          exact .inr ⟨clock, rfl⟩
      · intro either
        rcases either with before | ⟨time, told⟩
        · exact .inl before
        · rw [(LogEntry.deliver.inj told).2] at genuine ⊢
          have decided := ((sound.decision_sent other decision).mp genuine.2).2
          cases known : participant.durableState.decision with
          | none => exact .inr ⟨rfl, rfl⟩
          | some earlier =>
              cases decided.symm.trans (sound.learned other earlier (aware.trans known))
              exact .inl rfl
    · rw [Function.update_of_ne same]
      refine (or_iff_left fun told => ?_).symm
      obtain ⟨time, told⟩ := told
      have recipient := genuine.1
      rw [(LogEntry.deliver.inj told).2] at recipient
      cases recipient
      exact same rfl

/-- An event informs the actors that it reaches. -/
theorem Dispatched.informed (dispatched : Dispatched state event middle outgoing)
    (staffed : Staffed setup state) (sound : Sound (setup.policy ρ) state.view)
    (genuine : Genuine state event) (informed : Informed setup log state)
    (traced : Traced setup log state.coordinator)
    (tracked : ∀ actor, state.isOperating actor = !down log actor) :
    Informed setup (log ++ [event.logEntry state.clock]) middle := by
  cases dispatched with
  | coordinatorReceives receives =>
      exact informed_of_receives receives informed traced staffed sound genuine
  | @coordinatorTicks event kind up =>
      have called : ((Event.external event).logEntry state.clock).call? .coordinator
          (down log .coordinator) = some (.tick state.clock) := by
        rw [call?_of_tick kind, if_pos]
        rw [tracked, Bool.not_eq_true'] at up
        exact up
      apply informed.concat
      · rfl
      · intro time node decision same
        cases same
      · intro begun
        refine (informed.opened fun waiting => begun ?_).append _
        have idle : state.coordinator.tick state.clock = (state.coordinator, []) := by
          simp only [Coordinator.tick, waiting]
        rw [idle]
        exact waiting
      · exact (informed.grounded.append _).tick state.clock (traced.drawn called)
  | coordinatorRecovers crashed =>
      apply informed.concat
      · rfl
      · intro time node decision same
        cases same
      · rw [tracked, Bool.not_eq_false'] at crashed
        exact fun _ => .inr ⟨log, [], _, rfl, crashed⟩
      · exact Coordinator.RestsOn.recover (informed.grounded.append _) staffed.valid _
  | participantReceives found =>
      exact informed_of_participant found informed staffed sound genuine _
  | @participantRecovers node participant _ found =>
      rw [Participant.recover_eq_self (staffed.participant found).valid,
        Library.OrderedMap.insert_eq_self found]
      apply informed.external
      · rfl
      · rfl
  | @nobodyReceives node msg missing =>
      have managed := (sound.wellFormed msg genuine.2).member genuine.1.symm
      obtain ⟨participant, found⟩ :=
        Library.OrderedMap.mem_iff_exists.mp ((staffed.managed node).mpr managed)
      cases missing.symm.trans found
  | rests _ _ | nodeTicks | crashes | staysUp _ =>
      apply informed.external
      · rfl
      · rfl

/-- Sending tells nobody anything. -/
private theorem Informed.sends (informed : Informed setup log state) {more : List LogEntry}
    (heard : ∀ msg, Heard (log ++ more) msg ↔ Heard log msg) :
    Informed setup (log ++ more) state where
  opened begun := (informed.opened begun).append more
  grounded := informed.grounded.append more
  asked node vote cast := (heard _).mpr (informed.asked node vote cast)
  told node decision := (informed.told node decision).trans (heard _).symm

/-! ## What is sent is warranted -/

/-- The coordinator asks before it decides, and tells what it has decided. -/
private theorem maySend_of_batches {coordinator : Coordinator ρ}
    {asks tells first last : List Message} (split : asks ++ tells = first ++ msg :: last)
    (batches : Coordinator.Batches state.coordinator coordinator asks tells)
    (stays : ∀ {decision}, state.coordinator.decision = some decision →
      coordinator.decision = some decision)
    (same : Coordinator.SameSetup state.coordinator coordinator) (staffed : Staffed setup state)
    (sound : Sound (setup.policy ρ) state.view) (opened : Opened log)
    (grounded : Grounded setup log coordinator)
    (sent : ∀ other, Sent log other → other ∈ state.sentMessages ∨ other ∈ first) :
    MaySend ρ setup log msg := by
  have nodes : coordinator.nodes = setup.nodes := same.nodes.trans staffed.nodes
  have recorded : ∀ {recipient decision}, .decision recipient decision ∈ state.sentMessages →
      state.coordinator.decision = some decision := by
    intro recipient decision listed
    rw [← staffed.valid.durable]
    exact ((sound.decision_sent recipient decision).mp listed).2
  have unasked : ∀ {recipient decision}, .decision recipient decision ∉ asks := by
    intro recipient decision listed
    obtain ⟨node, _, same⟩ := batches.asks _ listed
    exact Message.decision_ne_prepare same
  have place : msg ∈ tells ∨ msg ∈ asks ∧ first ⊆ asks := by
    rcases List.append_eq_append_iff.mp split with ⟨middle, _, rest⟩ | ⟨middle, early, rest⟩
    · rw [rest]
      exact .inl (List.mem_append_right _ (.head _))
    · cases middle with
      | nil =>
          rw [List.nil_append] at rest
          rw [← rest]
          exact .inl (.head _)
      | cons head middle =>
          cases rest
          rw [early]
          exact .inr ⟨List.mem_append_right _ (.head _), List.subset_append_left _ _⟩
  rcases place with listed | ⟨listed, early⟩
  · obtain ⟨node, member, decision, decided, rfl⟩ := batches.tells msg listed
    apply MaySend.decision (staffed.nodes ▸ member) opened
    · cases decision with
      | commit =>
          have unanimous := grounded.commit decided
          rw [nodes] at unanimous
          exact unanimous
      | abort =>
          have reason := grounded.abort decided
          rw [nodes] at reason
          exact reason
    · intro recipient other told
      have news : coordinator.decision = some other := by
        rcases sent _ told with earlier | now
        · exact stays (recorded earlier)
        · have either : _ ∈ asks ++ tells := split ▸ List.mem_append_left _ now
          rcases List.mem_append.mp either with asked | told
          · exact absurd asked unasked
          · obtain ⟨_, _, decision, decided, same⟩ := batches.tells _ told
            rw [(Message.decision_inj.mp same).2]
            exact decided
      cases news.symm.trans decided
      rfl
  · obtain ⟨node, member, rfl⟩ := batches.asks msg listed
    have some := List.ne_nil_of_mem listed
    apply MaySend.prepare (staffed.nodes ▸ member) opened
    intro recipient decision told
    rcases sent _ told with earlier | now
    · cases (batches.undecided some).symm.trans (recorded earlier)
    · exact unasked (early now)

private theorem eq_of_split {first last : List Message} {reply : Message}
    (split : [reply] = first ++ msg :: last) : first = [] ∧ msg = reply := by
  cases first with
  | nil => exact ⟨rfl, (List.cons.inj split).1.symm⟩
  | cons head rest =>
      have shorter := congrArg List.length split
      simp at shorter

/-- A participant answers what it has received. -/
private theorem maySend_of_participant {node : NodeId} {participant after : Participant ρ}
    {delivered : Message} {first last : List Message}
    (received : participant.Received delivered after outgoing)
    (split : outgoing = first ++ msg :: last) (valid : participant.Valid)
    (id : participant.id = node) (found : state.participants[node]? = some participant)
    (sound : Sound (setup.policy ρ) state.view)
    (asked : ∀ vote, after.durableState.vote = some vote → Heard log (.prepare node))
    (told : ∀ decision, after.durableState.decision = some decision ↔
      Heard log (.decision node decision))
    (sent : ∀ other, Sent log other → other ∈ state.sentMessages ∨ other ∈ first) :
    MaySend ρ setup log msg := by
  have voted : state.view.vote node = participant.durableState.vote := by simp [view, found]
  have final := received.valid valid
  subst id
  cases received with
  | casts phase _ =>
      obtain ⟨rfl, rfl⟩ := eq_of_split split
      apply MaySend.vote (asked _ rfl)
      · intro decision heard
        have decided := (told decision).mpr heard
        rw [Participant.cast, valid.decision, Participant.decision, phase] at decided
        cases decided
      · intro other cast
        have recorded := (sound.vote_sent _ other).mp ((sent _ cast).resolve_right List.not_mem_nil)
        rw [voted, valid.vote, Participant.vote, phase] at recorded
        cases recorded
  | @recasts vote phase _ =>
      obtain ⟨rfl, rfl⟩ := eq_of_split split
      have cast : participant.durableState.vote = some vote := by
        rw [valid.vote, Participant.vote, phase]
        rfl
      apply MaySend.vote (asked _ cast)
      · intro decision heard
        have decided := (told decision).mpr heard
        rw [valid.decision, Participant.decision, phase] at decided
        cases decided
      · intro other sentOther
        have recorded :=
          (sound.vote_sent _ other).mp ((sent _ sentOther).resolve_right List.not_mem_nil)
        cases (voted.trans cast).symm.trans recorded
        rfl
  | @learns decision _ _ =>
      obtain ⟨rfl, rfl⟩ := eq_of_split split
      exact .ack ((told decision).mp rfl)
  | acknowledges decided _ =>
      obtain ⟨rfl, rfl⟩ := eq_of_split split
      obtain ⟨decision, known⟩ := Option.ne_none_iff_exists'.mp decided
      exact .ack ((told decision).mp (valid.decision.trans known))
  | ignores _ _ =>
      have shorter := congrArg List.length split
      simp at shorter

/-- Every outgoing message of an event is warranted by what was logged before it. -/
theorem Dispatched.maySend (dispatched : Dispatched state event middle outgoing)
    {first last : List Message} (split : outgoing = first ++ msg :: last)
    (staffed : Staffed setup state) (sound : Sound (setup.policy ρ) state.view)
    (informed : Informed setup log middle)
    (sent : ∀ other, Sent log other → other ∈ state.sentMessages ∨ other ∈ first) :
    MaySend ρ setup log msg := by
  have silent : outgoing ≠ [] := by
    rw [split]
    exact List.append_ne_nil_of_right_ne_nil _ (List.cons_ne_nil _ _)
  cases dispatched with
  | @coordinatorReceives _ delivered _ =>
      obtain ⟨asks, tells, same, batches⟩ :=
        state.coordinator.onMessage_batches delivered state.clock staffed.valid.durable
      have durable := staffed.valid.durable
      have upholds := state.coordinator.onMessage_upholds delivered state.clock durable
      refine maySend_of_batches (same.symm.trans split) batches upholds.stays
        (Coordinator.onMessage_sameSetup _ _ _) staffed sound ?_ informed.grounded sent
      exact informed.opened fun waiting =>
        silent (Coordinator.onMessage_silent_of_waiting waiting).2
  | coordinatorTicks _ _ =>
      have ticked := state.coordinator.tick_ticked state.clock
      obtain ⟨asks, tells, same, batches⟩ := ticked.batches
      refine maySend_of_batches (same.symm.trans split) batches
        (ticked.upholds staffed.valid.durable).stays ticked.sameSetup staffed sound ?_
        informed.grounded sent
      exact informed.opened fun waiting => silent (ticked.silent_of_waiting waiting).2
  | @participantReceives node delivered participant found =>
      have member := staffed.participant found
      have received := participant.onMessage_received delivered state.clock
      have id : (participant.onMessage delivered state.clock).1.id = node := by
        rw [(received.descends ⟨rfl, rfl, fun _ => rfl⟩).id, member.id]
      have asked := informed.asked node
      have told := informed.told node
      simp only [view_insert id, State.withParticipant, id, Function.update_self] at asked told
      exact maySend_of_participant received split member.valid member.id found sound asked told sent
  | rests _ _ | nodeTicks | nobodyReceives _ | crashes | coordinatorRecovers _
  | participantRecovers _ _ | staysUp _ => exact absurd rfl silent

/-! ## Runs -/

omit [ChaCha8Rng ρ] in
private theorem not_heard_nil {msg : Message} : ¬ Heard [] msg := by
  intro heard
  obtain ⟨clock, listed⟩ := heard
  cases listed

theorem simulator_informed : Informed setup [] (setup.simulator (ρ := ρ)) where
  opened begun := absurd rfl begun
  grounded := by
    constructor
    · intro node vote counted
      cases counted
    · intro committed
      cases committed
    · intro aborted
      cases aborted
  asked node vote cast := by
    rw [simulator_view] at cast
    cases cast
  told node decision := by
    rw [simulator_view]
    exact iff_of_false (Option.some_ne_none _).symm not_heard_nil

/-- What is sent after an event has been handled is in the log and tells nobody anything. -/
private theorem Informed.logs_sendAll (informed : Informed setup middle.actionLog middle)
    (observations : Observations) (messages : List Message) :
    Informed setup ({ middle with observations := observations }.sendAll messages).actionLog
      middle := by
  have heard : ∀ msg,
      Heard ({ middle with observations := observations }.sendAll messages).actionLog msg ↔
        Heard middle.actionLog msg := fun msg => sendAll_heard _ messages
  obtain ⟨sends, grown⟩ := sendAll_actionLog { middle with observations := observations } messages
  rw [grown] at heard ⊢
  exact informed.sends heard

private theorem Informed.sendAll (informed : Informed setup log middle)
    (observations : Observations) (outgoing : List Message) :
    Informed setup log ({ middle with observations := observations }.sendAll outgoing) := by
  constructor
  · rw [sendAll_coordinator]
    exact informed.opened
  · rw [sendAll_coordinator]
    exact informed.grounded
  · rw [view_sendAll]
    exact informed.asked
  · rw [view_sendAll]
    exact informed.told

/-- What is delivered was sent. -/
private theorem warranted_of_genuine (genuine : Genuine state event) (clock : Nat) :
    Warranted ρ setup state.actionLog (event.logEntry clock) := by
  cases event with
  | external event => trivial
  | internal event =>
      obtain ⟨recipient, msg⟩ := event
      exact sent_iff.mpr genuine.2

theorem Stepped.recorded (stepped : Stepped state after) (recorded : Recorded setup state) :
    Library.History (Warranted ρ setup) after.actionLog ∧
      Informed setup after.actionLog after := by
  have consistent := recorded.toConsistent
  cases stepped with
  | @drops item queue recipient msg pops kind _ =>
      have genuine := consistent.genuine pops.mem
      rw [kind] at genuine
      refine ⟨.snoc recorded.history (sent_iff.mpr genuine.2), ?_⟩
      have heard : ∀ other,
          Heard (state.actionLog ++ [.drop item.timestamp msg]) other ↔
            Heard state.actionLog other := by
        intro other
        simp [heard_concat]
      have informed := recorded.informed.sends heard
      exact { informed with }
  | @handles item queue delivered observations middle outgoing pops reaches dispatched =>
      obtain ⟨staffed, sound, genuine⟩ := consistent.taken pops delivered
      have log : middle.actionLog = state.actionLog ++ [item.event.logEntry item.timestamp] :=
        dispatched.actionLog
      have before : Informed setup state.actionLog (state.taken item queue delivered) :=
        { recorded.informed with }
      have informed : Informed setup middle.actionLog middle := by
        rw [log]
        exact dispatched.informed staffed sound genuine before recorded.replayed.coordinator.state
          recorded.tracked.isOperating_eq
      have warranted : Library.History (Warranted ρ setup) middle.actionLog := by
        rw [log]
        exact recorded.history.snoc (warranted_of_genuine (consistent.genuine pops.mem) _)
      refine ⟨?_, (informed.logs_sendAll observations outgoing).sendAll observations outgoing⟩
      apply history_sendAll { middle with observations := observations } warranted
      intro first msg last deliverAt split
      apply dispatched.maySend split staffed sound (informed.logs_sendAll observations first)
      intro other sent
      rw [sent_iff, sendAll_sentMessages, List.mem_append] at sent
      exact sent.imp_left fun earlier => dispatched.sentMessages ▸ earlier

theorem recorded_invariant (setup : Setup) (environment : Environment ρ) :
    (system setup environment).Invariant (Recorded setup) where
  initial := by
    intro state same
    subst same
    exact {
      toConsistent := simulator_consistent
      tracked := simulator_tracked
      history := .nil
      informed := simulator_informed
      replayed := simulator_replayed }
  next := by
    intro state after recorded next
    have kept : Library.History (Warranted ρ setup) after.actionLog ∧
        Informed setup after.actionLog after := by
      have informed := recorded.informed
      cases next with
      | enqueueExternal _ | injectProbe _ => exact ⟨recorded.history, { informed with }⟩
      | step success =>
          obtain ⟨_, _, rfl⟩ | ⟨_, stepped⟩ := step_stepped success
          · exact ⟨recorded.history, informed⟩
          · exact stepped.recorded recorded
    exact {
      toConsistent := (next.refines recorded.toConsistent).1
      tracked := recorded.tracked.next next
      history := kept.1
      informed := kept.2
      replayed := recorded.replayed.next recorded.toConsistent recorded.tracked next }

/-- Every entry of the log is warranted by the entries before it. -/
theorem transcript (reachable : (system setup environment).Reachable state) :
    Library.History (Warranted ρ setup) state.actionLog :=
  ((recorded_invariant setup environment).reachable reachable).history

/-- All votes are for Commit, the first two are lost, and the coordinator draws Abort. -/
theorem transcript_drawn : ∃ (setup : Setup) (state : Simulator ForcedRng),
    (system setup anyEnvironment).Reachable state ∧
      .drop 2 (.vote ⟨0⟩ .commit) ∈ state.actionLog ∧
      .deliver 11 (.vote ⟨1⟩ .commit) ∈ state.actionLog ∧
      .decision ⟨1⟩ .abort ∈ state.sentMessages ∧ .ack ⟨1⟩ ∈ state.sentMessages ∧
      Library.History (Warranted ForcedRng setup) state.actionLog := by
  let setup : Setup := { Setup.unanimous with abortBias := 1 }
  have ended : runEndsIn (ρ := ForcedRng) setup Setup.interruption 60 (fun state =>
      decide (.drop 2 (.vote ⟨0⟩ .commit) ∈ state.actionLog) &&
      decide (.deliver 11 (.vote ⟨1⟩ .commit) ∈ state.actionLog) &&
      decide (.decision ⟨1⟩ .abort ∈ state.sentMessages) &&
      decide (.ack ⟨1⟩ ∈ state.sentMessages)) = true := by
    decide +kernel
  obtain ⟨state, reachable, passed⟩ := reachable_of_runEndsIn ended
  simp only [Bool.and_eq_true, decide_eq_true_eq] at passed
  obtain ⟨⟨⟨lost, heard⟩, aborts⟩, acknowledged⟩ := passed
  exact ⟨setup, state, reachable, lost, heard, aborts, acknowledged, transcript reachable⟩

end Simulator

end TwoPhaseCommit
