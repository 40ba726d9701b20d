import TwoPhaseCommit.CoordinatorRefinement
import TwoPhaseCommit.CoordinatorRetransmission

/-! What the coordinator goes by. Its tally and its decision rest on votes it has heard and on
flips of its own, and in every call the questions come before the verdict. -/

set_option autoImplicit false

namespace TwoPhaseCommit.Coordinator

variable {ρ : Type} [ChaCha8Rng ρ] {self middle after : Coordinator ρ} {atTime : Nat}
  {outgoing : List Message} {msg : Message} {heard : NodeId → Vote → Prop} {drawn : Prop}

/-! ## Flips for Abort -/

/-- The flip of a tick comes up. -/
def tickAborts (self : Coordinator ρ) : Bool :=
  match self.phase with
  | .voting _ _ => self.abortsNext
  | _ => false

/-- The message completes the votes, all for Commit, and the flip that follows comes up. -/
def voteAborts (self : Coordinator ρ) (msg : Message) : Bool :=
  match msg.messageType, msg.from, self.phase with
  | .voteCommit, .node node, .voting _ votes =>
      !votes.contains node &&
        !((votes.insert node .commit).toList.any fun (_, vote) => vote == .abort) &&
        (votes.insert node .commit).size == self.nodes.length &&
        (ChaCha8Rng.randomBool self.config.rng (clamp self.config.abortBias 0 1)).1
  | _, _, _ => false

/-- A flip of the coordinator comes up in the call and makes it decide for Abort. -/
def abortsByFlip (self : Coordinator ρ) : Call → Bool
  | .onMessage msg atTime => self.tickAborts || (self.tick atTime).1.voteAborts msg
  | .tick _ => self.tickAborts
  | .recover _ => false

theorem tickAborts_of_decision (undecided : self.decision = none)
    (aborted : (self.tick atTime).1.decision = some .abort) : self.tickAborts = true := by
  unfold tickAborts
  cases phase : self.phase with
  | voting last votes =>
      simp only [tick, phase] at aborted
      split at aborted
      · assumption
      · split at aborted <;> cases aborted
  | waiting =>
      simp only [tick, phase] at aborted
      cases undecided.symm.trans aborted
  | decided _ | awaitingAcks _ _ _ | done _ =>
      simp [decision, phase, CoordinatorPhase.decision] at undecided

/-- A coordinator that decides for Abort on a vote to which nobody objects has drawn it. -/
private theorem voteAborts_of_decision {last : Nat} {votes : Std.ExtTreeMap NodeId Vote}
    {node : NodeId} {vote : Vote} (phase : self.phase = .voting last votes)
    (type : msg.messageType = vote.messageType) (sender : msg.from = .node node)
    (fresh : node ∉ votes)
    (unopposed : ¬ ∃ other : NodeId, (votes.insert node vote)[other]? = some Vote.abort)
    (aborted : (self.receive msg atTime).1.decision = some .abort) :
    self.voteAborts msg = true := by
  have absent : votes.contains node = false := by
    rwa [← Bool.not_eq_true, Std.ExtTreeMap.contains_iff_mem]
  obtain rfl : vote = .commit := by
    cases vote with
    | commit => rfl
    | abort => exact absurd ⟨node, Std.ExtTreeMap.getElem?_insert_self⟩ unopposed
  have consent :
      ((votes.insert node .commit).toList.any fun (_, vote) => vote == .abort) = false := by
    rw [← Bool.not_eq_true, any_abort_eq_true_iff]
    exact unopposed
  have kind : msg.messageType = .voteCommit := type
  simp only [receive, kind, phase, receiveVote, sender, absent, tryDecide, consent,
    Bool.false_eq_true, ↓reduceIte] at aborted
  split at aborted
  · rename_i full
    simp only [voteAborts, kind, sender, phase, absent, consent, full, Bool.not_false,
      Bool.and_self, Bool.true_and]
    cases flip : (ChaCha8Rng.randomBool self.config.rng (clamp self.config.abortBias 0 1)).1 with
    | true => rfl
    | false =>
        simp only [flip] at aborted
        cases aborted
  · cases aborted

/-! ## Evidence -/

/-- The tally and the decision rest on votes that were heard, or the decision was drawn. -/
structure RestsOn (heard : NodeId → Vote → Prop) (drawn : Prop) (coordinator : Coordinator ρ) :
    Prop where
  tally : ∀ node vote, coordinator.tally node = some vote → heard node vote
  commit : coordinator.decision = some .commit → ∀ node ∈ coordinator.nodes, heard node .commit
  abort : coordinator.decision = some .abort → drawn ∨ ∃ node ∈ coordinator.nodes, heard node .abort

omit [ChaCha8Rng ρ] in
theorem RestsOn.mono {more : NodeId → Vote → Prop} {later : Prop}
    (restsOn : RestsOn heard drawn self)
    (wider : ∀ node vote, heard node vote → more node vote) (known : drawn → later) :
    RestsOn more later self where
  tally node vote counted := wider node vote (restsOn.tally node vote counted)
  commit decided node member := wider node .commit (restsOn.commit decided node member)
  abort decided := (restsOn.abort decided).imp known fun ⟨node, member, objects⟩ =>
    ⟨node, member, wider node .abort objects⟩

omit [ChaCha8Rng ρ] in
private theorem RestsOn.keeps (restsOn : RestsOn heard drawn self) (same : SameSetup self after)
    (tally : ∀ node vote, after.tally node = some vote → heard node vote)
    (decision : after.decision = self.decision) : RestsOn heard drawn after where
  tally := tally
  commit := by
    rw [decision, same.nodes]
    exact restsOn.commit
  abort := by
    rw [decision, same.nodes]
    exact restsOn.abort

theorem RestsOn.tick (restsOn : RestsOn heard drawn self) (atTime : Nat)
    (flips : self.tickAborts = true → drawn) : RestsOn heard drawn (self.tick atTime).1 := by
  have ticked := self.tick_ticked atTime
  have same := ticked.sameSetup
  have draws : self.decision = none → (self.tick atTime).1.decision = some .abort → drawn :=
    fun undecided aborted => flips (tickAborts_of_decision undecided aborted)
  generalize (self.tick atTime).1 = after at ticked same draws ⊢
  generalize (self.tick atTime).2 = outgoing at ticked
  cases ticked with
  | idle _ | awaitsAcks _ _ => exact restsOn
  | resendsPrepare phase _ | awaitsVotes phase _ =>
      apply restsOn.keeps same
      · intro node vote counted
        apply restsOn.tally node vote
        simpa [Coordinator.tally, phase] using counted
      · simp [decision, phase, CoordinatorPhase.decision]
  | aborts phase _ =>
      have undecided : self.decision = none := by simp [decision, phase, CoordinatorPhase.decision]
      constructor
      · intro node vote counted
        cases counted
      · intro committed
        cases committed
      · exact fun aborted => .inl (draws undecided aborted)
  | sendsDecision phase | resendsDecision phase _ =>
      apply restsOn.keeps same
      · intro node vote counted
        cases counted
      · simp [decision, phase, announced, CoordinatorPhase.decision]

/-- A commit has counted every node, an abort an objection or a flip. -/
private theorem restsOn_announced {votes : Std.ExtTreeMap NodeId Vote} {verdict : Decision}
    {rng : ρ}
    (counted : ∀ node vote, votes[node]? = some vote → heard node vote)
    (inside : ∀ node ∈ votes, node ∈ self.nodes) (decides : self.Verdict votes verdict)
    (draws : verdict = .abort → (¬ ∃ node : NodeId, votes[node]? = some Vote.abort) → drawn) :
    RestsOn heard drawn (self.announced verdict atTime rng) where
  tally node vote tallied := by cases tallied
  commit committed node member := by
    cases committed
    obtain ⟨full, unanimous⟩ := decides
    have present := Library.OrderedMap.mem_of_size_eq inside full member
    obtain ⟨vote, found⟩ := Library.OrderedMap.mem_iff_exists.mp present
    rw [← unanimous node vote found]
    exact counted node vote found
  abort aborted := by
    cases aborted
    by_cases opposed : ∃ node : NodeId, votes[node]? = some Vote.abort
    · obtain ⟨node, objection⟩ := opposed
      have present := Library.OrderedMap.mem_iff_exists.mpr ⟨_, objection⟩
      exact .inr ⟨node, inside node present, counted node .abort objection⟩
    · exact .inl (draws rfl opposed)

theorem RestsOn.receive (restsOn : RestsOn heard drawn self) (msg : Message) (atTime : Nat)
    (valid : self.Valid) (managed : ∀ node, msg.from = .node node → node ∈ self.nodes)
    (hears : ∀ node vote, msg.messageType = Vote.messageType vote → msg.from = .node node →
      heard node vote)
    (flips : self.voteAborts msg = true → drawn) :
    RestsOn heard drawn (self.receive msg atTime).1 := by
  have received := self.receive_received msg atTime
  have same := received.sameSetup
  have inserted : ∀ {last : Nat} {votes : Std.ExtTreeMap NodeId Vote} {node : NodeId} {vote : Vote},
      self.phase = .voting last votes → heard node vote →
        ∀ other cast, (votes.insert node vote)[other]? = some cast → heard other cast := by
    intro last votes node vote phase news other cast counted
    rw [Library.OrderedMap.getElem?_insert] at counted
    split at counted
    · rename_i same
      cases counted
      exact same ▸ news
    · apply restsOn.tally other cast
      simpa [Coordinator.tally, phase] using counted
  have draws : ∀ {last : Nat} {votes : Std.ExtTreeMap NodeId Vote} {node : NodeId} {vote : Vote},
      self.phase = .voting last votes → msg.messageType = vote.messageType →
        msg.from = .node node → node ∉ votes →
          (¬ ∃ other : NodeId, (votes.insert node vote)[other]? = some Vote.abort) →
            (self.receive msg atTime).1.decision = some .abort → drawn :=
    fun phase type sender fresh unopposed aborted =>
      flips (voteAborts_of_decision phase type sender fresh unopposed aborted)
  generalize (self.receive msg atTime).1 = after at received same draws ⊢
  generalize (self.receive msg atTime).2 = outgoing at received
  cases received with
  | starts phase _ =>
      apply restsOn.keeps same
      · intro node vote counted
        simp [Coordinator.tally] at counted
      · simp [decision, phase, CoordinatorPhase.decision]
  | recordsVote phase type sender _ _ =>
      apply restsOn.keeps same
      · exact inserted phase (hears _ _ type sender)
      · simp [decision, phase, CoordinatorPhase.decision]
  | decides phase type sender fresh verdict =>
      apply restsOn_announced (inserted phase (hears _ _ type sender)) _ verdict
      · intro aborts unopposed
        subst aborts
        exact draws phase type sender fresh unopposed rfl
      · intro other present
        rcases Library.OrderedMap.mem_insert.mp present with rfl | present
        · exact managed _ sender
        · exact (valid.voting phase).1 other present
  | recordsAck phase _ _ _ | completes phase _ _ _ =>
      apply restsOn.keeps same
      · intro node vote counted
        cases counted
      · simp [decision, phase, CoordinatorPhase.decision]
  | ignores _ => exact restsOn

omit [ChaCha8Rng ρ] in
private theorem recover_tally (self : Coordinator ρ) (atTime : Nat) (node : NodeId) :
    (self.recover atTime).tally node = none := by
  unfold recover
  split
  · rfl
  · simp [Coordinator.tally]

omit [ChaCha8Rng ρ] in
theorem RestsOn.recover (restsOn : RestsOn heard drawn self) (valid : self.Valid) (atTime : Nat) :
    RestsOn heard drawn (self.recover atTime) := by
  apply restsOn.keeps (self.recover_sameSetup atTime)
  · intro node vote counted
    rw [recover_tally] at counted
    cases counted
  · exact recover_decision atTime valid.durable

/-! ## The order of what is sent -/

/-- The questions of a call are asked before there is a decision, its verdict is the decision. -/
structure Batches (before after : Coordinator ρ) (asks tells : List Message) : Prop where
  undecided : asks ≠ [] → before.decision = none
  asks : ∀ msg ∈ asks, ∃ node ∈ before.nodes, msg = .prepare node
  tells : ∀ msg ∈ tells, ∃ node ∈ before.nodes, ∃ decision,
    after.decision = some decision ∧ msg = .decision node decision

omit [ChaCha8Rng ρ] in
private theorem batches_ask {nodes : List NodeId} (managed : nodes ⊆ self.nodes)
    (undecided : self.decision = none) :
    ∃ asks tells, nodes.map (messageTo .prepare) = asks ++ tells ∧
      Batches self after asks tells := by
  refine ⟨_, [], (List.append_nil _).symm, fun _ => undecided, fun msg listed => ?_, ?_⟩
  · obtain ⟨node, member, rfl⟩ := List.mem_map.mp listed
    exact ⟨node, managed member, rfl⟩
  · exact fun msg listed => absurd listed List.not_mem_nil

omit [ChaCha8Rng ρ] in
private theorem batches_tell {nodes : List NodeId} (verdict : Decision)
    (managed : nodes ⊆ self.nodes) (decided : after.decision = some verdict) :
    ∃ asks tells, nodes.map (messageTo verdict.messageType) = asks ++ tells ∧
      Batches self after asks tells := by
  refine ⟨[], _, (List.nil_append _).symm, fun some => absurd rfl some, ?_, fun msg listed => ?_⟩
  · exact fun msg listed => absurd listed List.not_mem_nil
  · obtain ⟨node, member, rfl⟩ := List.mem_map.mp listed
    exact ⟨node, managed member, verdict, decided, rfl⟩

omit [ChaCha8Rng ρ] in
theorem batches_nil : ∃ asks tells, [] = asks ++ tells ∧ Batches self after asks tells := by
  refine ⟨[], [], rfl, fun some => absurd rfl some, ?_, ?_⟩
  · exact fun msg listed => absurd listed List.not_mem_nil
  · exact fun msg listed => absurd listed List.not_mem_nil

theorem Ticked.batches (ticked : Ticked self atTime after outgoing) :
    ∃ asks tells, outgoing = asks ++ tells ∧ Batches self after asks tells := by
  cases ticked with
  | idle _ | awaitsVotes _ _ | awaitsAcks _ _ => exact batches_nil
  | aborts _ _ => exact batches_tell .abort (List.Subset.refl _) rfl
  | resendsPrepare phase _ =>
      apply batches_ask (fun _ => List.mem_of_mem_filter)
      rw [decision, phase]
      rfl
  | sendsDecision _ => exact batches_tell _ (List.Subset.refl _) rfl
  | resendsDecision _ _ => exact batches_tell _ (fun _ => List.mem_of_mem_filter) rfl

theorem Received.batches (received : Received self msg atTime after outgoing) :
    ∃ asks tells, outgoing = asks ++ tells ∧ Batches self after asks tells := by
  cases received with
  | starts phase _ =>
      apply batches_ask (List.Subset.refl _)
      rw [decision, phase]
      rfl
  | decides _ _ _ _ _ => exact batches_tell _ (List.Subset.refl _) rfl
  | recordsVote _ _ _ _ _ | recordsAck _ _ _ _ | completes _ _ _ _ | ignores _ =>
      exact batches_nil

theorem onMessage_upholds (self : Coordinator ρ) (msg : Message) (atTime : Nat)
    (durable : self.durableState.decision = self.decision) :
    Upholds self (self.onMessage msg atTime).1 (self.onMessage msg atTime).2 := by
  have first := (self.tick_ticked atTime).upholds durable
  exact first.trans (((self.tick atTime).1.receive_received msg atTime).upholds first.durable)

/-- Once a call has told the decision it asks nobody. -/
theorem onMessage_batches (self : Coordinator ρ) (msg : Message) (atTime : Nat)
    (durable : self.durableState.decision = self.decision) :
    ∃ asks tells, (self.onMessage msg atTime).2 = asks ++ tells ∧
      Batches self (self.onMessage msg atTime).1 asks tells := by
  have ticked := self.tick_ticked atTime
  have received := (self.tick atTime).1.receive_received msg atTime
  have first := ticked.upholds durable
  have second := received.upholds first.durable
  have nodes := ticked.sameSetup.nodes
  obtain ⟨asks, tells, sent, ticks⟩ := ticked.batches
  obtain ⟨more, verdict, answered, receives⟩ := received.batches
  change ∃ asks tells, (self.tick atTime).2 ++ ((self.tick atTime).1.receive msg atTime).2 =
    asks ++ tells ∧ Batches self ((self.tick atTime).1.receive msg atTime).1 asks tells
  have asksMore := receives.asks
  have tellsMore := receives.tells
  rw [nodes] at asksMore tellsMore
  by_cases quiet : tells = []
  · refine ⟨asks ++ more, verdict, ?_, ?_, fun msg listed => ?_, tellsMore⟩
    · rw [sent, answered, quiet, List.append_nil, List.append_assoc]
    · intro some
      by_cases asked : asks = []
      · rw [asked, List.nil_append] at some
        rw [Option.eq_none_iff_forall_ne_some]
        intro decision decided
        cases (receives.undecided some).symm.trans (first.stays decided)
      · exact ticks.undecided asked
    · exact (List.mem_append.mp listed).elim (ticks.asks msg) (asksMore msg)
  · obtain ⟨msg, listed⟩ := List.exists_mem_of_ne_nil _ quiet
    obtain ⟨_, _, decision, decided, _⟩ := ticks.tells msg listed
    have nothing : more = [] := by
      by_contra some
      cases (receives.undecided some).symm.trans decided
    refine ⟨asks, tells ++ verdict, ?_, ticks.undecided, ticks.asks, fun msg listed => ?_⟩
    · rw [sent, answered, nothing, List.nil_append, List.append_assoc]
    · rcases List.mem_append.mp listed with early | late
      · obtain ⟨node, member, decision, decided, same⟩ := ticks.tells msg early
        exact ⟨node, member, decision, second.stays decided, same⟩
      · exact tellsMore msg late

end TwoPhaseCommit.Coordinator
