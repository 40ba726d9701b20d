import TwoPhaseCommit.Simulator.Drainage

/-! The property tests in `tests/simulation.rs`, with the numbers that their strategies generate as
arguments. Each of them passes on every input. -/

set_option autoImplicit false

namespace TwoPhaseCommit.Tests

open Simulator

variable {ρ : Type} [ChaCha8Rng ρ]

/-- How a test fails. -/
inductive TestCaseError where
  | unreachable
  | panic (panic : Panic)
  | terminationViolated

/-- The `f64` that `0.2` stands for. -/
def participantAbortBias : ℚ := 3602879701896397 / 2 ^ 54

def retransmitTimeout : Nat := 5

def simulator (nParticipants : UInt8) (seed : UInt64) (abortBias : ℚ) (deliveryDelay : Nat) :
    Simulator ρ :=
  .new nParticipants seed abortBias participantAbortBias { start := 0, stop := deliveryDelay }
    retransmitTimeout

/-! ## Event generation -/

def materializeTickEvents (sim : Simulator ρ) (tickDeltas : List UInt8) : Simulator ρ × Nat :=
  tickDeltas.foldl
    (fun (sim, time) delta =>
      let time := time + delta.toNat
      (sim.enqueueExternal .tickAll time, time))
    (sim.enqueueExternal .startTransaction 0, 0)

/-- The event of an action. Actions above 30 are not generated. -/
def crashAction (action nParticipants : UInt8) : Except TestCaseError ExternalEvent :=
  if action ≤ 20 then .ok .tickAll
  else if action ≤ 24 then .ok (.crash (.node ⟨(action - 21) % nParticipants⟩))
  else if action ≤ 28 then .ok (.recover (.node ⟨(action - 25) % nParticipants⟩))
  else if action = 29 then .ok (.crash .coordinator)
  else if action = 30 then .ok (.recover .coordinator)
  else .error .unreachable

def materializeCrashEvents (sim : Simulator ρ) (actions : List UInt8) (nParticipants : UInt8) :
    Except TestCaseError (Simulator ρ × Nat) :=
  actions.foldlM
    (fun (sim, time) action => do
      let event ← crashAction action nParticipants
      let time := time + 1
      return (sim.enqueueExternal event time, time))
    (sim.enqueueExternal .startTransaction 0, 0)

/-- The recovery of every actor, one at a time. -/
def recoverySweep (sim : Simulator ρ) (time : Nat) (nParticipants : UInt8) : Simulator ρ × Nat :=
  (nodeIds nParticipants).foldl
    (fun (sim, time) node =>
      let time := time + 1
      (sim.enqueueExternal (.recover (.node node)) time, time))
    (sim.enqueueExternal (.recover .coordinator) (time + 1), time + 1)

/-! ## The tests -/

/-- `run` with that much fuel, then `drain`. -/
def settle (fuel maxRounds : Nat) (sim : Simulator ρ) :
    Except TestCaseError (Option (Simulator ρ)) := do
  match ← (sim.run fuel).mapError .panic with
  | none => return none
  | some sim =>
      let (_, sim) ← (sim.drain maxRounds).mapError .panic
      return some sim

/-- `prop_assert!` on the state that is left. -/
def assertAllDecided : Option (Simulator ρ) → Except TestCaseError (Option Unit)
  | none => .ok none
  | some sim => if sim.allDecided then .ok (some ()) else .error .terminationViolated

section

variable (ρ) (fuel : Nat) (nParticipants : UInt8) (seed : UInt64)

def testSafety (abortBias : ℚ) (deliveryDelay : Nat) (tickDeltas : List UInt8) :
    Except TestCaseError (Option Unit) := do
  let sim : Simulator ρ := simulator nParticipants seed abortBias deliveryDelay
  let (sim, lastTime) := materializeTickEvents sim tickDeltas
  let ended ← settle fuel (lastTime + 50) sim
  return ended.map fun _ => ()

def testTermination (deliveryDelay : Nat) (tickDeltas : List UInt8) :
    Except TestCaseError (Option Unit) := do
  let sim : Simulator ρ := simulator nParticipants seed 0 deliveryDelay
  let (sim, lastTime) := materializeTickEvents sim tickDeltas
  assertAllDecided (← settle fuel (lastTime + 100) sim)

def testSafetyWithCrashes (abortBias : ℚ) (deliveryDelay : Nat) (actions : List UInt8) :
    Except TestCaseError (Option Unit) := do
  let sim : Simulator ρ := simulator nParticipants seed abortBias deliveryDelay
  let (sim, _) ← materializeCrashEvents sim actions nParticipants
  let ended ← settle fuel 200 sim
  return ended.map fun _ => ()

def testTerminationWithCrashes (deliveryDelay : Nat) (actions : List UInt8) :
    Except TestCaseError (Option Unit) := do
  let sim : Simulator ρ := simulator nParticipants seed 0 deliveryDelay
  let (sim, time) ← materializeCrashEvents sim actions nParticipants
  let (sim, time) := recoverySweep sim time nParticipants
  assertAllDecided (← settle fuel (time + 200) sim)

end

/-- With enough fuel the test comes to an end and succeeds. -/
def Passes (test : Nat → Except TestCaseError (Option Unit)) : Prop :=
  ∃ bound, ∀ fuel, bound ≤ fuel → test fuel = .ok (some ())

/-! ## The schedules -/

abbrev Schedule := List (ExternalEvent × Nat)

omit [ChaCha8Rng ρ] in
private theorem enqueueAll_append (sim : Simulator ρ) (first last : Schedule) :
    (sim.enqueueAll first).enqueueAll last = sim.enqueueAll (first ++ last) :=
  (List.foldl_append ..).symm

omit [ChaCha8Rng ρ] in
theorem materializeTickEvents_eq (sim : Simulator ρ) (tickDeltas : List UInt8) :
    ∃ (schedule : Schedule) (time : Nat),
      materializeTickEvents sim tickDeltas =
        (sim.enqueueAll ((.startTransaction, 0) :: schedule), time) ∧
      ∀ entry ∈ schedule, entry.1 = .tickAll := by
  suffices ticks : ∀ (sim : Simulator ρ) (time : Nat), ∃ (schedule : Schedule) (later : Nat),
      tickDeltas.foldl (fun (sim, time) delta =>
        (sim.enqueueExternal .tickAll (time + delta.toNat), time + delta.toNat)) (sim, time) =
          (sim.enqueueAll schedule, later) ∧
      ∀ entry ∈ schedule, entry.1 = .tickAll from
    ticks (sim.enqueueExternal .startTransaction 0) 0
  induction tickDeltas with
  | nil =>
      intro sim time
      exact ⟨[], time, rfl, fun _ listed => absurd listed List.not_mem_nil⟩
  | cons delta rest ih =>
      intro sim time
      obtain ⟨schedule, later, same, ticks⟩ :=
        ih (sim.enqueueExternal .tickAll (time + delta.toNat)) (time + delta.toNat)
      refine ⟨(.tickAll, time + delta.toNat) :: schedule, later, same, fun entry listed => ?_⟩
      rcases List.mem_cons.mp listed with rfl | earlier
      · rfl
      · exact ticks entry earlier

/-- The actors of a simulator with that many participants. -/
def Actors (nParticipants : UInt8) (actor : ActorId) : Prop :=
  actor = .coordinator ∨ ∃ node ∈ nodeIds nParticipants, actor = .node node

private theorem mem_nodeIds {nParticipants index : UInt8} (positive : 1 ≤ nParticipants) :
    ⟨index % nParticipants⟩ ∈ nodeIds nParticipants := by
  have bound : (index % nParticipants).toNat < nParticipants.toNat := by
    rw [UInt8.toNat_mod]
    exact Nat.mod_lt _ (UInt8.le_iff_toNat_le.mp positive)
  refine List.mem_map.mpr ⟨_, List.mem_range.mpr bound, ?_⟩
  rw [UInt8.ofNat_toNat]

/-- The generated actions are all materialized, and crash only actors that exist. -/
theorem crashAction_ok {action nParticipants : UInt8} (generated : action ≤ 30)
    (positive : 1 ≤ nParticipants) : ∃ event, crashAction action nParticipants = .ok event ∧
      ∀ actor, event = .crash actor → Actors nParticipants actor := by
  unfold crashAction
  split
  · exact ⟨.tickAll, rfl, fun _ => nofun⟩
  split
  · refine ⟨_, rfl, fun actor same => ?_⟩
    cases same
    exact .inr ⟨_, mem_nodeIds positive, rfl⟩
  split
  · exact ⟨_, rfl, fun _ => nofun⟩
  split
  · refine ⟨_, rfl, fun actor same => ?_⟩
    cases same
    exact .inl rfl
  split
  · exact ⟨_, rfl, fun _ => nofun⟩
  · rename_i _ _ above notCrash notRecover
    simp only [UInt8.le_iff_toNat_le, ← UInt8.toNat_inj, UInt8.reduceToNat] at *
    omega

omit [ChaCha8Rng ρ] in
theorem materializeCrashEvents_eq (sim : Simulator ρ) {actions : List UInt8}
    {nParticipants : UInt8} (generated : ∀ action ∈ actions, action ≤ 30)
    (positive : 1 ≤ nParticipants) : ∃ (schedule : Schedule) (time : Nat),
      materializeCrashEvents sim actions nParticipants =
        .ok (sim.enqueueAll ((.startTransaction, 0) :: schedule), time) ∧
      ∀ entry ∈ schedule, entry.2 ≤ time ∧
        ∀ actor, entry.1 = .crash actor → Actors nParticipants actor := by
  suffices events : ∀ (sim : Simulator ρ) (time : Nat), ∃ (schedule : Schedule) (later : Nat),
      actions.foldlM (fun (sim, time) action => do
        let event ← crashAction action nParticipants
        let time := time + 1
        return (sim.enqueueExternal event time, time)) (sim, time) =
          Except.ok (sim.enqueueAll schedule, later) ∧ time ≤ later ∧
      ∀ entry ∈ schedule, entry.2 ≤ later ∧
        ∀ actor, entry.1 = .crash actor → Actors nParticipants actor by
    obtain ⟨schedule, later, same, _, crashes⟩ := events (sim.enqueueExternal .startTransaction 0) 0
    exact ⟨schedule, later, same, crashes⟩
  induction actions with
  | nil =>
      intro sim time
      exact ⟨[], time, rfl, Nat.le_refl _, fun _ listed => absurd listed List.not_mem_nil⟩
  | cons action rest ih =>
      intro sim time
      obtain ⟨first, others⟩ := List.forall_mem_cons.mp generated
      obtain ⟨event, materialized, crashes⟩ := crashAction_ok first positive
      obtain ⟨schedule, later, same, after, within⟩ :=
        ih others (sim.enqueueExternal event (time + 1)) (time + 1)
      refine ⟨(event, time + 1) :: schedule, later, ?_, Nat.le_of_succ_le after, ?_⟩
      · rw [List.foldlM_cons, materialized]
        exact same
      · intro entry listed
        rcases List.mem_cons.mp listed with rfl | earlier
        · exact ⟨after, crashes⟩
        · exact within entry earlier

omit [ChaCha8Rng ρ] in
theorem recoverySweep_eq (sim : Simulator ρ) (time : Nat) (nParticipants : UInt8) :
    ∃ (schedule : Schedule) (final : Nat),
      recoverySweep sim time nParticipants = (sim.enqueueAll schedule, final) ∧ time ≤ final ∧
      (∀ entry ∈ schedule, ∀ actor, entry.1 ≠ .crash actor) ∧
      ∀ actor, Actors nParticipants actor → ∃ later, (.recover actor, later) ∈ schedule ∧
        time < later := by
  suffices sweep : ∀ (nodes : List NodeId) (sim : Simulator ρ) (time : Nat),
      ∃ (schedule : Schedule) (final : Nat),
        nodes.foldl (fun (sim, time) node =>
          (sim.enqueueExternal (.recover (.node node)) (time + 1), time + 1)) (sim, time) =
            (sim.enqueueAll schedule, final) ∧ time ≤ final ∧
        (∀ entry ∈ schedule, ∀ actor, entry.1 ≠ .crash actor) ∧
        ∀ node ∈ nodes, ∃ later, (.recover (.node node), later) ∈ schedule ∧ time < later by
    obtain ⟨schedule, final, same, after, lossless, recovers⟩ :=
      sweep (nodeIds nParticipants) (sim.enqueueExternal (.recover .coordinator) (time + 1))
        (time + 1)
    refine ⟨(.recover .coordinator, time + 1) :: schedule, final, same,
      Nat.le_of_succ_le after, ?_, ?_⟩
    · intro entry listed actor crash
      rcases List.mem_cons.mp listed with rfl | earlier
      · cases crash
      · exact lossless entry earlier actor crash
    · intro actor named
      rcases named with rfl | ⟨node, member, rfl⟩
      · exact ⟨time + 1, .head _, Nat.lt_succ_self time⟩
      · obtain ⟨later, listed, before⟩ := recovers node member
        exact ⟨later, .tail _ listed, Nat.lt_of_succ_lt before⟩
  intro nodes
  induction nodes with
  | nil =>
      intro sim time
      exact ⟨[], time, rfl, Nat.le_refl _, fun _ listed => absurd listed List.not_mem_nil,
        fun _ listed => absurd listed List.not_mem_nil⟩
  | cons node rest ih =>
      intro sim time
      obtain ⟨schedule, final, same, after, lossless, recovers⟩ :=
        ih (sim.enqueueExternal (.recover (.node node)) (time + 1)) (time + 1)
      refine ⟨(.recover (.node node), time + 1) :: schedule, final, same,
        Nat.le_of_succ_le after, ?_, ?_⟩
      · intro entry listed actor crash
        rcases List.mem_cons.mp listed with rfl | earlier
        · cases crash
        · exact lossless entry earlier actor crash
      · intro other listed
        rcases List.mem_cons.mp listed with rfl | earlier
        · exact ⟨time + 1, .head _, Nat.lt_succ_self time⟩
        · obtain ⟨later, listed, before⟩ := recovers other earlier
          exact ⟨later, .tail _ listed, Nat.lt_of_succ_lt before⟩

/-- After the sweep every actor is up. -/
theorem endsOperating_of_sweep {nParticipants : UInt8} {events sweep : Schedule} {time : Nat}
    (within : ∀ entry ∈ events, entry.2 ≤ time ∧
      ∀ actor, entry.1 = .crash actor → Actors nParticipants actor)
    (lossless : ∀ entry ∈ sweep, ∀ actor, entry.1 ≠ .crash actor)
    (recovers : ∀ actor, Actors nParticipants actor → ∃ later,
      (.recover actor, later) ∈ sweep ∧ time < later) : EndsOperating (events ++ sweep) := by
  intro index actor atTime found
  have listed := List.mem_of_getElem? found
  rcases List.mem_append.mp listed with crash | never
  · obtain ⟨before, named⟩ := within _ crash
    obtain ⟨later, recover, after⟩ := recovers actor (named actor rfl)
    obtain ⟨place, found⟩ := List.mem_iff_getElem?.mp (List.mem_append_right events recover)
    exact ⟨place, later, found, .inl (Nat.lt_of_le_of_lt before after)⟩
  · exact absurd rfl (lossless _ never actor)

/-! ## The runs -/

variable {setup : Setup} {sim ran final : Simulator ρ} {schedule : Schedule}

/-- `drain` never panics. -/
theorem drainLoop_ok (faithful : Faithful setup sim) (rounds consecutiveEmpty : Nat) :
    ∃ quiescent final, drainLoop rounds consecutiveEmpty sim = .ok (quiescent, final) := by
  induction rounds generalizing sim consecutiveEmpty with
  | zero => exact ⟨false, sim, rfl⟩
  | succ rounds ih =>
      cases faithful.round with
      | @steps after _ _ later unfolds =>
          rw [unfolds]
          split
          · exact ⟨true, after, rfl⟩
          · exact ih later 0
      | rests _ unfolds => exact ⟨true, sim, unfolds rounds consecutiveEmpty⟩
      | answers _ _ _ _ _ later unfolds =>
          rw [unfolds]
          exact ih later 0
      | @passes probed _ later _ unfolds =>
          rw [unfolds]
          split
          · exact ⟨true, probed, rfl⟩
          · exact ih later (consecutiveEmpty + 1)

private theorem settle_eq {fuel bound maxRounds : Nat} {quiescent : Bool}
    (success : run bound sim = .ok (some ran))
    (drains : ran.drain maxRounds = .ok (quiescent, final))
    (enough : bound ≤ fuel) : settle fuel maxRounds sim = .ok (some final) := by
  simp only [settle, run_mono success enough, drains, Except.mapError, bind, Except.bind]
  rfl

theorem settle_ok (faithful : Faithful setup sim) (maxRounds : Nat) :
    ∃ bound final, ∀ fuel, bound ≤ fuel → settle fuel maxRounds sim = .ok (some final) := by
  obtain ⟨bound, ran, success, _⟩ := faithful.run_ok
  have path : (system setup closed).Steps sim ran := run_steps success
  have later := path.preserves (faithful_invariant setup closed).next faithful
  obtain ⟨quiescent, final, drains⟩ := drainLoop_ok later maxRounds 0
  exact ⟨bound, final, fun fuel enough => settle_eq success drains enough⟩

/-- What the tests assert follows from a run that leaves everyone decided. -/
private theorem assert_of_drain {bound maxRounds : Nat} {quiescent : Bool}
    (success : run bound sim = .ok (some ran))
    (drains : ran.drain maxRounds = .ok (quiescent, final))
    (decided : final.allDecided = true) :
    Passes fun fuel => settle fuel maxRounds sim >>= assertAllDecided := by
  refine ⟨bound, fun fuel enough => ?_⟩
  simp [settle_eq success drains enough, bind, Except.bind, assertAllDecided, decided]

/-! ## Every test passes -/

section

variable (ρ) (nParticipants : UInt8) (seed : UInt64) (abortBias : ℚ) (deliveryDelay : Nat)

/-- The arguments of `Simulator::new` in the tests. -/
def testSetup : Setup where
  nParticipants := nParticipants
  seed := seed
  abortBias := abortBias
  participantAbortBias := participantAbortBias
  deliveryDelay := { start := 0, stop := deliveryDelay }
  retransmitTimeout := retransmitTimeout

private theorem settle_schedule_ok (schedule : Schedule) (maxRounds : Nat) :
    ∃ bound final, ∀ fuel, bound ≤ fuel →
      settle fuel maxRounds ((simulator (ρ := ρ) nParticipants seed abortBias
        deliveryDelay).enqueueAll schedule) = .ok (some final) := by
  have faithful : Faithful (testSetup nParticipants seed abortBias deliveryDelay)
      ((simulator (ρ := ρ) nParticipants seed abortBias deliveryDelay).enqueueAll schedule) :=
    simulator_faithful.enqueueAll
  exact settle_ok faithful maxRounds

theorem testSafety_passes (tickDeltas : List UInt8) :
    Passes fun fuel =>
      testSafety ρ fuel nParticipants seed abortBias deliveryDelay tickDeltas := by
  obtain ⟨schedule, time, same, _⟩ := materializeTickEvents_eq
    (simulator (ρ := ρ) nParticipants seed abortBias deliveryDelay) tickDeltas
  obtain ⟨bound, final, settles⟩ := settle_schedule_ok ρ nParticipants seed abortBias
    deliveryDelay ((.startTransaction, 0) :: schedule) (time + 50)
  refine ⟨bound, fun fuel enough => ?_⟩
  simp only [testSafety, same, settles fuel enough]
  rfl

theorem testSafetyWithCrashes_passes {actions : List UInt8}
    (generated : ∀ action ∈ actions, action ≤ 30) (positive : 1 ≤ nParticipants) :
    Passes fun fuel =>
      testSafetyWithCrashes ρ fuel nParticipants seed abortBias deliveryDelay actions := by
  obtain ⟨schedule, time, same, _⟩ := materializeCrashEvents_eq
    (simulator (ρ := ρ) nParticipants seed abortBias deliveryDelay) generated positive
  obtain ⟨bound, final, settles⟩ := settle_schedule_ok ρ nParticipants seed abortBias
    deliveryDelay ((.startTransaction, 0) :: schedule) 200
  refine ⟨bound, fun fuel enough => ?_⟩
  simp only [testSafetyWithCrashes, same, bind, Except.bind, settles fuel enough]
  rfl

theorem testTermination_passes (positive : 1 ≤ nParticipants) (tickDeltas : List UInt8) :
    Passes fun fuel =>
      testTermination ρ fuel nParticipants seed deliveryDelay tickDeltas := by
  obtain ⟨schedule, time, same, ticks⟩ := materializeTickEvents_eq
    (simulator (ρ := ρ) nParticipants seed 0 deliveryDelay) tickDeltas
  have lossless : CrashFree ((.startTransaction, 0) :: schedule) := by
    intro entry listed actor crash
    rcases List.mem_cons.mp listed with rfl | tick
    · cases crash
    · cases (ticks entry tick).symm.trans crash
  have operating : EndsOperating ((.startTransaction, 0) :: schedule) := by
    intro index actor atTime found
    exact absurd rfl (lossless _ (List.mem_of_getElem? found) actor)
  obtain ⟨bound, ran, success, drained, ready, _⟩ :=
    exists_upAndStarted_run ρ (testSetup nParticipants seed 0 deliveryDelay) (.head _) operating
  have path : (system (testSetup nParticipants seed 0 deliveryDelay) crashFree).Steps _ ran :=
    run_steps success
  have undisturbed := path.preserves (undisturbed_invariant _).next
    (enqueueAll_undisturbed simulator_undisturbed lossless)
  have completed := undisturbed.completed positive drained ready.started
  have drains : ran.drain (time + 100) = .ok (true, ran) :=
    drainLoop_of_quiescent drained (completed.isQuiescent drained)
  have decided := (ready.completed_of_drain positive (by decide : 5 ≤ 12) drains).2
  have passes := assert_of_drain success drains decided
  unfold testTermination
  simp only [same]
  exact passes

/-- The rounds of `drain` in the test are enough. -/
private theorem drainRounds_le (few : nParticipants ≤ 4) (quick : deliveryDelay ≤ 10) :
    (testSetup nParticipants seed abortBias deliveryDelay).drainRounds ≤ 200 := by
  have delay : max 1 deliveryDelay ≤ 10 := by omega
  have count : nParticipants.toNat ≤ 4 := UInt8.le_iff_toNat_le.mp few
  have volleys : 2 + 4 * max 1 deliveryDelay / 5 ≤ 10 := by omega
  have budget := Nat.mul_le_mul (Nat.mul_le_mul_left 2 count) volleys
  change 12 + 2 * nParticipants.toNat * (2 + 4 * max 1 deliveryDelay / 5) + 1 ≤ 200
  omega

theorem testTerminationWithCrashes_passes [BoundedChaCha8Rng ρ] {actions : List UInt8}
    (generated : ∀ action ∈ actions, action ≤ 30) (positive : 1 ≤ nParticipants)
    (few : nParticipants ≤ 4) (quick : deliveryDelay ≤ 10) :
    Passes fun fuel =>
      testTerminationWithCrashes ρ fuel nParticipants seed deliveryDelay actions := by
  obtain ⟨schedule, time, same, within⟩ := materializeCrashEvents_eq
    (simulator (ρ := ρ) nParticipants seed 0 deliveryDelay) generated positive
  obtain ⟨sweep, last, swept, later, lossless, recovers⟩ := recoverySweep_eq
    ((simulator (ρ := ρ) nParticipants seed 0 deliveryDelay).enqueueAll
      ((.startTransaction, 0) :: schedule)) time nParticipants
  rw [enqueueAll_append] at swept
  have operating : EndsOperating (((.startTransaction, 0) :: schedule) ++ sweep) := by
    apply endsOperating_of_sweep _ lossless recovers
    intro entry listed
    rcases List.mem_cons.mp listed with rfl | earlier
    · exact ⟨Nat.zero_le time, fun _ => nofun⟩
    · exact within entry earlier
  obtain ⟨bound, ran, success, drained, ready, delay⟩ :=
    exists_upAndStarted_run ρ (testSetup nParticipants seed 0 deliveryDelay) (.head _) operating
  have enough := drainRounds_le nParticipants seed 0 deliveryDelay few quick
  have rounds : quiescenceThreshold - 0 +
      (testSetup nParticipants seed 0 deliveryDelay).budget < last + 200 :=
    Nat.lt_of_lt_of_le enough (Nat.le_add_left 200 last)
  obtain ⟨final, drains⟩ :=
    ready.drains_within positive (by decide : 0 < 5) delay drained rounds
  have decided := (ready.completed_of_drain positive (by decide : 5 ≤ 12) drains).2
  have passes := assert_of_drain success drains decided
  unfold testTerminationWithCrashes
  simp only [same, bind, Except.bind, swept]
  exact passes

end

/-- On every input that their strategies generate, the property tests pass. -/
theorem property_tests_pass [BoundedChaCha8Rng ρ] (seed : UInt64) (abortBias : ℚ)
    (tickDeltas : List UInt8) {nParticipants : UInt8} {deliveryDelay : Nat} {actions : List UInt8}
    (positive : 1 ≤ nParticipants) (few : nParticipants ≤ 4) (quick : deliveryDelay ≤ 10)
    (generated : ∀ action ∈ actions, action ≤ 30) :
    (Passes fun fuel =>
      testSafety ρ fuel nParticipants seed abortBias deliveryDelay tickDeltas) ∧
    (Passes fun fuel => testTermination ρ fuel nParticipants seed deliveryDelay tickDeltas) ∧
    (Passes fun fuel =>
      testSafetyWithCrashes ρ fuel nParticipants seed abortBias deliveryDelay actions) ∧
    (Passes fun fuel =>
      testTerminationWithCrashes ρ fuel nParticipants seed deliveryDelay actions) := by
  refine ⟨?_, ?_, ?_, ?_⟩
  · exact testSafety_passes ρ nParticipants seed abortBias deliveryDelay tickDeltas
  · exact testTermination_passes ρ nParticipants seed deliveryDelay positive tickDeltas
  · exact testSafetyWithCrashes_passes ρ nParticipants seed abortBias deliveryDelay generated
      positive
  · exact testTerminationWithCrashes_passes ρ nParticipants seed deliveryDelay generated positive
      few quick

theorem property_tests_pass_three :
    (Passes fun fuel => testSafety ForcedRng fuel 3 7 (1 / 10) 10 [0, 10, 3]) ∧
    (Passes fun fuel => testTermination ForcedRng fuel 3 7 10 [0, 10, 3]) ∧
    (Passes fun fuel => testSafetyWithCrashes ForcedRng fuel 3 7 (1 / 10) 10 [29, 30, 22, 5]) ∧
    (Passes fun fuel => testTerminationWithCrashes ForcedRng fuel 3 7 10 [29, 30, 22, 5]) :=
  property_tests_pass 7 (1 / 10) [0, 10, 3] (by decide) (by decide) (by decide)
    (by decide +kernel)

end TwoPhaseCommit.Tests
