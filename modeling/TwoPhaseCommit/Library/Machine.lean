import Mathlib.Data.List.Induction
import Mathlib.Tactic.Common

/-! Deterministic machines that answer each input with an output: their runs and
traces, what every input preserves, when two machines cannot be told apart, and the
inputs since the last restart. -/

set_option autoImplicit false

namespace Library

structure Machine (σ ι ω : Type) where
  step : σ → ι → σ × ω

namespace Machine

variable {σ ι ω : Type} (machine : Machine σ ι ω)

def next (state : σ) (input : ι) : σ := (machine.step state input).1

def output (state : σ) (input : ι) : ω := (machine.step state input).2

/-- The state after a list of inputs. -/
def run (state : σ) (inputs : List ι) : σ := inputs.foldl machine.next state

@[simp] theorem run_nil (state : σ) : machine.run state [] = state := rfl

theorem run_cons (state : σ) (input : ι) (rest : List ι) :
    machine.run state (input :: rest) = machine.run (machine.next state input) rest := rfl

theorem run_append (state : σ) (first second : List ι) :
    machine.run state (first ++ second) = machine.run (machine.run state first) second :=
  List.foldl_append

theorem run_concat (state : σ) (inputs : List ι) (input : ι) :
    machine.run state (inputs ++ [input]) = machine.next (machine.run state inputs) input :=
  machine.run_append state inputs [input]

variable {machine}

/-- What each of the inputs preserves is preserved by the run. -/
theorem run_preserves (property : σ → Prop) {inputs : List ι}
    (preserved : ∀ {state : σ}, ∀ input ∈ inputs, property state →
      property (machine.next state input))
    {state : σ} (holds : property state) : property (machine.run state inputs) := by
  induction inputs generalizing state with
  | nil => exact holds
  | cons input rest ih =>
      rw [run_cons]
      apply ih
      · exact fun other member => preserved other (.tail _ member)
      · exact preserved input (.head _) holds

section Trace

variable (machine)

/-- The inputs, each with the output it gets. -/
def trace (state : σ) : List ι → List (ι × ω)
  | [] => []
  | input :: rest => (input, machine.output state input) :: trace (machine.next state input) rest

theorem trace_cons (state : σ) (input : ι) (rest : List ι) :
    machine.trace state (input :: rest) =
      (input, machine.output state input) :: machine.trace (machine.next state input) rest := rfl

theorem trace_append (state : σ) (first second : List ι) :
    machine.trace state (first ++ second) =
      machine.trace state first ++ machine.trace (machine.run state first) second := by
  induction first generalizing state with
  | nil => rfl
  | cons input rest ih =>
      rw [List.cons_append, trace_cons, trace_cons, run_cons, ih, List.cons_append]

theorem trace_concat (state : σ) (inputs : List ι) (input : ι) :
    machine.trace state (inputs ++ [input]) =
      machine.trace state inputs ++ [(input, machine.output (machine.run state inputs) input)] :=
  machine.trace_append state inputs [input]

variable {machine}

/-- A relation between what was traced and the state. -/
theorem trace_induction {start : σ} (related : List (ι × ω) → σ → Prop)
    (initial : related [] start)
    (extended : ∀ {trace : List (ι × ω)} {state : σ} (input : ι), related trace state →
      related (trace ++ [(input, machine.output state input)]) (machine.next state input))
    (inputs : List ι) : related (machine.trace start inputs) (machine.run start inputs) := by
  induction inputs using List.reverseRecOn with
  | nil => exact initial
  | append_singleton inputs input ih =>
      rw [trace_concat, run_concat]
      exact extended input ih

/-- Inputs that leave every state of an invariant as it is can be erased. -/
theorem trace_filter (kept : ι → Bool) (valid : σ → Prop)
    (preserved : ∀ {state : σ} (input : ι), valid state → valid (machine.next state input))
    (idle : ∀ {state : σ} {input : ι}, valid state → kept input = false →
      machine.next state input = state)
    {state : σ} (holds : valid state) (inputs : List ι) :
    (machine.trace state inputs).filter (fun entry => kept entry.1) =
        machine.trace state (inputs.filter kept) ∧
      machine.run state inputs = machine.run state (inputs.filter kept) := by
  induction inputs generalizing state with
  | nil => exact ⟨rfl, rfl⟩
  | cons input rest ih =>
      obtain ⟨trace, run⟩ := ih (preserved input holds)
      rw [trace_cons, run_cons, List.filter_cons, List.filter_cons, trace, run]
      cases selected : kept input with
      | true => exact ⟨rfl, rfl⟩
      | false =>
          rw [idle holds selected]
          exact ⟨rfl, rfl⟩

/-- Machines in related states that answer alike and stay related have one trace. -/
theorem trace_eq {τ : Type} {other : Machine τ ι ω} (related : σ → τ → Prop)
    (simulates : ∀ {state : σ} {image : τ} (input : ι), related state image →
      machine.output state input = other.output image input ∧
        related (machine.next state input) (other.next image input))
    {state : σ} {image : τ} (start : related state image) (inputs : List ι) :
    machine.trace state inputs = other.trace image inputs ∧
      related (machine.run state inputs) (other.run image inputs) := by
  induction inputs generalizing state image with
  | nil => exact ⟨rfl, start⟩
  | cons input rest ih =>
      obtain ⟨output, next⟩ := simulates input start
      obtain ⟨trace, run⟩ := ih next
      rw [trace_cons, trace_cons, output, trace]
      exact ⟨rfl, run⟩

/-- Machines of the same traces answer alike at any time. -/
theorem output_eq {τ : Type} {other : Machine τ ι ω} {state : σ} {image : τ}
    (same : ∀ inputs : List ι, machine.trace state inputs = other.trace image inputs)
    (inputs : List ι) (input : ι) :
    machine.output (machine.run state inputs) input =
      other.output (other.run image inputs) input := by
  have longer := same (inputs ++ [input])
  rw [trace_concat, trace_concat] at longer
  exact congrArg Prod.snd (List.append_singleton_inj.mp longer).2

end Trace

section Since

variable (machine)

/-- The inputs since the last restart, with the one that restarts. -/
def since (restarts : σ → ι → Bool) (start : σ) (inputs : List ι) : List ι :=
  (inputs.foldl
    (fun (state, round) input =>
      (machine.next state input, (if restarts state input then [] else round) ++ [input]))
    (start, [])).2

variable {machine} {restarts : σ → ι → Bool} {start : σ}

theorem since_concat (inputs : List ι) (input : ι) :
    machine.since restarts start (inputs ++ [input]) =
      (if restarts (machine.run start inputs) input then []
        else machine.since restarts start inputs) ++ [input] := by
  have state : ∀ (first : σ) (round : List ι),
      (inputs.foldl (fun (state, round) input =>
        (machine.next state input, (if restarts state input then [] else round) ++ [input]))
        (first, round)).1 = machine.run first inputs := by
    induction inputs with
    | nil => exact fun _ _ => rfl
    | cons head rest ih => exact fun first round => ih _ _
  rw [since, List.foldl_append, ← state start []]
  rfl

variable (machine restarts) in
/-- A relation between the inputs since the last restart and the state. -/
theorem since_induction (related : List ι → σ → Prop) (initial : related [] start)
    (extended : ∀ {round : List ι} {state : σ} (input : ι), related round state →
      related ((if restarts state input then [] else round) ++ [input])
        (machine.next state input))
    (inputs : List ι) :
    related (machine.since restarts start inputs) (machine.run start inputs) := by
  induction inputs using List.reverseRecOn with
  | nil => exact initial
  | append_singleton inputs input ih =>
      rw [since_concat, run_concat]
      exact extended input ih

end Since

/-! ## Machines that return messages -/

section Returned

variable {μ : Type}

/-- The inputs account for the state and for everything that was returned. -/
structure Replays (machine : Machine σ ι (List μ)) (start : σ) (inputs : List ι) (state : σ)
    (returned : List μ) : Prop where
  state : state = machine.run start inputs
  returned : returned = (machine.trace start inputs).flatMap Prod.snd

variable {machine : Machine σ ι (List μ)} {start state after : σ} {first second : List ι}
  {returned more : List μ}

theorem Replays.refl (machine : Machine σ ι (List μ)) (state : σ) :
    machine.Replays state [] state [] :=
  ⟨rfl, rfl⟩

theorem Replays.single (machine : Machine σ ι (List μ)) (state : σ) (input : ι) :
    machine.Replays state [input] (machine.next state input) (machine.output state input) :=
  ⟨rfl, by simp [trace]⟩

theorem Replays.append (replays : machine.Replays start first state returned)
    (resumes : machine.Replays state second after more) :
    machine.Replays start (first ++ second) after (returned ++ more) where
  state := by rw [run_append, ← replays.state, resumes.state]
  returned := by
    rw [trace_append, List.flatMap_append, ← replays.state, ← replays.returned, resumes.returned]

theorem Replays.cons_inv {input : ι} (replays : machine.Replays start (input :: first) state
    returned) : ∃ rest, returned = machine.output start input ++ rest ∧
      machine.Replays (machine.next start input) first state rest :=
  ⟨_, replays.returned, replays.state, rfl⟩

/-- Inputs that only read as those of another machine, or as none, can be read so. -/
theorem Replays.read {κ : Type} {other : Machine σ κ (List μ)} (valid : σ → Prop)
    (read : ι → Option κ)
    (preserved : ∀ {state : σ} (input : ι), valid state → valid (machine.next state input))
    (acts : ∀ {state : σ} (input : ι), valid state →
      other.Replays state (read input).toList (machine.next state input)
        (machine.output state input))
    (holds : valid start) (replays : machine.Replays start first state returned) :
    other.Replays start (first.filterMap read) state returned := by
  obtain ⟨rfl, rfl⟩ := replays
  induction first generalizing start with
  | nil => exact .refl _ _
  | cons input rest ih =>
      have resumes := (acts input holds).append (ih (preserved input holds))
      have listed : (input :: rest).filterMap read =
          (read input).toList ++ rest.filterMap read := by
        cases found : read input <;> simp [found]
      rw [listed]
      exact resumes

end Returned

end Machine

end Library
