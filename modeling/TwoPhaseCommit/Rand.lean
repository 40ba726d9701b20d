import TwoPhaseCommit.Types
import Mathlib.Data.Rat.Defs

/-! The random number generator is outside the repository, so the model is
parametric in it. A statement for every generator covers every outcome of the
random draws. Probabilities are rationals: every finite `f64` is one, and the
program only clamps them, divides them by ten and hands them to the generator. -/

set_option autoImplicit false

namespace TwoPhaseCommit

/-- The operations of `ChaCha8Rng` that the program calls. -/
class ChaCha8Rng (ρ : Type) where
  seedFromU64 : UInt64 → ρ
  random : ρ → UInt64 × ρ
  randomBool : ρ → ℚ → Bool × ρ
  /-- A draw from the range `start..end`. -/
  randomRange : ρ → Nat → Nat → Nat × ρ

/-- The one documented law some results rely on: an event of probability zero
does not happen. -/
class LawfulChaCha8Rng (ρ : Type) [ChaCha8Rng ρ] : Prop where
  randomBool_zero : ∀ generator : ρ, (ChaCha8Rng.randomBool generator 0).1 = false

/-- Its counterpart: an event of probability one happens. -/
class CertainChaCha8Rng (ρ : Type) [ChaCha8Rng ρ] : Prop where
  randomBool_one : ∀ generator : ρ, (ChaCha8Rng.randomBool generator 1).1 = true

/-- The documented law of ranges: a draw from one that is not empty lies before its end. -/
class BoundedChaCha8Rng (ρ : Type) [ChaCha8Rng ρ] : Prop where
  randomRange_lt : ∀ (generator : ρ) {start stop : Nat}, start < stop →
    (ChaCha8Rng.randomRange generator start stop).1 < stop

/-- `f64::clamp`. -/
def clamp (value low high : ℚ) : ℚ :=
  if value < low then low else if high < value then high else value

/-- A generator in which an event happens at probability one and at no other, a range gives its
start, and seeds count up. At probability zero or one and on a range of one value such a draw is
forced, elsewhere it is one of the possible ones. -/
structure ForcedRng where
  state : UInt64
  deriving DecidableEq, Repr

instance : ChaCha8Rng ForcedRng where
  seedFromU64 seed := ⟨seed⟩
  random generator := (generator.state, ⟨generator.state + 1⟩)
  randomBool generator probability := (decide (1 ≤ probability), generator)
  randomRange generator start _ := (start, generator)

instance : LawfulChaCha8Rng ForcedRng where
  randomBool_zero _ := show decide ((1 : ℚ) ≤ 0) = false by decide

instance : CertainChaCha8Rng ForcedRng where
  randomBool_one _ := show decide ((1 : ℚ) ≤ 1) = true by decide

instance : BoundedChaCha8Rng ForcedRng where
  randomRange_lt _ _ _ bound := bound

end TwoPhaseCommit
