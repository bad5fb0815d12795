/-! # Repeating a step

A step either gives the next state or is done. States have a size that every step
makes smaller, so the repetition ends; it uses no stack of its own.
-/

namespace Conduit

/-- What a step gives: a state to go on from, or a result. -/
inductive Step (σ ρ : Type) where
  | next (state : σ)
  | done (result : ρ)

section Trampoline

variable {m : Type → Type} [Monad m] {σ ε ρ : Type} (size : σ → Nat)
  (step : (s : σ) → m (Except ε (Step {t : σ // size t < size s} ρ)))

/-- Repeats a step from a state whose size is below a bound. -/
@[specialize] def repeatStep : (bound : Nat) → (s : σ) → size s < bound → m (Except ε ρ)
  | 0, _, h => absurd h (Nat.not_lt_zero _)
  | bound + 1, s, h => do
      match ← step s with
      | .error e => pure (.error e)
      | .ok (.done result) => pure (.ok result)
      | .ok (.next ⟨t, smaller⟩) =>
          repeatStep bound t (Nat.lt_of_lt_of_le smaller (Nat.le_of_lt_succ h))

/-- Repeats a step until it is done or fails. -/
@[specialize] def trampoline (s : σ) : m (Except ε ρ) :=
  repeatStep size step (size s + 1) s (Nat.lt_succ_self _)

end Trampoline

end Conduit
