import Conduit.Machine.Step

/-! # Watching a run

A run made move by move, with the states it passes through, up to a given number of
moves.
-/

namespace Conduit

/-- Where a watched run has come to. -/
inductive RunEnd where
  | done (result : Value)
  | failed (error : Error)
  /-- The moves that were to be watched are made, and the run has not ended. -/
  | unfinished

/-- Makes at most `limit` moves from a state; gives the states before each of them
and where the run has come to. -/
@[specialize] def ControlState.history {m : Type → Type} [Monad m] [MonadLiftT (Traced Call) m]
    (fanOut : FanOut m) : (limit : Nat) → ControlState → m (List ControlState × RunEnd)
  | 0, _ => pure ([], .unfinished)
  | limit + 1, s => do
      match ← s.step fanOut with
      | .error e => return ([s], .failed e)
      | .ok (.done v) => return ([s], .done v)
      | .ok (.next t) =>
          let (states, last) ← history fanOut limit t.1
          return (s :: states, last)

end Conduit
