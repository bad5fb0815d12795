import Conduit.Machine.Step

/-! # The in-process engine

Runs a pipeline in one thread. Elements are treated where the run itself is; those
that take their time are waited for together, one turn of each per round.
-/

namespace Conduit.Local

/-- The name of the thread on which everything happens. -/
def host : String := "main"

/-- The outcome of an element's work. An element that takes the thread down leaves
the run without an answer. -/
def outcomeOf : Ending Error Json → Except Error Json
  | .returned v => .ok v
  | .failed e => .error e
  | .lost => .error (.workerExited s!"{host} terminated without replying")

/-- The answer after a turn: there, or one turn nearer. -/
def answerOf (d : Deferred Error Json) : Answer (Deferred Error Json) Error Json :=
  match d.turns with
  | 0 => .now (outcomeOf d.ending)
  | turns + 1 => .later ⟨turns, d.ending⟩

/-- How elements under way are asked for again. -/
def replies {m : Type → Type} [Monad m] : Asking m (Deferred Error Json) Error Json where
  ask d := pure (answerOf d)
  wake := pure ()
  patience tickets := pure ((tickets.map Deferred.turns).foldl max 0 + 1)
  abandoned d := match outcomeOf d.ending with
    | .ok _ => .workerExited s!"{host} terminated without replying"
    | .error e => e

/-- Treats elements in the run's own thread. -/
def dispatch {m : Type → Type} [Monad m] [MonadLiftT (Traced Call) m] (stage : ParallelMap) :
    Dispatch m (Deferred Error Json) where
  send _ v := do return answerOf (← monadLift (stage.callElement host v))
  replies := replies

/-- Carries out parallel stages in the run's own thread. -/
def fanOut {m : Type → Type} [Monad m] [MonadLiftT (Traced Call) m] : FanOut m :=
  fun _ stage container => stage.run (dispatch stage) container

/-- Runs a pipeline and records its calls. -/
def execute (p : Pipeline) : Recorder Call (Except Error Value) := p.execute fanOut

/-- Runs a pipeline whose result must be of the given type. -/
def executeAs (type : ValueType) (p : Pipeline) : Recorder Call (Except Error Value) := do
  let outcome ← execute p
  return outcome.bind fun v => (v.downcast type).map fun x => ⟨type, x⟩

end Conduit.Local
