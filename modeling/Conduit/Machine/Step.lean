import Conduit.Machine.State
import Conduit.Machine.Trampoline

/-! # Running a pipeline

A run moves from state to state by five rules. A finished pipeline gives its result
to the apply stage that waits for it, or ends the run. At a transform or a parallel
stage the running value is replaced by what the stage gives. At an apply stage the
inner pipeline is entered, unless its result is pending; then the two are joined.

Every move leaves exactly one move fewer to make.
-/

namespace Conduit

/-- The way in which a run has its parallel stages carried out: by the path of the
stage, the stage, and the collection it is to treat. -/
abbrev FanOut (m : Type → Type) := StagePath → ParallelMap → Value → m (Except Error Value)

/-- The work of the stage a run stands at. -/
inductive Work where
  | transform (run : Value → Outcome) (value : Value)
  | apply (glue : Value → Value → Outcome) (function argument : Value)
  | parallelMap (path : StagePath) (stage : ParallelMap) (container : Value)

/-- The kind of the stage whose work it is. -/
def Work.kind : Work → StageKind
  | transform _ _ => .transform
  | apply _ _ _ => .apply
  | parallelMap _ _ _ => .parallelMap

/-- Does the work of a stage. -/
def Work.perform {m : Type → Type} [Monad m] [MonadLiftT (Traced Call) m] (fanOut : FanOut m) :
    Work → m (Except Error Value)
  | transform run value => monadLift (run value)
  | apply glue function argument => monadLift (glue function argument)
  | parallelMap path stage container => fanOut path stage container

namespace ControlState

/-- A state with exactly one move fewer to make. -/
abbrev Successor (s : ControlState) := {t : ControlState // t.remaining + 1 = s.remaining}

/-- What is to be done in a state. -/
inductive Move (s : ControlState) where
  /-- The run ends with this value. -/
  | finish (result : Value)
  /-- The run goes on without any work. -/
  | goTo (next : s.Successor)
  /-- The stage has to do its work; the run goes on with what it gives. -/
  | perform (work : Work) (onward : Value → s.Successor)

theorem moves_start (p : Pipeline) : (Frame.start p).moves = p.moves := by
  cases p
  simp [Frame.start, Frame.moves, Frame.ahead, Pipeline.moves]

/-- The state after the current stage, with the value it gave. -/
def advance (s : ControlState) (value : Value) : ControlState :=
  ⟨s.suspended, s.current.advance value, none⟩

/-- The state inside the pipeline that the current stage applies. -/
def enter (s : ControlState) (inner : Pipeline) : ControlState :=
  ⟨s.current :: s.suspended, .start inner, none⟩

/-- The state of the pipeline around the current one, with a result pending. -/
def resume (f : Frame) (rest : List Frame) (result : Pointer) : ControlState :=
  ⟨rest, f, some result⟩

theorem remaining_resume {s : ControlState} {f : Frame} {rest : List Frame}
    (suspended : s.suspended = f :: rest) (finished : s.current.stage? = none) :
    (resume f rest s.current.pointer).remaining + 1 = s.remaining := by
  have none_ahead := Frame.ahead_eq_nil finished
  cases pending : s.pending <;>
    simp [remaining, resume, suspended, movesSuspended, Frame.moves, Frame.movesResumed,
      none_ahead, movesOf, movesOfResumed, pending] <;> omega

theorem remaining_advance {s : ControlState} {stage : Stage} (here : s.current.stage? = some stage)
    (single : s.pending ≠ none ∨ stage.moves = 1) (value : Value) :
    (s.advance value).remaining + 1 = s.remaining := by
  have ahead := Frame.ahead_eq_cons here value
  cases pending : s.pending with
  | none =>
      have one : stage.moves = 1 := by simpa [pending] using single
      simp [remaining, advance, Frame.moves, ahead, movesOf, one, pending]
      omega
  | some _ =>
      simp [remaining, advance, Frame.moves, Frame.movesResumed, ahead, movesOfResumed, pending]
      omega

theorem remaining_enter {s : ControlState} {inner : Pipeline} {glue : Value → Value → Outcome}
    (here : s.current.stage? = some (.apply inner glue)) (fresh : s.pending = none) :
    (s.enter inner).remaining + 1 = s.remaining := by
  have ahead := Frame.ahead_eq_cons here s.current.pointer.value
  have inside : movesOf (Frame.start inner).ahead + 1 = inner.moves := moves_start inner
  simp [remaining, enter, movesSuspended, Frame.moves, Frame.movesResumed, ahead,
    movesOf, movesOfResumed, Stage.moves, fresh]
  omega

/-- The rules of a run. -/
def move (s : ControlState) : s.Move :=
  match here : s.current.stage? with
  | none =>
      match suspended : s.suspended with
      | [] => .finish s.current.pointer.value
      | f :: rest => .goTo ⟨resume f rest s.current.pointer, remaining_resume suspended here⟩
  | some (.transform run) =>
      .perform (.transform run s.current.pointer.value) fun v =>
        ⟨s.advance v, remaining_advance here (.inr rfl) v⟩
  | some (.parallelMap stage) =>
      .perform (.parallelMap s.path stage s.current.pointer.value) fun v =>
        ⟨s.advance v, remaining_advance here (.inr rfl) v⟩
  | some (.apply inner glue) =>
      match pending : s.pending with
      | none => .goTo ⟨s.enter inner, remaining_enter here pending⟩
      | some child =>
          .perform (.apply glue child.value s.current.pointer.value) fun v =>
            ⟨s.advance v, remaining_advance here (.inl (by simp [pending])) v⟩

section Run

variable {m : Type → Type} [Monad m] [MonadLiftT (Traced Call) m] (fanOut : FanOut m)

/-- Makes one move. A failure of a stage is located at its place in its own
pipeline. -/
@[specialize] def step (s : ControlState) : m (Except Error (Step s.Successor Value)) := do
  match s.move with
  | .finish result => return .ok (.done result)
  | .goTo next => return .ok (.next next)
  | .perform work onward =>
      match ← work.perform fanOut with
      | .ok v => return .ok (.next (onward v))
      | .error e => return .error (e.atStage work.kind s.current.pointer.index)

/-- A successor as a state with fewer moves to make. -/
def Successor.smaller {s : ControlState} (t : s.Successor) :
    {t : ControlState // t.remaining < s.remaining} :=
  ⟨t.1, by have := t.2; omega⟩

/-- Makes one move, as a step towards fewer moves. -/
@[specialize] def shrinkingStep (s : ControlState) :
    m (Except Error (Step {t : ControlState // t.remaining < s.remaining} Value)) := do
  match ← s.step fanOut with
  | .ok (.next t) => return .ok (.next t.smaller)
  | .ok (.done v) => return .ok (.done v)
  | .error e => return .error e

/-- Moves on from a state to the end of the run. -/
@[specialize] def run (s : ControlState) : m (Except Error Value) :=
  trampoline remaining (shrinkingStep fanOut) s

end Run

end ControlState

/-- Runs a pipeline. -/
@[specialize] def Pipeline.execute {m : Type → Type} [Monad m] [MonadLiftT (Traced Call) m]
    (fanOut : FanOut m) (p : Pipeline) : m (Except Error Value) :=
  (ControlState.start p).run fanOut

end Conduit
