import Conduit.Pipeline.Path

/-! # The state of a run

A run stands in one pipeline, at a stage and with a running value. The pipelines
around it are suspended, each at the apply stage whose inner pipeline is being run.
When an inner pipeline has finished, its result is pending at that apply stage.

The number of moves that remain is read off the state: every stage that is still
ahead is visited once, an apply stage twice and its inner pipeline in between.
-/

namespace Conduit

/-- A place in a pipeline, with the running value there. -/
structure Pointer where
  index : Nat
  value : Value

/-- A pipeline under way. -/
structure Frame where
  pointer : Pointer
  pipeline : Pipeline

namespace Frame

/-- A pipeline at its start. -/
def start (p : Pipeline) : Frame := ⟨⟨0, p.initial⟩, p⟩

/-- The frame after its current stage, with the value this one gave. -/
def advance (f : Frame) (value : Value) : Frame := ⟨⟨f.pointer.index + 1, value⟩, f.pipeline⟩

/-- The stage the frame stands at; none when the pipeline has finished. -/
def stage? (f : Frame) : Option Stage := f.pipeline.stages[f.pointer.index]?

/-- Whether no stage is left. -/
def isFinished (f : Frame) : Bool := f.pointer.index ≥ f.pipeline.length

theorem stage?_eq_none_iff {f : Frame} : f.stage? = none ↔ f.isFinished = true := by
  simp [stage?, isFinished, Pipeline.length]

end Frame

/-- The state of a run. -/
structure ControlState where
  /-- The pipelines around the current one, the innermost first. -/
  suspended : List Frame
  current : Frame
  /-- The result of the inner pipeline that has just finished. -/
  pending : Option Pointer

mutual

/-- The number of moves that a stage takes. -/
def Stage.moves : Stage → Nat
  | .transform _ => 1
  | .parallelMap _ => 1
  | .apply inner _ => inner.moves + 2

/-- The number of moves that a pipeline takes, with the one that finishes it. -/
def Pipeline.moves : Pipeline → Nat
  | ⟨_, stages⟩ => movesOf stages + 1

/-- The number of moves that stages take. -/
def movesOf : List Stage → Nat
  | [] => 0
  | stage :: rest => stage.moves + movesOf rest

end

/-- The moves of the stages ahead when an inner result is pending at the first. -/
def movesOfResumed : List Stage → Nat
  | [] => 0
  | _ :: rest => 1 + movesOf rest

namespace Frame

/-- The stages that are left. -/
def ahead (f : Frame) : List Stage := f.pipeline.stages.drop f.pointer.index

/-- The moves left in a frame without a pending result. -/
def moves (f : Frame) : Nat := movesOf f.ahead + 1

/-- The moves left in a frame in which an inner result is pending, or will be. -/
def movesResumed (f : Frame) : Nat := movesOfResumed f.ahead + 1

theorem ahead_eq_nil {f : Frame} (h : f.stage? = none) : f.ahead = [] := by
  simpa [stage?, ahead, List.getElem?_eq_none_iff] using h

theorem ahead_eq_cons {f : Frame} {stage : Stage} (h : f.stage? = some stage) (v : Value) :
    f.ahead = stage :: (f.advance v).ahead := by
  obtain ⟨bound, rfl⟩ := List.getElem?_eq_some_iff.mp h
  exact List.drop_eq_getElem_cons bound

end Frame

namespace ControlState

/-- The state in which a run starts. -/
def start (p : Pipeline) : ControlState := ⟨[], .start p, none⟩

/-- The number of pipelines around the current one. -/
def depth (s : ControlState) : Nat := s.suspended.length

/-- The path to a place in a pipeline that is run inside suspended ones. -/
def pathThrough (suspended : List Frame) (index : Nat) : StagePath :=
  ⟨(suspended.reverse.map fun f => f.pointer.index) ++ [index]⟩

/-- The path to the current stage. -/
def path (s : ControlState) : StagePath := pathThrough s.suspended s.current.pointer.index

/-- The moves left in suspended frames. -/
def movesSuspended : List Frame → Nat
  | [] => 0
  | f :: rest => f.movesResumed + movesSuspended rest

/-- The number of moves that remain. -/
def remaining (s : ControlState) : Nat :=
  (match s.pending with
    | none => s.current.moves
    | some _ => s.current.movesResumed) + movesSuspended s.suspended

end ControlState

end Conduit
