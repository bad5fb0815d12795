import Conduit.Pipeline.Basic

/-! # Paths to stages

A path names a stage among nested pipelines: every index but the last enters the
inner pipeline of an apply stage, and the last one is the place of the stage in the
pipeline reached. Only parallel stages can be asked for by path; the first index
at which the walk goes wrong is the one that is reported.
-/

namespace Conduit

/-- The places on the way to a stage, from the outermost pipeline inwards. -/
structure StagePath where
  indices : List Nat
  deriving DecidableEq

namespace StagePath

/-- The path between brackets, its indices apart by a comma and a blank. -/
def text (path : StagePath) : String :=
  "[" ++ ", ".intercalate (path.indices.map Nat.repr) ++ "]"

/-- The path as a JSON array. -/
def toJson (path : StagePath) : Json := .array (path.indices.map fun (i : Nat) => .int i)

end StagePath

/-- Why a path does not lead to a parallel stage. The hops are counted from zero. -/
inductive PathFault where
  | empty
  /-- The index is not below the number of stages of the pipeline reached. -/
  | outOfRange (hop index length : Nat)
  /-- The stage has no inner pipeline to enter. -/
  | notEntered (hop : Nat) (kind : StageKind)
  /-- The stage at the end is not a parallel one. -/
  | notParallel (kind : StageKind)
  deriving DecidableEq

/-- The sentence that reports a fault of a path. -/
def PathFault.message (path : StagePath) : PathFault → String
  | .empty => "Worker path is empty"
  | .outOfRange hop index length =>
      s!"Hop {hop} of path {path.text} points at stage {index} of a pipeline with {length} stages"
  | .notEntered hop kind =>
      s!"Hop {hop} of path {path.text} is a {kind.name} stage; only Apply stages can be entered"
  | .notParallel kind => s!"Cannot execute {kind.name} stage at {path.text} in a worker"

namespace Pipeline

/-- Walks down from a pipeline that `hop` hops have led to. -/
def walk (p : Pipeline) (hop : Nat) : List Nat → Except PathFault ParallelMap
  | [] => .error .empty
  | [index] =>
      match p.stages[index]? with
      | none => .error (.outOfRange hop index p.length)
      | some (.parallelMap stage) => .ok stage
      | some other => .error (.notParallel other.kind)
  | index :: rest =>
      match p.stages[index]? with
      | none => .error (.outOfRange hop index p.length)
      | some (.apply inner _) => inner.walk (hop + 1) rest
      | some other => .error (.notEntered hop other.kind)

/-- The parallel stage that a path names. -/
def find (p : Pipeline) (path : StagePath) : Except PathFault ParallelMap :=
  p.walk 0 path.indices

/-- The parallel stage that a path names; a path that names none breaks the
protocol between coordinator and workers. -/
def resolve (p : Pipeline) (path : StagePath) : Except Error ParallelMap :=
  (p.find path).mapError fun fault => .protocol (fault.message path)

end Pipeline

end Conduit
