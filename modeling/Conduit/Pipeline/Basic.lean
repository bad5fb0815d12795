import Conduit.ParallelMap

/-! # Pipelines

A pipeline is an initial value and the stages it passes through. A stage transforms
the running value by a function, or treats its elements one by one, or runs a whole
pipeline of its own and applies that one's result to the running value.

The code of a stage reports the calls it makes and gives a value or a failure.
-/

namespace Conduit

/-- What the code of a stage gives: calls in order, and a value or a failure. -/
abbrev Outcome := Traced Call (Except Error Value)

mutual

/-- A stage of a pipeline. -/
inductive Stage where
  | transform (run : Value → Outcome)
  /-- Runs `inner` and joins its result, the first argument of `glue`, with the
  running value. -/
  | apply (inner : Pipeline) (glue : Value → Value → Outcome)
  | parallelMap (stage : ParallelMap)

/-- An initial value and the stages that follow it. -/
structure Pipeline where
  initial : Value
  stages : List Stage

end

namespace Stage

/-- The kind of a stage. -/
def kind : Stage → StageKind
  | transform _ => .transform
  | apply _ _ => .apply
  | parallelMap _ => .parallelMap

end Stage

namespace Pipeline

/-- The pipeline without stages. -/
def of (initial : Value) : Pipeline := ⟨initial, []⟩

/-- The pipeline with one more stage at its end. -/
def andThen (p : Pipeline) (stage : Stage) : Pipeline := ⟨p.initial, p.stages ++ [stage]⟩

/-- The pipeline with more stages at its end. -/
def append (p : Pipeline) (stages : List Stage) : Pipeline := ⟨p.initial, p.stages ++ stages⟩

/-- The number of stages, those of inner pipelines not counted. -/
def length (p : Pipeline) : Nat := p.stages.length

/-- The kinds of the stages in order. -/
def kinds (p : Pipeline) : List StageKind := p.stages.map Stage.kind

@[simp] theorem stages_of (v : Value) : (of v).stages = [] := rfl

@[simp] theorem stages_andThen (p : Pipeline) (stage : Stage) :
    (p.andThen stage).stages = p.stages ++ [stage] := rfl

@[simp] theorem initial_andThen (p : Pipeline) (stage : Stage) :
    (p.andThen stage).initial = p.initial := rfl

end Pipeline

end Conduit
