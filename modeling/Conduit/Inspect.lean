import Conduit.Machine.State
import Conduit.Text.Quoted

/-! # Descriptions for diagnosis

What pipelines, values and states look like in diagnostics. The code of stages, the
data of values and the stages of inner pipelines are left out.
-/

namespace Conduit

/-- A structure's name and its fields between braces. -/
def describeFields (name : String) (fields : List (String × String)) (complete : Bool) : String :=
  let shown := fields.map (fun (field, text) => s!"{field}: {text}") ++
    (if complete then [] else [".."])
  name ++ " \x7b " ++ ", ".intercalate shown ++ " \x7d"

/-- A list between brackets. -/
def describeList (items : List String) : String := "[" ++ ", ".intercalate items ++ "]"

/-- An option. -/
def describeOption : Option String → String
  | none => "None"
  | some text => s!"Some({text})"

namespace Stage

/-- A stage in diagnostics. -/
def inspect : Stage → String
  | transform _ => describeFields "Transform" [("f", Text.quoted "<function>")] true
  | apply inner _ => describeFields "Apply" [("inner_stages", Nat.repr inner.length)] false
  | parallelMap stage =>
      describeFields "ParallelMap" [("capability", Text.quoted stage.capability)] false

end Stage

namespace Pipeline

/-- The stages of a pipeline in diagnostics. -/
def inspectStages (p : Pipeline) : String := describeList (p.stages.map Stage.inspect)

/-- A pipeline in diagnostics, by the type it starts from. -/
def inspect (p : Pipeline) : String :=
  describeFields "ErasedPipeline"
    [("initial", Text.quoted p.initial.type.name), ("stages", p.inspectStages)] true

/-- A pipeline in diagnostics, by the type it is to give. -/
def inspectAs (output : ValueType) (p : Pipeline) : String :=
  describeFields "Pipeline"
    [("output", Text.quoted output.name), ("stages", p.inspectStages)] true

end Pipeline

/-- A value in diagnostics. -/
def Value.inspect (v : Value) : String :=
  describeFields "Value" [("type", Text.quoted v.type.name)] false

/-- A place in a pipeline in diagnostics. -/
def Pointer.inspect (p : Pointer) : String :=
  describeFields "Pointer" [("index", Nat.repr p.index), ("value", p.value.inspect)] true

/-- A pipeline under way in diagnostics. -/
def Frame.inspect (f : Frame) : String :=
  describeFields "Frame" [("pointer", f.pointer.inspect), ("pipeline", f.pipeline.inspect)] true

/-- The state of a run in diagnostics, the outermost pipeline first. -/
def ControlState.inspect (s : ControlState) : String :=
  describeFields "ControlState"
    [("parent_frames", describeList (s.suspended.reverse.map Frame.inspect)),
      ("current", s.current.inspect),
      ("pending_child", describeOption (s.pending.map Pointer.inspect))] true

end Conduit
