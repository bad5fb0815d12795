import Conduit.Json.Fault
import Conduit.Value

/-! # Failures

Everything that can go wrong in a run, with the sentence that reports it. A stage
puts its kind and index around a failure of its own code; failures of transport,
protocol and configuration pass through it as they are.
-/

namespace Conduit

/-- The kinds of stage. -/
inductive StageKind where
  | transform
  | apply
  | parallelMap
  deriving DecidableEq, Repr

/-- The name of the kind. -/
def StageKind.name : StageKind → String
  | .transform => "Transform"
  | .apply => "Apply"
  | .parallelMap => "ParallelMap"

/-- The broad groups of failures. -/
inductive ErrorCategory where
  | stage
  | protocol
  | transport
  | configuration
  deriving DecidableEq, Repr

/-- The name of the category. -/
def ErrorCategory.name : ErrorCategory → String
  | .stage => "stage"
  | .protocol => "protocol"
  | .transport => "transport"
  | .configuration => "configuration"

/-- A failure. -/
inductive Error where
  /-- A failure of a stage's own code, at its place in its own pipeline. -/
  | stage (kind : StageKind) (index : Nat) (cause : Error)
  /-- Raised by the code of a stage. -/
  | raised (message : String)
  | typeMismatch (expected found : String)
  | protocol (message : String)
  | workerSpawn (message : String)
  | workerExited (message : String)
  | malformedReply (message : String)
  | cancelled (message : String)
  | serialization (fault : Json.Fault)
  | configuration (message : String)
  | io (message : String)
  deriving DecidableEq

namespace Error

/-- The sentence that reports a failure. -/
def message : Error → String
  | stage kind index cause => s!"{kind.name} stage {index} failed: {cause.message}"
  | raised m => m
  | typeMismatch expected found => s!"Type mismatch: expected {expected}, found {found}"
  | protocol m => s!"Protocol violation: {m}"
  | workerSpawn m => s!"Failed to start worker: {m}"
  | workerExited m => s!"Worker exited abnormally: {m}"
  | malformedReply m => s!"Malformed worker message: {m}"
  | cancelled m => s!"Cancelled: {m}"
  | serialization fault => s!"Serialization error: {fault.message}"
  | configuration m => s!"Configuration error: {m}"
  | io m => s!"I/O error: {m}"

/-- The category of a failure; that of its cause for a stage. -/
def category : Error → ErrorCategory
  | stage _ _ cause => cause.category
  | raised _ => .stage
  | typeMismatch _ _ => .stage
  | serialization _ => .stage
  | protocol _ => .protocol
  | workerSpawn _ => .transport
  | workerExited _ => .transport
  | malformedReply _ => .transport
  | cancelled _ => .transport
  | configuration _ => .configuration
  | io _ => .configuration

/-- Whether a stage puts its place around the failure. -/
def isLocated : Error → Bool
  | raised _ => true
  | typeMismatch _ _ => true
  | serialization _ => true
  | _ => false

/-- The failure as the stage of this kind and index passes it on. -/
def atStage (kind : StageKind) (index : Nat) (e : Error) : Error :=
  if e.isLocated then stage kind index e else e

/-- The innermost failure. -/
def rootCause : Error → Error
  | stage _ _ cause => cause.rootCause
  | e => e

/-- The sentences of the failures behind a failure, the nearest first. -/
def sources : Error → List String
  | stage _ _ cause => cause.message :: cause.sources
  | serialization fault => [fault.message]
  | io m => [m]
  | _ => []

end Error

/-- The value's datum, which must be of the wanted type. -/
def Value.downcast (v : Value) (wanted : ValueType) : Except Error wanted.Carrier :=
  match v.as? wanted with
  | some x => .ok x
  | none => .error (.typeMismatch wanted.name v.type.name)

@[simp] theorem Value.downcast_self (a : ValueType) (x : a.Carrier) :
    (Value.mk a x).downcast a = .ok x := by
  simp [downcast]

end Conduit
