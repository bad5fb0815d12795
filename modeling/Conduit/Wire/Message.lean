import Conduit.Json.Printer
import Conduit.Json.Record
import Conduit.Pipeline.Path

/-! # Messages to workers

What a worker is given to do: the path of a parallel stage in the pipeline that it
shares with the coordinator, and one element of that stage in JSON form.
-/

namespace Conduit

open Json (Record Reader Fault)

namespace StagePath

/-- Reads a path that nests at most `budget` arrays. -/
def reader (budget : Nat) : Reader StagePath := do
  return ⟨← Reader.list budget fun _ => Reader.index⟩

end StagePath

/-- What a worker is given to do. -/
structure WorkerMessage where
  path : StagePath
  value : Json
  deriving DecidableEq

namespace WorkerMessage

/-- The text of a message. -/
def encode (message : WorkerMessage) : String :=
  Json.recordText [("path", message.path.toJson), ("value", message.value)]

/-- The fields of a message as far as they have been read. -/
structure Draft where
  path : Option StagePath
  value : Option Json

/-- How a message is read. -/
def record : Record Draft WorkerMessage where
  title := "struct WorkerMessage"
  fields :=
    [{ name := "path"
       read := fun budget => do
        let path ← StagePath.reader budget
        return fun draft => { draft with path := some path }
       isSet := fun draft => draft.path.isSome },
     { name := "value"
       read := fun budget => do
        let value ← Reader.value budget
        return fun draft => { draft with value := some value }
       isSet := fun draft => draft.value.isSome }]
  blank := ⟨none, none⟩
  assemble absent draft :=
    match draft with
    | ⟨none, _⟩ => .error (absent 0 "path")
    | ⟨_, none⟩ => .error (absent 1 "value")
    | ⟨some path, some value⟩ => .ok ⟨path, value⟩

/-- The message of a text. -/
def decode (text : String) : Except Error WorkerMessage :=
  ((record.reader Json.nestingLimit).run text).mapError fun fault =>
    .malformedReply s!"Failed to decode worker message: {fault.message}"

end WorkerMessage

end Conduit
