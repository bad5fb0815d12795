import Conduit.Error
import Conduit.Json.Printer
import Conduit.Json.Record

/-! # Replies of workers

A worker replies once, with the value of its element or with a description of what
went wrong. A description keeps the kind of a failure and the sentence of its
innermost cause, so that the coordinator can put its own context around it.
-/

namespace Conduit

open Json (Record Reader Fault)

/-- The kinds of failure that a reply tells apart. -/
inductive FailureKind where
  | stage
  | protocol
  | transport
  | malformed
  | cancelled
  deriving DecidableEq, Repr

namespace FailureKind

/-- The name of a kind in a reply. -/
def name : FailureKind → String
  | stage => "stage"
  | protocol => "protocol"
  | transport => "transport"
  | malformed => "malformed"
  | cancelled => "cancelled"

/-- The kinds by their names. -/
def named : List (String × FailureKind) :=
  [stage, protocol, transport, malformed, cancelled].map fun kind => (kind.name, kind)

end FailureKind

/-- What a reply tells of a failure. -/
structure ErrorDescription where
  kind : FailureKind
  message : String
  deriving DecidableEq

namespace ErrorDescription

/-- The kind under which a failure is described. -/
def kindOf : Error → FailureKind
  | .protocol _ => .protocol
  | .malformedReply _ => .malformed
  | .cancelled _ => .cancelled
  | e => if e.category = .stage then .stage else .transport

/-- The sentence that describes an innermost failure. What the kind already says is
left out. -/
def messageOf : Error → String
  | .raised m => m
  | .protocol m => m
  | .malformedReply m => m
  | .cancelled m => m
  | .workerSpawn m => m
  | e => e.message

/-- The description of a failure. -/
def ofError (e : Error) : ErrorDescription := ⟨kindOf e, messageOf e.rootCause⟩

/-- The failure that a description stands for. -/
def toError (d : ErrorDescription) : Error :=
  match d.kind with
  | .stage => .raised d.message
  | .protocol => .protocol d.message
  | .transport => .workerSpawn d.message
  | .malformed => .malformedReply d.message
  | .cancelled => .cancelled d.message

/-- The JSON form of a description. -/
def toJson (d : ErrorDescription) : Json :=
  .object [("kind", .string d.kind.name), ("message", .string d.message)]

/-- The fields of a description as far as they have been read. -/
structure Draft where
  kind : Option FailureKind
  message : Option String

/-- How a description is read. -/
def record : Record Draft ErrorDescription where
  title := "struct ErrorDescription"
  fields :=
    [{ name := "kind"
       read := fun budget => do
        let kind ← Reader.variant FailureKind.named budget
        return fun draft => { draft with kind := some kind }
       isSet := fun draft => draft.kind.isSome },
     { name := "message"
       read := fun _ => do
        let message ← Reader.string
        return fun draft => { draft with message := some message }
       isSet := fun draft => draft.message.isSome }]
  blank := ⟨none, none⟩
  assemble absent draft :=
    match draft with
    | ⟨none, _⟩ => .error (absent 0 "kind")
    | ⟨_, none⟩ => .error (absent 1 "message")
    | ⟨some kind, some message⟩ => .ok ⟨kind, message⟩

end ErrorDescription

/-- What a worker replies. -/
structure Reply where
  ok : Bool
  /-- The value of the element; an explicit `null` is a value. -/
  value : Option Json
  error : Option ErrorDescription
  deriving DecidableEq

namespace Reply

/-- The reply of a worker whose element has this value. -/
def success (value : Json) : Reply := ⟨true, some value, none⟩

/-- The reply of a worker that failed. -/
def failure (e : Error) : Reply := ⟨false, none, some (.ofError e)⟩

/-- The reply about an element. -/
def ofOutcome : Except Error Json → Reply
  | .ok value => success value
  | .error e => failure e

/-- The text of a reply; what is absent is left out. -/
def encode (reply : Reply) : String :=
  Json.recordText <|
    [("ok", Json.bool reply.ok)] ++
    (reply.value.map fun value => ("value", value)).toList ++
    (reply.error.map fun error => ("error", error.toJson)).toList

/-- The fields of a reply as far as they have been read. -/
structure Draft where
  ok : Option Bool
  value : Option Json
  error : Option (Option ErrorDescription)

/-- How a reply is read. -/
def record : Record Draft Reply where
  title := "struct Reply"
  fields :=
    [{ name := "ok"
       read := fun _ => do
        let ok ← Reader.boolean
        return fun draft => { draft with ok := some ok }
       isSet := fun draft => draft.ok.isSome },
     { name := "value"
       read := fun budget => do
        let value ← Reader.value budget
        return fun draft => { draft with value := some value }
       isSet := fun draft => draft.value.isSome },
     { name := "error"
       read := fun budget => do
        let error ← Reader.optional (ErrorDescription.record.reader budget)
        return fun draft => { draft with error := some error }
       isSet := fun draft => draft.error.isSome }]
  blank := ⟨none, none, none⟩
  assemble absent draft :=
    match draft.ok with
    | none => .error (absent 0 "ok")
    | some ok => .ok ⟨ok, draft.value, draft.error.join⟩

/-- The reply of a text. -/
def decode (text : String) : Except Error Reply :=
  ((record.reader Json.nestingLimit).run text).mapError fun fault =>
    .malformedReply s!"Failed to decode reply: {fault.message}"

/-- What a reply says about its element. -/
def toOutcome (reply : Reply) : Except Error Json :=
  match reply.ok, reply.value, reply.error with
  | true, some value, _ => .ok value
  | true, none, _ => .error (.malformedReply "Success reply carried no value")
  | false, _, some error => .error error.toError
  | false, _, none => .error (.malformedReply "Failure reply carried no error description")

end Reply

end Conduit
