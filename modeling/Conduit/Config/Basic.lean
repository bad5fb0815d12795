import Conduit.Error
import Conduit.Json.Printer
import Conduit.Json.Record
import Conduit.Text.Blank
import Conduit.Text.Numeral
import Conduit.Transport.CancelFlag

/-! # Settings of the distributed engine

How workers are named, how large their stacks are, and whether they may skip their
elements. A configuration is valid when its worker names have something to start
with that is fit for a thread's name, and its stacks are not too small.
-/

namespace Conduit

open Json (Record Reader)

/-- The settings of the distributed engine. -/
structure WorkerConfig where
  /-- What the names of workers start with. -/
  namePrefix : String := "multitask-worker"
  /-- The bytes of a worker's stack, where they are chosen. -/
  stackSize : Option Nat := none
  cancellation : CancellationPolicy := .none
  deriving DecidableEq

/-- The smallest stack, in bytes. -/
def leastStackSize : Nat := 64 * 1024

/-- What is wrong with settings or with the texts they come from. -/
inductive ConfigFault where
  | blankPrefix
  | nulInPrefix
  | smallStack (size : Nat)
  | badStackText (text : String) (cause : Text.NumeralFault)
  /-- The policy is given as it was compared, without blanks and in lower case. -/
  | unknownPolicy (text : String)
  | unreadable (path cause : String)
  /-- The parser of the format refuses the text. -/
  | unparsable (format detail : String)
  deriving DecidableEq

/-- The sentence that reports a fault. -/
def ConfigFault.message : ConfigFault → String
  | blankPrefix => "worker_name_prefix cannot be empty"
  | nulInPrefix => "worker_name_prefix cannot contain NUL bytes"
  | smallStack size => s!"worker_stack_size must be at least {leastStackSize} bytes, got {size}"
  | badStackText text cause =>
      s!"MULTITASK_WORKER_STACK_SIZE must be a byte count, got '{text}': {cause.message}"
  | unknownPolicy text =>
      s!"Unknown cancellation policy '{text}', expected 'none' or 'best_effort'"
  | unreadable path cause => s!"Failed to read config file {path}: {cause}"
  | unparsable format detail => s!"Failed to parse {format} config: {detail}"

/-- A fault of the settings as a failure. -/
def ConfigFault.toError (fault : ConfigFault) : Error := .configuration fault.message

/-- The policy of a text: blanks around it and the case of ASCII letters do not
matter, and a hyphen stands for an underscore. -/
def CancellationPolicy.parse (text : String) : Except ConfigFault CancellationPolicy :=
  let plain := (Text.trim text).map fun c => if c = '-' then '_' else c.toLower
  match CancellationPolicy.named.lookup plain with
  | .some policy => .ok policy
  | .none => .error (.unknownPolicy plain)

namespace WorkerConfig

/-- Checks the settings; the first fault in the order of the fields is reported. -/
def validate (config : WorkerConfig) : Except ConfigFault Unit :=
  if (Text.trim config.namePrefix).isEmpty then .error .blankPrefix
  else if config.namePrefix.contains '\x00' then .error .nulInPrefix
  else
    match config.stackSize with
    | some size => if size < leastStackSize then .error (.smallStack size) else .ok ()
    | none => .ok ()

/-- The name of the worker for a position. -/
def workerName (config : WorkerConfig) (position : Nat) : String :=
  s!"{config.namePrefix}-{position}"

/-- The text of the settings. -/
def encode (config : WorkerConfig) : String :=
  Json.recordText
    [("worker_name_prefix", .string config.namePrefix),
      ("worker_stack_size", (config.stackSize.map fun n => Json.int n).getD .null),
      ("cancellation", .string config.cancellation.name)]

/-- The fields of settings as far as they have been read. -/
structure Draft where
  namePrefix : Option String
  stackSize : Option (Option Nat)
  cancellation : Option CancellationPolicy

/-- Settings of which nothing has been read. -/
def Draft.blank : Draft := ⟨none, none, none⟩

/-- The settings, those that were not read as they are by default. -/
def Draft.complete (draft : Draft) : WorkerConfig :=
  let standard : WorkerConfig := {}
  ⟨draft.namePrefix.getD standard.namePrefix, draft.stackSize.join,
    draft.cancellation.getD standard.cancellation⟩

/-- How settings are read; each has a default. -/
def record : Record Draft WorkerConfig where
  title := "struct DistributedConfig"
  fields :=
    [{ name := "worker_name_prefix"
       read := fun _ => do
        let text ← Reader.string
        return fun draft => { draft with namePrefix := some text }
       isSet := fun draft => draft.namePrefix.isSome },
     { name := "worker_stack_size"
       read := fun _ => do
        let size ← Reader.optional Reader.index
        return fun draft => { draft with stackSize := some size }
       isSet := fun draft => draft.stackSize.isSome },
     { name := "cancellation"
       read := fun budget => do
        let policy ← Reader.variant CancellationPolicy.named budget
        return fun draft => { draft with cancellation := some policy }
       isSet := fun draft => draft.cancellation.isSome }]
  blank := .blank
  assemble _ draft := .ok draft.complete

/-- The settings of a text. -/
def ofText (text : String) : Except Json.Fault WorkerConfig :=
  (record.reader Json.nestingLimit).run text

/-- Settings in diagnostics. -/
def inspect (config : WorkerConfig) : String :=
  describeFields "DistributedConfig"
    [("worker_name_prefix", Text.quoted config.namePrefix),
      ("worker_stack_size", describeOption (config.stackSize.map Nat.repr)),
      ("cancellation", config.cancellation.inspect)] true

end WorkerConfig

end Conduit
