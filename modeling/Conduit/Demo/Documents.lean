import Conduit.Config.File
import Conduit.Demo.Toml
import Conduit.Demo.Yaml

/-! # Documents of settings

What stands in for the file system and for the parsers of documents when the engine runs. Files
are given by their contents. A setting may be given once; what is not given is as by default, and
what is not a setting is passed over.
-/

namespace Conduit

/-- What there is at a path. -/
inductive FileContent where
  | absent
  | directory
  /-- Reading is not allowed. -/
  | denied
  | bytes (data : ByteArray)

/-- The text of a file, or why it cannot be read. -/
def FileContent.text : FileContent → Except String String
  | absent => .error "No such file or directory (os error 2)"
  | directory => .error "Is a directory (os error 21)"
  | denied => .error "Permission denied (os error 13)"
  | bytes data =>
      match String.fromUTF8? data with
      | some text => .ok text
      | none => .error "stream did not contain valid UTF-8"

/-! ## Settings in a document -/

/-- How the values of a format stand for settings. -/
structure SettingReader (α : Type) where
  text? : α → Option String
  /-- A size, or that there is none. -/
  size? : α → Option (Option Nat)
  /-- The exact name of a policy. -/
  policy? : α → Option CancellationPolicy

namespace SettingReader

variable {α : Type}

/-- The value of a setting that has not been given before. -/
def once {β : Type} (held : Option β) (value : Option β) : Option (Option β) :=
  if held.isSome then none else value.map some

/-- Takes an entry of a document over. -/
def take (reader : SettingReader α) (draft : WorkerConfig.Draft) (name : String) (value : α) :
    Option WorkerConfig.Draft :=
  match name with
  | "worker_name_prefix" => do
      return { draft with namePrefix := ← once draft.namePrefix (reader.text? value) }
  | "worker_stack_size" => do
      return { draft with stackSize := ← once draft.stackSize (reader.size? value) }
  | "cancellation" => do
      return { draft with cancellation := ← once draft.cancellation (reader.policy? value) }
  | _ => some draft

/-- The settings that the entries of a document give. -/
def settings? (reader : SettingReader α) (entries : List (String × α)) : Option WorkerConfig := do
  let draft ← entries.foldlM (fun draft (name, value) => reader.take draft name value) .blank
  return draft.complete

end SettingReader

/-- The policy of a name. -/
def CancellationPolicy.ofName? (name : String) : Option CancellationPolicy :=
  CancellationPolicy.named.lookup name

namespace Yaml

open Text (number?)

/-- A whole number without a minus sign. A decimal one does not begin with a needless
zero. -/
def natural? (cs : List Char) : Option Nat :=
  let cs := if cs.head? == some '+' then cs.tail else cs
  match cs with
  | '0' :: 'x' :: ds => number? 16 ds
  | '0' :: 'o' :: ds => number? 8 ds
  | '0' :: 'b' :: ds => number? 2 ds
  | '0' :: _ :: _ => none
  | ds => number? 10 ds

/-- A plain scalar is null when it is empty or one of these words. -/
def isNull (text : String) : Bool := ["", "~", "null", "Null", "NULL"].contains text

/-- The size that a value gives. -/
def Setting.size? : Setting → Option (Option Nat)
  | plain text =>
      if isNull text then some none
      else ((natural? text.toList).filter (· < 0x10000000000000000)).map some
  | _ => none

/-- How entries stand for settings. A text is taken from any scalar. -/
def settingReader : SettingReader Setting where
  text? := Setting.text?
  size? := Setting.size?
  policy? setting := setting.text?.bind CancellationPolicy.ofName?

end Yaml

namespace Toml

/-- The text of a string. -/
def Node.text? : Node → Option String
  | string text => some text
  | _ => none

/-- The size that an integer gives. -/
def Node.size? : Node → Option (Option Nat)
  | integer n => if 0 ≤ n then some (some n.toNat) else none
  | _ => none

/-- How members stand for settings. -/
def settingReader : SettingReader Node where
  text? := Node.text?
  size? := Node.size?
  policy? node := node.text?.bind CancellationPolicy.ofName?

end Toml

namespace WorkerConfig

/-- Parses a document; what is wrong with it is not told. -/
def parseDocument : ConfigParser := fun format text =>
  let settings? := match format with
    | .yaml => (Yaml.entries? text).bind Yaml.settingReader.settings?
    | .toml => (Toml.members? text).bind Toml.settingReader.settings?
  match settings? with
  | some config => .ok config
  | none => .error "<detail>"

/-- The settings of a file, which must be valid. -/
def ofFile (path : String) (content : FileContent) : Except ConfigFault WorkerConfig :=
  load parseDocument path content.text

/-- The settings of a file with the variables taken over. -/
def ofFileWithEnvironment (path : String) (content : FileContent) (env : Environment) :
    Except ConfigFault WorkerConfig :=
  loadWithEnvironment parseDocument path content.text env

end WorkerConfig

end Conduit
