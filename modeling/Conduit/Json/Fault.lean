import Conduit.Decimal.Layout
import Conduit.Json.Basic
import Conduit.Text.Quoted

/-! # Faults of reading and writing JSON

Why a JSON text or value is not what its reader expects, and why a value has no
JSON form. A text that breaks the grammar, or holds a number that no double can
stand for, or is nested too deeply, is malformed; its details are not kept.
-/

namespace Conduit.Json

open Decimal (Binary64)

/-- What a reader met, as far as a fault shows it. -/
inductive Found where
  | null
  | bool (b : Bool)
  | int (n : Int)
  | float (x : Binary64)
  | string (s : String)
  | sequence
  | map
  deriving DecidableEq

/-- What a reader sees of a value before it looks inside. -/
def found : Json → Found
  | null => .null
  | bool b => .bool b
  | int n => .int n
  | float x => .float x
  | string s => .string s
  | array _ => .sequence
  | object _ => .map

/-- The words for what was met. -/
def Found.text : Found → String
  | .null => "null"
  | .bool b => s!"boolean `{b}`"
  | .int n => s!"integer `{String.ofList (Decimal.integerText n)}`"
  | .float x => s!"floating point `{String.ofList x.text}`"
  | .string s => s!"string {Text.quoted s}"
  | .sequence => "sequence"
  | .map => "map"

/-- A fault of reading or writing. -/
inductive Fault where
  /-- The text is not JSON. -/
  | malformed
  /-- A value of another kind was expected. -/
  | invalidType (found : Found) (expected : String)
  /-- The kind fits but the value does not. -/
  | invalidValue (found : Found) (expected : String)
  /-- Too few or too many elements. -/
  | invalidLength (length : Nat) (expected : String)
  /-- A required member is absent. -/
  | missingField (name : String)
  /-- A member occurs twice. -/
  | duplicateField (name : String)
  /-- The name is none of those expected. -/
  | unknownVariant (name : String) (expected : List String)
  /-- The number has no JSON form. -/
  | outOfRange
  /-- An object's member would be named by something other than a text. -/
  | keyNotText
  deriving DecidableEq

/-- The expected names, as the end of a sentence. -/
def variantChoice : List String → String
  | [] => "there are no variants"
  | [a] => s!"expected `{a}`"
  | [a, b] => s!"expected `{a}` or `{b}`"
  | names => "expected one of " ++ ", ".intercalate (names.map fun name => s!"`{name}`")

/-- The text that stands for the details of a malformed text. -/
def malformedText : String := "<not valid JSON>"

/-- The sentence that reports the fault. -/
def Fault.message : Fault → String
  | .malformed => malformedText
  | .invalidType found expected => s!"invalid type: {found.text}, expected {expected}"
  | .invalidValue found expected => s!"invalid value: {found.text}, expected {expected}"
  | .invalidLength length expected => s!"invalid length {length}, expected {expected}"
  | .missingField name => s!"missing field `{name}`"
  | .duplicateField name => s!"duplicate field `{name}`"
  | .unknownVariant name expected => s!"unknown variant `{name}`, {variantChoice expected}"
  | .outOfRange => "number out of range"
  | .keyNotText => "key must be a string"

end Conduit.Json
