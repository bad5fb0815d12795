import Conduit.Json.Reader

/-! # Reading records

A record is read from an object, whose members may come in any order and among
members of no interest, or from an array of its fields in order. A field that
comes twice is a fault at its second name; an absent field is missed when the
record ends, unless the record has a default for it.
-/

namespace Conduit.Json

/-- A field of a record that is read into `ρ`, the fields met so far. -/
structure Field (ρ : Type) where
  name : String
  read : (budget : Nat) → Reader (ρ → ρ)
  isSet : ρ → Bool

/-- How a record of type `α` is read. -/
structure Record (ρ α : Type) where
  /-- The record's name in faults. -/
  title : String
  fields : List (Field ρ)
  /-- No field met yet. -/
  blank : ρ
  /-- The record, once its text has ended; a required field that is absent gives
  the fault named by its place and its name. -/
  assemble : (absent : Nat → String → Fault) → ρ → Except Fault α

namespace Record

variable {ρ α : Type} (shape : Record ρ α)

/-- Reads one member into the fields met so far. -/
def member (budget : Nat) (name : String) (held : ρ) : Reader ρ := do
  match shape.fields.find? (fun field => field.name == name) with
  | some field =>
      if field.isSet held then throw (.duplicateField name)
      Reader.token ':'
      return (← field.read budget) held
  | none =>
      Reader.token ':'
      Reader.skip ((← get).length + 1)
      return held

/-- Reads fields in order, up to the bracket that closes the array. `first` tells
that no field has been read yet. -/
def inOrder (budget : Nat) : (first : Bool) → List (Field ρ) → ρ → Reader ρ
  | _, [], held => return held
  | first, field :: rest, held => do
      match first, ← Reader.peek with
      | _, some ']' => return held
      | true, some _ => inOrder budget false rest ((← field.read budget) held)
      | false, some ',' =>
          Reader.token ','
          if (← Reader.peek) == some ']' then Reader.malformed
          inOrder budget false rest ((← field.read budget) held)
      | _, _ => Reader.malformed

/-- The fault of an array that ends before a required field. -/
def tooShort (place : Nat) : Fault :=
  .invalidLength place s!"{shape.title} with {shape.fields.length} elements"

/-- Reads a record that nests at most `budget` arrays and objects. -/
def reader (budget : Nat) : Reader α := do
  match ← Reader.peek with
  | some '\x7b' =>
      match budget with
      | 0 => Reader.malformed
      | budget + 1 =>
          Reader.token '\x7b'
          let held ← Reader.members (shape.member budget) shape.blank
          shape.assemble (fun _ name => .missingField name) held
  | some '[' =>
      match budget with
      | 0 => Reader.malformed
      | budget + 1 =>
          Reader.token '['
          let held ← inOrder budget true shape.fields shape.blank
          let record ← shape.assemble (fun place _ => shape.tooShort place) held
          Reader.token ']'
          return record
  | _ => Reader.unexpected shape.title

end Record

end Conduit.Json
