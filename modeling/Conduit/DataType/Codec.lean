import Conduit.DataType
import Conduit.Json.Fault

/-! # The JSON form of data

Elements that leave a stage are encoded as JSON values and decoded again on the
other side. Decoding reports the first fault in the order of the elements.
Encoding loses three distinctions: a number that is not finite and an absent
option both become `null`, and so does a present option whose content does.
-/

namespace Conduit

open Json (Fault)
open Decimal (Binary64)

namespace DataType

/-- The JSON form of a value, or the reason it has none. -/
def encode : (a : DataType) → a.Carrier → Except Fault Json
  | int64, n => .ok (.int (Int64.toInt n))
  | uint64, n => .ok (.int (UInt64.toNat n))
  | uint32, n => .ok (.int (UInt32.toNat n))
  | uint8, n => .ok (.int (UInt8.toNat n))
  | int128, n =>
      let n := BitVec.toInt n
      if Json.isWordSized n then .ok (.int n) else .error .outOfRange
  | float64, x => .ok (if Binary64.isFinite x then .float x else .null)
  | bool, b => .ok (.bool b)
  | char, c => .ok (.string (String.singleton c))
  | unit, _ => .ok .null
  | text, s => .ok (.string s)
  | lent, s => .ok (.string s)
  | json, v => .ok v
  | point, p => .ok (Json.ofMembers [("x", .int (Point.x p).toInt), ("y", .int (Point.y p).toInt)])
  | pair a b, (x, y) => do return .array [← encode a x, ← encode b y]
  | list a, xs => do return .array (← List.mapM (encode a) xs)
  | option _, none => .ok .null
  | option a, some x => encode a x
  | table, [] => .ok (.object [])
  | table, _ => .error .keyNotText

/-- The JSON value by which a call names its argument: the encoding, where there is
one, and an integer of any size as it is. -/
def describe : (a : DataType) → a.Carrier → Json
  | int64, n => .int (Int64.toInt n)
  | uint64, n => .int (UInt64.toNat n)
  | uint32, n => .int (UInt32.toNat n)
  | uint8, n => .int (UInt8.toNat n)
  | int128, n => .int (BitVec.toInt n)
  | float64, x => if Binary64.isFinite x then .float x else .null
  | bool, b => .bool b
  | char, c => .string (String.singleton c)
  | unit, _ => .null
  | text, s => .string s
  | lent, s => .string s
  | json, v => v
  | point, p => Json.ofMembers [("x", .int (Point.x p).toInt), ("y", .int (Point.y p).toInt)]
  | pair a b, (x, y) => .array [describe a x, describe b y]
  | list a, xs => .array (List.map (describe a) xs)
  | option _, none => .null
  | option a, some x => describe a x
  | table, _ => .null

/-- An integer between two bounds, the upper one excluded. -/
def decodeInt (name : String) (low high : Int) : Json → Except Fault Int
  | .int n => if low ≤ n ∧ n < high then .ok n else .error (.invalidValue (.int n) name)
  | v => .error (.invalidType v.found name)

/-- A text. -/
def decodeText : Json → Except Fault String
  | .string s => .ok s
  | v => .error (.invalidType v.found "a string")

/-- The elements of an array, each read by `decode`. -/
def decodeElements {α : Type} (decode : Json → Except Fault α) : Json → Except Fault (List α)
  | .array vs => vs.mapM decode
  | v => .error (.invalidType v.found "a sequence")

/-- Two values, from an array of just two elements; `expected` names what is read
and `short` what an array that ends too early should have held. -/
def decodeTwo {α β : Type} (expected short : String) (first : Json → Except Fault α)
    (second : Json → Except Fault β) : Json → Except Fault (α × β)
  | .array [] => .error (.invalidLength 0 short)
  | .array [v] => do
      let _ ← first v
      .error (.invalidLength 1 short)
  | .array (v :: w :: rest) => do
      let x ← first v
      let y ← second w
      if rest.isEmpty then return (x, y)
      else .error (.invalidLength (rest.length + 2) "fewer elements in array")
  | v => .error (.invalidType v.found expected)

/-- A sixty-four bit integer. -/
def decodeInt64 (v : Json) : Except Fault Int64 :=
  (decodeInt "i64" (-0x8000000000000000) 0x8000000000000000 v).map Int64.ofInt

/-- A point, from its two coordinates in order or from an object that names them. -/
def decodePoint : Json → Except Fault Point
  | .object members => do
      let coordinate (name : String) : Except Fault (Option Int64) :=
        match members.lookup name with
        | none => .ok none
        | some v => (decodeInt64 v).map some
      let x ← coordinate "x"
      let y ← coordinate "y"
      match x, y with
      | none, _ => .error (.missingField "x")
      | _, none => .error (.missingField "y")
      | some x, some y => .ok ⟨x, y⟩
  | v => do
      let (x, y) ← decodeTwo "struct Point" "struct Point with 2 elements" decodeInt64 decodeInt64 v
      return ⟨x, y⟩

/-- A map keyed by lists; only an empty object is one. -/
def decodeTable : Json → Except Fault (List (List Int64 × Int64))
  | .object [] => .ok []
  | .object ((name, _) :: _) => .error (.invalidType (.string name) "a sequence")
  | v => .error (.invalidType v.found "a map")

/-- The value of a JSON form. -/
def decode : (a : DataType) → Json → Except Fault a.Carrier
  | int64, v => decodeInt64 v
  | uint64, v => (decodeInt "u64" 0 0x10000000000000000 v).map fun n => UInt64.ofNat n.toNat
  | uint32, v => (decodeInt "u32" 0 0x100000000 v).map fun n => UInt32.ofNat n.toNat
  | uint8, v => (decodeInt "u8" 0 0x100 v).map fun n => UInt8.ofNat n.toNat
  | int128, v =>
      (decodeInt "i128" (-0x80000000000000000000000000000000) 0x80000000000000000000000000000000
        v).map (BitVec.ofInt 128)
  | float64, .float x => .ok x
  | float64, .int n => .ok (Binary64.ofInt n)
  | float64, v => .error (.invalidType v.found "f64")
  | bool, .bool b => .ok b
  | bool, v => .error (.invalidType v.found "a boolean")
  | char, .string s =>
      match s.toList with
      | [c] => .ok c
      | _ => .error (.invalidValue (.string s) "a character")
  | char, v => .error (.invalidType v.found "a character")
  | unit, .null => .ok ()
  | unit, v => .error (.invalidType v.found "unit")
  | text, v => decodeText v
  | lent, v => decodeText v
  | json, v => .ok v
  | point, v => decodePoint v
  | pair a b, v => decodeTwo "a tuple of size 2" "a tuple of size 2" (decode a) (decode b) v
  | list a, v => decodeElements (decode a) v
  | option _, .null => .ok none
  | option a, v => (decode a v).map some
  | table, v => decodeTable v

end DataType

end Conduit
