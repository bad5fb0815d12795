import Conduit.Json.Basic

/-! # Types of data

The types whose values may be elements of a collection. Each has the name that
type errors show and a carrier of values.
-/

namespace Conduit

open Decimal (Binary64)

/-- The type of a piece of data. -/
inductive DataType where
  | int64
  | uint64
  | uint32
  | uint8
  | int128
  | float64
  | bool
  | char
  | unit
  /-- A text of its own. -/
  | text
  /-- A text lent from elsewhere, a type apart from `text`. -/
  | lent
  | json
  | point
  | pair (first second : DataType)
  | list (element : DataType)
  | option (element : DataType)
  /-- A map keyed by lists of integers, which has no JSON form. -/
  | table
  deriving DecidableEq, Inhabited

/-- A point of the integer plane. -/
structure Point where
  x : Int64
  y : Int64
  deriving DecidableEq

namespace DataType

/-- The name that type errors show. -/
def name : DataType → String
  | int64 => "i64"
  | uint64 => "u64"
  | uint32 => "u32"
  | uint8 => "u8"
  | int128 => "i128"
  | float64 => "f64"
  | bool => "bool"
  | char => "char"
  | unit => "()"
  | text => "alloc::string::String"
  | lent => "&str"
  | json => "serde_json::value::Value"
  | point => "oracle_driver::types::Point"
  | pair a b => s!"({a.name}, {b.name})"
  | list a => s!"alloc::vec::Vec<{a.name}>"
  | option a => s!"core::option::Option<{a.name}>"
  | table => "alloc::collections::btree::map::BTreeMap<alloc::vec::Vec<i64>, i64>"

/-- The values of the type. -/
def Carrier : DataType → Type
  | int64 => Int64
  | uint64 => UInt64
  | uint32 => UInt32
  | uint8 => UInt8
  | int128 => BitVec 128
  | float64 => Binary64
  | bool => Bool
  | char => Char
  | unit => Unit
  | text => String
  | lent => String
  | json => Json
  | point => Point
  | pair a b => a.Carrier × b.Carrier
  | list a => List a.Carrier
  | option a => Option a.Carrier
  | table => List (List Int64 × Int64)

end DataType

end Conduit
