import Conduit.Decimal.Layout
import Conduit.Text.Numeral
import Conduit.Value

/-! # Literals

A notation for values in which no two values of a type look alike: a short tag for
the type, and a JSON form. Wide integers are decimal texts, floating-point numbers
are their bits as decimal texts, and a present option is wrapped. Functions can be
shown but not told apart.
-/

namespace Conduit

namespace DataType

/-- The types whose tag is a word. -/
def words : List (String × DataType) :=
  [("i64", int64), ("u64", uint64), ("u32", uint32), ("u8", uint8), ("bool", bool),
    ("i128", int128), ("f64", float64), ("char", char), ("()", unit), ("String", text),
    ("&str", lent), ("Json", json), ("Point", point),
    ("(String,u32)", pair text uint32), ("(u32,String)", pair uint32 text)]

/-- The characters after `start`, when they begin with it. -/
def after? : (start : List Char) → List Char → Option (List Char)
  | [], cs => some cs
  | c :: start, d :: cs => if c = d then after? start cs else none
  | _ :: _, [] => none

/-- The type of a tag of at most `bound` characters. -/
def ofTagWithin? : (bound : Nat) → List Char → Option DataType
  | 0, _ => none
  | bound + 1, tag =>
      match words.lookup (String.ofList tag) with
      | some a => some a
      | none =>
          if tag.getLast? = some '>' then
            match after? "Vec<".toList tag.dropLast, after? "Option<".toList tag.dropLast with
            | some inner, _ => (ofTagWithin? bound inner).map list
            | none, some inner => (ofTagWithin? bound inner).map option
            | none, none => none
          else none

/-- The type of a tag. -/
def ofTag? (tag : String) : Option DataType := ofTagWithin? (tag.length + 1) tag.toList

/-- Whether the type's values can be shown. -/
def isShown : DataType → Bool
  | pair a b => a.isShown && b.isShown
  | list a => a.isShown
  | option a => a.isShown
  | table => false
  | _ => true

/-- The JSON form of a value. -/
def toLiteral : (a : DataType) → a.Carrier → Json
  | int64, n => .int (Int64.toInt n)
  | uint64, n => .int (UInt64.toNat n)
  | uint32, n => .int (UInt32.toNat n)
  | uint8, n => .int (UInt8.toNat n)
  | int128, n => .string (String.ofList (Decimal.integerText (BitVec.toInt n)))
  | float64, x => .string (Nat.repr (Decimal.Binary64.bits x).toNat)
  | bool, b => .bool b
  | char, c => .string (String.singleton c)
  | unit, _ => .null
  | text, s => .string s
  | lent, s => .string s
  | json, v => v
  | point, p => Json.ofMembers [("x", .int (Point.x p).toInt), ("y", .int (Point.y p).toInt)]
  | pair a b, (x, y) => .array [toLiteral a x, toLiteral b y]
  | list a, xs => .array (List.map (toLiteral a) xs)
  | option _, none => .null
  | option a, some x => .object [("some", toLiteral a x)]
  | table, _ => .null

/-- An integer in decimal notation. -/
def decimal? (text : String) : Option Int :=
  match text.toList with
  | '-' :: ds => (digits? ds).map fun n => -(n : Int)
  | ds => (digits? ds).map Int.ofNat
where
  /-- A natural number in decimal notation. -/
  digits? : List Char → Option Nat
    | [] => none
    | ds => ds.foldl (fun n c => do return (← n) * 10 + (← Text.digitValue? c)) (some 0)

/-- The value of a JSON form. -/
def ofLiteral? : (a : DataType) → Json → Option a.Carrier
  | int64, .int n => some (Int64.ofInt n)
  | uint64, .int n => some (UInt64.ofNat n.toNat)
  | uint32, .int n => some (UInt32.ofNat n.toNat)
  | uint8, .int n => some (UInt8.ofNat n.toNat)
  | int128, .string s => (decimal? s).map (BitVec.ofInt 128)
  | float64, .string s => (decimal? s).map fun n => ⟨UInt64.ofNat n.toNat⟩
  | bool, .bool b => some b
  | char, .string s =>
      match s.toList with
      | [c] => some c
      | _ => none
  | unit, .null => some ()
  | text, .string s => some s
  | lent, .string s => some s
  | json, v => some v
  | point, .object members => do
      match members.lookup "x", members.lookup "y" with
      | some (.int x), some (.int y) => some ⟨Int64.ofInt x, Int64.ofInt y⟩
      | _, _ => none
  | pair a b, .array [x, y] => do return (← ofLiteral? a x, ← ofLiteral? b y)
  | list a, .array xs => List.mapM (ofLiteral? a) xs
  | option _, .null => some none
  | option a, .object [("some", x)] => (ofLiteral? a x).map some
  | _, _ => none

end DataType

namespace ValueType

/-- The type of a tag. -/
def ofTag? (tag : String) : Option ValueType :=
  if tag = "fn" then some (.function .int64 .int64) else (DataType.ofTag? tag).map .data

end ValueType

/-- What stands for a value that cannot be shown. -/
def unshownText : String := "<function>"

/-- The JSON form of a value's datum. -/
def Value.toLiteral : Value → Json
  | ⟨.data a, x⟩ => if a.isShown then a.toLiteral x else .string unshownText
  | ⟨.function _ _, _⟩ => .string unshownText
  | ⟨.closure _ _, _⟩ => .string unshownText

end Conduit
