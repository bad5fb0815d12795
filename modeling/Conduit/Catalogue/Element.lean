import Conduit.Decimal.Layout
import Conduit.Local
import Conduit.Pipeline.Builder
import Conduit.Text.Numeral

/-! # A catalogue of element functions

Functions of single elements, by name. Each reports its argument when it is called.
Integers wrap around, and the characters of a text are its code points.
-/

namespace Conduit.Catalogue

open Decimal (Binary64)

/-- The work of an element function after its call has been reported. -/
inductive Body (a b : DataType) where
  /-- Always gives a result, which may show the host it was made on. -/
  | total (f : (host : String) → a.Carrier → b.Carrier)
  /-- May fail with a message. -/
  | fallible (f : a.Carrier → Except String b.Carrier)
  /-- May take its time, fail, or take its thread down. -/
  | slow (f : a.Carrier → Deferred String b.Carrier)

/-- A function of single elements. -/
structure ElementFunction where
  input : DataType
  output : DataType
  body : Body input output

namespace ElementFunction

/-- Reports the call with this argument. -/
def reportCall {a : DataType} (x : a.Carrier) : Traced Call Unit := Traced.report (a.describe x)

/-- The stage that has every element treated by the function. -/
def parMap (shape : Shape) (e : ElementFunction) : Stage :=
  match e.body with
  | .total f => Stage.parMap shape e.input e.output fun host x => do
      reportCall x
      return f host x
  | .fallible f => Stage.tryParMap shape e.input e.output fun _ x => do
      reportCall x
      return f x
  | .slow f => Stage.parMapDeferred shape e.input e.output fun _ x => do
      reportCall x
      return f x

/-- The stage that applies the function to every element on the spot; only for
functions that always give a result. -/
def mapEach? (shape : Shape) (e : ElementFunction) : Option Stage :=
  match e.body with
  | .total f => some (Stage.mapEach shape e.input e.output fun x => do
      reportCall x
      return f Local.host x)
  | _ => none

end ElementFunction

/-- The decimal text of an integer. -/
def decimal (n : Int) : String := String.ofList (Decimal.integerText n)

/-- A function that always gives a result, wherever it runs. -/
def total (a b : DataType) (f : a.Carrier → b.Carrier) : ElementFunction :=
  ⟨a, b, .total fun _ => f⟩

/-- A function that may fail. -/
def fallible (a b : DataType) (f : a.Carrier → Except String b.Carrier) : ElementFunction :=
  ⟨a, b, .fallible f⟩

/-- The function that gives back its argument. -/
def same (a : DataType) : ElementFunction := total a a id

/-- The sum of a list. -/
def sum (xs : List Int64) : Int64 := xs.foldl (· + ·) 0

/-- Half of an even number. -/
def half? (a : Int64) : Option Int64 := if a % 2 == 0 then some (a / 2) else none

/-- The largest number of times that a text is repeated. -/
def repeatLimit : Nat := 50

/-- A text several times in a row. -/
def repeated (text : String) (times : Nat) : String :=
  String.join (List.replicate (min times repeatLimit) text)

/-- The text with its ASCII letters in upper case. -/
def upper (text : String) : String := text.map Char.toUpper

/-- Fails for the one number `n`. -/
def failIf (n a : Int64) : Except String Int64 :=
  if a = n then .error s!"element {decimal a.toInt} failed" else .ok a

/-- Fails for the numbers above `n`. -/
def failOver (n a : Int64) : Except String String :=
  if n < a then .error s!"{decimal a.toInt} exceeds {decimal n.toInt}" else .ok (decimal a.toInt)

/-- Takes its thread down for the one number `n`. -/
def panicIf (n a : Int64) : Deferred String Int64 :=
  .now (if a = n then .lost else .returned a)

/-- The turns for which a number has to be waited for. -/
def turnsOf (a : Int64) : Nat := a.toInt.natAbs % 64

/-- Takes some turns; then a negative number fails and any other gives its tenfold. -/
def wait (a : Int64) : Deferred String Int64 :=
  let turns := turnsOf a
  ⟨turns, if a < 0 then .failed s!"element {decimal a.toInt} failed after {turns}"
    else .returned (a * 10)⟩

/-- The integer that a text stands for. -/
def parse (text : String) : Except String Int64 :=
  (Text.parseInt64 text).mapError Text.NumeralFault.message

/-- The element function of a name. Some are governed by a number `n` or by a
`message`. -/
def element? (name : String) (n : Int64) (message : String) : Option ElementFunction :=
  match name with
  | "add" => some (total .int64 .int64 fun (a : Int64) => a + n)
  | "mul" => some (total .int64 .int64 fun (a : Int64) => a * n)
  | "show" => some (total .int64 .text fun (a : Int64) => decimal a.toInt)
  | "len" => some (total .text .int64 fun (s : String) => Int64.ofNat s.length)
  | "upper" => some (total .text .text upper)
  | "sum_inner" => some (total (.list .int64) .int64 sum)
  | "dup" => some (total .int64 (.list .int64) fun (a : Int64) => [a, a])
  | "half" => some (total .int64 (.option .int64) half?)
  | "opt_or" => some (total (.option .int64) .int64 fun (o : Option Int64) => o.getD n)
  | "repeat" => some (total (.pair .text .uint32) .text
      fun (p : String × UInt32) => repeated p.1 p.2.toNat)
  | "swap" => some (total (.pair .text .uint32) (.pair .uint32 .text)
      fun (p : String × UInt32) => (p.2, p.1))
  | "id_opt_opt" => some (same (.option (.option .int64)))
  | "some_half" => some (total .int64 (.option (.option .int64))
      fun (a : Int64) => if a < 0 then none else some (half? a))
  | "id_i128" => some (same .int128)
  | "id_u64" => some (same .uint64)
  | "id_f64" => some (same .float64)
  | "id_u8" => some (same .uint8)
  | "id_bool" => some (same .bool)
  | "id_char" => some (same .char)
  | "id_unit" => some (same .unit)
  | "id_json" => some (same .json)
  | "square_wide" => some (total .int64 .int128
      fun (a : Int64) => BitVec.ofInt 128 (a.toInt * a.toInt))
  | "recip" => some (total .float64 .float64 Binary64.inverse)
  | "flip" => some (total .point .point fun (p : Point) => (⟨p.y, p.x⟩ : Point))
  | "bad_key" => some (total .int64 .table fun (a : Int64) => [([a], a)])
  | "worker" => some ⟨.int64, .text, .total fun host (a : Int64) =>
      s!"{decimal a.toInt} on {host}"⟩
  | "fail_if" => some (fallible .int64 .int64 (failIf n))
  | "fail_over" => some (fallible .int64 .text (failOver n))
  | "parse" => some (fallible .text .int64 parse)
  | "always_fail" => some (fallible .int64 .int64 fun _ => .error message)
  | "panic_if" => some ⟨.int64, .int64, .slow (panicIf n)⟩
  | "wait" => some ⟨.int64, .int64, .slow wait⟩
  | _ => none

end Conduit.Catalogue
