import Conduit.Catalogue.Element

/-! # A catalogue of stages

The stages by name. Integers wrap around unless a stage is there to refuse that.
-/

namespace Conduit.Catalogue

/-- The type of integers as a running value. -/
def int : ValueType := .data .int64

/-- The type of texts as a running value. -/
def string : ValueType := .data .text

/-- The type of lists of integers as a running value. -/
def ints : ValueType := .data (.list .int64)

/-- The type of lists of texts as a running value. -/
def strings : ValueType := .data (.list .text)

/-- The type of optional integers as a running value. -/
def intOption : ValueType := .data (.option .int64)

/-- A stage that applies a function without calls to report. -/
def map (a b : ValueType) (f : a.Carrier → b.Carrier) : Stage := Stage.map a b fun x => pure (f x)

/-- The longest range. -/
def rangeLimit : Nat := 1000

/-- The numbers from zero up to `a`, which is left out; none for a negative `a`. -/
def range (a : Int64) : List Int64 :=
  (List.range (min a.toInt.toNat rangeLimit)).map Int64.ofNat

/-- The sum, refused when it leaves the range. -/
def checkedAdd (n a : Int64) : Except String Int64 :=
  let sum := a.toInt + n.toInt
  if -0x8000000000000000 ≤ sum ∧ sum < 0x8000000000000000 then .ok (a + n)
  else .error s!"overflow: {decimal a.toInt} + {decimal n.toInt}"

/-- The quotient toward zero. -/
def checkedDiv (n a : Int64) : Except String Int64 :=
  if n = 0 then .error "division by zero"
  else if n = -1 ∧ a = Int64.minValue then .error "overflow"
  else .ok (a / n)

/-- The number itself, if it is below `n`. -/
def below (n a : Int64) : Except String Int64 :=
  if a < n then .ok a else .error s!"{decimal a.toInt} is not below {decimal n.toInt}"

/-- The sum of the products of corresponding entries, as far as both lists go. -/
def dot (v a : List Int64) : Int64 := sum (List.zipWith (· * ·) v a)

/-- The entry at a place; none before the start and past the end. -/
def lookup (v : List Int64) (i : Int64) : Option Int64 :=
  if i < 0 then none else v[i.toInt.toNat]?

/-- The number of characters of `a` that occur in `p`. -/
def countOccurring (p a : String) : Int64 :=
  Int64.ofNat (a.toList.filter (p.toList.contains ·)).length

/-- The stage of a name, for those that need no more than a number and a text. -/
def stage? (name : String) (n : Int64) (s : String) : Option Stage :=
  match name with
  | "add" => some (map int int fun (a : Int64) => a + n)
  | "mul" => some (map int int fun (a : Int64) => a * n)
  | "show" => some (map int string fun (a : Int64) => decimal a.toInt)
  | "range" => some (map int ints range)
  | "positive" => some (map int intOption fun (a : Int64) => if 0 < a then some a else none)
  | "str_len" => some (map string int fun (t : String) => Int64.ofNat t.length)
  | "append" => some (map string string fun (t : String) => t ++ s)
  | "rev" => some (map string string fun (t : String) => String.ofList t.toList.reverse)
  | "chars" => some (map string strings fun (t : String) => t.toList.map String.singleton)
  | "join" => some (map strings string fun (ts : List String) => s.intercalate ts)
  | "sum" => some (map ints int sum)
  | "count" => some (map ints int fun (xs : List Int64) => Int64.ofNat xs.length)
  | "push" => some (map ints ints fun (xs : List Int64) => xs ++ [n])
  | "unwrap_or" => some (map intOption int fun (o : Option Int64) => o.getD n)
  | "fn_add" => some (map int (.closure int int) fun (k : Int64) (a : Int64) => a + k)
  | "fn_mul" => some (map int (.closure int int) fun (k : Int64) (a : Int64) => a * k)
  | "fn_curry" => some (map int (.closure int (.closure int int))
      fun (k : Int64) (a : Int64) (b : Int64) => b * k + a)
  | "fn_label" => some (map string (.closure int string)
      fun (p : String) (a : Int64) => s!"{p}: {decimal a.toInt}")
  | "fn_prefix" => some (map string (.closure string string)
      fun (p : String) (a : String) => p ++ a)
  | "fn_count" => some (map string (.closure string int) countOccurring)
  | "fn_dot" => some (map ints (.closure ints int) dot)
  | "fn_extend" => some (map ints (.closure ints ints)
      fun (v : List Int64) (a : List Int64) => a ++ v)
  | "fn_lookup" => some (map ints (.closure int intOption) lookup)
  | "parse" => some (Stage.tryMap string int parse)
  | "checked_add" => some (Stage.tryMap int int (checkedAdd n))
  | "div" => some (Stage.tryMap int int (checkedDiv n))
  | "below" => some (Stage.tryMap int int (below n))
  | "pass" => some (.transform fun v => pure (.ok v))
  | _ => none

/-- The stage that gives the same value whatever the running one is. -/
def const (value : Value) : Stage := .transform fun _ => pure (.ok value)

/-- The stage that always fails. -/
def raise (error : Error) : Stage := .transform fun _ => pure (.error error)

/-- The stage that applies the function its inner pipeline gives, by the function's
signature. -/
def ap? (signature : String) (inner : Pipeline) : Option Stage :=
  match signature with
  | "i64->i64" => some (Stage.apClosure int int inner)
  | "i64->String" => some (Stage.apClosure int string inner)
  | "String->String" => some (Stage.apClosure string string inner)
  | "String->i64" => some (Stage.apClosure string int inner)
  | "Vec->i64" => some (Stage.apClosure ints int inner)
  | "Vec->Vec" => some (Stage.apClosure ints ints inner)
  | "i64->Option" => some (Stage.apClosure int intOption inner)
  | "curry" => some (Stage.apClosure int (.closure int int) inner)
  | "fn" => some (Stage.apFunction .int64 .int64 inner)
  | _ => none

/-- Glue that adds the inner result and the running value. -/
def addGlue (function argument : Value) : Outcome := pure do
  let a : Int64 ← function.downcast int
  let b : Int64 ← argument.downcast int
  return ⟨int, (a + b : Int64)⟩

/-- The stage that joins its inner result with the running value, by the name of the
glue; `error` is what the glue that always fails fails with. -/
def applyWith? (glue : String) (error : Option Error) (inner : Pipeline) : Option Stage :=
  match glue, error with
  | "add", _ => some (.apply inner addGlue)
  | "inner", _ => some (.apply inner fun function _ => pure (.ok function))
  | "outer", _ => some (.apply inner fun _ argument => pure (.ok argument))
  | "raise", some e => some (.apply inner fun _ _ => pure (.error e))
  | _, _ => none

/-- The plain function of a name. -/
def function? (name : String) : Option (Int64 → Int64) :=
  match name with
  | "double" => some (· * 2)
  | "inc" => some (· + 1)
  | "neg" => some (0 - ·)
  | _ => none

/-- A pipeline around another one, `times` over: each level starts from zero, applies
the function of the added constant that the level within gives, and goes on with
`after`. -/
def nest (after : List Stage) : (times : Nat) → Pipeline → Pipeline
  | 0, p => p
  | times + 1, p =>
      let functions := p.andThen (map int (.closure int int) fun (k : Int64) (a : Int64) => a + k)
      nest after times ⟨⟨int, (0 : Int64)⟩, Stage.apClosure int int functions :: after⟩

end Conduit.Catalogue
