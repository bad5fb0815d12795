import Conduit.Decimal.Scale
import Conduit.Json.Basic

/-! # Numbers in JSON text

The grammar of a number, apart from the value it stands for. A numeral without
fraction and exponent that fits sixty-four bits, signed or unsigned, is an
integer. Every other one is a floating-point number, read from as many leading
digits as fit an unsigned word.
-/

namespace Conduit.Json

open Decimal (Binary64)

/-- A number as it is written. -/
structure Numeral where
  negative : Bool
  whole : List Char
  /-- The digits after the point; empty when there is no point. -/
  fraction : List Char
  /-- The digits of the exponent and whether it is negative. -/
  power : Option (Bool × List Char)

namespace Numeral

/-- The digits in front of a text, and what follows them. -/
def digits (cs : List Char) : List Char × List Char :=
  (cs.takeWhile Char.isDigit, cs.dropWhile Char.isDigit)

/-- The whole part: a zero alone, or digits that do not start with zero. -/
def whole? (cs : List Char) : Option (List Char × List Char) :=
  match digits cs with
  | ([], _) => none
  | ('0' :: _ :: _, _) => none
  | parts => some parts

/-- The fraction, if a point leads; it has a digit at least. -/
def fraction? (cs : List Char) : Option (List Char × List Char) :=
  match cs with
  | '.' :: rest =>
      match digits rest with
      | ([], _) => none
      | parts => some parts
  | rest => some ([], rest)

/-- The digits of an exponent of the given sign. -/
def powerDigits? (negative : Bool) (cs : List Char) :
    Option (Option (Bool × List Char) × List Char) :=
  match digits cs with
  | ([], _) => none
  | (ds, rest) => some (some (negative, ds), rest)

/-- The exponent after its letter. -/
def signedPower? (cs : List Char) : Option (Option (Bool × List Char) × List Char) :=
  match cs with
  | '+' :: rest => powerDigits? false rest
  | '-' :: rest => powerDigits? true rest
  | rest => powerDigits? false rest

/-- The exponent, if its letter leads. -/
def power? (cs : List Char) : Option (Option (Bool × List Char) × List Char) :=
  match cs with
  | 'e' :: rest => signedPower? rest
  | 'E' :: rest => signedPower? rest
  | rest => some (none, rest)

/-- The number in front of a text after its sign. -/
def unsigned? (negative : Bool) (cs : List Char) : Option (Numeral × List Char) := do
  let (whole, rest) ← whole? cs
  let (fraction, rest) ← fraction? rest
  let (power, rest) ← power? rest
  return (⟨negative, whole, fraction, power⟩, rest)

/-- The number in front of a text. -/
def read? (cs : List Char) : Option (Numeral × List Char) :=
  match cs with
  | '-' :: rest => unsigned? true rest
  | rest => unsigned? false rest

/-- The number that digits stand for. -/
def natOf (ds : List Char) : Nat :=
  ds.foldl (fun n c => n * 10 + (c.toNat - '0'.toNat)) 0

/-- Takes digits onto `n` while the result fits an unsigned word; also counts the
digits taken. -/
def takeWord (n : Nat) : List Char → Nat × Nat
  | [] => (n, 0)
  | c :: rest =>
      let next := n * 10 + (c.toNat - '0'.toNat)
      if next < 0x10000000000000000 then
        let (m, count) := takeWord next rest
        (m, count + 1)
      else (n, 0)

/-- The exponent that is written; zero when none is. -/
def writtenPower (n : Numeral) : Int :=
  match n.power with
  | none => 0
  | some (true, ds) => -(natOf ds : Int)
  | some (false, ds) => natOf ds

/-- The number as a floating-point one. Digits of the whole part that are not
taken count as places; those of the fraction are dropped. -/
def float? (n : Numeral) : Option Binary64 :=
  let (upper, taken) := takeWord 0 n.whole
  let (significand, places) := takeWord upper n.fraction
  let dropped := n.whole.length - taken
  Decimal.readScaled? n.negative significand (dropped - places + n.writtenPower)

/-- The value of a number; nothing when no double is large enough. -/
def value? (n : Numeral) : Option Json :=
  match n.fraction, n.power with
  | [], none =>
      let size := natOf n.whole
      if n.negative then
        if 0 < size ∧ size ≤ 0x8000000000000000 then some (int (-(size : Int)))
        else n.float?.map float
      else if size < 0x10000000000000000 then some (int size)
      else n.float?.map float
  | _, _ => n.float?.map float

end Numeral

end Conduit.Json
