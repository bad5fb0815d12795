import Conduit.Decimal.Binary64

/-! # The shortest decimal that reads back

Every finite floating-point number is surrounded by an interval of reals that
round to it. Among the decimals in that interval the one with the fewest digits
is chosen, and among those of equal length the nearest. All arithmetic is exact.
-/

namespace Conduit.Decimal

/-- The decimal `digits * 10 ^ exponent`. -/
structure Figure where
  digits : Nat
  exponent : Int
  deriving DecidableEq, Repr

/-- The decimal without the zeros its digits end in. -/
def Figure.strip : (fuel : Nat) → Figure → Figure
  | 0, d => d
  | fuel + 1, d =>
      if d.digits % 10 = 0 then strip fuel ⟨d.digits / 10, d.exponent + 1⟩ else d

/-- The interval of reals that round to a positive number, as numerators over one
common denominator. The ends belong to it when the significand is even. -/
structure Interval where
  low : Nat
  value : Nat
  high : Nat
  scale : Nat
  closed : Bool

/-- The interval of a positive finite number. The lower half is shorter when the
significand is the least of its exponent. -/
def Interval.of (x : Binary64) : Interval :=
  let m := x.significand
  let below := if m = 0x10000000000000 ∧ 1 < x.biasedExponent then 1 else 2
  let e := x.exponent
  let up := Nat.pow 2 e.toNat
  ⟨(4 * m - below) * up, 4 * m * up, (4 * m + 2) * up, 4 * Nat.pow 2 (-e).toNat, m % 2 == 0⟩

/-- The interval with every real multiplied by `10 ^ power`. -/
def Interval.shift (i : Interval) (power : Int) : Interval :=
  let up := Nat.pow 10 power.toNat
  ⟨i.low * up, i.value * up, i.high * up, i.scale * Nat.pow 10 (-power).toNat, i.closed⟩

/-- Whether a whole number lies in the interval. -/
def Interval.holds (i : Interval) (n : Nat) : Bool :=
  let at_ := n * i.scale
  if i.closed then i.low ≤ at_ && at_ ≤ i.high else i.low < at_ && at_ < i.high

/-- The whole number of the interval that is nearest to its value, if either
neighbour of the value lies in it; a tie goes to the even neighbour. -/
def Interval.nearest? (i : Interval) : Option Nat :=
  let floor := i.value / i.scale
  let rest := 2 * (i.value % i.scale)
  let preferUp := i.scale < rest || (rest == i.scale && floor % 2 == 1)
  match i.holds floor, i.holds (floor + 1) with
  | true, true => some (if preferUp then floor + 1 else floor)
  | true, false => some floor
  | false, true => some (floor + 1)
  | false, false => none

/-- The power of ten of the leading digit: the largest `k` with
`10 ^ k ≤ value / scale`. -/
def Interval.leading (i : Interval) : Int :=
  let whole := i.value / i.scale
  if whole = 0 then
    let spread := (Nat.toDigits 10 (i.scale / i.value)).length
    if i.scale ≤ i.value * Nat.pow 10 (spread - 1) then -((spread : Int) - 1) else -(spread : Int)
  else (Nat.toDigits 10 whole).length - 1

/-- The first grid, of `count` digits or more, on which a decimal of the interval
lies. Seventeen digits always suffice. -/
def Interval.search (i : Interval) (leading : Int) : (fuel count : Nat) → Figure
  | 0, count => ⟨(i.shift (count - 1 - leading)).value / i.scale, leading - count + 1⟩
  | fuel + 1, count =>
      match (i.shift (count - 1 - leading)).nearest? with
      | some digits => ⟨digits, leading - count + 1⟩
      | none => search i leading fuel (count + 1)

/-- The shortest decimal that reads back as the positive finite number. -/
def shortest (x : Binary64) : Figure :=
  let i := Interval.of x
  (i.search i.leading 17 1).strip 17

end Conduit.Decimal
