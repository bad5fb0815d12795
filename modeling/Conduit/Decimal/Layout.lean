import Conduit.Decimal.Shortest

/-! # Writing floating-point numbers

A number is written positionally, with at least one digit after the point, when
its leading digit stands for a power of ten from `10^-5` to `10^15`. Otherwise it
has one digit before the point and an exponent with its sign.
-/

namespace Conduit.Decimal

/-- The digits of a natural number. -/
def digitsOf (n : Nat) : List Char := Nat.toDigits 10 n

/-- The digits of an integer, after a minus sign if it is negative. -/
def integerText (n : Int) : List Char :=
  if n < 0 then '-' :: digitsOf n.natAbs else digitsOf n.natAbs

/-- The powers of ten whose numbers are written positionally. -/
def isPositional (leading : Int) : Bool := -5 ≤ leading && leading ≤ 15

/-- A positive decimal without an exponent. -/
def positional (digits : List Char) (leading : Int) : List Char :=
  if leading < 0 then
    '0' :: '.' :: (List.replicate ((-leading).toNat - 1) '0' ++ digits)
  else
    let whole := leading.toNat + 1
    let tail := digits.drop whole
    digits.take whole ++ List.replicate (whole - digits.length) '0' ++
      '.' :: (if tail.isEmpty then ['0'] else tail)

/-- A positive decimal with an exponent. -/
def scientific (digits : List Char) (leading : Int) : List Char :=
  let tail := digits.drop 1
  digits.take 1 ++ (if tail.isEmpty then [] else '.' :: tail) ++
    'e' :: (if leading < 0 then '-' else '+') :: digitsOf leading.natAbs

/-- A positive decimal in the notation its size calls for. -/
def Figure.text (d : Figure) : List Char :=
  let digits := digitsOf d.digits
  let leading := d.exponent + digits.length - 1
  if isPositional leading then positional digits leading else scientific digits leading

/-- The text of a finite number. -/
def Binary64.text (x : Binary64) : List Char :=
  let size := if x.isZero then ['0', '.', '0'] else (shortest x).text
  if x.isNegative then '-' :: size else size

end Conduit.Decimal
