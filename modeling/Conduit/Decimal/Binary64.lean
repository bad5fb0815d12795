/-! # Binary floating-point numbers

A floating-point number is its sixty-four bits, so that two numbers are the same
exactly when no observation tells them apart. A finite number other than zero is
`significand * 2 ^ exponent`, with the significand below `2 ^ 53`.
-/

namespace Conduit.Decimal

/-- A double-precision number, given by its IEEE 754 bits. -/
structure Binary64 where
  bits : UInt64
  deriving DecidableEq, Inhabited

namespace Binary64

/-- The number that the machine's floating-point arithmetic computed. -/
def ofFloat (value : Float) : Binary64 := ⟨value.toBits⟩

/-- The number as an operand of the machine's floating-point arithmetic. -/
def toFloat (x : Binary64) : Float := Float.ofBits x.bits

/-- The sign bit: set for negative numbers and for negative zero. -/
def isNegative (x : Binary64) : Bool := x.bits >>> 63 == 1

/-- The eleven exponent bits. -/
def biasedExponent (x : Binary64) : Nat := ((x.bits >>> 52) &&& 0x7ff).toNat

/-- The fifty-two bits below the exponent. -/
def fraction (x : Binary64) : Nat := (x.bits &&& 0xfffffffffffff).toNat

/-- Neither infinite nor undefined. -/
def isFinite (x : Binary64) : Bool := x.biasedExponent != 0x7ff

/-- Undefined, whatever the payload. -/
def isNaN (x : Binary64) : Bool := x.biasedExponent == 0x7ff && x.fraction != 0

/-- One of the two zeros. -/
def isZero (x : Binary64) : Bool := x.bits <<< 1 == 0

/-- The whole number that multiplies the power of two. -/
def significand (x : Binary64) : Nat :=
  if x.biasedExponent = 0 then x.fraction else x.fraction + 0x10000000000000

/-- The power of two that one unit of the significand stands for. -/
def exponent (x : Binary64) : Int :=
  if x.biasedExponent = 0 then -1074 else (x.biasedExponent : Int) - 1075

/-- The number of the opposite sign. -/
def neg (x : Binary64) : Binary64 := ⟨x.bits ^^^ 0x8000000000000000⟩

/-- The nearest number to a natural one; of two equally near, the even one. -/
def ofNat (n : Nat) : Binary64 := ofFloat (Float.ofNat n)

/-- The nearest number to an integer; of two equally near, the even one. -/
def ofInt (n : Int) : Binary64 :=
  if n < 0 then (ofNat n.natAbs).neg else ofNat n.natAbs

/-- One divided by the number. An undefined operand gives itself, made quiet. -/
def inverse (x : Binary64) : Binary64 :=
  if x.isNaN then ⟨x.bits ||| 0x8000000000000⟩ else ofFloat (1.0 / x.toFloat)

end Binary64

end Conduit.Decimal
