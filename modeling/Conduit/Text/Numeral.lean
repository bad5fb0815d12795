/-! # Decimal numerals of bounded size

Reading a whole number that must fit a range. The digits are taken from left to
right and the first character that breaks the reading names the cause: a
character that is no digit, or the digit with which the number leaves the range.
-/

namespace Conduit.Text

/-- Why a text is not a numeral of the wanted range. -/
inductive NumeralFault where
  | empty
  | invalidDigit
  | tooLarge
  | tooSmall
  deriving DecidableEq, Repr

/-- The sentence that reports the fault. -/
def NumeralFault.message : NumeralFault → String
  | .empty => "cannot parse integer from empty string"
  | .invalidDigit => "invalid digit found in string"
  | .tooLarge => "number too large to fit in target type"
  | .tooSmall => "number too small to fit in target type"

/-- The value of an ASCII digit. -/
def digitValue? (c : Char) : Option Nat :=
  if c.isDigit then some (c.toNat - '0'.toNat) else none

/-- Reads digits onto `value`. The number may not exceed `limit`; the digit that
takes it past the limit is reported as `beyond`. -/
def readDigits (limit : Nat) (beyond : NumeralFault) (value : Nat) :
    List Char → Except NumeralFault Nat
  | [] => .ok value
  | c :: rest =>
      match digitValue? c with
      | none => .error .invalidDigit
      | some digit =>
          let next := value * 10 + digit
          if next ≤ limit then readDigits limit beyond next rest else .error beyond

/-- A non-empty run of digits. -/
def readMagnitude (limit : Nat) (beyond : NumeralFault) : List Char → Except NumeralFault Nat
  | [] => .error .invalidDigit
  | digits => readDigits limit beyond 0 digits

/-- A numeral without a minus sign, at most `2^64 - 1`. One plus sign may lead. -/
def parseNat64 (text : String) : Except NumeralFault Nat :=
  match text.toList with
  | [] => .error .empty
  | '+' :: digits => readMagnitude 0xffffffffffffffff .tooLarge digits
  | digits => readMagnitude 0xffffffffffffffff .tooLarge digits

/-- A signed numeral from `-2^63` to `2^63 - 1`. One sign may lead. -/
def parseInt64 (text : String) : Except NumeralFault Int64 :=
  match text.toList with
  | [] => .error .empty
  | '-' :: digits =>
      (readMagnitude 0x8000000000000000 .tooSmall digits).map fun n => Int64.ofInt (-(n : Int))
  | '+' :: digits =>
      (readMagnitude 0x7fffffffffffffff .tooLarge digits).map fun n => Int64.ofInt n
  | digits =>
      (readMagnitude 0x7fffffffffffffff .tooLarge digits).map fun n => Int64.ofInt n

end Conduit.Text
