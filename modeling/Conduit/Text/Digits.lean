/-! # Digits to a base

The values of digits up to base sixteen, whose letters may be of either case, and the
numbers and characters that runs of digits stand for.
-/

namespace Conduit.Text

/-- The value of a hexadecimal digit. -/
def hexValue? (c : Char) : Option Nat :=
  if c.isDigit then some (c.toNat - '0'.toNat)
  else if 'a' ≤ c ∧ c ≤ 'f' then some (c.toNat - 'a'.toNat + 10)
  else if 'A' ≤ c ∧ c ≤ 'F' then some (c.toNat - 'A'.toNat + 10)
  else none

/-- The value of a digit to a base up to sixteen. -/
def digit? (base : Nat) (c : Char) : Option Nat := (hexValue? c).filter (· < base)

/-- The number that digits to a base stand for; there is at least one. -/
def number? (base : Nat) (ds : List Char) : Option Nat :=
  if ds.isEmpty then none else ds.foldlM (fun n c => (digit? base c).map (n * base + ·)) 0

/-- The character whose code point is given in `count` hexadecimal digits in front. -/
def codePoint? (count : Nat) (cs : List Char) : Option (Char × List Char) := do
  let ds := cs.take count
  if ds.length < count then none
  let n ← number? 16 ds
  if Nat.isValidChar n then return (Char.ofNat n, cs.drop count) else none

end Conduit.Text
