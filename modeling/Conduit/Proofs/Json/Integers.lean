import Conduit.Decimal.Layout
import Conduit.Json.Number
import Mathlib.Algebra.Group.Nat.Defs

/-! # Integers read back

The digits of a natural number are read as this number and end where they end, as long
as no digit, point or exponent follows them (`Conduit.Json.EndsNumber`). An integer of
word size reads back from its text; a larger one is taken for a floating-point number.
-/

namespace Conduit.Json

open Decimal (digitsOf integerText)

/-- The text cannot go on with a number that stands in front of it. -/
def EndsNumber (rest : List Char) : Prop :=
  ∀ c ∈ rest.head?, c.isDigit = false ∧ c ≠ '.' ∧ c ≠ 'e' ∧ c ≠ 'E'

theorem endsNumber_cons {c : Char} {rest : List Char} (digit : c.isDigit = false)
    (sign : c ≠ '.' ∧ c ≠ 'e' ∧ c ≠ 'E') : EndsNumber (c :: rest) := by
  intro d head
  obtain rfl : c = d := by simpa using head
  exact ⟨digit, sign⟩

theorem isDigit_of_mem_digitsOf {n : Nat} {c : Char} (member : c ∈ digitsOf n) :
    c.isDigit = true :=
  Nat.isDigit_of_mem_toDigits (by decide) (by decide) member

theorem digitsOf_ne_nil (n : Nat) : digitsOf n ≠ [] := Nat.toDigits_ne_nil

namespace Numeral

theorem natOf_digitsOf (n : Nat) : natOf (digitsOf n) = n := by
  have value : Nat.ofDigitChars 10 (Nat.toDigits 10 n) 0 = n := Nat.ofDigitChars_ten_toDigits
  rw [Nat.ofDigitChars_eq_foldl] at value
  simpa only [natOf, digitsOf, Nat.mul_comm] using value

theorem digits_append {ds rest : List Char} (digits? : ∀ c ∈ ds, c.isDigit = true)
    (ends : EndsNumber rest) : digits (ds ++ rest) = (ds, rest) := by
  have none : rest.takeWhile Char.isDigit = [] ∧ rest.dropWhile Char.isDigit = rest := by
    cases rest with
    | nil => exact ⟨rfl, rfl⟩
    | cons c tail =>
        have other : c.isDigit = false := (ends c (by simp)).1
        simp [other]
  rw [digits, List.takeWhile_append_of_pos digits?, List.dropWhile_append_of_pos digits?,
    none.1, none.2, List.append_nil]

/-- The digits of a positive number do not start with zero. -/
theorem leading_digitsOf (n : Nat) (positive : 0 < n) : (digitsOf n).head? ≠ some '0' := by
  have leading : ∀ d < 10, 0 < d → Nat.digitChar d ≠ '0' := by decide
  induction n using Nat.strongRecOn with
  | ind n ih =>
      rw [digitsOf, Nat.toDigits_eq_if (by decide)]
      split
      next small => simpa using leading n small positive
      next large =>
        have shorter := ih (n / 10) (by omega) (by omega)
        rw [digitsOf] at shorter
        rwa [List.head?_append, List.head?_eq_some_head Nat.toDigits_ne_nil, Option.some_or,
          ← List.head?_eq_some_head]

theorem whole_digitsOf (n : Nat) {rest : List Char} (ends : EndsNumber rest) :
    whole? (digitsOf n ++ rest) = some (digitsOf n, rest) := by
  rw [whole?, digits_append (fun _ => isDigit_of_mem_digitsOf) ends]
  split
  next none => exact absurd (congrArg Prod.fst none) (digitsOf_ne_nil n)
  next second more _ zero =>
    have digits : digitsOf n = '0' :: second :: more := congrArg Prod.fst zero
    rcases Nat.eq_zero_or_pos n with rfl | positive
    · cases digits
    · exact absurd (by rw [digits]; rfl) (leading_digitsOf n positive)
  next => rfl

/-- The digits of a number are read as a whole part without fraction and exponent. -/
theorem unsigned_digitsOf (negative : Bool) (n : Nat) {rest : List Char}
    (ends : EndsNumber rest) :
    unsigned? negative (digitsOf n ++ rest) =
      some (⟨negative, digitsOf n, [], none⟩, rest) := by
  have fraction : fraction? rest = some ([], rest) := by
    unfold fraction?
    split
    next tail => exact absurd rfl (ends '.' rfl).2.1
    next => rfl
  have power : power? rest = some (none, rest) := by
    unfold power?
    split
    next tail => exact absurd rfl (ends 'e' rfl).2.2.1
    next tail => exact absurd rfl (ends 'E' rfl).2.2.2
    next => rfl
  simp only [unsigned?, whole_digitsOf n ends, Option.bind_eq_bind, Option.bind_some, fraction,
    power]
  rfl

theorem read_digitsOf (n : Nat) {rest : List Char} (ends : EndsNumber rest) :
    read? (digitsOf n ++ rest) = some (⟨false, digitsOf n, [], none⟩, rest) := by
  rw [← unsigned_digitsOf false n ends]
  unfold read?
  split
  next tail minus =>
    obtain ⟨c, ds, digits⟩ := List.exists_cons_of_ne_nil (digitsOf_ne_nil n)
    have digit := isDigit_of_mem_digitsOf (n := n) (c := c) (by simp [digits])
    rw [digits] at minus
    cases minus
    exact absurd digit (by decide)
  next => rfl

theorem read_integerText (n : Int) {rest : List Char} (ends : EndsNumber rest) :
    read? (integerText n ++ rest) =
      some (⟨decide (n < 0), digitsOf n.natAbs, [], none⟩, rest) := by
  rw [integerText]
  split
  next negative =>
    rw [decide_eq_true negative]
    exact unsigned_digitsOf true _ ends
  next positive =>
    rw [decide_eq_false positive]
    exact read_digitsOf _ ends

/-- An integer of word size is the value of its digits. -/
theorem value_integer {n : Int} (sized : isWordSized n = true) :
    value? ⟨decide (n < 0), digitsOf n.natAbs, [], none⟩ = some (int n) := by
  simp only [isWordSized, Bool.and_eq_true, decide_eq_true_eq] at sized
  simp only [value?, natOf_digitsOf]
  by_cases negative : n < 0
  · rw [decide_eq_true negative, if_pos rfl, if_pos (by omega)]
    congr 2
    omega
  · rw [decide_eq_false negative, if_neg Bool.false_ne_true, if_pos (by omega)]
    congr 2
    omega

/-- A number that no word holds is taken for a floating-point number. -/
theorem value_large {n : Nat} (large : 2 ^ 64 ≤ n) :
    value? ⟨false, digitsOf n, [], none⟩ =
      (float? ⟨false, digitsOf n, [], none⟩).map Json.float := by
  simp only [value?, natOf_digitsOf]
  rw [if_neg Bool.false_ne_true, if_neg (by omega)]

end Numeral

end Conduit.Json
