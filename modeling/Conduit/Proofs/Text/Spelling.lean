import Conduit.Proofs.Error.Verdict
import Conduit.Text.Blank
import Conduit.Text.Numeral
import Mathlib.Algebra.Group.Nat.Defs
import Mathlib.Data.List.DropRight

/-! # Texts trimmed and read as numerals

Trimming a text takes all blanks off both its ends and nothing else (`Conduit.Text.trims_iff`).
A numeral is read as the number that its digits stand for, behind a plus sign or without one, as
long as this fits sixty-four bits. In every other text there is a first thing wrong, from left to
right, and it is the one that is reported (`Conduit.Text.parseNat64_decides`).
-/

namespace Conduit.Text

/-! ## Blanks around a text -/

/-- The text is this one with blanks around it, and there are no more of them. -/
inductive Trims (text : String) (core : List Char) : Prop
  | between {before after : List Char} (split : text.toList = before ++ core ++ after)
      (leading : ∀ c ∈ before, isBlank c = true) (trailing : ∀ c ∈ after, isBlank c = true)
      (first : ∀ c ∈ core.head?, isBlank c = false)
      (last : ∀ c ∈ core.getLast?, isBlank c = false) : Trims text core

theorem toList_trim (text : String) :
    (trim text).toList = (text.toList.dropWhile isBlank).rdropWhile isBlank := by
  rw [trim, String.toList_ofList, List.rdropWhile]

theorem Trims.trim_eq {text : String} {core : List Char} (trims : Trims text core) :
    (trim text).toList = core := by
  obtain ⟨split, leading, trailing, first, last⟩ := trims
  rw [toList_trim, split, List.append_assoc, List.dropWhile_append_of_pos leading]
  cases core with
  | nil =>
      have none_left : List.dropWhile isBlank _ = [] := List.dropWhile_eq_nil_iff.mpr trailing
      rw [List.nil_append, none_left, List.rdropWhile_nil]
  | cons c rest =>
      have kept : isBlank c = false := first c rfl
      rw [List.cons_append, List.dropWhile_cons_of_neg (by simp [kept]), ← List.cons_append,
        List.rdropWhile, List.reverse_append,
        List.dropWhile_append_of_pos fun d member => trailing d (List.mem_reverse.mp member)]
      refine List.rdropWhile_eq_self_iff.mpr fun some => ?_
      simp [last _ (List.getLast?_eq_some_getLast some)]

theorem trims_trim (text : String) : Trims text (trim text).toList := by
  have split : text.toList = text.toList.takeWhile isBlank ++ (trim text).toList ++
      (text.toList.dropWhile isBlank).rtakeWhile isBlank := by
    rw [toList_trim, List.append_assoc, List.rdropWhile_append_rtakeWhile,
      List.takeWhile_append_dropWhile]
  rw [toList_trim] at split ⊢
  refine .between split ?_ ?_ ?_ ?_
  · exact fun c => List.mem_takeWhile_imp
  · intro c member
    rw [List.rtakeWhile, List.mem_reverse] at member
    exact List.mem_takeWhile_imp member
  · intro c head
    obtain ⟨dropped, whole⟩ := List.rdropWhile_prefix isBlank (l := text.toList.dropWhile isBlank)
    have first := List.head?_dropWhile_not isBlank text.toList
    rw [← whole, List.head?_append, Option.mem_def.mp head] at first
    exact first
  · intro c member
    have some : (text.toList.dropWhile isBlank).rdropWhile isBlank ≠ [] := by
      intro none
      simp [none] at member
    have last := List.rdropWhile_last_not isBlank _ some
    rw [Option.mem_def, List.getLast?_eq_some_getLast some, Option.some_inj] at member
    simpa [member] using last

/-- **Trimming leaves just this.** -/
theorem trims_iff {text : String} {core : List Char} :
    Trims text core ↔ (trim text).toList = core := by
  refine ⟨Trims.trim_eq, ?_⟩
  rintro rfl
  exact trims_trim text

/-- A text of which nothing is left has blanks only. -/
theorem isEmpty_trim_iff {text : String} :
    (trim text).isEmpty = true ↔ ∀ c ∈ text.toList, isBlank c = true := by
  rw [String.isEmpty_iff, ← String.toList_eq_nil_iff, ← trims_iff]
  constructor
  · rintro ⟨split, leading, trailing, _, _⟩
    intro c member
    rw [split, List.append_nil, List.mem_append] at member
    exact member.elim (leading c) (trailing c)
  · intro blank
    have split : text.toList = text.toList ++ [] ++ [] := by simp
    exact .between split blank nofun nofun nofun

/-! ## Digits up to a limit -/

/-- The number that decimal digits stand for, with a number in front of them. -/
abbrev valueAfter (value : Nat) (digits : List Char) : Nat := Nat.ofDigitChars 10 digits value

theorem valueAfter_cons (value : Nat) (c : Char) (rest : List Char) :
    valueAfter value (c :: rest) = valueAfter (valueAfter value [c]) rest := by
  simp [valueAfter, Nat.ofDigitChars_cons]

theorem le_valueAfter (digits : List Char) (value : Nat) : value ≤ valueAfter value digits := by
  induction digits generalizing value with
  | nil => exact Nat.le_refl _
  | cons c rest ih =>
      rw [valueAfter, Nat.ofDigitChars_cons]
      exact Nat.le_trans (by omega) (ih _)

/-- The first thing wrong with a run of digits: a character that is none, or the digit with
which the number exceeds the limit. -/
inductive Breaks (limit : Nat) (beyond : NumeralFault) (value : Nat) (text : List Char) :
    NumeralFault → Prop
  | notDigit {digits rest : List Char} {c : Char} (split : text = digits ++ c :: rest)
      (read : ∀ d ∈ digits, d.isDigit = true) (within_limit : valueAfter value digits ≤ limit)
      (other : c.isDigit = false) : Breaks limit beyond value text .invalidDigit
  | exceeds {digits rest : List Char} {c : Char} (split : text = digits ++ c :: rest)
      (read : ∀ d ∈ digits, d.isDigit = true) (within_limit : valueAfter value digits ≤ limit)
      (digit : c.isDigit = true) (above : limit < valueAfter value (digits ++ [c])) :
      Breaks limit beyond value text beyond

section Digits

variable {limit : Nat} {beyond : NumeralFault}

theorem readDigits_cons {c : Char} (digit : c.isDigit = true) (value : Nat) (rest : List Char) :
    readDigits limit beyond value (c :: rest) =
      if valueAfter value [c] ≤ limit then readDigits limit beyond (valueAfter value [c]) rest
      else .error beyond := by
  rw [readDigits, digitValue?, if_pos digit, valueAfter, Nat.ofDigitChars_cons,
    Nat.ofDigitChars_nil, Nat.mul_comm]

/-- Digits that stay within the limit are read, and reading goes on behind them. -/
theorem readDigits_append {digits : List Char} (read : ∀ d ∈ digits, d.isDigit = true)
    {value : Nat} (within_limit : valueAfter value digits ≤ limit) (rest : List Char) :
    readDigits limit beyond value (digits ++ rest) =
      readDigits limit beyond (valueAfter value digits) rest := by
  induction digits generalizing value with
  | nil => rfl
  | cons c more ih =>
      rw [valueAfter_cons] at within_limit ⊢
      have first := Nat.le_trans (le_valueAfter more _) within_limit
      rw [List.cons_append, readDigits_cons (read c List.mem_cons_self), if_pos first,
        ih (fun d member => read d (List.mem_cons_of_mem c member)) within_limit]

theorem Breaks.readDigits {value : Nat} {text : List Char} {fault : NumeralFault}
    (breaks : Breaks limit beyond value text fault) :
    readDigits limit beyond value text = .error fault := by
  cases breaks with
  | notDigit split read within_limit other =>
      rw [split, readDigits_append read within_limit, Text.readDigits, digitValue?,
        if_neg (by simp [other])]
  | @exceeds digits rest c split read within_limit digit above =>
      have onward :
          valueAfter value (digits ++ [c]) = valueAfter (valueAfter value digits) [c] := by
        simp [valueAfter, Nat.ofDigitChars_append]
      rw [onward] at above
      rw [split, readDigits_append read within_limit, readDigits_cons digit,
        if_neg (Nat.not_le.mpr above)]

/-- What is wrong behind a digit is wrong with it as well. -/
theorem Breaks.cons {value : Nat} {c : Char} {rest : List Char} {fault : NumeralFault}
    (digit : c.isDigit = true) (breaks : Breaks limit beyond (valueAfter value [c]) rest fault) :
    Breaks limit beyond value (c :: rest) fault := by
  cases breaks with
  | @notDigit digits after d split read within_limit other =>
      have longer : c :: rest = (c :: digits) ++ d :: after := congrArg (c :: ·) split
      rw [← valueAfter_cons] at within_limit
      exact .notDigit longer (List.forall_mem_cons.mpr ⟨digit, read⟩) within_limit other
  | @exceeds digits after d split read within_limit digit' above =>
      have longer : c :: rest = (c :: digits) ++ d :: after := congrArg (c :: ·) split
      rw [← valueAfter_cons] at within_limit above
      exact .exceeds longer (List.forall_mem_cons.mpr ⟨digit, read⟩) within_limit digit' above

/-- A text consists of digits that stay within the limit, or something is wrong with it. -/
theorem digits_or_breaks (text : List Char) (value : Nat) (within_limit : value ≤ limit) :
    ((∀ d ∈ text, d.isDigit = true) ∧ valueAfter value text ≤ limit) ∨
      ∃ fault, Breaks limit beyond value text fault := by
  induction text generalizing value with
  | nil => exact .inl ⟨nofun, within_limit⟩
  | cons c rest ih =>
      have split : c :: rest = [] ++ c :: rest := rfl
      cases digit : c.isDigit with
      | false => exact .inr ⟨_, .notDigit split nofun within_limit digit⟩
      | true =>
          by_cases fits : valueAfter value [c] ≤ limit
          · rcases ih _ fits with ⟨read, small⟩ | ⟨fault, breaks⟩
            · rw [← valueAfter_cons] at small
              exact .inl ⟨List.forall_mem_cons.mpr ⟨digit, read⟩, small⟩
            · exact .inr ⟨fault, breaks.cons digit⟩
          · exact .inr ⟨_, .exceeds split nofun within_limit digit (Nat.not_le.mp fits)⟩

end Digits

/-! ## Numerals -/

/-- The text is a decimal numeral of this number: digits, one plus sign may lead, and the number
fits sixty-four bits. -/
inductive Writes (text : List Char) (n : Nat) : Prop
  | numeral {digits : List Char} (signed : text = '+' :: digits ∨ text = digits)
      (nonempty : digits ≠ []) (read : ∀ c ∈ digits, c.isDigit = true)
      (value : Nat.ofDigitChars 10 digits 0 = n) (small : n < 2 ^ 64) : Writes text n

/-- Why a text is not such a numeral: it is empty, or nothing follows its plus sign, or there is a
first thing wrong with what should be its digits. -/
inductive Misspells (text : List Char) : NumeralFault → Prop
  | empty (none : text = []) : Misspells text .empty
  | plusAlone (plus : text = ['+']) : Misspells text .invalidDigit
  | wrong {digits : List Char} {fault : NumeralFault}
      (signed : text = '+' :: digits ∨ text = digits ∧ digits.head? ≠ some '+')
      (breaks : Breaks (2 ^ 64 - 1) .tooLarge 0 digits fault) : Misspells text fault

theorem Breaks.ne_nil {limit value : Nat} {beyond fault : NumeralFault} {text : List Char}
    (breaks : Breaks limit beyond value text fault) : text ≠ [] := by
  cases breaks with
  | notDigit split => simp [split]
  | exceeds split => simp [split]

theorem readMagnitude_eq {limit : Nat} {beyond : NumeralFault} {digits : List Char}
    (nonempty : digits ≠ []) :
    readMagnitude limit beyond digits = readDigits limit beyond 0 digits := by
  cases digits with
  | nil => exact absurd rfl nonempty
  | cons c rest => rfl

theorem parseNat64_plus {text : String} {digits : List Char}
    (signed : text.toList = '+' :: digits) :
    parseNat64 text = readMagnitude (2 ^ 64 - 1) .tooLarge digits := by
  rw [parseNat64, signed]
  rfl

theorem parseNat64_unsigned {text : String} (nonempty : text.toList ≠ [])
    (unsigned : text.toList.head? ≠ some '+') :
    parseNat64 text = readDigits (2 ^ 64 - 1) .tooLarge 0 text.toList := by
  rw [parseNat64, ← readMagnitude_eq nonempty]
  split
  next none => exact absurd none nonempty
  next plus => rw [plus] at unsigned; exact absurd rfl unsigned
  next => rfl

theorem head?_ne_plus {digits : List Char} (read : ∀ c ∈ digits, c.isDigit = true) :
    digits.head? ≠ some '+' := by
  intro plus
  have digit := read '+' (List.mem_of_mem_head? plus)
  cases digit

theorem readDigits_eq_value {limit : Nat} {digits : List Char}
    (read : ∀ c ∈ digits, c.isDigit = true) (within_limit : valueAfter 0 digits ≤ limit)
    (beyond : NumeralFault) : readDigits limit beyond 0 digits = .ok (valueAfter 0 digits) := by
  rw [← List.append_nil digits, readDigits_append read within_limit]
  rw [List.append_nil, readDigits]

theorem Writes.parseNat64 {text : String} {n : Nat} (writes : Writes text.toList n) :
    parseNat64 text = .ok n := by
  obtain ⟨signed, nonempty, read, rfl, small⟩ := writes
  have reads := readDigits_eq_value read (Nat.le_sub_one_of_lt small) .tooLarge
  rcases signed with plus | unsigned
  · rw [parseNat64_plus plus, readMagnitude_eq nonempty, reads]
  · subst unsigned
    rw [parseNat64_unsigned nonempty (head?_ne_plus read), reads]

theorem Misspells.parseNat64 {text : String} {fault : NumeralFault}
    (misspells : Misspells text.toList fault) : parseNat64 text = .error fault := by
  cases misspells with
  | empty none => rw [Text.parseNat64, none]
  | plusAlone plus => rw [parseNat64_plus plus, readMagnitude]
  | wrong signed breaks =>
      rcases signed with plus | ⟨unsigned, head⟩
      · rw [parseNat64_plus plus, readMagnitude_eq breaks.ne_nil, breaks.readDigits]
      · subst unsigned
        rw [parseNat64_unsigned breaks.ne_nil head, breaks.readDigits]

theorem writes_or_misspells (text : List Char) :
    (∃ n, Writes text n) ∨ ∃ fault, Misspells text fault := by
  cases text with
  | nil => exact .inr ⟨_, .empty rfl⟩
  | cons c rest =>
      by_cases plus : c = '+'
      · subst plus
        by_cases alone : rest = []
        · exact .inr ⟨_, .plusAlone (by rw [alone])⟩
        · rcases digits_or_breaks rest 0 (Nat.zero_le (2 ^ 64 - 1)) with
            ⟨read, fits⟩ | ⟨fault, breaks⟩
          · exact .inl ⟨_, .numeral (.inl rfl) alone read rfl (by rw [valueAfter] at fits; omega)⟩
          · exact .inr ⟨fault, .wrong (.inl rfl) breaks⟩
      · have head : (c :: rest).head? ≠ some '+' := by simpa using plus
        rcases digits_or_breaks (c :: rest) 0 (Nat.zero_le (2 ^ 64 - 1)) with
          ⟨read, fits⟩ | ⟨fault, breaks⟩
        · exact .inl ⟨_, .numeral (.inr rfl) (List.cons_ne_nil c rest) read rfl
            (by rw [valueAfter] at fits; omega)⟩
        · exact .inr ⟨fault, .wrong (.inr ⟨rfl, head⟩) breaks⟩

/-- **Just numerals are read**, as their numbers; everything else is refused for the first thing
wrong with it. -/
theorem parseNat64_decides (text : String) :
    Decides (parseNat64 text) (Writes text.toList) (Misspells text.toList) :=
  .of_total (fun _ => Writes.parseNat64) (fun _ => Misspells.parseNat64)
    (writes_or_misspells text.toList)

end Conduit.Text
