import Conduit.Proofs.Json.Reading

/-! # Values read back

A value in good order whose numbers are integers reads back from its compact text, as
long as it does not nest more arrays and objects than the reader has budget for
(`Conduit.Json.reads_value`).
-/

namespace Conduit.Json

mutual

/-- How many arrays and objects stand around the innermost part of a value. -/
def nesting : Json → Nat
  | array elements => nestingOfElements elements + 1
  | object members => nestingOfMembers members + 1
  | _ => 0

/-- The deepest nesting among elements. -/
def nestingOfElements : List Json → Nat
  | [] => 0
  | v :: rest => max (nesting v) (nestingOfElements rest)

/-- The deepest nesting among members. -/
def nestingOfMembers : List (String × Json) → Nat
  | [] => 0
  | (_, v) :: rest => max (nesting v) (nestingOfMembers rest)

end

mutual

/-- The value has no floating-point number in it. -/
def IntegersOnly : Json → Prop
  | float _ => False
  | array elements => IntegersOnlyElements elements
  | object members => IntegersOnlyMembers members
  | _ => True

/-- No element has a floating-point number in it. -/
def IntegersOnlyElements : List Json → Prop
  | [] => True
  | v :: rest => IntegersOnly v ∧ IntegersOnlyElements rest

/-- No member has a floating-point number in it. -/
def IntegersOnlyMembers : List (String × Json) → Prop
  | [] => True
  | (_, v) :: rest => IntegersOnly v ∧ IntegersOnlyMembers rest

end

mutual

/-- The value is in good order: integers are of word size, other numbers are finite, and
the members of an object stand in the order of their names, each name once. -/
def WellFormed : Json → Prop
  | int n => isWordSized n = true
  | float x => x.isFinite = true
  | array elements => WellFormedElements elements
  | object members =>
      (members.map Prod.fst).Pairwise (· < ·) ∧ WellFormedMembers members
  | _ => True

/-- Every element is in good order. -/
def WellFormedElements : List Json → Prop
  | [] => True
  | v :: rest => WellFormed v ∧ WellFormedElements rest

/-- The value of every member is in good order. -/
def WellFormedMembers : List (String × Json) → Prop
  | [] => True
  | (_, v) :: rest => WellFormed v ∧ WellFormedMembers rest

end

/-- A member whose name comes after all others is put at the end. -/
theorem insertMember_last (name : String) (v : Json) :
    ∀ {before : List (String × Json)}, (∀ m ∈ before, m.1 < name) →
      insertMember name v before = before ++ [(name, v)]
  | [], _ => rfl
  | (other, held) :: rest, earlier => by
      have less : other < name := earlier (other, held) (by simp)
      have differ : name ≠ other := by
        rintro rfl
        exact String.lt_irrefl _ less
      rw [insertMember, if_neg (String.lt_asymm less), if_neg differ,
        insertMember_last name v fun m member => earlier m (List.mem_cons_of_mem _ member)]
      rfl

/-- A value whose text starts with no letter, quote or bracket is read as a number. -/
theorem valueWith_number {inner : Option (Reader Json)} {cs : List Char}
    (head : ∃ c ∈ cs.head?, c.isDigit = true ∨ c = '-') :
    Reader.valueWith inner cs = Reader.number cs := by
  obtain ⟨c, here, number⟩ := head
  have token : Reader.isSpace c = false := by
    rcases number with digit | rfl
    · exact isSpace_of_isDigit digit
    · rfl
  unfold Reader.valueWith
  rw [Reader.bind_ok (Reader.peek_of_head here token)]
  cases inner
  all_goals
    refine congrFun (g := Reader.number) ?_ cs
    split
  all_goals first
    | rfl
    | (next same =>
        cases same
        exact absurd number (by decide))

theorem beginsElement_chars {v : Json} (integers : v.IntegersOnly) : BeginsElement v.chars := by
  cases v with
  | null => exact ⟨'n', rfl, by decide, by decide⟩
  | bool b => cases b <;> exact ⟨_, rfl, by decide, by decide⟩
  | int n => exact beginsElement_int n
  | float x => exact integers.elim
  | string s => exact ⟨'"', rfl, by decide, by decide⟩
  | array vs => exact ⟨'[', rfl, by decide, by decide⟩
  | object ms => exact ⟨'\x7b', rfl, by decide, by decide⟩

section Scalars

variable (inner : Option (Reader Json))

theorem reads_null : Reads (Reader.valueWith inner) (chars .null) (.ok .null) := by
  intro rest _
  unfold Reader.valueWith
  rw [Reader.bind_ok (Reader.peek_of_head (c := 'n') rfl rfl)]
  cases inner <;> exact Reader.bind_ok (Reader.word_append ['n', 'u', 'l', 'l'] rest)

theorem reads_bool (b : Bool) :
    Reads (Reader.valueWith inner) (chars (.bool b)) (.ok (.bool b)) := by
  intro rest _
  unfold Reader.valueWith
  cases b with
  | true =>
      rw [Reader.bind_ok (Reader.peek_of_head (c := 't') rfl rfl)]
      cases inner <;> exact Reader.bind_ok (Reader.word_append ['t', 'r', 'u', 'e'] rest)
  | false =>
      rw [Reader.bind_ok (Reader.peek_of_head (c := 'f') rfl rfl)]
      cases inner <;> exact Reader.bind_ok (Reader.word_append ['f', 'a', 'l', 's', 'e'] rest)

theorem reads_int {n : Int} (sized : isWordSized n = true) :
    Reads (Reader.valueWith inner) (chars (.int n)) (.ok (.int n)) := by
  intro rest ends
  obtain ⟨c, head, number⟩ := head_chars_int n
  have first : ∃ c ∈ (chars (.int n) ++ rest).head?, c.isDigit = true ∨ c = '-' :=
    ⟨c, by simp_all [List.head?_append], number⟩
  rw [valueWith_number first]
  exact Reader.reads_number sized rest ends

theorem reads_text (s : String) :
    Reads (Reader.valueWith inner) (chars (.string s)) (.ok (.string s)) := by
  intro rest _
  unfold Reader.valueWith
  rw [chars, Reader.stringText_append, Reader.bind_ok (Reader.peek_of_head (c := '"') rfl rfl)]
  have body : (do return .string (← Reader.stringBody) : Reader Json)
      (s.toList.flatMap escaped ++ '"' :: rest) = .ok (.string s, rest) :=
    Reader.bind_ok (stringBody_spelling s rest)
  cases inner <;> exact (Reader.bind_ok (Reader.token_cons rfl _)).trans body

end Scalars

section Inner

variable {inner : Reader Json}

/-- An array is read as its elements are. -/
theorem reads_arrayOf {vs : List Json} {f : Json → Except Fault Json}
    (reads : ∀ v ∈ vs, Reads inner v.chars (f v) ∧ BeginsElement v.chars) :
    Reads (Reader.valueWith (some inner)) (chars (.array vs)) ((vs.mapM f).map .array) := by
  intro rest ends
  have elements := (reads_elements reads).map Json.array rest ends
  unfold Reader.valueWith
  rw [Reader.bind_ok (Reader.peek_of_head (c := '[') rfl rfl)]
  change (do Reader.token '['; return .array (← Reader.elements inner) : Reader Json) _ = _
  rw [chars, List.cons_append, Reader.bind_ok (Reader.token_cons rfl _)]
  exact elements

/-- An array is read when its elements are. -/
theorem reads_array {vs : List Json}
    (reads : ∀ v ∈ vs, Reads inner v.chars (.ok v) ∧ BeginsElement v.chars) :
    Reads (Reader.valueWith (some inner)) (chars (.array vs)) (.ok (.array vs)) := by
  have all : vs.mapM Except.ok = (.ok vs : Except Fault (List Json)) := by
    change vs.mapM (fun v => (pure (id v) : Except Fault Json)) = _
    rw [List.mapM_pure, List.map_id]
    rfl
  have array := reads_arrayOf (f := Except.ok) reads
  rw [all] at array
  exact array

/-- The reader of an object's members, which puts each in its place. -/
def addMember (inner : Reader Json) (name : String) (held : List (String × Json)) :
    Reader (List (String × Json)) := do
  Reader.token ':'
  return insertMember name (← inner) held

theorem reads_addMember {v : Json} (reads : Reads inner v.chars (.ok v)) (name : String)
    (held : List (String × Json)) :
    Reads (addMember inner name held) (':' :: v.chars) (.ok (insertMember name v held)) := by
  intro rest ends
  rw [addMember, List.cons_append, Reader.bind_ok (Reader.token_cons rfl _),
    Reader.bind_ok (reads rest ends)]
  rfl

/-- Members in the order of their names are taken as they stand. -/
theorem takes_addMember : ∀ (ms before : List (String × Json)),
    (∀ m ∈ ms, Reads inner m.2.chars (.ok m.2)) →
      ((before ++ ms).map Prod.fst).Pairwise (· < ·) →
        Takes (addMember inner) before ms (before ++ ms)
  | [], before, _, _ => by
      rw [List.append_nil]
      exact .nil
  | (name, v) :: rest, before, reads, ordered => by
      have earlier : ∀ m ∈ before, m.1 < name := by
        rw [List.map_append, List.pairwise_append] at ordered
        intro m member
        exact ordered.2.2 m.1 (List.mem_map_of_mem member) name (by simp)
      have read := reads_addMember (reads (name, v) (by simp)) name before
      rw [insertMember_last name v earlier] at read
      have others := takes_addMember rest (before ++ [(name, v)])
        (fun m member => reads m (List.mem_cons_of_mem _ member)) (by simpa using ordered)
      rw [List.append_assoc, List.singleton_append] at others
      exact .cons read others

/-- An object in good order is read when the values of its members are. -/
theorem reads_object {ms : List (String × Json)}
    (reads : ∀ m ∈ ms, Reads inner m.2.chars (.ok m.2))
    (ordered : (ms.map Prod.fst).Pairwise (· < ·)) :
    Reads (Reader.valueWith (some inner)) (chars (.object ms)) (.ok (.object ms)) := by
  intro rest ends
  have members := (takes_addMember ms [] reads ordered).members rest ends
  unfold Reader.valueWith
  rw [Reader.bind_ok (Reader.peek_of_head (c := '\x7b') rfl rfl)]
  change (do
    Reader.token '\x7b'
    return .object (← Reader.members (addMember inner) []) : Reader Json) _ = _
  rw [chars, List.cons_append, Reader.bind_ok (Reader.token_cons rfl _),
    Reader.bind_ok members]
  rfl

end Inner

mutual

/-- **A value reads back from its text**, if it is in good order, has no floating-point
numbers and nests no more than the budget. -/
theorem reads_value : (v : Json) → (budget : Nat) → v.WellFormed → v.IntegersOnly →
    v.nesting ≤ budget → Reads (Reader.value budget) v.chars (.ok v)
  | .null, budget, _, _, _ => by cases budget <;> exact reads_null _
  | .bool b, budget, _, _, _ => by cases budget <;> exact reads_bool _ b
  | .int n, budget, ordered, _, _ => by cases budget <;> exact reads_int _ ordered
  | .float _, _, _, integers, _ => integers.elim
  | .string s, budget, _, _, _ => by cases budget <;> exact reads_text _ s
  | .array vs, 0, _, _, shallow => by simp [nesting] at shallow
  | .array vs, budget + 1, ordered, integers, shallow =>
      reads_array (reads_valueElements vs budget ordered integers
        (Nat.le_of_succ_le_succ shallow))
  | .object ms, 0, _, _, shallow => by simp [nesting] at shallow
  | .object ms, budget + 1, ordered, integers, shallow =>
      reads_object (reads_valueMembers ms budget ordered.2 integers
        (Nat.le_of_succ_le_succ shallow)) ordered.1

theorem reads_valueElements : (vs : List Json) → (budget : Nat) → WellFormedElements vs →
    IntegersOnlyElements vs → nestingOfElements vs ≤ budget →
      ∀ v ∈ vs, Reads (Reader.value budget) v.chars (.ok v) ∧ BeginsElement v.chars
  | [], _, _, _, _ => nofun
  | v :: rest, budget, ordered, integers, shallow => by
      have deepest : v.nesting ≤ budget ∧ nestingOfElements rest ≤ budget :=
        Nat.max_le.mp shallow
      have first := reads_value v budget ordered.1 integers.1 deepest.1
      have others := reads_valueElements rest budget ordered.2 integers.2 deepest.2
      intro w member
      rcases List.mem_cons.mp member with rfl | later
      · exact ⟨first, beginsElement_chars integers.1⟩
      · exact others w later

theorem reads_valueMembers : (ms : List (String × Json)) → (budget : Nat) →
    WellFormedMembers ms → IntegersOnlyMembers ms → nestingOfMembers ms ≤ budget →
      ∀ m ∈ ms, Reads (Reader.value budget) m.2.chars (.ok m.2)
  | [], _, _, _, _ => nofun
  | (name, v) :: rest, budget, ordered, integers, shallow => by
      have deepest : v.nesting ≤ budget ∧ nestingOfMembers rest ≤ budget :=
        Nat.max_le.mp shallow
      have first := reads_value v budget ordered.1 integers.1 deepest.1
      have others := reads_valueMembers rest budget ordered.2 integers.2 deepest.2
      intro m member
      rcases List.mem_cons.mp member with rfl | later
      · exact first
      · exact others m later

end

end Conduit.Json
