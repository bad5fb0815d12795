import Conduit.Json.Record
import Conduit.Proofs.Json.Integers
import Conduit.Proofs.Json.Strings

/-! # What readers make of compact text

A reader reads a text as an outcome (`Conduit.Json.Reads`) when it gives this outcome
and stops at the end of the text, whatever follows that cannot lengthen a number. The
readers of arrays and objects read compact text when the readers of their elements and
members do, and so do the readers of records.
-/

namespace Conduit.Json

open Decimal (digitsOf integerText)

variable {α β σ ρ : Type}

/-- The reader takes just this text, with the given outcome. -/
def Reads (reader : Reader α) (text : List Char) (outcome : Except Fault α) : Prop :=
  ∀ rest, EndsNumber rest → reader (text ++ rest) = outcome.map (·, rest)

namespace Reader

theorem bind_ok {x : Reader α} {f : α → Reader β} {a : α} {cs rest : List Char}
    (first : x cs = .ok (a, rest)) : (x >>= f) cs = f a rest := by
  change (x cs >>= fun result => f result.1 result.2) = _
  rw [first]
  rfl

theorem bind_error {x : Reader α} {f : α → Reader β} {e : Fault} {cs : List Char}
    (first : x cs = .error e) : (x >>= f) cs = .error e := by
  change (x cs >>= fun result => f result.1 result.2) = _
  rw [first]
  rfl

/-- What follows a reader that succeeds has succeeded after it. -/
theorem bind_eq_ok {x : Reader α} {f : α → Reader β} {b : β} {cs rest : List Char}
    (done : (x >>= f) cs = .ok (b, rest)) :
    ∃ a cs', x cs = .ok (a, cs') ∧ f a cs' = .ok (b, rest) := by
  change (x cs >>= fun result => f result.1 result.2) = _ at done
  cases first : x cs with
  | error e => rw [first] at done; cases done
  | ok result => rw [first] at done; exact ⟨result.1, result.2, rfl, done⟩

theorem peek_of_head {c : Char} {cs : List Char} (head : cs.head? = some c)
    (token : isSpace c = false) : peek cs = .ok (some c, cs) := by
  obtain ⟨rest, rfl⟩ := List.head?_eq_some_iff.mp head
  simp [peek, token]

theorem next_cons {c : Char} (token : isSpace c = false) (rest : List Char) :
    next (c :: rest) = .ok (some c, rest) := by
  simp [next, token]

theorem token_cons {c : Char} (space : isSpace c = false) (rest : List Char) :
    token c (c :: rest) = .ok ((), rest) := by
  rw [token, bind_ok (next_cons space rest), if_pos (by simp)]
  rfl

theorem word_append (cs rest : List Char) : word cs (cs ++ rest) = .ok ((), rest) := by
  induction cs with
  | nil => rfl
  | cons c cs ih =>
      rw [List.cons_append, word]
      dsimp only
      rw [if_pos rfl, ih]

theorem stringText_append (s : String) (rest : List Char) :
    stringText s ++ rest = '"' :: (s.toList.flatMap escaped ++ '"' :: rest) := by
  simp [stringText]

theorem key_stringText (s : String) (rest : List Char) :
    key (stringText s ++ rest) = .ok (s, rest) := by
  rw [stringText_append, key, bind_ok (token_cons rfl _), stringBody_spelling]

/-- A string is read from its spelling between quotes. -/
theorem reads_string (s : String) : Reads string (chars (.string s)) (.ok s) := by
  intro rest _
  rw [chars, stringText_append, string, bind_ok (peek_of_head rfl rfl), if_pos (beq_self_eq_true _),
    bind_ok (token_cons rfl _), stringBody_spelling]
  rfl

/-- A truth value is read from its word. -/
theorem reads_boolean (b : Bool) : Reads boolean (chars (.bool b)) (.ok b) := by
  intro rest _
  cases b with
  | true =>
      rw [chars, boolean, bind_ok (peek_of_head (c := 't') rfl rfl)]
      exact bind_ok (word_append ['t', 'r', 'u', 'e'] rest)
  | false =>
      rw [chars, boolean, bind_ok (peek_of_head (c := 'f') rfl rfl)]
      exact bind_ok (word_append ['f', 'a', 'l', 's', 'e'] rest)

/-- A name among several is read as its meaning. -/
theorem reads_variant {names : List (String × α)} {name : String} {a : α}
    (meaning : names.lookup name = some a) (budget : Nat) :
    Reads (variant names budget) (chars (.string name)) (.ok a) := by
  intro rest _
  unfold variant
  rw [chars, stringText_append, bind_ok (peek_of_head rfl rfl)]
  change (do token '"'; variant.choose names (← stringBody) : Reader α) _ = _
  rw [bind_ok (token_cons rfl _), bind_ok (stringBody_spelling _ _), variant.choose, meaning]
  rfl

/-- The whole of a text is read. -/
theorem run_of_reads {reader : Reader α} {cs : List Char} {outcome : Except Fault α}
    (reads : Reads reader cs outcome) : reader.run (String.ofList cs) = outcome := by
  have read := reads [] nofun
  rw [List.append_nil] at read
  rw [run, String.toList_ofList]
  change (reader cs >>= _) = _
  rw [read]
  cases outcome <;> rfl

/-- A text that was read in whole was read by its reader. -/
theorem eq_ok_of_run {reader : Reader α} {cs : List Char} {a : α}
    (done : reader.run (String.ofList cs) = .ok a) : ∃ rest, reader cs = .ok (a, rest) := by
  rw [run, String.toList_ofList] at done
  change (reader cs >>= fun result => _) = _ at done
  cases read : reader cs with
  | error e => rw [read] at done; cases done
  | ok result =>
      rw [read] at done
      dsimp only [bind, Except.bind] at done
      split at done
      · cases done; exact ⟨result.2, rfl⟩
      · cases done

/-- An integer of word size is read from its text. -/
theorem reads_number {n : Int} (sized : isWordSized n = true) :
    Reads number (chars (.int n)) (.ok (.int n)) := by
  intro rest ends
  rw [chars, number, Numeral.read_integerText n ends]
  dsimp only
  rw [Numeral.value_integer sized]
  rfl

/-- An integer that no word holds is taken for a floating-point number. -/
theorem reads_number_large {n : Nat} (large : 2 ^ 64 ≤ n) :
    Reads number (chars (.int n))
      (match Numeral.float? ⟨false, digitsOf n, [], none⟩ with
        | none => .error .malformed
        | some x => .ok (.float x)) := by
  intro rest ends
  have written := Numeral.read_integerText n ends
  rw [decide_eq_false (by omega), Int.natAbs_natCast] at written
  rw [chars, number, written]
  dsimp only
  rw [Numeral.value_large large]
  cases Numeral.float? ⟨false, digitsOf n, [], none⟩ <;> rfl

end Reader

/-- What is made of a value that was read. -/
theorem Reads.map {reader : Reader α} {text : List Char} {outcome : Except Fault α}
    (reads : Reads reader text outcome) (f : α → β) :
    Reads (reader >>= fun a => pure (f a)) text (outcome.map f) := by
  intro rest ends
  have read := reads rest ends
  cases outcome with
  | error e => exact Reader.bind_error read
  | ok a => exact Reader.bind_ok read

/-- The text is not empty, and a reader of arrays takes its first character for the
start of an element. -/
def BeginsElement (text : List Char) : Prop :=
  ∃ c ∈ text.head?, Reader.isSpace c = false ∧ c ≠ ']'

/-- The first character of an integer's text. -/
theorem head_chars_int (n : Int) : ∃ c ∈ (chars (.int n)).head?, c.isDigit = true ∨ c = '-' := by
  rw [chars, integerText]
  split
  · exact ⟨'-', rfl, .inr rfl⟩
  · obtain ⟨c, ds, digits⟩ := List.exists_cons_of_ne_nil (digitsOf_ne_nil n.natAbs)
    exact ⟨c, by simp [digits],
      .inl (isDigit_of_mem_digitsOf (n := n.natAbs) (by simp [digits]))⟩

theorem isSpace_of_isDigit {c : Char} (digit : c.isDigit = true) :
    Reader.isSpace c = false := by
  cases space : Reader.isSpace c with
  | false => rfl
  | true =>
      simp only [Reader.isSpace, Bool.or_eq_true, beq_iff_eq] at space
      rcases space with ((rfl | rfl) | rfl) | rfl <;> exact absurd digit (by decide)

theorem beginsElement_int (n : Int) : BeginsElement (chars (.int n)) := by
  obtain ⟨c, head, digit | rfl⟩ := head_chars_int n
  · refine ⟨c, head, isSpace_of_isDigit digit, ?_⟩
    rintro rfl
    exact absurd digit (by decide)
  · exact ⟨'-', head, by decide, by decide⟩

theorem length_le_elementChars : ∀ vs : List Json, vs.length ≤ (elementChars vs).length + 1
  | [] => by simp
  | [v] => by simp
  | v :: w :: rest => by
      have := length_le_elementChars (w :: rest)
      simp only [elementChars, List.length_append, List.length_cons] at this ⊢
      omega

section Elements

variable {element : Reader α} {f : Json → Except Fault α} {a : α} {cs rest : List Char}

theorem moreElements_comma (read : element cs = .ok (a, ',' :: rest)) (bound : Nat) :
    Reader.moreElements element (bound + 1) cs =
      (Reader.moreElements element bound >>= fun as => pure (a :: as)) rest := by
  rw [Reader.moreElements, Reader.bind_ok read, Reader.bind_ok (Reader.next_cons rfl _)]
  rfl

theorem moreElements_bracket (read : element cs = .ok (a, ']' :: rest)) (bound : Nat) :
    Reader.moreElements element (bound + 1) cs = .ok ([a], rest) := by
  rw [Reader.moreElements, Reader.bind_ok read, Reader.bind_ok (Reader.next_cons rfl _)]
  rfl

theorem moreElements_error {e : Fault} (read : element cs = .error e) (bound : Nat) :
    Reader.moreElements element (bound + 1) cs = .error e := by
  rw [Reader.moreElements, Reader.bind_error read]

/-- The elements of an array are read one after the other. -/
theorem moreElements_elementChars : ∀ (v : Json) (vs : List Json) (bound : Nat),
    (∀ w ∈ v :: vs, Reads element w.chars (f w)) → vs.length < bound → ∀ rest,
      Reader.moreElements element bound (elementChars (v :: vs) ++ ']' :: rest) =
        ((v :: vs).mapM f).map (·, rest)
  | v, [], bound + 1, reads, _, rest => by
      have read := reads v (by simp) (']' :: rest) (endsNumber_cons rfl (by decide))
      rw [elementChars, List.mapM_cons]
      cases outcome : f v with
      | error e =>
          rw [outcome] at read
          rw [moreElements_error read]
          rfl
      | ok a =>
          rw [outcome] at read
          rw [moreElements_bracket read]
          rfl
  | v, w :: vs, bound + 1, reads, enough, rest => by
      have read := reads v (by simp) (',' :: (elementChars (w :: vs) ++ ']' :: rest))
        (endsNumber_cons rfl (by decide))
      have others := moreElements_elementChars w vs bound
        (fun u member => reads u (List.mem_cons_of_mem _ member))
        (by simpa using enough) rest
      have spelled : elementChars (v :: w :: vs) ++ ']' :: rest =
          v.chars ++ ',' :: (elementChars (w :: vs) ++ ']' :: rest) := by
        simp [elementChars]
      rw [spelled, List.mapM_cons]
      cases outcome : f v with
      | error e =>
          rw [outcome] at read
          rw [moreElements_error read]
          rfl
      | ok a =>
          rw [outcome] at read
          rw [moreElements_comma read]
          cases tail : (w :: vs).mapM f with
          | error e =>
              rw [tail] at others
              rw [Reader.bind_error others]
              rfl
          | ok as =>
              rw [tail] at others
              rw [Reader.bind_ok others]
              rfl

/-- The elements of an array are read after its opening bracket. -/
theorem reads_elements {vs : List Json}
    (reads : ∀ v ∈ vs, Reads element v.chars (f v) ∧ BeginsElement v.chars) :
    Reads (Reader.elements element) (elementChars vs ++ [']']) (vs.mapM f) := by
  intro rest _
  rw [List.append_assoc, List.singleton_append]
  cases vs with
  | nil =>
      rw [Reader.elements, Reader.bind_ok (Reader.peek_of_head (c := ']') rfl rfl),
        if_pos (beq_self_eq_true _)]
      exact Reader.bind_ok (Reader.token_cons rfl rest)
  | cons v vs =>
      obtain ⟨c, head, token, other⟩ := (reads v (by simp)).2
      have first : (elementChars (v :: vs) ++ ']' :: rest).head? = some c := by
        cases vs <;> simp_all [elementChars]
      have bound := length_le_elementChars (v :: vs)
      rw [Reader.elements, Reader.bind_ok (Reader.peek_of_head first token),
        if_neg (by simpa using other)]
      exact moreElements_elementChars v vs _ (fun w member => (reads w member).1)
        (by simp at bound ⊢; omega) rest

end Elements

section Members

variable (member : String → σ → Reader σ)

/-- Members that are taken in order lead from what is held to what is held at last. -/
inductive Takes : σ → List (String × Json) → σ → Prop
  | nil {held : σ} : Takes held [] held
  | cons {name : String} {v : Json} {ms : List (String × Json)} {held next last : σ}
      (reads : Reads (member name held) (':' :: v.chars) (.ok next))
      (others : Takes next ms last) : Takes held ((name, v) :: ms) last

variable {member} {name : String} {held next : σ} {cs rest : List Char}

theorem moreMembers_comma (read : member name held cs = .ok (next, ',' :: rest))
    (bound : Nat) :
    Reader.moreMembers member (bound + 1) held (stringText name ++ cs) =
      Reader.moreMembers member bound next rest := by
  rw [Reader.moreMembers, Reader.bind_ok (Reader.key_stringText name cs), Reader.bind_ok read,
    Reader.bind_ok (Reader.next_cons rfl _)]
  rfl

theorem moreMembers_brace (read : member name held cs = .ok (next, '\x7d' :: rest))
    (bound : Nat) :
    Reader.moreMembers member (bound + 1) held (stringText name ++ cs) = .ok (next, rest) := by
  rw [Reader.moreMembers, Reader.bind_ok (Reader.key_stringText name cs), Reader.bind_ok read,
    Reader.bind_ok (Reader.next_cons rfl _)]
  rfl

theorem moreMembers_error {e : Fault} (read : member name held cs = .error e) (bound : Nat) :
    Reader.moreMembers member (bound + 1) held (stringText name ++ cs) = .error e := by
  rw [Reader.moreMembers, Reader.bind_ok (Reader.key_stringText name cs),
    Reader.bind_error read]

/-- What every member keeps, members keep. -/
theorem moreMembers_keeps {kept : σ → Prop}
    (keeps : ∀ name held cs next rest, kept held →
      member name held cs = .ok (next, rest) → kept next) :
    ∀ (bound : Nat) (held : σ) (cs : List Char) (last : σ) (rest : List Char), kept held →
      Reader.moreMembers member bound held cs = .ok (last, rest) → kept last := by
  intro bound
  induction bound with
  | zero => intro held cs last rest _ done; cases done
  | succ bound ih =>
      intro held cs last rest start done
      rw [Reader.moreMembers] at done
      obtain ⟨name, cs, _, done⟩ := Reader.bind_eq_ok done
      obtain ⟨next, cs, step, done⟩ := Reader.bind_eq_ok done
      obtain ⟨c, cs, _, done⟩ := Reader.bind_eq_ok done
      have kept := keeps _ _ _ _ _ start step
      split at done
      · exact ih next cs last rest kept done
      · cases done; exact kept
      · cases done

theorem length_le_memberChars :
    ∀ ms : List (String × Json), ms.length ≤ (memberChars ms).length
  | [] => by simp
  | [(name, v)] => by
      simp only [memberChars, List.length_append, List.length_cons, List.length_nil]
      omega
  | (name, v) :: m :: rest => by
      have := length_le_memberChars (m :: rest)
      simp only [memberChars, List.length_append, List.length_cons] at this ⊢
      omega

theorem memberChars_cons (name : String) (v : Json) (m : String × Json)
    (ms : List (String × Json)) : memberChars ((name, v) :: m :: ms) =
      stringText name ++ ':' :: (chars v ++ ',' :: memberChars (m :: ms)) := by
  simp [memberChars]

/-- The members of an object are read one after the other. -/
theorem Takes.moreMembers {ms : List (String × Json)} {last : σ}
    (takes : Takes member held ms last) : ∀ bound, ms ≠ [] → ms.length ≤ bound → ∀ rest,
      Reader.moreMembers member bound held (memberChars ms ++ '\x7d' :: rest) =
        .ok (last, rest) := by
  induction takes with
  | nil => intro bound some; exact absurd rfl some
  | @cons name v ms held next last reads others ih =>
      intro bound _ enough rest
      obtain ⟨bound, rfl⟩ := Nat.exists_eq_succ_of_ne_zero (n := bound)
        (by simp at enough; omega)
      cases ms with
      | nil =>
          cases others
          have read := reads ('\x7d' :: rest) (endsNumber_cons rfl (by decide))
          rw [memberChars, List.append_assoc]
          exact moreMembers_brace read bound
      | cons m ms =>
          have read := reads (',' :: (memberChars (m :: ms) ++ '\x7d' :: rest))
            (endsNumber_cons rfl (by decide))
          rw [memberChars_cons, List.append_assoc, List.cons_append, List.append_assoc,
            List.cons_append]
          exact (moreMembers_comma read bound).trans
            (ih bound (by simp) (by simpa using enough) rest)

/-- The members of an object are read after its opening brace. -/
theorem Takes.members {ms : List (String × Json)} {last : σ}
    (takes : Takes member held ms last) :
    Reads (Reader.members member held) (memberChars ms ++ ['\x7d']) (.ok last) := by
  intro rest _
  rw [List.append_assoc, List.singleton_append]
  cases ms with
  | nil =>
      cases takes
      rw [Reader.members, Reader.bind_ok (Reader.peek_of_head (c := '\x7d') rfl rfl),
        if_pos (beq_self_eq_true _)]
      exact Reader.bind_ok (Reader.token_cons rfl rest)
  | cons m ms =>
      have first : (memberChars (m :: ms) ++ '\x7d' :: rest).head? = some '"' := by
        cases ms <;> rfl
      have bound := length_le_memberChars (m :: ms)
      rw [Reader.members, Reader.bind_ok (Reader.peek_of_head first rfl),
        if_neg (by decide)]
      exact takes.moreMembers _ (by simp) (by simp at bound ⊢; omega) rest

end Members

section Record

variable {shape : Record ρ α}

/-- A member that is a field is read as this field. -/
theorem Record.reads_member (shape : Record ρ α) (name : String) (held : ρ) {budget : Nat}
    {field : Field ρ} {v : Json} {outcome : Except Fault (ρ → ρ)}
    (found : shape.fields.find? (fun field => field.name == name) = some field)
    (unset : field.isSet held = false) (reads : Reads (field.read budget) v.chars outcome) :
    Reads (shape.member budget name held) (':' :: v.chars) (outcome.map (· held)) := by
  intro rest ends
  have read := reads rest ends
  rw [Record.member, found]
  dsimp only
  rw [unset, if_neg Bool.false_ne_true, List.cons_append,
    Reader.bind_ok (Reader.token_cons rfl _)]
  cases outcome with
  | error e => rw [Reader.bind_error read]; rfl
  | ok set => rw [Reader.bind_ok read]; rfl

/-- What a member can do: it sets a field that was not set, or changes nothing. -/
theorem Record.member_eq_ok {budget : Nat} {name : String} {held next : ρ}
    {cs rest : List Char} (done : shape.member budget name held cs = .ok (next, rest)) :
    next = held ∨ ∃ field ∈ shape.fields, field.name = name ∧ field.isSet held = false ∧
      ∃ set cs', field.read budget cs' = .ok (set, rest) ∧ next = set held := by
  rw [member] at done
  cases found : shape.fields.find? (fun field => field.name == name) with
  | none =>
      rw [found] at done
      obtain ⟨_, _, _, done⟩ := Reader.bind_eq_ok done
      obtain ⟨_, _, _, done⟩ := Reader.bind_eq_ok done
      obtain ⟨_, _, _, done⟩ := Reader.bind_eq_ok done
      cases done
      exact .inl rfl
  | some field =>
      rw [found] at done
      dsimp only at done
      cases unset : field.isSet held with
      | true =>
          rw [unset] at done
          cases done
      | false =>
          rw [unset, if_neg Bool.false_ne_true] at done
          obtain ⟨_, cs', _, done⟩ := Reader.bind_eq_ok done
          obtain ⟨set, _, read, done⟩ := Reader.bind_eq_ok done
          cases done
          exact .inr ⟨field, List.mem_of_find?_eq_some found,
            by simpa using List.find?_some found, unset, set, cs', read, rfl⟩

/-- A record that was read from an object is assembled from what its members gave. -/
theorem Record.reader_object_eq_ok {budget : Nat} {cs rest : List Char} {record : α}
    (done : shape.reader (budget + 1) ('\x7b' :: cs) = .ok (record, rest)) :
    ∃ held, Reader.members (shape.member budget) shape.blank cs = .ok (held, rest) ∧
      shape.assemble (fun _ name => .missingField name) held = .ok record := by
  rw [reader, Reader.bind_ok (Reader.peek_of_head (c := '\x7b') rfl rfl)] at done
  change (do
    Reader.token '\x7b'
    let held ← Reader.members (shape.member budget) shape.blank
    shape.assemble (fun _ name => .missingField name) held : Reader α) _ = _ at done
  rw [Reader.bind_ok (Reader.token_cons rfl _)] at done
  obtain ⟨held, _, members, done⟩ := Reader.bind_eq_ok done
  cases assembled : shape.assemble (fun _ name => .missingField name) held with
  | error e =>
      rw [assembled] at done
      cases done
  | ok record =>
      rw [assembled] at done
      cases done
      exact ⟨held, members, assembled⟩

/-- A record is read from an object whose members are its fields. -/
theorem Record.reads_object {budget : Nat} {ms : List (String × Json)} {last : ρ} {record : α}
    (takes : Takes (shape.member budget) shape.blank ms last)
    (assembled : ∀ absent, shape.assemble absent last = .ok record) :
    Reads (shape.reader (budget + 1)) ('\x7b' :: (memberChars ms ++ ['\x7d'])) (.ok record) := by
  intro rest ends
  rw [Record.reader, Reader.bind_ok (Reader.peek_of_head (c := '\x7b') rfl rfl)]
  change (do
    Reader.token '\x7b'
    let held ← Reader.members (shape.member budget) shape.blank
    shape.assemble (fun _ name => .missingField name) held : Reader α) _ = _
  rw [List.cons_append, Reader.bind_ok (Reader.token_cons rfl _),
    Reader.bind_ok (takes.members rest ends), assembled]
  rfl

end Record

end Conduit.Json
