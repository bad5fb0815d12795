import Conduit.Proofs.Json.Values

/-! # Values that nest too deep

The compact text of a value that nests more arrays and objects than a reader has budget for
is refused (`Conduit.Json.refuses_value`). Whatever stands before the part that nests too
deep is read; the refusal comes where the budget runs out.
-/

namespace Conduit.Json

variable {α σ ρ : Type}

section Members

/-- Members are taken in order, up to one that is refused. -/
inductive Refuses (member : String → σ → Reader σ) (fault : Fault) :
    σ → List (String × Json) → Prop
  | here {name : String} {v : Json} {ms : List (String × Json)} {held : σ}
      (reads : Reads (member name held) (':' :: v.chars) (.error fault)) :
      Refuses member fault held ((name, v) :: ms)
  | later {name : String} {v : Json} {ms : List (String × Json)} {held next : σ}
      (reads : Reads (member name held) (':' :: v.chars) (.ok next))
      (others : Refuses member fault next ms) : Refuses member fault held ((name, v) :: ms)

variable {member : String → σ → Reader σ} {fault : Fault} {held : σ}
  {ms : List (String × Json)}

theorem Refuses.ne_nil (refuses : Refuses member fault held ms) : ms ≠ [] := by
  cases refuses <;> exact List.cons_ne_nil _ _

/-- The members of an object are refused with the first of them that is. -/
theorem Refuses.moreMembers (refuses : Refuses member fault held ms) :
    ∀ bound, ms.length ≤ bound → ∀ rest,
      Reader.moreMembers member bound held (memberChars ms ++ '\x7d' :: rest) =
        .error fault := by
  induction refuses with
  | @here name v ms held reads =>
      intro bound enough rest
      obtain ⟨bound, rfl⟩ := Nat.exists_eq_succ_of_ne_zero (n := bound)
        (by simp at enough; omega)
      cases ms with
      | nil =>
          have read := reads ('\x7d' :: rest) (endsNumber_cons rfl (by decide))
          rw [memberChars, List.append_assoc]
          exact moreMembers_error read bound
      | cons m ms =>
          have read := reads (',' :: (memberChars (m :: ms) ++ '\x7d' :: rest))
            (endsNumber_cons rfl (by decide))
          rw [memberChars_cons, List.append_assoc, List.cons_append, List.append_assoc,
            List.cons_append]
          exact moreMembers_error read bound
  | @later name v ms held next reads others ih =>
      intro bound enough rest
      obtain ⟨bound, rfl⟩ := Nat.exists_eq_succ_of_ne_zero (n := bound)
        (by simp at enough; omega)
      obtain ⟨m, ms, rfl⟩ := List.exists_cons_of_ne_nil others.ne_nil
      have read := reads (',' :: (memberChars (m :: ms) ++ '\x7d' :: rest))
        (endsNumber_cons rfl (by decide))
      rw [memberChars_cons, List.append_assoc, List.cons_append, List.append_assoc,
        List.cons_append]
      exact (moreMembers_comma read bound).trans (ih bound (by simpa using enough) rest)

theorem Refuses.members (refuses : Refuses member fault held ms) :
    Reads (Reader.members member held) (memberChars ms ++ ['\x7d']) (.error fault) := by
  intro rest _
  rw [List.append_assoc, List.singleton_append]
  obtain ⟨m, ms, rfl⟩ := List.exists_cons_of_ne_nil refuses.ne_nil
  have first : (memberChars (m :: ms) ++ '\x7d' :: rest).head? = some '"' := by
    cases ms <;> rfl
  have bound := length_le_memberChars (m :: ms)
  rw [Reader.members, Reader.bind_ok (Reader.peek_of_head first rfl), if_neg (by decide)]
  exact refuses.moreMembers _ (by simp at bound ⊢; omega) rest

/-- A record is refused with its members. -/
theorem Record.refuses_object {shape : Record ρ α} {budget : Nat}
    (refuses : Refuses (shape.member budget) fault shape.blank ms) :
    Reads (shape.reader (budget + 1)) ('\x7b' :: (memberChars ms ++ ['\x7d'])) (.error fault) := by
  intro rest ends
  rw [Record.reader, Reader.bind_ok (Reader.peek_of_head (c := '\x7b') rfl rfl)]
  change (do
    Reader.token '\x7b'
    let held ← Reader.members (shape.member budget) shape.blank
    shape.assemble (fun _ name => .missingField name) held : Reader α) _ = _
  rw [List.cons_append, Reader.bind_ok (Reader.token_cons rfl _),
    Reader.bind_error (refuses.members rest ends)]
  rfl

end Members

section Inner

variable {inner : Reader Json}

theorem refuses_addMember {v : Json} {fault : Fault} (reads : Reads inner v.chars (.error fault))
    (name : String) (held : List (String × Json)) :
    Reads (addMember inner name held) (':' :: v.chars) (.error fault) := by
  intro rest ends
  rw [addMember, List.cons_append, Reader.bind_ok (Reader.token_cons rfl _),
    Reader.bind_error (reads rest ends)]
  rfl

/-- An object is refused with its members. -/
theorem refuses_object {ms : List (String × Json)} {fault : Fault}
    (refuses : Refuses (addMember inner) fault [] ms) :
    Reads (Reader.valueWith (some inner)) (chars (.object ms)) (.error fault) := by
  intro rest ends
  unfold Reader.valueWith
  rw [Reader.bind_ok (Reader.peek_of_head (c := '\x7b') rfl rfl)]
  change (do
    Reader.token '\x7b'
    return .object (← Reader.members (addMember inner) []) : Reader Json) _ = _
  rw [chars, List.cons_append, Reader.bind_ok (Reader.token_cons rfl _),
    Reader.bind_error (refuses.members rest ends)]
  rfl

end Inner

/-- What a reader with this budget makes of a value. -/
def budgeted (budget : Nat) (v : Json) : Except Fault Json :=
  if v.nesting ≤ budget then .ok v else .error .malformed

/-- Elements are refused when one of them nests too deep. -/
theorem mapM_budgeted {budget : Nat} : ∀ {vs : List Json}, budget < nestingOfElements vs →
    vs.mapM (budgeted budget) = .error .malformed
  | v :: rest, deep => by
      rw [List.mapM_cons, budgeted]
      split
      next shallow =>
        have deep : budget < nestingOfElements rest := by
          rw [nestingOfElements] at deep
          omega
        rw [mapM_budgeted deep]
        rfl
      next => rfl

mutual

/-- **A value that nests too deep is refused**, if it is in good order and has no
floating-point numbers. -/
theorem refuses_value : (v : Json) → (budget : Nat) → v.WellFormed → v.IntegersOnly →
    budget < v.nesting → Reads (Reader.value budget) v.chars (.error .malformed)
  | .null, _, _, _, deep => absurd deep (Nat.not_lt_zero _)
  | .bool _, _, _, _, deep => absurd deep (Nat.not_lt_zero _)
  | .int _, _, _, _, deep => absurd deep (Nat.not_lt_zero _)
  | .float _, _, _, integers, _ => integers.elim
  | .string _, _, _, _, deep => absurd deep (Nat.not_lt_zero _)
  -- Without budget an array or an object is refused at its bracket.
  | .array vs, 0, _, _, _ => fun _ _ => Reader.bind_ok (Reader.peek_of_head (c := '[') rfl rfl)
  | .array vs, budget + 1, ordered, integers, deep => by
      have elements := reads_arrayOf (budgeted_elements vs budget ordered integers)
      rw [mapM_budgeted (Nat.lt_of_succ_lt_succ deep)] at elements
      exact elements
  | .object ms, 0, _, _, _ =>
      fun _ _ => Reader.bind_ok (Reader.peek_of_head (c := '\x7b') rfl rfl)
  | .object ms, budget + 1, ordered, integers, deep =>
      refuses_object (refuses_valueMembers ms budget ordered.2 integers
        (Nat.lt_of_succ_lt_succ deep) [])

theorem budgeted_elements : (vs : List Json) → (budget : Nat) → WellFormedElements vs →
    IntegersOnlyElements vs → ∀ v ∈ vs,
      Reads (Reader.value budget) v.chars (budgeted budget v) ∧ BeginsElement v.chars
  | [], _, _, _ => nofun
  | v :: rest, budget, ordered, integers => by
      have others := budgeted_elements rest budget ordered.2 integers.2
      have first : Reads (Reader.value budget) v.chars (budgeted budget v) := by
        rw [budgeted]
        split
        next shallow => exact reads_value v budget ordered.1 integers.1 shallow
        next deep => exact refuses_value v budget ordered.1 integers.1 (Nat.lt_of_not_le deep)
      intro w member
      rcases List.mem_cons.mp member with rfl | later
      · exact ⟨first, beginsElement_chars integers.1⟩
      · exact others w later

theorem refuses_valueMembers : (ms : List (String × Json)) → (budget : Nat) →
    WellFormedMembers ms → IntegersOnlyMembers ms → budget < nestingOfMembers ms →
      ∀ held, Refuses (addMember (Reader.value budget)) .malformed held ms
  | [], _, _, _, deep, _ => absurd deep (Nat.not_lt_zero _)
  | (name, v) :: rest, budget, ordered, integers, deep, held => by
      by_cases shallow : v.nesting ≤ budget
      · have deep : budget < nestingOfMembers rest := by
          rw [nestingOfMembers] at deep
          omega
        exact .later
          (reads_addMember (reads_value v budget ordered.1 integers.1 shallow) name held)
          (refuses_valueMembers rest budget ordered.2 integers.2 deep _)
      · exact .here (refuses_addMember
          (refuses_value v budget ordered.1 integers.1 (Nat.lt_of_not_le shallow)) name held)

end

end Conduit.Json
