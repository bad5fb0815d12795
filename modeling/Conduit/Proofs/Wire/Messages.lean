import Conduit.Proofs.Json.Values
import Conduit.Wire.Message

/-! # Messages read back

A message whose text can be read at all has the path it was written with, whatever the
element in it is (`Conduit.WorkerMessage.eq_of_decode_encode`). An element that is fit
for the wire comes back as it was (`Conduit.WorkerMessage.decode_encode`).
-/

namespace Conduit

open Json (Reader Fault Reads)

/-- The arrays and objects that an element may nest on the wire, which has one object of
its own around it. -/
def elementNesting : Nat := 126

/-- The element can be sent: it is in good order, has no floating-point numbers, and
nests no more than the wire allows. -/
structure Sendable (v : Json) : Prop where
  ordered : v.WellFormed
  integers : v.IntegersOnly
  shallow : v.nesting ≤ elementNesting

namespace StagePath

/-- What an index is read as. One that no word holds is taken for a floating-point
number. -/
def indexOutcome (n : Nat) : Except Fault Nat :=
  if n < 2 ^ 64 then .ok n
  else
    match Json.Numeral.float? ⟨false, Decimal.digitsOf n, [], none⟩ with
    | none => .error .malformed
    | some x => .error (.invalidType (.float x) "usize")

theorem reads_index (n : Nat) : Reads Reader.index (Json.chars (.int n)) (indexOutcome n) := by
  intro rest ends
  obtain ⟨c, head, number⟩ := Json.head_chars_int n
  have first : (Json.chars (.int n) ++ rest).head? = some c := by
    simp_all [List.head?_append]
  have token : Reader.isSpace c = false := by
    rcases number with digit | rfl
    · exact Json.isSpace_of_isDigit digit
    · rfl
  rw [Reader.index, Reader.bind_ok (Reader.peek_of_head first token)]
  dsimp only
  rw [if_pos (by simpa using number), indexOutcome]
  by_cases small : n < 2 ^ 64
  · have sized : Json.isWordSized n = true := by
      simp only [Json.isWordSized, Bool.and_eq_true, decide_eq_true_eq]
      omega
    rw [if_pos small, Reader.bind_ok (Reader.reads_number sized rest ends)]
    dsimp only
    rw [if_pos (Int.natCast_nonneg n)]
    rfl
  · have read := Reader.reads_number_large (Nat.le_of_not_lt small) rest ends
    rw [if_neg small]
    cases float : Json.Numeral.float? ⟨false, Decimal.digitsOf n, [], none⟩ with
    | none =>
        rw [float] at read
        exact Reader.bind_error read
    | some x =>
        rw [float] at read
        exact Reader.bind_ok read

/-- What the JSON form of an index is read as. -/
def elementOutcome : Json → Except Fault Nat
  | .int n => indexOutcome n.toNat
  | v => .error (.invalidType v.found "usize")

/-- A path is read index by index. -/
theorem reads_path (path : StagePath) (budget : Nat) :
    Reads (StagePath.reader (budget + 1)) (Json.chars path.toJson)
      ((path.indices.mapM indexOutcome).map StagePath.mk) := by
  intro rest ends
  have reads : ∀ v ∈ path.indices.map fun (i : Nat) => Json.int i,
      Reads Reader.index v.chars (elementOutcome v) ∧ Json.BeginsElement v.chars := by
    intro v member
    obtain ⟨i, _, rfl⟩ := List.mem_map.mp member
    exact ⟨reads_index i, Json.beginsElement_int i⟩
  have elements := Json.reads_elements reads rest ends
  rw [List.mapM_map] at elements
  have list : Reader.list (budget + 1) (fun _ => Reader.index)
      (Json.chars path.toJson ++ rest) = (path.indices.mapM indexOutcome).map (·, rest) := by
    rw [Reader.list, Reader.bind_ok (Reader.peek_of_head (c := '[') rfl rfl),
      if_pos (beq_self_eq_true _)]
    exact (Reader.bind_ok (Reader.token_cons rfl _)).trans elements
  rw [StagePath.reader]
  cases outcome : path.indices.mapM indexOutcome with
  | error e =>
      rw [outcome] at list
      rw [Reader.bind_error list]
      rfl
  | ok indices =>
      rw [outcome] at list
      rw [Reader.bind_ok list]
      rfl

theorem mapM_indexOutcome_eq : ∀ {indices read : List Nat},
    indices.mapM indexOutcome = .ok read → read = indices ∧ ∀ i ∈ indices, i < 2 ^ 64 := by
  intro indices
  induction indices with
  | nil => intro read done; cases done; exact ⟨rfl, nofun⟩
  | cons i rest ih =>
      intro read done
      rw [List.mapM_cons, indexOutcome] at done
      split at done
      next small =>
        cases tail : rest.mapM indexOutcome with
        | error e => rw [tail] at done; cases done
        | ok others =>
            obtain ⟨same, smaller⟩ := ih tail
            rw [tail] at done
            cases done
            exact ⟨by rw [same], List.forall_mem_cons.mpr ⟨small, smaller⟩⟩
      next => split at done <;> cases done

theorem mapM_indexOutcome : ∀ {indices : List Nat}, (∀ i ∈ indices, i < 2 ^ 64) →
    indices.mapM indexOutcome = .ok indices
  | [], _ => rfl
  | i :: rest, small => by
      have tail := mapM_indexOutcome fun j member => small j (List.mem_cons_of_mem i member)
      rw [List.mapM_cons, indexOutcome, if_pos (small i List.mem_cons_self), tail]
      rfl

end StagePath

namespace WorkerMessage

/-- What the member for the path is read as. -/
theorem reads_pathMember (path : StagePath) :
    Reads (record.member elementNesting "path" record.blank) (':' :: path.toJson.chars)
      ((path.indices.mapM StagePath.indexOutcome).map fun indices => ⟨some ⟨indices⟩, none⟩) := by
  have member := Json.Record.reads_member record "path" record.blank rfl rfl
    ((StagePath.reads_path path 125).map fun path (draft : Draft) =>
      { draft with path := some path })
  cases outcome : path.indices.mapM StagePath.indexOutcome with
  | error e => rwa [outcome] at member
  | ok indices => rwa [outcome] at member

/-- What the member for the element is read as. -/
theorem reads_valueMember {v : Json} (sendable : Sendable v) (path : Option StagePath) :
    Reads (record.member elementNesting "value" ⟨path, none⟩) (':' :: v.chars)
      (.ok ⟨path, some v⟩) :=
  Json.Record.reads_member record "value" ⟨path, none⟩ rfl rfl
    ((Json.reads_value v elementNesting sendable.ordered sendable.integers
      sendable.shallow).map fun value (draft : Draft) => { draft with value := some value })

/-- **A message reads back** when its element is fit for the wire and its path has indices
of word size. -/
theorem decode_encode {path : StagePath} {v : Json} (small : ∀ i ∈ path.indices, i < 2 ^ 64)
    (sendable : Sendable v) : decode (encode ⟨path, v⟩) = .ok ⟨path, v⟩ := by
  have first := reads_pathMember path
  rw [StagePath.mapM_indexOutcome small] at first
  have second := reads_valueMember sendable (some path)
  have whole : (record.reader Json.nestingLimit).run (encode ⟨path, v⟩) = .ok ⟨path, v⟩ :=
    Reader.run_of_reads (Json.Record.reads_object (.cons first (.cons second .nil)) fun _ => rfl)
  rw [decode, whole]
  rfl

/-- No member takes back a path that has been read. -/
theorem member_keeps_path {path : StagePath} {budget : Nat} {name : String}
    {held next : Draft} {cs rest : List Char} (kept : held.path = some path)
    (step : record.member budget name held cs = .ok (next, rest)) : next.path = some path := by
  rcases Json.Record.member_eq_ok step with rfl | ⟨field, member, _, unset, set, cs', read, rfl⟩
  · exact kept
  rcases List.mem_cons.mp member with rfl | member
  · change held.path.isSome = false at unset
    rw [kept] at unset
    cases unset
  · obtain rfl := List.mem_singleton.mp member
    obtain ⟨v, _, _, read⟩ := Reader.bind_eq_ok read
    cases read
    exact kept

/-- The members of a message, the first of which is its path, give this path, and only when
its indices are of word size. -/
theorem path_of_moreMembers {path : StagePath} {last : Draft} {tail rest : List Char} :
    ∀ {bound : Nat}, Reader.moreMembers (record.member elementNesting) bound record.blank
      (Json.stringText "path" ++ (':' :: path.toJson.chars ++ ',' :: tail)) =
        .ok (last, rest) → last.path = some path ∧ ∀ i ∈ path.indices, i < 2 ^ 64 := by
  intro bound done
  have first := reads_pathMember path (',' :: tail) (Json.endsNumber_cons rfl (by decide))
  cases bound with
  | zero => cases done
  | succ bound =>
      cases outcome : path.indices.mapM StagePath.indexOutcome with
      | error e =>
          rw [outcome] at first
          rw [Json.moreMembers_error first] at done
          cases done
      | ok indices =>
          obtain ⟨rfl, small⟩ := StagePath.mapM_indexOutcome_eq outcome
          rw [outcome] at first
          rw [Json.moreMembers_comma first] at done
          have keeps : ∀ (name : String) (held : Draft) (cs : List Char) (next : Draft)
              (rest : List Char), held.path = some path →
              record.member elementNesting name held cs = .ok (next, rest) →
              next.path = some path :=
            fun _ _ _ _ _ kept step => member_keeps_path kept step
          exact ⟨Json.moreMembers_keeps keeps _ _ _ _ _ rfl done, small⟩

/-- **A message keeps its path.** Whatever its element is, if the text of a message can be
read, the message read has the path of the one written, and the element of that one if it
is fit for the wire. -/
theorem eq_of_decode_encode {path : StagePath} {v : Json} {message : WorkerMessage}
    (decoded : decode (encode ⟨path, v⟩) = .ok message) :
    message.path = path ∧ (Sendable v → message.value = v) := by
  have written := decoded
  rw [decode, encode, Json.recordText] at decoded
  cases whole : (record.reader Json.nestingLimit).run (String.ofList ('\x7b' ::
      (Json.memberChars [("path", path.toJson), ("value", v)] ++ ['\x7d']))) with
  | error e => rw [whole] at decoded; cases decoded
  | ok read =>
      rw [whole] at decoded
      cases decoded
      obtain ⟨rest, done⟩ : ∃ rest, record.reader (elementNesting + 1) _ = .ok (message, rest) :=
        Reader.eq_ok_of_run whole
      obtain ⟨draft, members, assembled⟩ := Json.Record.reader_object_eq_ok done
      have kept : draft.path = some path ∧ ∀ i ∈ path.indices, i < 2 ^ 64 := by
        have text : Json.memberChars [("path", path.toJson), ("value", v)] ++ ['\x7d'] =
            Json.stringText "path" ++ (':' :: path.toJson.chars ++
              ',' :: (Json.memberChars [("value", v)] ++ ['\x7d'])) := by
          simp [Json.memberChars_cons]
        rw [text, Reader.members, Reader.bind_ok (Reader.peek_of_head (c := '"') rfl rfl),
          if_neg (by decide)] at members
        exact path_of_moreMembers members
      obtain ⟨path', value⟩ := draft
      obtain rfl : path' = some path := kept.1
      refine ⟨?_, fun sendable => ?_⟩
      · cases value with
        | none => cases assembled
        | some w => cases assembled; rfl
      · rw [decode_encode kept.2 sendable] at written
        cases written
        rfl

end WorkerMessage

end Conduit
