import Conduit.Proofs.Json.Depth
import Conduit.Proofs.Wire.Replies

/-! # Elements that nest too deep for the wire

The wire has an object of its own around every element. So the reader of a message or a
reply refuses an element that it would just have had the budget for
(`Conduit.WorkerMessage.decode_encode_deep`, `Conduit.Reply.decode_success_deep`), and an
element in good order is fit for the wire just when it leaves room for this object.
-/

namespace Conduit

open Json (Reader Fault Reads)

/-- The element is in good order and has no floating-point numbers, however deep it nests. -/
structure Orderly (v : Json) : Prop where
  ordered : v.WellFormed
  integers : v.IntegersOnly

theorem Orderly.sendable_iff {v : Json} (orderly : Orderly v) :
    Sendable v ↔ v.nesting ≤ elementNesting :=
  ⟨Sendable.shallow, fun shallow => ⟨orderly.ordered, orderly.integers, shallow⟩⟩

/-- An orderly element that is not fit for the wire is refused by its readers. -/
theorem Orderly.refuses {v : Json} (orderly : Orderly v) (unfit : ¬ Sendable v) :
    Reads (Reader.value elementNesting) v.chars (.error .malformed) :=
  Json.refuses_value v elementNesting orderly.ordered orderly.integers
    (Nat.lt_of_not_le (mt orderly.sendable_iff.mpr unfit))

/-- **A message cannot be read** when its element nests too deep for the wire. -/
theorem WorkerMessage.decode_encode_deep {path : StagePath} {v : Json}
    (small : ∀ i ∈ path.indices, i < 2 ^ 64) (orderly : Orderly v) (unfit : ¬ Sendable v) :
    ∃ text, decode (encode ⟨path, v⟩) = .error (.malformedReply text) := by
  have first := reads_pathMember path
  rw [StagePath.mapM_indexOutcome small] at first
  have second : Reads (record.member elementNesting "value" ⟨some path, none⟩)
      (':' :: v.chars) (.error .malformed) :=
    Json.Record.reads_member record "value" ⟨some path, none⟩ rfl rfl
      ((orderly.refuses unfit).map fun value (draft : Draft) => { draft with value := some value })
  have whole : (record.reader Json.nestingLimit).run (encode ⟨path, v⟩) = .error .malformed :=
    Reader.run_of_reads (Json.Record.refuses_object (.later first (.here second)))
  rw [decode, whole]
  exact ⟨_, rfl⟩

/-- **A value's reply cannot be read** when the value nests too deep for the wire. -/
theorem Reply.decode_success_deep {v : Json} (orderly : Orderly v) (unfit : ¬ Sendable v) :
    ∃ text, decode (success v).encode = .error (.malformedReply text) := by
  have second : Reads (record.member elementNesting "value" ⟨some true, none, none⟩)
      (':' :: v.chars) (.error .malformed) :=
    Json.Record.reads_member record "value" ⟨some true, none, none⟩ rfl rfl
      ((orderly.refuses unfit).map fun value (draft : Draft) => { draft with value := some value })
  have whole : (record.reader Json.nestingLimit).run (success v).encode = .error .malformed :=
    Reader.run_of_reads (Json.Record.refuses_object
      (.later (reads_okMember true elementNesting) (.here second)))
  rw [decode, whole]
  exact ⟨_, rfl⟩

end Conduit
