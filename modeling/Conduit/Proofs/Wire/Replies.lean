import Conduit.Proofs.Wire.Messages
import Conduit.Wire.Reply

/-! # Replies read back

A reply is read back as it was written when the value in it is fit for the wire, or when it
has none (`Conduit.Reply.decode_encode`). So is every reply about a failure
(`Conduit.Reply.decode_failure`).
-/

namespace Conduit

open Json (Reader Fault Reads Takes)

theorem FailureKind.lookup_name (kind : FailureKind) : named.lookup kind.name = some kind := by
  cases kind <;> rfl

namespace ErrorDescription

/-- A description is read from its text. -/
theorem reads_description (d : ErrorDescription) (budget : Nat) :
    Reads (record.reader (budget + 1)) d.toJson.chars (.ok d) := by
  have kind : Reads (record.member budget "kind" record.blank)
      (':' :: Json.chars (.string d.kind.name)) (.ok ⟨some d.kind, none⟩) :=
    Json.Record.reads_member record "kind" record.blank rfl rfl
      ((Reader.reads_variant d.kind.lookup_name budget).map fun kind (draft : Draft) =>
        { draft with kind := some kind })
  have message : Reads (record.member budget "message" ⟨some d.kind, none⟩)
      (':' :: Json.chars (.string d.message)) (.ok ⟨some d.kind, some d.message⟩) :=
    Json.Record.reads_member record "message" ⟨some d.kind, none⟩ rfl rfl
      ((Reader.reads_string d.message).map fun message (draft : Draft) =>
        { draft with message := some message })
  exact Json.Record.reads_object (.cons kind (.cons message .nil)) fun _ => rfl

end ErrorDescription

namespace Reply

theorem reads_okMember (ok : Bool) (budget : Nat) :
    Reads (record.member budget "ok" record.blank) (':' :: Json.chars (.bool ok))
      (.ok ⟨some ok, none, none⟩) :=
  Json.Record.reads_member record "ok" record.blank rfl rfl
    ((Reader.reads_boolean ok).map fun ok (draft : Draft) => { draft with ok := some ok })

theorem reads_valueMember (ok : Bool) {v : Json} (sendable : Sendable v) :
    Reads (record.member elementNesting "value" ⟨some ok, none, none⟩) (':' :: v.chars)
      (.ok ⟨some ok, some v, none⟩) :=
  Json.Record.reads_member record "value" ⟨some ok, none, none⟩ rfl rfl
    ((Json.reads_value v elementNesting sendable.ordered sendable.integers
      sendable.shallow).map fun value (draft : Draft) => { draft with value := some value })

theorem reads_errorMember (ok : Bool) (value : Option Json) (d : ErrorDescription) :
    Reads (record.member elementNesting "error" ⟨some ok, value, none⟩)
      (':' :: d.toJson.chars) (.ok ⟨some ok, value, some (some d)⟩) := by
  have optional : Reads (Reader.optional (ErrorDescription.record.reader elementNesting))
      d.toJson.chars (.ok (some d)) := by
    intro rest ends
    rw [Reader.optional, Reader.bind_ok (Reader.peek_of_head (c := '\x7b') rfl rfl),
      if_neg (by decide)]
    exact ((d.reads_description 125).map some) rest ends
  exact Json.Record.reads_member record "error" ⟨some ok, value, none⟩ rfl rfl
    (optional.map fun error (draft : Draft) => { draft with error := some error })

/-- The value of a reply is taken when there is one, and the members after it follow. -/
theorem takes_value {ok : Bool} {value : Option Json} (sendable : ∀ v, value = some v → Sendable v)
    {ms : List (String × Json)} {last : Draft}
    (others : Takes (record.member elementNesting) ⟨some ok, value, none⟩ ms last) :
    Takes (record.member elementNesting) ⟨some ok, none, none⟩
      ((value.map fun value => ("value", value)).toList ++ ms) last := by
  cases value with
  | none => exact others
  | some v => exact .cons (reads_valueMember ok (sendable v rfl)) others

/-- The description in a reply is taken when there is one. -/
theorem takes_error (ok : Bool) (value : Option Json) (error : Option ErrorDescription) :
    Takes (record.member elementNesting) ⟨some ok, value, none⟩
      (error.map fun error => ("error", error.toJson)).toList ⟨some ok, value, error.map some⟩ := by
  cases error with
  | none => exact .nil
  | some d => exact .cons (reads_errorMember ok value d) .nil

/-- **A reply reads back**, whatever it leaves out, when the value in it is fit for the
wire. -/
theorem decode_encode {reply : Reply} (sendable : ∀ v, reply.value = some v → Sendable v) :
    decode reply.encode = .ok reply := by
  obtain ⟨ok, value, error⟩ := reply
  have takes := Takes.cons (reads_okMember ok elementNesting)
    (takes_value sendable (takes_error ok value error))
  have assembled : ∀ absent, record.assemble absent ⟨some ok, value, error.map some⟩ =
      .ok ⟨ok, value, error⟩ := by
    intro absent
    cases error <;> rfl
  have whole : (record.reader Json.nestingLimit).run (encode ⟨ok, value, error⟩) =
      .ok ⟨ok, value, error⟩ := by
    rw [encode, List.append_assoc]
    exact Reader.run_of_reads (Json.Record.reads_object takes assembled)
  rw [decode, whole]
  rfl

/-- **A value's reply reads back** when the value is fit for the wire. -/
theorem decode_success {v : Json} (sendable : Sendable v) :
    decode (success v).encode = .ok (success v) := by
  refine decode_encode fun w same => ?_
  cases same
  exact sendable

/-- **A failure's reply reads back**, whatever the failure is. -/
theorem decode_failure (e : Error) : decode (failure e).encode = .ok (failure e) :=
  decode_encode nofun

end Reply

end Conduit
