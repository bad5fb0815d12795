import Conduit.Proofs.Wire.Replies

/-! # What is sent is what arrives

Messages and replies travel as text, and reading undoes writing for all of them that are
fit for the wire (`Conduit.arrives_as_sent`). So no two replies have the same text. In
particular one without a value is told apart from one whose value is `null`.
-/

namespace Conduit

namespace WorkerMessage

/-- The message can be sent: the indices of its path are of word size, and its element is
fit for the wire. -/
structure Fit (message : WorkerMessage) : Prop where
  indices : ∀ i ∈ message.path.indices, i < 2 ^ 64
  value : Sendable message.value

theorem Fit.decode_encode {message : WorkerMessage} (fit : message.Fit) :
    decode message.encode = .ok message :=
  WorkerMessage.decode_encode fit.indices fit.value

end WorkerMessage

namespace Reply

/-- The reply can be sent: the value in it, if there is one, is fit for the wire. -/
def Fit (reply : Reply) : Prop := ∀ v, reply.value = some v → Sendable v

/-- Different replies have different texts. -/
theorem Fit.encode_injective {first second : Reply} (fit : first.Fit) (fit' : second.Fit)
    (same : first.encode = second.encode) : first = second := by
  have read := congrArg decode same
  rw [decode_encode fit, decode_encode fit'] at read
  exact Except.ok.inj read

theorem fit_absent (ok : Bool) (error : Option ErrorDescription) : Fit ⟨ok, none, error⟩ := nofun

theorem fit_null (ok : Bool) (error : Option ErrorDescription) :
    Fit ⟨ok, some .null, error⟩ := by
  rintro v ⟨⟩
  exact ⟨trivial, trivial, Nat.zero_le _⟩

/-- A reply with `null` for its value has another text than one without a value. -/
theorem encode_absent_ne_null (ok : Bool) (error : Option ErrorDescription) :
    encode ⟨ok, none, error⟩ ≠ encode ⟨ok, some .null, error⟩ := by
  intro same
  cases (fit_absent ok error).encode_injective (fit_null ok error) same

end Reply

/-- **What is sent is what arrives.** Every message and every reply that is fit for the wire
is read back from its text as it was, with all that it leaves out. A value that is absent
stays absent, and an explicit `null` stays a value. A worker that has a value to report makes
the coordinator learn just this value. -/
theorem arrives_as_sent :
    (∀ message : WorkerMessage, message.Fit →
      WorkerMessage.decode message.encode = .ok message) ∧
    (∀ reply : Reply, reply.Fit → Reply.decode reply.encode = .ok reply) ∧
    (∀ ok error,
      Reply.encode ⟨ok, none, error⟩ ≠ Reply.encode ⟨ok, some .null, error⟩ ∧
      (Reply.decode (Reply.encode ⟨ok, none, error⟩)).map Reply.value = .ok none ∧
      (Reply.decode (Reply.encode ⟨ok, some .null, error⟩)).map Reply.value =
        .ok (some .null)) ∧
    ∀ v, Sendable v →
      (Reply.decode (Reply.ofOutcome (.ok v)).encode).bind Reply.toOutcome = .ok v := by
  refine ⟨fun _ fit => fit.decode_encode, fun _ fit => Reply.decode_encode fit, ?_, ?_⟩
  · intro ok error
    refine ⟨Reply.encode_absent_ne_null ok error, ?_, ?_⟩
    · rw [Reply.decode_encode (Reply.fit_absent ok error)]
      rfl
    · rw [Reply.decode_encode (Reply.fit_null ok error)]
      rfl
  · intro v sendable
    rw [Reply.ofOutcome, Reply.decode_success sendable]
    rfl

/-- An object with a text that needs escapes, the largest integer and the smallest, and an
array around nothing. -/
def mixedValue : Json :=
  .object [("", .string "say \"\\\n\x01é\""),
    ("bounds", .array [.int 0xFFFFFFFFFFFFFFFF, .int (-0x8000000000000000), .null]),
    ("none", .array [])]

theorem sendable_mixedValue : Sendable mixedValue := by
  refine ⟨⟨?_, trivial, ⟨?_, ?_, trivial, trivial⟩, trivial, trivial⟩, ?_, ?_⟩
  · decide
  · exact rfl
  · exact rfl
  · simp [mixedValue, Json.IntegersOnly, Json.IntegersOnlyMembers, Json.IntegersOnlyElements]
  · decide

/-- The value arrives in a message, in a reply that reports it, and in a reply that has a
failure beside it. -/
theorem arrives_as_sent_mixedValue :
    WorkerMessage.Fit ⟨⟨[2, 0xFFFFFFFFFFFFFFFF]⟩, mixedValue⟩ ∧
    WorkerMessage.decode (WorkerMessage.encode ⟨⟨[2, 0xFFFFFFFFFFFFFFFF]⟩, mixedValue⟩) =
      .ok ⟨⟨[2, 0xFFFFFFFFFFFFFFFF]⟩, mixedValue⟩ ∧
    Reply.Fit ⟨false, some mixedValue, some ⟨.cancelled, "late"⟩⟩ ∧
    Reply.decode (Reply.encode ⟨false, some mixedValue, some ⟨.cancelled, "late"⟩⟩) =
      .ok ⟨false, some mixedValue, some ⟨.cancelled, "late"⟩⟩ ∧
    Sendable mixedValue ∧
    (Reply.decode (Reply.ofOutcome (.ok mixedValue)).encode).bind Reply.toOutcome =
      .ok mixedValue := by
  obtain ⟨messages, replies, _, outcomes⟩ := arrives_as_sent
  have message : WorkerMessage.Fit ⟨⟨[2, 0xFFFFFFFFFFFFFFFF]⟩, mixedValue⟩ :=
    ⟨by decide, sendable_mixedValue⟩
  have reply : Reply.Fit ⟨false, some mixedValue, some ⟨.cancelled, "late"⟩⟩ := by
    rintro v ⟨⟩
    exact sendable_mixedValue
  exact ⟨message, messages _ message, reply, replies _ reply, sendable_mixedValue,
    outcomes _ sendable_mixedValue⟩

end Conduit
