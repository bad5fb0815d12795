import Conduit.Proofs.Error.Causes
import Conduit.Proofs.Wire.Replies

/-! # Failures that cross the wire

A worker describes its failure, and the coordinator rebuilds one from the description. What
is rebuilt is described as before (`Conduit.ErrorDescription.ofError_toError`), so that
nothing more changes at a second crossing. The places that stages put around a failure are
left behind; the category and the sentence of an application's failure are not
(`Conduit.Error.arrives_by_cause`).
-/

namespace Conduit

namespace ErrorDescription

/-- The failure that a description stands for has this description. -/
theorem ofError_toError (d : ErrorDescription) : ofError d.toError = d := by
  obtain ⟨kind, message⟩ := d
  cases kind <;> rfl

theorem isElemental_toError (d : ErrorDescription) : d.toError.isElemental = true := by
  obtain ⟨kind, message⟩ := d
  cases kind <;> rfl

/-- A failure of a stage's own code is described as one, however many places are around it. -/
theorem kindOf_of_category {e : Error} (stage : e.category = .stage) : kindOf e = .stage := by
  cases e with
  | protocol | malformedReply | cancelled => cases stage
  | _ => simp [kindOf, stage]

/-- The sentence of such a failure is told in full. -/
theorem messageOf_of_isLocated {e : Error} (located : e.isLocated = true) :
    messageOf e = e.message := by
  cases e with
  | raised | typeMismatch | serialization => rfl
  | _ => cases located

end ErrorDescription

namespace Error

open ErrorDescription

/-- A worker that fails with `e` makes the coordinator fail with `e'`: the reply about `e`
can be read, and this is what it says. -/
def ArrivesAs (e e' : Error) : Prop :=
  ∃ reply, Reply.decode (Reply.failure e).encode = .ok reply ∧ reply.toOutcome = .error e'

/-- The failure that is rebuilt from the description of a failure. -/
def rebuilt (e : Error) : Error := (ofError e).toError

theorem arrivesAs_iff {e e' : Error} : e.ArrivesAs e' ↔ e' = e.rebuilt := by
  constructor
  · rintro ⟨reply, decoded, said⟩
    rw [Reply.decode_failure] at decoded
    cases decoded
    cases said
    rfl
  · rintro rfl
    exact ⟨_, Reply.decode_failure e, rfl⟩

theorem rebuilt_rebuilt (e : Error) : e.rebuilt.rebuilt = e.rebuilt :=
  congrArg toError (ofError_toError (ofError e))

/-- A failure that has a stage's own code behind it is rebuilt as one that was raised, with
the sentence of what is innermost in it. -/
theorem rebuilt_of_isLocated {e : Error} (located : e.rootCause.isLocated = true) :
    e.rebuilt = .raised e.rootCause.message := by
  have stage : e.category = .stage := by
    rw [← category_rootCause, category_of_isLocated located]
  rw [rebuilt, ofError, kindOf_of_category stage, messageOf_of_isLocated located, toError]

/-- The failures that keep their category and the sentence of their innermost cause: those
that have a stage's own code behind them, and those that stages pass on and that have a kind
of their own in a reply, as long as no place is around them. -/
inductive KeepsCause : Error → Prop
  | application {e : Error} (located : e.rootCause.isLocated = true) : KeepsCause e
  | protocol (message : String) : KeepsCause (.protocol message)
  | workerSpawn (message : String) : KeepsCause (.workerSpawn message)
  | malformedReply (message : String) : KeepsCause (.malformedReply message)
  | cancelled (message : String) : KeepsCause (.cancelled message)

theorem KeepsCause.rebuilt {e : Error} (keeps : e.KeepsCause) :
    e.rebuilt.category = e.category ∧ e.rebuilt.message = e.rootCause.message := by
  cases keeps with
  | application located =>
      rw [rebuilt_of_isLocated located, ← category_rootCause e, category_of_isLocated located]
      exact ⟨rfl, rfl⟩
  | protocol | workerSpawn | malformedReply | cancelled => exact ⟨rfl, rfl⟩

/-- **A failure arrives by its cause.** Every failure of a worker arrives as one failure,
and this one arrives as itself. Whenever a stage's own code is behind the failure, and for
failures without a place that have a kind of their own in a reply, what arrives has no place
around it, the category of the failure, and the sentence of its innermost cause. -/
theorem arrives_by_cause (e : Error) :
    ∃ e', (∀ other, e.ArrivesAs other ↔ other = e') ∧
      (∀ again, e'.ArrivesAs again ↔ again = e') ∧
      (e.KeepsCause →
        e'.isBare = true ∧ e'.category = e.category ∧ e'.message = e.rootCause.message) := by
  refine ⟨e.rebuilt, fun _ => arrivesAs_iff, fun _ => ?_, fun keeps => ?_⟩
  · rw [arrivesAs_iff, rebuilt_rebuilt]
  · exact ⟨isBare_of_isElemental (isElemental_toError _), keeps.rebuilt⟩

/-- A stage of an inner pipeline was given something else than it expects. -/
def nestedMismatch : Error := .stage .apply 2 (.stage .transform 0 (.typeMismatch "i64" "bool"))

/-- The mismatch arrives as a raised failure with its own sentence, which two crossings do not
make longer. -/
theorem arrives_by_cause_nestedMismatch :
    nestedMismatch.KeepsCause ∧
      ∃ e', nestedMismatch.ArrivesAs e' ∧ e'.ArrivesAs e' ∧ e'.isBare = true ∧
        e'.category = .stage ∧ e'.message = "Type mismatch: expected i64, found bool" := by
  obtain ⟨e', arrives, again, kept⟩ := arrives_by_cause nestedMismatch
  have keeps : nestedMismatch.KeepsCause := .application rfl
  obtain ⟨bare, category, message⟩ := kept keeps
  exact ⟨keeps, e', (arrives e').mpr rfl, (again e').mpr rfl, bare, category, message⟩

end Error

end Conduit
