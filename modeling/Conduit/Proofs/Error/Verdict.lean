/-! # What decides an outcome

A check that may fail is described by the results it gives and the faults it reports, each of them
just when a condition on it holds (`Conduit.Decides`). The description of a check made of others
is put together from theirs: the first of them that fails reports its fault.
-/

namespace Conduit

variable {ε δ α β : Type}

/-- An outcome is a result just when this is good, and a fault just when this is found. -/
structure Decides (outcome : Except ε α) (good : α → Prop) (found : ε → Prop) : Prop where
  ok_iff : ∀ a, outcome = .ok a ↔ good a
  error_iff : ∀ e, outcome = .error e ↔ found e

namespace Decides

variable {outcome : Except ε α} {good : α → Prop} {found : ε → Prop}

/-- It is enough that there always is a good result or a fault to be found, and that the outcome
agrees. -/
theorem of_total (accepts : ∀ a, good a → outcome = .ok a)
    (refuses : ∀ e, found e → outcome = .error e) (total : (∃ a, good a) ∨ ∃ e, found e) :
    Decides outcome good found := by
  rcases total with ⟨a, is_good⟩ | ⟨e, is_found⟩
  · have accepted := accepts a is_good
    refine ⟨fun b => ⟨fun same => ?_, accepts b⟩, fun e => ⟨fun refused => ?_, refuses e⟩⟩
    · cases accepted.symm.trans same
      exact is_good
    · cases accepted.symm.trans refused
  · have refused := refuses e is_found
    refine ⟨fun b => ⟨fun accepted => ?_, accepts b⟩, fun d => ⟨fun same => ?_, refuses d⟩⟩
    · cases refused.symm.trans accepted
    · cases refused.symm.trans same
      exact is_found

/-- The same outcome, with its conditions put in other words. -/
theorem congr {good' : α → Prop} {found' : ε → Prop} (decides : Decides outcome good found)
    (results : ∀ a, good a ↔ good' a) (faults : ∀ e, found e ↔ found' e) :
    Decides outcome good' found' :=
  ⟨fun a => (decides.ok_iff a).trans (results a), fun e => (decides.error_iff e).trans (faults e)⟩

theorem map (decides : Decides outcome good found) (f : α → β) :
    Decides (outcome.map f) (fun b => ∃ a, good a ∧ b = f a) found := by
  obtain ⟨ok_iff, error_iff⟩ := decides
  cases outcome with
  | ok a => exact ⟨by simp [← ok_iff, Except.map, eq_comm], by simp [← error_iff, Except.map]⟩
  | error e => exact ⟨by simp [← ok_iff, Except.map], by simp [← error_iff, Except.map]⟩

theorem mapError (decides : Decides outcome good found) (f : ε → δ) :
    Decides (outcome.mapError f) good (fun d => ∃ e, found e ∧ d = f e) := by
  obtain ⟨ok_iff, error_iff⟩ := decides
  cases outcome with
  | ok a =>
      change Decides (.ok a) _ _
      exact ⟨by simp [← ok_iff], by simp [← error_iff]⟩
  | error e =>
      change Decides (.error (f e)) _ _
      exact ⟨by simp [← ok_iff], by simp [← error_iff, eq_comm]⟩

/-- What comes after a check is decided only when the check gives a result. -/
theorem bind {next : α → Except ε β} {good' : α → β → Prop} {found' : α → ε → Prop}
    (decides : Decides outcome good found)
    (onward : ∀ a, good a → Decides (next a) (good' a) (found' a)) :
    Decides (outcome.bind next) (fun b => ∃ a, good a ∧ good' a b)
      (fun e => found e ∨ ∃ a, good a ∧ found' a e) := by
  obtain ⟨ok_iff, error_iff⟩ := decides
  cases outcome with
  | ok a =>
      have decided := onward a ((ok_iff a).mp rfl)
      exact ⟨by simp [← ok_iff, Except.bind, decided.ok_iff],
        by simp [← ok_iff, ← error_iff, Except.bind, decided.error_iff]⟩
  | error e => exact ⟨by simp [← ok_iff, Except.bind], by simp [← ok_iff, ← error_iff, Except.bind]⟩

end Decides

end Conduit
