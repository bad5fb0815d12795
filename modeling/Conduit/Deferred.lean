/-! # Answers that take time

What the function of a single element gives: an ending, and the number of turns
for which it is still waited for. Besides returning or failing, the function can
take down the thread it runs on, and then nothing comes back.
-/

namespace Conduit

/-- How the work on an element ends. -/
inductive Ending (ε α : Type) where
  | returned (value : α)
  | failed (error : ε)
  /-- The thread ended with it. -/
  | lost

namespace Ending

variable {ε ε' α β : Type}

/-- The ending with which work went through without failing. -/
def ofExcept : Except ε α → Ending ε α
  | .ok x => returned x
  | .error e => failed e

/-- Treats a returned value further, and puts the failure in other terms. -/
def andThen (fault : ε → ε') (f : α → Except ε' β) : Ending ε α → Ending ε' β
  | returned x => ofExcept (f x)
  | failed e => failed (fault e)
  | lost => lost

end Ending

/-- An ending that is reached after some turns of waiting. -/
structure Deferred (ε α : Type) where
  turns : Nat
  ending : Ending ε α

namespace Deferred

variable {ε ε' α β : Type}

/-- An ending that is there at once. -/
def now (ending : Ending ε α) : Deferred ε α := ⟨0, ending⟩

/-- Treats the returned value further as soon as it is there. -/
def andThen (fault : ε → ε') (f : α → Except ε' β) (d : Deferred ε α) : Deferred ε' β :=
  ⟨d.turns, d.ending.andThen fault f⟩

end Deferred

end Conduit
