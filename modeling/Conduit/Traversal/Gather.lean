/-! # Waiting for many answers at once

The elements of a collection are asked for in rounds: a round asks every element
that has not answered yet, in the order of their positions. Up to thirty elements
are gathered eagerly: the first failure that is met ends the wait, and the rest of
the round is left out. More elements are gathered in order: a failure counts only
when all positions before it have their answers, and until then the round goes on.
-/

namespace Conduit

/-- The size up to which a collection is gathered eagerly. -/
def eagerLimit : Nat := 30

/-- What asking an element gives: its outcome, or a ticket to ask again with. -/
inductive Answer (κ ε β : Type) where
  | now (outcome : Except ε β)
  | later (ticket : κ)

/-- How far an element has come. -/
inductive Slot (κ ε β : Type) where
  | waiting (ticket : κ)
  | done (value : β)
  | failed (error : ε)

namespace Slot

variable {κ ε β : Type}

/-- The slot after an answer. -/
def ofAnswer : Answer κ ε β → Slot κ ε β
  | .now (.ok b) => done b
  | .now (.error e) => failed e
  | .later ticket => waiting ticket

/-- The tickets of the elements still waited for. -/
def tickets (slots : List (Slot κ ε β)) : List κ :=
  slots.filterMap fun
    | waiting ticket => some ticket
    | _ => none

end Slot

/-- A way to get answers after the first time of asking: how to ask again, and what
goes on between two rounds. -/
structure Asking (m : Type → Type) (κ ε β : Type) where
  ask : κ → m (Answer κ ε β)
  /-- Lets the elements waited for make progress. -/
  wake : m Unit
  /-- A number of rounds after which all tickets have their answers. -/
  patience : List κ → m Nat
  /-- The failure of an element that has no answer when patience ends. -/
  abandoned : κ → ε

section Round

variable {m : Type → Type} [Monad m] {σ κ ε β : Type}

/-- One round over elements of which each is visited in turn. `clear` tells that
every position before has its answer. -/
@[specialize] def round (visit : σ → m (Slot κ ε β)) (eager : Bool) : (clear : Bool) → List σ →
    m (Except ε (List (Slot κ ε β)))
  | _, [] => pure (.ok [])
  | clear, x :: rest => do
      match ← visit x with
      | .failed e =>
          if eager || clear then return .error e
          else return (← round visit eager false rest).map (.failed e :: ·)
      | .done b => return (← round visit eager clear rest).map (.done b :: ·)
      | .waiting ticket => return (← round visit eager false rest).map (.waiting ticket :: ·)

end Round

namespace Asking

variable {m : Type → Type} [Monad m] {κ ε α β : Type} (asking : Asking m κ ε β)

/-- Asks an element again unless it has answered. -/
@[specialize] def visit : Slot κ ε β → m (Slot κ ε β)
  | .waiting ticket => do return .ofAnswer (← asking.ask ticket)
  | .done b => return .done b
  | .failed e => return .failed e

/-- The values of all elements when there is no more waiting; otherwise the failure of
the first element without one. -/
def conclude : List (Slot κ ε β) → Except ε (List β)
  | [] => .ok []
  | .done b :: rest => (conclude rest).map (b :: ·)
  | .failed e :: _ => .error e
  | .waiting ticket :: _ => .error (asking.abandoned ticket)

/-- Rounds, until no element is waited for or patience ends. -/
@[specialize] def wait (eager : Bool) : (patience : Nat) → List (Slot κ ε β) →
    m (Except ε (List β))
  | 0, slots => pure (asking.conclude slots)
  | patience + 1, slots => do
      if (Slot.tickets slots).isEmpty then return asking.conclude slots
      else
        asking.wake
        match ← round asking.visit eager true slots with
        | .error e => return .error e
        | .ok slots => wait eager patience slots

/-- The answers for all elements, in their order, or the failure that ends the wait.
The first round starts the elements. -/
@[specialize] def gather (start : α → m (Answer κ ε β)) (xs : List α) :
    m (Except ε (List β)) := do
  let eager := decide (xs.length ≤ eagerLimit)
  match ← round (fun x => return Slot.ofAnswer (← start x)) eager true xs with
  | .error e => return .error e
  | .ok slots =>
      let patience ← asking.patience (Slot.tickets slots)
      asking.wait eager patience slots

end Asking

end Conduit
