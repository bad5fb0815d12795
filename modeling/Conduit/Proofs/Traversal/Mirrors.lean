import Conduit.Proofs.Traversal.Rounds

/-! # Gatherings that mirror one another

A gathering may be told with more in its state, and in its tickets, than it needs. When every
single start, answer and wake then comes to the same once the surplus is left out, so does the
gathering (`Conduit.Asking.Mirrors.gather`).
-/

namespace Conduit

variable {σ σ' τ τ' κ κ' ε α α' β : Type}

/-- The answer with its ticket in other terms. -/
def Answer.map (ticket : κ → κ') : Answer κ ε β → Answer κ' ε β
  | .now outcome => .now outcome
  | .later t => .later (ticket t)

theorem Answer.map_id (answer : Answer κ ε β) : answer.map id = answer := by
  cases answer <;> rfl

namespace Slot

/-- The slot with its ticket in other terms. -/
def map (ticket : κ → κ') : Slot κ ε β → Slot κ' ε β
  | waiting t => waiting (ticket t)
  | done b => done b
  | failed e => failed e

variable {ticket : κ → κ'}

theorem ofAnswer_map (answer : Answer κ ε β) :
    ofAnswer (answer.map ticket) = (ofAnswer answer).map ticket := by
  cases answer with
  | now outcome => cases outcome <;> rfl
  | later t => rfl

theorem tickets_map (slots : List (Slot κ ε β)) :
    tickets (slots.map (map ticket)) = (tickets slots).map ticket := by
  induction slots with
  | nil => rfl
  | cons slot rest ih =>
      cases slot with
      | waiting t => exact congrArg (ticket t :: ·) ih
      | done b => exact ih
      | failed e => exact ih

end Slot

/-- As `state` sees it, the second computation does what the first one does, and `value` tells
what it gives. -/
def Mirrored (state : σ → σ') (value : α → α') (x : StateM σ α) (y : StateM σ' α') : Prop :=
  ∀ s, y.run (state s) = (value (x.run s).1, state (x.run s).2)

variable {state : σ → σ'} {ticket : κ → κ'}

theorem Mirrored.ofAnswer {x : StateM σ (Answer κ ε β)} {y : StateM σ' (Answer κ' ε β)}
    (mirrored : Mirrored state (Answer.map ticket) x y) :
    Mirrored state (Slot.map ticket) (return Slot.ofAnswer (← x)) (return Slot.ofAnswer (← y)) := by
  intro s
  rw [StateT.run_bind, StateT.run_bind, mirrored s]
  exact congrArg (·, state (x.run s).2) (Slot.ofAnswer_map (x.run s).1)

/-- One slot more in front is one slot more in the mirror. -/
theorem mirrored_cons (slot : Slot κ ε β) (ending : Except ε (List (Slot κ ε β)) × σ) :
    (Except.map (List.map (Slot.map ticket)) ending.1, state ending.2).map
        (Except.map (slot.map ticket :: ·)) id =
      (Except.map (List.map (Slot.map ticket)) (ending.map (Except.map (slot :: ·)) id).1,
        state (ending.map (Except.map (slot :: ·)) id).2) := by
  obtain ⟨outcome, t⟩ := ending
  cases outcome <;> rfl

/-- A round comes to the same when all its visits do. -/
theorem round_mirrored {visit : τ → StateM σ (Slot κ ε β)} {visit' : τ' → StateM σ' (Slot κ' ε β)}
    (name : τ → τ')
    (visits : ∀ x, Mirrored state (Slot.map ticket) (visit x) (visit' (name x))) (eager : Bool)
    (xs : List τ) (clear : Bool) :
    Mirrored state (Except.map (List.map (Slot.map ticket))) (round visit eager clear xs)
      (round visit' eager clear (xs.map name)) := by
  intro s
  induction xs generalizing clear s with
  | nil => rfl
  | cons x rest ih =>
      rw [List.map_cons, run_round_cons, run_round_cons, visits x s]
      generalize (visit x).run s = outcome
      obtain ⟨slot, t⟩ := outcome
      cases slot with
      | failed e =>
          dsimp only [Slot.map]
          split
          · rfl
          · rw [ih]
            exact mirrored_cons (.failed e) ((round visit eager false rest).run t)
      | done b =>
          dsimp only [Slot.map]
          rw [ih]
          exact mirrored_cons (.done b) ((round visit eager clear rest).run t)
      | waiting later =>
          dsimp only [Slot.map]
          rw [ih]
          exact mirrored_cons (.waiting later) ((round visit eager false rest).run t)

namespace Asking

/-- As `state` and `ticket` see it, the second asking does what the first one does. -/
structure Mirrors (asking : Asking (StateM σ) κ ε β) (plain : Asking (StateM σ') κ' ε β)
    (state : σ → σ') (ticket : κ → κ') : Prop where
  ask : ∀ t, Mirrored state (Answer.map ticket) (asking.ask t) (plain.ask (ticket t))
  wake : Mirrored state id asking.wake plain.wake
  patience : ∀ tickets, Mirrored state id (asking.patience tickets)
    (plain.patience (tickets.map ticket))
  abandoned : ∀ t, plain.abandoned (ticket t) = asking.abandoned t

variable {asking : Asking (StateM σ) κ ε β} {plain : Asking (StateM σ') κ' ε β}

namespace Mirrors

variable (mirrors : asking.Mirrors plain state ticket)

include mirrors

theorem visit (slot : Slot κ ε β) :
    Mirrored state (Slot.map ticket) (asking.visit slot) (plain.visit (slot.map ticket)) := by
  cases slot with
  | waiting t => exact (mirrors.ask t).ofAnswer
  | done b => exact fun s => rfl
  | failed e => exact fun s => rfl

theorem conclude (slots : List (Slot κ ε β)) :
    plain.conclude (slots.map (Slot.map ticket)) = asking.conclude slots := by
  induction slots with
  | nil => rfl
  | cons slot rest ih =>
      cases slot with
      | done b => exact congrArg (Except.map (b :: ·)) ih
      | failed e => rfl
      | waiting t => exact congrArg Except.error (mirrors.abandoned t)

theorem wait (eager : Bool) (patience : Nat) (slots : List (Slot κ ε β)) :
    Mirrored state id (asking.wait eager patience slots)
      (plain.wait eager patience (slots.map (Slot.map ticket))) := by
  intro s
  induction patience generalizing slots s with
  | zero => exact congrArg (·, state s) (mirrors.conclude slots)
  | succ patience ih =>
      rw [run_wait_succ, run_wait_succ, mirrors.conclude, Slot.tickets_map, List.isEmpty_map,
        mirrors.wake s, round_mirrored (Slot.map ticket) mirrors.visit eager slots true]
      split
      · rfl
      · generalize (round asking.visit eager true slots).run (asking.wake.run s).2 = ending
        obtain ⟨outcome, t⟩ := ending
        cases outcome with
        | error e => rfl
        | ok slots' => exact ih slots' t

/-- **A gathering comes to the same** when every start, answer and wake does. -/
theorem gather {start : α → StateM σ (Answer κ ε β)} {start' : α → StateM σ' (Answer κ' ε β)}
    (starts : ∀ x, Mirrored state (Answer.map ticket) (start x) (start' x)) (xs : List α) :
    Mirrored state id (asking.gather start xs) (plain.gather start' xs) := by
  intro s
  have first : Mirrored state (Except.map (List.map (Slot.map ticket)))
      (round (fun x => return Slot.ofAnswer (← start x)) (decide (xs.length ≤ eagerLimit)) true xs)
      (round (fun x => return Slot.ofAnswer (← start' x)) (decide (xs.length ≤ eagerLimit)) true
        (xs.map id)) :=
    round_mirrored id (fun x => (starts x).ofAnswer) _ xs true
  rw [List.map_id] at first
  rw [run_gather, run_gather]
  dsimp only
  rw [first s]
  generalize (round (fun x => return Slot.ofAnswer (← start x))
    (decide (xs.length ≤ eagerLimit)) true xs).run s = ending
  obtain ⟨outcome, t⟩ := ending
  cases outcome with
  | error e => rfl
  | ok slots =>
      dsimp only [Except.map]
      rw [Slot.tickets_map, mirrors.patience (Slot.tickets slots) t]
      exact mirrors.wait _ _ slots _

end Mirrors

end Asking

end Conduit
