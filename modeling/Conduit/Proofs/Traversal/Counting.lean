import Conduit.Proofs.Traversal.Mirrors

/-! # Counting rounds

A gathering can be made with its rounds counted. Nothing else about it changes
(`Conduit.Asking.run_gather_counted`).
-/

namespace Conduit

variable {σ τ κ ε α β : Type}

/-- A computation while rounds are counted, of which it makes none. -/
def counting (x : StateM σ α) : StateM (σ × Nat) α :=
  fun (s, rounds) => ((x.run s).1, (x.run s).2, rounds)

/-- The same asking, with the rounds counted that wakes begin. -/
def Asking.counted (asking : Asking (StateM σ) κ ε β) : Asking (StateM (σ × Nat)) κ ε β where
  ask ticket := counting (asking.ask ticket)
  wake := fun (s, rounds) => ((), (asking.wake.run s).2, rounds + 1)
  patience tickets := counting (asking.patience tickets)
  abandoned := asking.abandoned

theorem run_round_counting (visit : τ → StateM σ (Slot κ ε β)) (eager : Bool) :
    ∀ (xs : List τ) (clear : Bool) (s : σ) (rounds : Nat),
      (round (fun x => counting (visit x)) eager clear xs).run (s, rounds) =
        (((round visit eager clear xs).run s).1, ((round visit eager clear xs).run s).2,
          rounds) := by
  intro xs
  induction xs with
  | nil => intro clear s rounds; rfl
  | cons x rest ih =>
      intro clear s rounds
      rw [run_round_cons, run_round_cons]
      change (match (((visit x).run s).1, ((visit x).run s).2, rounds) with | (slot, t) => _) = _
      generalize (visit x).run s = outcome
      obtain ⟨slot, t⟩ := outcome
      cases slot with
      | failed e =>
          dsimp only
          split
          · rfl
          · rw [ih]; rfl
      | done b => dsimp only; rw [ih]; rfl
      | waiting ticket => dsimp only; rw [ih]; rfl

namespace Asking

variable {asking : Asking (StateM σ) κ ε β}

theorem visit_counted (slot : Slot κ ε β) :
    asking.counted.visit slot = counting (asking.visit slot) := by
  cases slot <;> rfl

theorem conclude_counted (slots : List (Slot κ ε β)) :
    asking.counted.conclude slots = asking.conclude slots := by
  induction slots with
  | nil => rfl
  | cons slot rest ih =>
      cases slot with
      | done b => rw [conclude, conclude, ih]
      | failed e => rfl
      | waiting ticket => rfl

theorem wake_counted (s : σ) (rounds : Nat) :
    (asking.counted.wake.run (s, rounds)).2 = ((asking.wake.run s).2, rounds + 1) := rfl

theorem run_round_counted (eager clear : Bool) (slots : List (Slot κ ε β)) (s : σ)
    (rounds : Nat) :
    (round asking.counted.visit eager clear slots).run (s, rounds) =
      (((round asking.visit eager clear slots).run s).1,
        ((round asking.visit eager clear slots).run s).2, rounds) := by
  rw [funext visit_counted]
  exact run_round_counting asking.visit eager slots clear s rounds

theorem run_round_start (start : α → StateM σ (Answer κ ε β)) (eager : Bool) (xs : List α)
    (s : σ) (rounds : Nat) :
    (round (fun x => return Slot.ofAnswer (← counting (start x))) eager true xs).run (s, rounds) =
      (((round (fun x => return Slot.ofAnswer (← start x)) eager true xs).run s).1,
        ((round (fun x => return Slot.ofAnswer (← start x)) eager true xs).run s).2, rounds) :=
  run_round_counting (fun x => return Slot.ofAnswer (← start x)) eager xs true s rounds

theorem counted_mirrors (asking : Asking (StateM σ) κ ε β) :
    asking.counted.Mirrors asking Prod.fst id where
  ask ticket := fun (s, _) => Prod.ext (Answer.map_id ((asking.ask ticket).run s).1).symm rfl
  wake _ := rfl
  patience tickets := fun (s, _) => congrArg (fun ts => (asking.patience ts).run s) tickets.map_id
  abandoned _ := rfl

/-- Counting the rounds changes nothing about the gathering. -/
theorem run_gather_counted (start : α → StateM σ (Answer κ ε β)) (xs : List α) (s : σ) :
    ∃ rounds, (asking.counted.gather (fun x => counting (start x)) xs).run (s, 0) =
      (((asking.gather start xs).run s).1, ((asking.gather start xs).run s).2, rounds) := by
  have starts (x : α) : Mirrored (Prod.fst : σ × Nat → σ) (Answer.map id) (counting (start x))
      (start x) :=
    fun (s, _) => Prod.ext (Answer.map_id ((start x).run s).1).symm rfl
  have same := (counted_mirrors asking).gather starts xs (s, 0)
  change (asking.gather start xs).run s = _ at same
  rw [same]
  exact ⟨_, rfl⟩

end Asking

end Conduit
