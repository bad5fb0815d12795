import Conduit.Proofs.Traversal.Rounds

/-! # Elements that answer at once

When every element has its answer as soon as it is started, the first round is the only
one: elements are started one after the other, up to the first that fails, whatever the
size of the collection (`Conduit.Asking.run_gather_prompt`).
-/

namespace Conduit

variable {σ κ ε α β : Type}

section InOrder

variable (own : α → Except ε β) (after : α → σ → σ)

/-- The shared state after elements were treated in order, up to the first failure. -/
def afterAll : List α → σ → σ
  | [], s => s
  | x :: rest, s =>
      match own x with
      | .ok _ => afterAll rest (after x s)
      | .error _ => after x s

variable {own after}

/-- What every element that succeeds keeps, all keep together when all succeed. -/
theorem afterAll_keeps {kept : σ → Prop} {xs : List α}
    (keeps : ∀ x ∈ xs, ∀ s y, kept s → own x = .ok y → kept (after x s)) {ys : List β} {s : σ}
    (start : kept s) (succeeds : xs.mapM own = .ok ys) : kept (afterAll own after xs s) := by
  induction xs generalizing ys s with
  | nil => exact start
  | cons x rest ih =>
      rw [List.mapM_cons] at succeeds
      rw [afterAll]
      cases first : own x with
      | error e => rw [first] at succeeds; cases succeeds
      | ok y =>
          rw [first] at succeeds
          cases others : rest.mapM own with
          | error e => rw [others] at succeeds; cases succeeds
          | ok zs =>
              have kept' := keeps x List.mem_cons_self s y start first
              exact ih (fun z member => keeps z (List.mem_cons_of_mem x member)) kept' others

end InOrder

section Prompt

variable {kept : σ → Prop} {own : α → Except ε β} {after : α → σ → σ}

/-- The elements answer at once in every state of a kind that successes keep. -/
structure Prompt (start : α → StateM σ (Answer κ ε β)) (xs : List α) (kept : σ → Prop)
    (own : α → Except ε β) (after : α → σ → σ) : Prop where
  answers : ∀ x ∈ xs, ∀ s, kept s → (start x).run s = (.now (own x), after x s)
  keeps : ∀ x ∈ xs, ∀ s y, kept s → own x = .ok y → kept (after x s)

variable {start : α → StateM σ (Answer κ ε β)} {xs : List α}

/-- A round over elements that answer at once treats them in order. -/
theorem Prompt.round (prompt : Prompt start xs kept own after) (eager : Bool) {s : σ}
    (here : kept s) :
    (round (fun x => return Slot.ofAnswer (← start x)) eager true xs).run s =
      ((xs.mapM own).map (List.map Slot.done), afterAll own after xs s) := by
  induction xs generalizing s with
  | nil => rfl
  | cons x rest ih =>
      have answer : (StateT.run (return Slot.ofAnswer (← start x)) s : Id _) =
          (Slot.ofAnswer (.now (own x)), after x s) := by
        rw [StateT.run_bind, prompt.answers x List.mem_cons_self s here]
        rfl
      rw [run_round_cons, answer, List.mapM_cons, afterAll]
      cases first : own x with
      | error e => cases eager <;> rfl
      | ok y =>
          have others := ih ⟨fun z member => prompt.answers z (List.mem_cons_of_mem x member),
            fun z member => prompt.keeps z (List.mem_cons_of_mem x member)⟩
            (prompt.keeps x List.mem_cons_self s y here first)
          refine (congrArg (Prod.map (Except.map (Slot.done y :: ·)) id) others).trans ?_
          cases rest.mapM own <;> rfl

theorem Slot.tickets_done (ys : List β) :
    Slot.tickets (ys.map (Slot.done (κ := κ) (ε := ε))) = [] := by
  rw [Slot.tickets_eq_nil_iff]
  simp

theorem Asking.conclude_done {m : Type → Type} (asking : Asking m κ ε β) (ys : List β) :
    asking.conclude (ys.map .done) = .ok ys := by
  induction ys with
  | nil => rfl
  | cons y rest ih => rw [List.map_cons, Asking.conclude, ih]; rfl

/-- There is no waiting when all answers are there. -/
theorem Asking.run_wait_done (asking : Asking (StateM σ) κ ε β) (eager : Bool)
    (patience : Nat) (ys : List β) (s : σ) :
    (asking.wait eager patience (ys.map .done)).run s = (.ok ys, s) := by
  cases patience with
  | zero => exact congrArg (·, s) (asking.conclude_done ys)
  | succ patience =>
      rw [Asking.run_wait_succ, Slot.tickets_done, Asking.conclude_done]
      rfl

/-- **Prompt elements are treated in order.** Gathering gives the values of all elements or
the first failure among them, and no element behind a failure is started. -/
theorem Asking.run_gather_prompt (asking : Asking (StateM σ) κ ε β)
    (prompt : Prompt start xs kept own after)
    (patient : ∀ s, ((asking.patience []).run s).2 = s) {s : σ} (here : kept s) :
    (asking.gather start xs).run s = (xs.mapM own, afterAll own after xs s) := by
  rw [Asking.run_gather]
  dsimp only
  rw [prompt.round _ here]
  cases xs.mapM own with
  | error e => rfl
  | ok ys =>
      change (asking.wait _ ((asking.patience (Slot.tickets (ys.map .done))).run
        (afterAll own after xs s)).1 (ys.map .done)).run ((asking.patience
          (Slot.tickets (ys.map .done))).run (afterAll own after xs s)).2 = _
      rw [Asking.run_wait_done, Slot.tickets_done, patient]

end Prompt

end Conduit
