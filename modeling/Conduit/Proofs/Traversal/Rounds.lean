import Conduit.Traversal.Gather

/-! # What rounds preserve

Rounds of asking change a state that all elements share. An invariant of that state and
of the slots is kept by a whole gathering when every single visit and every wake keep
it (`Conduit.Asking.Keeps`). When in addition every wake brings the state nearer to one
in which all answers are there, the gathering ends with an answer for every element or
with the failure of one of them (`Conduit.Asking.Progress`).
-/

namespace Conduit

variable {σ τ κ ε α β : Type}

/-- A round over one more element visits it first. -/
theorem run_round_cons (visit : τ → StateM σ (Slot κ ε β)) (eager clear : Bool) (x : τ)
    (rest : List τ) (s : σ) :
    (round visit eager clear (x :: rest)).run s =
      (let (slot, t) := (visit x).run s
      match slot with
      | .failed e =>
          if eager || clear then (.error e, t)
          else ((round visit eager false rest).run t).map (Except.map (.failed e :: ·)) id
      | .done b => ((round visit eager clear rest).run t).map (Except.map (.done b :: ·)) id
      | .waiting ticket =>
          ((round visit eager false rest).run t).map (Except.map (.waiting ticket :: ·)) id) := by
  rw [round, StateT.run_bind]
  cases (visit x).run s with
  | mk slot t =>
    cases slot with
    | failed e => cases eager <;> cases clear <;> rfl
    | done b => rfl
    | waiting ticket => rfl

theorem Slot.tickets_eq_nil_iff {slots : List (Slot κ ε β)} :
    Slot.tickets slots = [] ↔ ∀ ticket, .waiting ticket ∉ slots := by
  simp only [Slot.tickets, List.filterMap_eq_nil_iff]
  constructor
  · intro none ticket member
    exact nomatch none _ member
  · intro answered slot member
    cases slot with
    | waiting ticket => exact absurd member (answered ticket)
    | done b => rfl
    | failed e => rfl

section Round

variable (held : List (Slot κ ε β) → List τ → σ → Prop)

/-- What is known after a round: `held` relates the slots of the elements visited so far,
the elements still to visit and the shared state. A round that fails stops at an element
whose slot has just failed. -/
def HeldAfter (before : List (Slot κ ε β)) : Except ε (List (Slot κ ε β)) × σ → Prop
  | (.ok slots, t) => held (before ++ slots) [] t
  | (.error e, t) => ∃ visited after, held (visited ++ [.failed e]) after t

variable {held}

theorem HeldAfter.cons {before : List (Slot κ ε β)} {slot : Slot κ ε β} :
    {outcome : Except ε (List (Slot κ ε β)) × σ} → HeldAfter held (before ++ [slot]) outcome →
      HeldAfter held before (outcome.map (Except.map (slot :: ·)) id)
  | (.ok _, _), after => by simpa [HeldAfter, Except.map] using after
  | (.error _, _), after => after

/-- What every visit keeps, a round keeps. -/
theorem round_keeps {visit : τ → StateM σ (Slot κ ε β)}
    (keeps : ∀ before x after s, held before (x :: after) s →
      held (before ++ [((visit x).run s).1]) after ((visit x).run s).2) (eager : Bool) :
    ∀ (xs : List τ) (clear : Bool) (before : List (Slot κ ε β)) (s : σ), held before xs s →
      HeldAfter held before ((round visit eager clear xs).run s) := by
  intro xs
  induction xs with
  | nil =>
      intro clear before s start
      change held (before ++ []) [] s
      rwa [List.append_nil]
  | cons x rest ih =>
      intro clear before s start
      have visited := keeps before x rest s start
      rw [run_round_cons]
      generalize (visit x).run s = outcome at visited ⊢
      obtain ⟨slot, t⟩ := outcome
      cases slot with
      | failed e =>
          dsimp only
          split
          · exact ⟨before, rest, visited⟩
          · exact (ih false _ t visited).cons
      | done b => exact (ih clear _ t visited).cons
      | waiting ticket => exact (ih false _ t visited).cons

end Round

/-- What is known when gathering has ended: `held` relates slots and the shared state.
Success leaves a value in every slot, and a failure comes from one of the slots. -/
def Ended (held : List (Slot κ ε β) → σ → Prop) (length : Nat)
    (faults : Slot κ ε β → ε → Prop) : Except ε (List β) × σ → Prop
  | (.ok ys, t) => ys.length = length ∧ held (ys.map .done) t
  | (.error e, t) => ∃ slots slot, held slots t ∧ slot ∈ slots ∧ faults slot e

/-- What is known of the state alone is known of the state at the end. -/
theorem Ended.state {known : σ → Prop} {length : Nat} {faults : Slot κ ε β → ε → Prop} :
    {outcome : Except ε (List β) × σ} → Ended (fun _ s => known s) length faults outcome →
      known outcome.2
  | (.ok _, _), ended => ended.2
  | (.error _, _), ⟨_, _, kept, _⟩ => kept

theorem Ended.completed {length : Nat} {faults : Slot κ ε β → ε → Prop}
    {outcome : Except ε (List β) × σ} (ended : Ended held length faults outcome) {ys : List β}
    (completed : outcome.1 = .ok ys) : ys.length = length ∧ held (ys.map .done) outcome.2 := by
  obtain ⟨outcome, t⟩ := outcome
  cases completed
  exact ended

theorem Ended.failed {length : Nat} {faults : Slot κ ε β → ε → Prop}
    {outcome : Except ε (List β) × σ} (ended : Ended held length faults outcome) {e : ε}
    (failed : outcome.1 = .error e) :
    ∃ slots slot, held slots outcome.2 ∧ slot ∈ slots ∧ faults slot e := by
  obtain ⟨outcome, t⟩ := outcome
  cases failed
  exact ended

namespace Asking

variable (asking : Asking (StateM σ) κ ε β) (held : List (Slot κ ε β) → σ → Prop)

/-- Asking and waking keep an invariant of the slots and the shared state. -/
structure Keeps : Prop where
  ask : ∀ before ticket after s, held (before ++ .waiting ticket :: after) s →
    held (before ++ .ofAnswer ((asking.ask ticket).run s).1 :: after)
      ((asking.ask ticket).run s).2
  wake : ∀ slots s, held slots s → held slots (asking.wake.run s).2

/-- The failure that a slot without a value makes of a gathering. -/
def Faults : Slot κ ε β → ε → Prop
  | .done _, _ => False
  | .failed e, e' => e = e'
  | .waiting ticket, e' => asking.abandoned ticket = e'

variable {asking held}

theorem conclude_ok : ∀ {slots : List (Slot κ ε β)} {ys : List β},
    asking.conclude slots = .ok ys → slots = ys.map .done
  | [], ys, concluded => by cases concluded; rfl
  | .done b :: rest, ys, concluded => by
      rw [conclude] at concluded
      cases tail : asking.conclude rest with
      | error e => rw [tail] at concluded; cases concluded
      | ok zs =>
          rw [tail] at concluded
          cases concluded
          rw [conclude_ok tail]
          rfl

theorem conclude_error : ∀ {slots : List (Slot κ ε β)} {e : ε},
    asking.conclude slots = .error e → ∃ slot ∈ slots, asking.Faults slot e
  | .failed e' :: rest, e, concluded => by
      cases concluded
      exact ⟨_, List.mem_cons_self, rfl⟩
  | .waiting ticket :: rest, e, concluded => by
      cases concluded
      exact ⟨_, List.mem_cons_self, rfl⟩
  | .done b :: rest, e, concluded => by
      rw [conclude] at concluded
      cases tail : asking.conclude rest with
      | ok zs => rw [tail] at concluded; cases concluded
      | error e' =>
          rw [tail] at concluded
          cases concluded
          obtain ⟨slot, member, faults⟩ := conclude_error tail
          exact ⟨slot, List.mem_cons_of_mem _ member, faults⟩

/-- The conclusion from slots ends a gathering. -/
theorem ended_conclude {slots : List (Slot κ ε β)} {s : σ} (kept : held slots s) :
    Ended held slots.length asking.Faults (asking.conclude slots, s) := by
  cases concluded : asking.conclude slots with
  | ok ys =>
      obtain rfl := conclude_ok concluded
      exact ⟨by simp, kept⟩
  | error e =>
      obtain ⟨slot, member, faults⟩ := conclude_error concluded
      exact ⟨slots, slot, kept, member, faults⟩

/-- Asking again keeps what asking keeps. -/
theorem Keeps.visit (keeps : asking.Keeps held) (before : List (Slot κ ε β))
    (slot : Slot κ ε β) (after : List (Slot κ ε β)) (s : σ)
    (kept : held (before ++ slot :: after) s) :
    held (before ++ [((asking.visit slot).run s).1] ++ after) ((asking.visit slot).run s).2 := by
  rw [List.append_assoc]
  cases slot with
  | waiting ticket => exact keeps.ask before ticket after s kept
  | done b => exact kept
  | failed e => exact kept

theorem run_wait_succ (eager : Bool) (patience : Nat) (slots : List (Slot κ ε β)) (s : σ) :
    (asking.wait eager (patience + 1) slots).run s =
      if (Slot.tickets slots).isEmpty then (asking.conclude slots, s)
      else
        match (round asking.visit eager true slots).run (asking.wake.run s).2 with
        | (.error e, t) => (.error e, t)
        | (.ok slots', t) => (asking.wait eager patience slots').run t := by
  rw [wait]
  split
  · rfl
  · rw [StateT.run_bind]
    change (StateT.run (_ >>= _) (asking.wake.run s).2 : Id _) = _
    rw [StateT.run_bind]
    cases (round asking.visit eager true slots).run (asking.wake.run s).2 with
    | mk result t => cases result <;> rfl

/-- Waiting keeps what asking and waking keep. -/
theorem Keeps.wait (keeps : asking.Keeps held) (eager : Bool) :
    ∀ (patience : Nat) (slots : List (Slot κ ε β)) (s : σ), held slots s →
      Ended held slots.length asking.Faults ((asking.wait eager patience slots).run s) := by
  intro patience
  induction patience with
  | zero => intro slots s kept; exact ended_conclude kept
  | succ patience ih =>
      intro slots s kept
      rw [run_wait_succ]
      split
      · exact ended_conclude kept
      have rounded : HeldAfter
          (fun before after t => (before ++ after).length = slots.length ∧
            held (before ++ after) t)
          [] ((round asking.visit eager true slots).run (asking.wake.run s).2) :=
        round_keeps (fun before slot after t ⟨count, kept⟩ =>
          ⟨by simpa using count, keeps.visit before slot after t kept⟩)
          eager slots true [] _ ⟨rfl, keeps.wake slots s kept⟩
      generalize (round asking.visit eager true slots).run (asking.wake.run s).2 = ending
        at rounded ⊢
      match ending, rounded with
      | (.error e, t), ⟨visited, after, _, kept⟩ =>
          exact ⟨_, .failed e, kept, by simp, rfl⟩
      | (.ok slots', t), ⟨count, kept⟩ =>
          have count : slots'.length = slots.length := by simpa using count
          have kept : held slots' t := by simpa using kept
          have := ih slots' t kept
          rwa [count] at this

/-- Asking and waking come to an end: `left` bounds the wakes after which every element
has its answer. -/
structure Progress (asking : Asking (StateM σ) κ ε β) (held : List (Slot κ ε β) → σ → Prop)
    (left : σ → Nat) : Prop extends asking.Keeps held where
  wake_left : ∀ slots s, held slots s → left (asking.wake.run s).2 ≤ left s - 1
  ask_left : ∀ before ticket after s, held (before ++ .waiting ticket :: after) s →
    left ((asking.ask ticket).run s).2 ≤ left s
  answered : ∀ before ticket after s, held (before ++ .waiting ticket :: after) s →
    left s = 0 → ∃ outcome, ((asking.ask ticket).run s).1 = .now outcome

/-- A failure that a slot holds. -/
def FailedIn (slot : Slot κ ε β) (e : ε) : Prop := slot = .failed e

theorem ended_conclude_of_answered {slots : List (Slot κ ε β)} {s : σ} (kept : held slots s)
    (answered : Slot.tickets slots = []) :
    Ended held slots.length FailedIn (asking.conclude slots, s) := by
  cases concluded : asking.conclude slots with
  | ok ys =>
      obtain rfl := conclude_ok concluded
      exact ⟨by simp, kept⟩
  | error e =>
      obtain ⟨slot, member, faults⟩ := conclude_error concluded
      refine ⟨slots, slot, kept, member, ?_⟩
      cases slot with
      | waiting ticket => exact absurd member (Slot.tickets_eq_nil_iff.mp answered ticket)
      | done b => exact faults.elim
      | failed e' => exact congrArg Slot.failed faults

/-- Once no wake is left, a visit leaves an answer. -/
theorem Progress.visit_answers {left : σ → Nat} (progress : asking.Progress held left)
    (before : List (Slot κ ε β)) (slot : Slot κ ε β) (after : List (Slot κ ε β)) (s : σ)
    (kept : held (before ++ slot :: after) s) :
    left ((asking.visit slot).run s).2 ≤ left s ∧
      (left s = 0 → ∀ ticket, ((asking.visit slot).run s).1 ≠ .waiting ticket) := by
  cases slot with
  | done b => exact ⟨Nat.le_refl _, fun _ _ => nofun⟩
  | failed e => exact ⟨Nat.le_refl _, fun _ _ => nofun⟩
  | waiting ticket =>
      refine ⟨progress.ask_left before ticket after s kept, fun none other => ?_⟩
      obtain ⟨outcome, answer⟩ := progress.answered before ticket after s kept none
      change Slot.ofAnswer ((asking.ask ticket).run s).1 ≠ _
      rw [answer]
      cases outcome <;> exact nofun

/-- With patience for the wakes that are left, waiting ends with all answers. -/
theorem Progress.wait {left : σ → Nat} (progress : asking.Progress held left) (eager : Bool) :
    ∀ (patience : Nat) (slots : List (Slot κ ε β)) (s : σ), held slots s →
      left s < patience ∨ Slot.tickets slots = [] →
      Ended held slots.length FailedIn ((asking.wait eager patience slots).run s) := by
  intro patience
  induction patience with
  | zero =>
      intro slots s kept patient
      exact ended_conclude_of_answered kept (patient.resolve_left (Nat.not_lt_zero _))
  | succ patience ih =>
      intro slots s kept patient
      rw [run_wait_succ]
      split
      next answered => exact ended_conclude_of_answered kept (List.isEmpty_iff.mp answered)
      next unanswered =>
        have lowered := progress.wake_left slots s kept
        have awake := progress.wake slots s kept
        generalize (asking.wake.run s).2 = t at lowered awake ⊢
        have rounded : HeldAfter
            (fun before after u => (before ++ after).length = slots.length ∧
              held (before ++ after) u ∧ left u ≤ left t ∧
                (left t = 0 → ∀ ticket, .waiting ticket ∉ before))
            [] ((round asking.visit eager true slots).run t) := by
          refine round_keeps ?_ eager slots true [] t ⟨rfl, awake, Nat.le_refl _, by simp⟩
          intro before slot after u ⟨count, kept, lower, answered⟩
          obtain ⟨left_le, answers⟩ := progress.visit_answers before slot after u kept
          refine ⟨by simpa using count, progress.visit before slot after u kept,
            Nat.le_trans left_le lower, fun none ticket member => ?_⟩
          rcases List.mem_append.mp member with earlier | last
          · exact answered none ticket earlier
          · exact answers (by omega) ticket (List.mem_singleton.mp last).symm
        generalize (round asking.visit eager true slots).run t = ending at rounded ⊢
        match ending, rounded with
        | (.error e, u), ⟨visited, after, _, kept, _⟩ =>
            exact ⟨_, .failed e, kept, by simp, rfl⟩
        | (.ok slots', u), ⟨count, kept, lower, answered⟩ =>
            have count : slots'.length = slots.length := by simpa using count
            have kept : held slots' u := by simpa using kept
            have patient' : left u < patience ∨ Slot.tickets slots' = [] := by
              by_cases none : left t = 0
              · exact .inr (Slot.tickets_eq_nil_iff.mpr (by simpa using answered none))
              · have : Slot.tickets slots ≠ [] := fun nil => unanswered (by simp [nil])
                exact .inl (by have := patient.resolve_right this; omega)
            have := ih slots' u kept patient'
            rwa [count] at this

section Gather

variable {start : α → StateM σ (Answer κ ε β)} {xs : List α}

theorem run_gather (s : σ) :
    (asking.gather start xs).run s =
      (let eager := decide (xs.length ≤ eagerLimit)
      match (round (fun x => return Slot.ofAnswer (← start x)) eager true xs).run s with
      | (.error e, t) => (.error e, t)
      | (.ok slots, t) =>
          let (patience, u) := (asking.patience (Slot.tickets slots)).run t
          (asking.wait eager patience slots).run u) := by
  rw [gather]
  dsimp only
  rw [StateT.run_bind]
  cases (round (fun x => return Slot.ofAnswer (← start x))
      (decide (xs.length ≤ eagerLimit)) true xs).run s with
  | mk result t => cases result <;> rfl

/-- Starting the elements in order keeps an invariant of the slots of those started. -/
def StartsKeep (start : α → StateM σ (Answer κ ε β)) (xs : List α)
    (held : List (Slot κ ε β) → σ → Prop) : Prop :=
  ∀ before x s, xs[before.length]? = some x → held before s →
    held (before ++ [.ofAnswer ((start x).run s).1]) ((start x).run s).2

theorem ended_gather {faults : Slot κ ε β → ε → Prop} (failed : ∀ e, faults (.failed e) e)
    (starts : StartsKeep start xs held)
    (waits : ∀ eager slots s, held slots s → slots.length = xs.length →
      Ended held xs.length faults
        ((asking.wait eager ((asking.patience (Slot.tickets slots)).run s).1 slots).run
          ((asking.patience (Slot.tickets slots)).run s).2))
    {s : σ} (opening : held [] s) :
    Ended held xs.length faults ((asking.gather start xs).run s) := by
  have rounded : HeldAfter
      (fun before after t => after = xs.drop before.length ∧
        before.length + after.length = xs.length ∧ held before t)
      [] ((round (fun x => return Slot.ofAnswer (← start x))
        (decide (xs.length ≤ eagerLimit)) true xs).run s) := by
    refine round_keeps ?_ _ xs true [] s ⟨rfl, by simp, opening⟩
    intro before x after t ⟨remaining, count, kept⟩
    have here : xs[before.length]? = some x := by
      rw [← List.head?_drop, ← remaining, List.head?_cons]
    have later : after = xs.drop (before.length + 1) := by
      rw [← List.drop_drop, ← remaining, List.drop_succ_cons, List.drop_zero]
    refine ⟨by simpa using later, ?_, starts before x t here kept⟩
    simp only [List.length_append, List.length_cons, List.length_nil] at count ⊢
    omega
  rw [run_gather]
  dsimp only
  generalize (round (fun x => return Slot.ofAnswer (← start x))
    (decide (xs.length ≤ eagerLimit)) true xs).run s = ending at rounded ⊢
  match ending, rounded with
  | (.error e, t), ⟨visited, after, _, _, kept⟩ =>
      exact ⟨_, .failed e, kept, by simp, failed e⟩
  | (.ok slots, t), ⟨_, count, kept⟩ => exact waits _ slots t kept (by simpa using count)

/-- Gathering keeps what starting, asking and waking keep. -/
theorem Keeps.gather (keeps : asking.Keeps held) (starts : StartsKeep start xs held)
    (patient : ∀ slots s, held slots s →
      held slots ((asking.patience (Slot.tickets slots)).run s).2)
    {s : σ} (opening : held [] s) :
    Ended held xs.length asking.Faults ((asking.gather start xs).run s) := by
  refine ended_gather (fun _ => rfl) starts (fun eager slots t kept count => ?_) opening
  rw [← count]
  exact keeps.wait eager _ slots _ (patient slots t kept)

/-- With patience for the wakes that are left, gathering ends with all answers, or with
a failure among them. -/
theorem Progress.gather {left : σ → Nat} (progress : asking.Progress held left)
    (starts : StartsKeep start xs held)
    (patient : ∀ slots s, held slots s →
      held slots ((asking.patience (Slot.tickets slots)).run s).2 ∧
        left ((asking.patience (Slot.tickets slots)).run s).2 <
          ((asking.patience (Slot.tickets slots)).run s).1)
    {s : σ} (opening : held [] s) :
    Ended held xs.length FailedIn ((asking.gather start xs).run s) := by
  refine ended_gather (fun _ => rfl) starts (fun eager slots t kept count => ?_) opening
  obtain ⟨kept', enough⟩ := patient slots t kept
  rw [← count]
  exact progress.wait eager _ slots _ kept' (.inl enough)

end Gather

end Asking

end Conduit
