import Conduit.Proofs.Machine.Visits

/-! # Two runs in step

Two engines run the same pipeline, each with a shared state of its own. When they carry
out every parallel stage that they come to with the same value, or with failures that are
alike, then they go through the same states and come to like ends
(`Conduit.ControlState.InStep.history`, `Conduit.ControlState.InStep.run`).
-/

namespace Conduit

/-- The failure that an outcome is, if it is one. -/
def failure? {α : Type} : Except Error α → Option Error
  | .ok _ => none
  | .error e => some e

theorem eq_error_of_failure? {α : Type} {outcome : Except Error α} {e : Error}
    (fails : failure? outcome = some e) : outcome = .error e := by
  cases outcome with
  | ok v => cases fails
  | error e' => cases fails; rfl

/-- The same result twice, or two failures that are alike. -/
inductive Alike {α : Type} (like : Error → Error → Prop) :
    Except Error α → Except Error α → Prop
  | ok (v : α) : Alike like (.ok v) (.ok v)
  | error {e e' : Error} (same : like e e') : Alike like (.error e) (.error e')

theorem Alike.refl {α : Type} {like : Error → Error → Prop} (same : ∀ e, like e e)
    (outcome : Except Error α) : Alike like outcome outcome := by
  cases outcome with
  | ok v => exact .ok v
  | error e => exact .error (same e)

theorem Alike.eq_ok {α : Type} {like : Error → Error → Prop} {v : α}
    {outcome : Except Error α} (alike : Alike like (.ok v) outcome) : outcome = .ok v := by
  cases alike
  rfl

theorem Alike.map {α β : Type} {like like' : Error → Error → Prop} {first second : Except Error α}
    (alike : Alike like first second) (f : α → β) (onward : ∀ e e', like e e' → like' e e') :
    Alike like' (first.map f) (second.map f) := by
  cases alike with
  | ok v => exact .ok (f v)
  | error same => exact .error (onward _ _ same)

theorem Alike.bind {α β : Type} {like : Error → Error → Prop} {first second : Except Error α}
    (alike : Alike like first second) (same : ∀ e, like e e) (f : α → Except Error β) :
    Alike like (first.bind f) (second.bind f) := by
  cases alike with
  | ok v => exact .refl same (f v)
  | error same => exact .error same

/-- Whatever two results are both like, they succeed together. -/
theorem Alike.fork {α : Type} {result first second : Except Error α}
    (one : Alike (fun _ _ => True) result first) (two : Alike (fun _ _ => True) result second) :
    Alike (fun _ _ => True) first second := by
  cases one with
  | ok v => cases two with | ok => exact .ok v
  | error => cases two with | error => exact .error trivial

theorem Alike.succeeds_iff {α : Type} {like : Error → Error → Prop} {first second : Except Error α}
    (alike : Alike like first second) : (∃ v, first = .ok v) ↔ ∃ v, second = .ok v := by
  cases alike with
  | ok v => exact Iff.rfl
  | error =>
      constructor
      · rintro ⟨v, gives⟩
        cases gives
      · rintro ⟨v, gives⟩
        cases gives

/-- Traversals are alike when their elements are. -/
theorem Alike.mapM {α β : Type} {like : Error → Error → Prop} {f g : α → Except Error β} :
    ∀ {xs : List α}, (∀ x ∈ xs, Alike like (f x) (g x)) → Alike like (xs.mapM f) (xs.mapM g)
  | [], _ => .ok []
  | x :: rest, alike => by
      have first := alike x List.mem_cons_self
      have others := Alike.mapM fun y member => alike y (List.mem_cons_of_mem x member)
      rw [List.mapM_cons, List.mapM_cons]
      generalize f x = one at first ⊢
      generalize g x = two at first ⊢
      cases first with
      | error same => exact .error same
      | ok y =>
          generalize rest.mapM f = ones at others ⊢
          generalize rest.mapM g = twos at others ⊢
          cases others with
          | error same => exact .error same
          | ok ys => exact .ok (y :: ys)

/-- Two runs end with the same value, or with failures that are alike, or both go on. -/
inductive LikeEnds (like : Error → Error → Prop) : RunEnd → RunEnd → Prop
  | done (v : Value) : LikeEnds like (.done v) (.done v)
  | failed {e e' : Error} (same : like e e') : LikeEnds like (.failed e) (.failed e')
  | unfinished : LikeEnds like .unfinished .unfinished

theorem LikeEnds.alike {like : Error → Error → Prop} {first second : Except Error Value}
    (ends : LikeEnds like (.ofOutcome first) (.ofOutcome second)) : Alike like first second := by
  cases first with
  | ok v => cases second with
    | ok w => cases ends; exact .ok v
    | error e => cases ends
  | error e => cases second with
    | ok w => cases ends
    | error e' => cases ends with | failed same => exact .error same

namespace ControlState

section Run

variable {σ : Type} [MonadLiftT (Traced Call) (StateM σ)] {fanOut : FanOut (StateM σ)}

/-- A watched run makes one step, and goes on from where it leads. -/
theorem run_history_succ (limit : Nat) (s : ControlState) (a : σ) :
    (s.history fanOut (limit + 1)).run a = (match (s.step fanOut).run a with
      | (.error e, b) => (([s], .failed e), b)
      | (.ok (.done v), b) => (([s], .done v), b)
      | (.ok (.next t), b) =>
          (((t.1.history fanOut limit).run b).1.map (s :: ·) id,
            ((t.1.history fanOut limit).run b).2)) := by
  rw [history, StateT.run_bind]
  obtain ⟨outcome, b⟩ := (s.step fanOut).run a
  rcases outcome with e | v | t <;> rfl

/-- A run watched to its end comes to its outcome. -/
theorem run_history_end (s : ControlState) (a : σ) :
    ((s.history fanOut s.remaining).run a).1.2 = .ofOutcome ((s.run fanOut).run a).1 := by
  have ends := history_end fanOut s.remaining s (Nat.le_refl _)
  exact congrArg (fun result => (StateT.run result a).1) ends

end Run

variable {σ τ : Type} [MonadLiftT (Traced Call) (StateM σ)] [MonadLiftT (Traced Call) (StateM τ)]

/-- Two runs are in step at related states: the next steps lead both to the same place,
where they are related again, or end both runs alike. -/
structure InStep (left : FanOut (StateM σ)) (right : FanOut (StateM τ))
    (like : Error → Error → Prop) (related : ControlState → σ → τ → Prop) : Prop where
  steps : ∀ s a b, related s a b →
    Alike like ((s.step left).run a).1 ((s.step right).run b).1
  onward : ∀ s a b, related s a b → ∀ next a' b',
    (s.step left).run a = (.ok (.next next), a') →
      (s.step right).run b = (.ok (.next next), b') → related next.1 a' b'

variable {left : FanOut (StateM σ)} {right : FanOut (StateM τ)} {like : Error → Error → Prop}
  {related : ControlState → σ → τ → Prop}

/-- Runs in step go through the same states to like ends. -/
theorem InStep.history (inStep : InStep left right like related) :
    ∀ (limit : Nat) (s : ControlState) (a : σ) (b : τ), related s a b →
      ((s.history left limit).run a).1.1 = ((s.history right limit).run b).1.1 ∧
        LikeEnds like ((s.history left limit).run a).1.2 ((s.history right limit).run b).1.2 := by
  intro limit
  induction limit with
  | zero => intro s a b _; exact ⟨rfl, .unfinished⟩
  | succ limit ih =>
      intro s a b here
      have steps := inStep.steps s a b here
      have onward := inStep.onward s a b here
      rw [run_history_succ, run_history_succ]
      generalize (s.step left).run a = first at steps onward ⊢
      generalize (s.step right).run b = second at steps onward ⊢
      obtain ⟨outcome, a'⟩ := first
      obtain ⟨outcome', b'⟩ := second
      cases steps with
      | error same => exact ⟨rfl, .failed same⟩
      | ok step =>
          cases step with
          | done v => exact ⟨rfl, .done v⟩
          | next t =>
              obtain ⟨states, ends⟩ := ih t.1 a' b' (onward t a' b' rfl rfl)
              exact ⟨congrArg (s :: ·) states, ends⟩

/-- Runs in step come to outcomes that are alike. -/
theorem InStep.run (inStep : InStep left right like related) {s : ControlState} {a : σ} {b : τ}
    (here : related s a b) : Alike like ((s.run left).run a).1 ((s.run right).run b).1 := by
  have ends := (inStep.history s.remaining s a b here).2
  rw [run_history_end, run_history_end] at ends
  exact ends.alike

/-- Steps are alike when the parallel stage that they may stand at is. -/
theorem alike_step [ReportsOnly σ] [ReportsOnly τ] {like' : Error → Error → Prop}
    {s : ControlState} {a : σ} {b : τ} (same : ∀ e, like e e)
    (fans : ∀ stage, s.current.stage? = some (.parallelMap stage) →
      Alike like ((left s.path stage s.current.pointer.value).run a).1
        ((right s.path stage s.current.pointer.value).run b).1)
    (located : ∀ e e', like e e' → ∀ kind index,
      like' (e.atStage kind index) (e'.atStage kind index)) :
    Alike like' ((s.step left).run a).1 ((s.step right).run b).1 := by
  rw [run_step, run_step]
  have rule := s.move_rule
  generalize s.move = move at rule ⊢
  cases rule with
  | finish => exact .ok _
  | resume => exact .ok _
  | enter => exact .ok _
  | @perform work onward performs advances =>
      have works : Alike like ((work.perform left).run a).1 ((work.perform right).run b).1 := by
        cases performs with
        | parallelMap here => exact fans _ here
        | transform here =>
            refine Eq.subst ?_ (Alike.refl same _)
            exact (ReportsOnly.result_lift _ a).trans (ReportsOnly.result_lift _ b).symm
        | apply here pending =>
            refine Eq.subst ?_ (Alike.refl same _)
            exact (ReportsOnly.result_lift _ a).trans (ReportsOnly.result_lift _ b).symm
      dsimp only
      generalize (work.perform left).run a = first at works ⊢
      generalize (work.perform right).run b = second at works ⊢
      obtain ⟨outcome, a'⟩ := first
      obtain ⟨outcome', b'⟩ := second
      cases works with
      | ok v => exact .ok _
      | error alike => exact .error (located _ _ alike _ _)

end ControlState

end Conduit
