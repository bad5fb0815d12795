import Conduit.Machine.History

/-! # The rules of a run

Every state of a run moves by one of four rules (`Conduit.ControlState.move_rule`): a
finished pipeline ends the run or resumes the one around it, an apply stage without a
pending result is entered, and every other stage has its work done. A run is its first
move followed by the run from where this leads, and it needs no more moves than remain.
-/

namespace Conduit

section Trampoline

variable {m : Type → Type} [Monad m] {σ ε ρ : Type} (size : σ → Nat)
  (step : (s : σ) → m (Except ε (Step {t : σ // size t < size s} ρ)))

/-- Any bound above the size of a state serves as well as any other. -/
theorem repeatStep_bound_irrelevant : ∀ (first second : Nat) (s : σ) (above : size s < first)
    (above' : size s < second),
    repeatStep size step first s above = repeatStep size step second s above' := by
  intro first
  induction first with
  | zero => intro second s above; exact absurd above (Nat.not_lt_zero _)
  | succ first ih =>
      intro second s above above'
      cases second with
      | zero => exact absurd above' (Nat.not_lt_zero _)
      | succ second =>
          unfold repeatStep
          congr
          funext outcome
          match outcome with
          | .error _ => rfl
          | .ok (.done _) => rfl
          | .ok (.next ⟨t, smaller⟩) => exact ih second t _ _

/-- A repeated step is one step, and then the repetition from where it leads. -/
theorem trampoline_eq_step (s : σ) :
    trampoline size step s = (step s >>= fun outcome =>
      match outcome with
      | .error e => pure (.error e)
      | .ok (.done result) => pure (.ok result)
      | .ok (.next t) => trampoline size step t.1) := by
  rw [trampoline, repeatStep]
  congr
  funext outcome
  match outcome with
  | .error _ => rfl
  | .ok (.done _) => rfl
  | .ok (.next ⟨t, smaller⟩) => exact repeatStep_bound_irrelevant size step _ _ t _ _

end Trampoline

namespace ControlState

/-- The work that a state is to have done. -/
inductive Performs (s : ControlState) : Work → Prop
  | transform {run : Value → Outcome} (here : s.current.stage? = some (.transform run)) :
      Performs s (.transform run s.current.pointer.value)
  | parallelMap {stage : ParallelMap} (here : s.current.stage? = some (.parallelMap stage)) :
      Performs s (.parallelMap s.path stage s.current.pointer.value)
  | apply {inner : Pipeline} {glue : Value → Value → Outcome} {child : Pointer}
      (here : s.current.stage? = some (.apply inner glue)) (pending : s.pending = some child) :
      Performs s (.apply glue child.value s.current.pointer.value)

/-- The rule by which a state has the move it has. -/
inductive Rule (s : ControlState) : s.Move → Prop
  | finish (finished : s.current.stage? = none) (outermost : s.suspended = []) :
      Rule s (.finish s.current.pointer.value)
  | resume {f : Frame} {rest : List Frame} {next : s.Successor}
      (finished : s.current.stage? = none) (suspended : s.suspended = f :: rest)
      (onward : next.1 = resume f rest s.current.pointer) : Rule s (.goTo next)
  | enter {inner : Pipeline} {glue : Value → Value → Outcome} {next : s.Successor}
      (here : s.current.stage? = some (.apply inner glue)) (fresh : s.pending = none)
      (onward : next.1 = s.enter inner) : Rule s (.goTo next)
  | perform {work : Work} {onward : Value → s.Successor} (performs : s.Performs work)
      (advances : ∀ v, (onward v).1 = s.advance v) : Rule s (.perform work onward)

/-- Every state moves by a rule. -/
theorem move_rule (s : ControlState) : s.Rule s.move := by
  unfold move
  split
  next here =>
    split
    next outermost => exact .finish here outermost
    next suspended => exact .resume here suspended rfl
  next here => exact .perform (.transform here) fun _ => rfl
  next here => exact .perform (.parallelMap here) fun _ => rfl
  next here =>
    split
    next fresh => exact .enter here fresh rfl
    next pending => exact .perform (.apply here pending) fun _ => rfl

/-- The last move is still to be made. -/
theorem remaining_pos (s : ControlState) : 0 < s.remaining := by
  unfold remaining Frame.moves Frame.movesResumed
  split <;> omega

/-- **Induction along a run.** What holds of a state as soon as it holds wherever its move
leads, holds of every state. -/
theorem successor_induction {motive : ControlState → Prop}
    (step : ∀ s : ControlState, (∀ t : s.Successor, motive t.1) → motive s) (s : ControlState) :
    motive s :=
  step s fun t => successor_induction step t.1
termination_by s.remaining
decreasing_by
  have := t.2
  omega

section Run

variable {m : Type → Type} [Monad m] [LawfulMonad m] [MonadLiftT (Traced Call) m]
  (fanOut : FanOut m)

/-- A run is one move, and then the run from where it leads. -/
theorem run_eq_step (s : ControlState) :
    s.run fanOut = (s.step fanOut >>= fun outcome =>
      match outcome with
      | .error e => pure (.error e)
      | .ok (.done v) => pure (.ok v)
      | .ok (.next t) => t.1.run fanOut) := by
  rw [run, trampoline_eq_step, shrinkingStep, bind_assoc]
  congr
  funext outcome
  match outcome with
  | .error _ => simp
  | .ok (.done _) => simp
  | .ok (.next t) => simp [run, Successor.smaller]

end Run

end ControlState

/-- The end of a run with the given outcome. -/
def RunEnd.ofOutcome : Except Error Value → RunEnd
  | .ok v => .done v
  | .error e => .failed e

/-- A run watched for as many moves as remain is watched to its end. -/
theorem ControlState.history_end {m : Type → Type} [Monad m] [LawfulMonad m]
    [MonadLiftT (Traced Call) m] (fanOut : FanOut m) :
    ∀ (limit : Nat) (s : ControlState), s.remaining ≤ limit →
      Prod.snd <$> s.history fanOut limit = RunEnd.ofOutcome <$> s.run fanOut := by
  intro limit
  induction limit with
  | zero =>
      intro s enough
      exact absurd s.remaining_pos (Nat.not_lt.mpr enough)
  | succ limit ih =>
      intro s enough
      rw [run_eq_step, history, map_bind, map_bind]
      congr
      funext outcome
      match outcome with
      | .error _ => simp [RunEnd.ofOutcome]
      | .ok (.done _) => simp [RunEnd.ofOutcome]
      | .ok (.next t) =>
          have fewer : t.1.remaining ≤ limit := by
            have := t.2
            omega
          simpa using ih t.1 fewer

end Conduit
