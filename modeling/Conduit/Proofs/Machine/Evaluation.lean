import Conduit.Pipeline.Builder
import Conduit.Proofs.Machine.Rules

/-! # Pipelines as recursive programs

A pipeline can be read as a recursive program: its stages are applied to the initial
value from left to right, and an apply stage evaluates its inner pipeline before it
joins the result with the running value (`Conduit.Pipeline.evaluate`). The machine has
no recursion of its own. Each of its states stands for what is left of the program
(`Conduit.ControlState.remainder`), and a move takes away just the part that it
carries out (`Conduit.ControlState.remainder_eq_step`).
-/

namespace Conduit

section Recursion

variable {m : Type → Type} [Monad m] [MonadLiftT (Traced Call) m] (fanOut : FanOut m)

/-- The outcome of a stage, a failure located at the stage's kind and index. -/
def located (kind : StageKind) (index : Nat) (outcome : m (Except Error Value)) :
    ExceptT Error m Value :=
  ExceptT.mk (Except.mapError (Error.atStage kind index) <$> outcome)

mutual

/-- Evaluates the stage at `index` of a pipeline whose address is `outer`. -/
def Stage.evaluate (outer : List Nat) (index : Nat) : Stage → Value → ExceptT Error m Value
  | .transform run, v => located .transform index (monadLift (run v))
  | .parallelMap stage, v => located .parallelMap index (fanOut ⟨outer ++ [index]⟩ stage v)
  | .apply inner glue, v => do
      let function ← inner.evaluate (outer ++ [index])
      located .apply index (monadLift (glue function v))

/-- Evaluates a pipeline whose address is `outer`, from its initial value. -/
def Pipeline.evaluate (outer : List Nat) : Pipeline → ExceptT Error m Value
  | ⟨initial, stages⟩ => evaluateStages outer 0 stages initial

/-- Evaluates stages from left to right, the first of which has the given index. -/
def evaluateStages (outer : List Nat) (index : Nat) :
    List Stage → Value → ExceptT Error m Value
  | [], v => pure v
  | stage :: rest, v => do
      let w ← stage.evaluate outer index v
      evaluateStages outer (index + 1) rest w

end

/-- Evaluates stages of which the first, an apply stage, has its inner result. -/
def resumeStages (outer : List Nat) (index : Nat) (function : Value) :
    List Stage → Value → ExceptT Error m Value
  | .apply _ glue :: rest, v => do
      let w ← located .apply index (monadLift (glue function v))
      evaluateStages fanOut outer (index + 1) rest w
  | stages, v => evaluateStages fanOut outer index stages v

/-- What is left of the pipeline of a frame at the address `outer`. -/
def Frame.remainder (outer : List Nat) (f : Frame) : Option Value → ExceptT Error m Value
  | none => evaluateStages fanOut outer f.pointer.index f.ahead f.pointer.value
  | some function =>
      resumeStages fanOut outer f.pointer.index function f.ahead f.pointer.value

/-- The address of the pipeline inside suspended ones. -/
def addressOf (suspended : List Frame) : List Nat :=
  suspended.reverse.map fun f => f.pointer.index

/-- What is left of suspended pipelines, once the innermost has its inner result. -/
def unwind : List Frame → Value → ExceptT Error m Value
  | [], v => pure v
  | f :: rest, v => do
      let w ← f.remainder fanOut (addressOf rest) (some v)
      unwind rest w

/-- What is left of a run. -/
def ControlState.remainder (s : ControlState) : ExceptT Error m Value := do
  let v ← s.current.remainder fanOut (addressOf s.suspended) (s.pending.map Pointer.value)
  unwind fanOut s.suspended v

end Recursion

@[simp] theorem addressOf_nil : addressOf [] = [] := rfl

@[simp] theorem addressOf_cons (f : Frame) (suspended : List Frame) :
    addressOf (f :: suspended) = addressOf suspended ++ [f.pointer.index] := by
  simp [addressOf]

theorem ControlState.path_eq (s : ControlState) :
    s.path = ⟨addressOf s.suspended ++ [s.current.pointer.index]⟩ := rfl

section Remainder

variable {m : Type → Type} [Monad m] [MonadLiftT (Traced Call) m] (fanOut : FanOut m)
  {outer : List Nat} {f : Frame} {pending : Option Value}

/-- Nothing is left of a finished pipeline but its value. -/
theorem Frame.remainder_finished (finished : f.stage? = none) :
    f.remainder fanOut outer pending = pure f.pointer.value := by
  cases pending <;>
    simp [Frame.remainder, ahead_eq_nil finished, resumeStages, evaluateStages]

/-- A stage that does not wait for an inner result is evaluated next. -/
theorem Frame.remainder_stage {stage : Stage} (here : f.stage? = some stage)
    (single : pending = none ∨ stage.kind ≠ .apply) :
    f.remainder fanOut outer pending = (do
      let v ← stage.evaluate fanOut outer f.pointer.index f.pointer.value
      (f.advance v).remainder fanOut outer none) := by
  have stages := ahead_eq_cons here f.pointer.value
  cases pending with
  | none =>
      rw [remainder, stages, evaluateStages]
      rfl
  | some function =>
      have other : stage.kind ≠ .apply := by simpa using single
      rw [remainder, stages]
      cases stage with
      | apply inner glue => exact absurd rfl other
      | transform run => rw [resumeStages, evaluateStages]; rfl; nofun
      | parallelMap stage => rw [resumeStages, evaluateStages]; rfl; nofun

/-- An apply stage with its inner result joins this with the running value next. -/
theorem Frame.remainder_resumed {inner : Pipeline} {glue : Value → Value → Outcome}
    (here : f.stage? = some (.apply inner glue)) (function : Value) :
    f.remainder fanOut outer (some function) = (do
      let v ← located .apply f.pointer.index (monadLift (glue function f.pointer.value))
      (f.advance v).remainder fanOut outer none) := by
  rw [remainder, ahead_eq_cons here f.pointer.value, resumeStages]
  rfl

/-- The whole of a pipeline is left at its start. -/
theorem Frame.remainder_start (p : Pipeline) :
    (Frame.start p).remainder fanOut outer none = p.evaluate fanOut outer := by
  cases p
  rfl

variable [LawfulMonad m]

/-- At an apply stage the inner pipeline is evaluated, and then the stage is resumed. -/
theorem Frame.remainder_entered {inner : Pipeline} {glue : Value → Value → Outcome}
    (here : f.stage? = some (.apply inner glue)) :
    f.remainder fanOut outer none = (do
      let function ← inner.evaluate fanOut (outer ++ [f.pointer.index])
      f.remainder fanOut outer (some function)) := by
  rw [remainder_stage fanOut here (.inl rfl), Stage.evaluate, bind_assoc]
  simp only [remainder_resumed fanOut here]

end Remainder

namespace ControlState

variable {m : Type → Type} [Monad m] [LawfulMonad m] [MonadLiftT (Traced Call) m]
  (fanOut : FanOut m)

/-- A stage that has its work done leaves the rest of the run for the outcome. -/
theorem remainder_performs {s : ControlState} {work : Work} (performs : s.Performs work) :
    s.remainder fanOut = (do
      let v ← located work.kind s.current.pointer.index (work.perform fanOut)
      (s.advance v).remainder fanOut) := by
  have split : s.current.remainder fanOut (addressOf s.suspended)
      (s.pending.map Pointer.value) = (do
        let v ← located work.kind s.current.pointer.index (work.perform fanOut)
        (s.current.advance v).remainder fanOut (addressOf s.suspended) none) := by
    cases performs with
    | transform here =>
        rw [Frame.remainder_stage fanOut here (.inr nofun), Stage.evaluate]
        rfl
    | parallelMap here =>
        rw [Frame.remainder_stage fanOut here (.inr nofun), Stage.evaluate]
        rfl
    | apply here pending =>
        rw [pending, Option.map_some, Frame.remainder_resumed fanOut here]
        rfl
  rw [remainder, split, bind_assoc]
  rfl

/-- A move, with the failure of a stage's work located at the stage. -/
theorem step_eq_move (s : ControlState) :
    ExceptT.mk (s.step fanOut) = (match s.move with
      | .finish result => pure (.done result)
      | .goTo next => pure (.next next)
      | .perform work onward => do
          let v ← located work.kind s.current.pointer.index (work.perform fanOut)
          pure (.next (onward v))) := by
  rw [step]
  generalize s.move = move
  cases move with
  | finish result => rfl
  | goTo next => rfl
  | perform work onward =>
      apply ExceptT.ext
      simp only [located, ExceptT.run_mk, ExceptT.run_bind, bind_map_left]
      congr
      funext outcome
      cases outcome <;> rfl

/-- **A move carries out a part of the program.** What is left of a run is the next
move, and then what is left after it. -/
theorem remainder_eq_step (s : ControlState) :
    s.remainder fanOut = (do
      match ← ExceptT.mk (s.step fanOut) with
      | .done v => pure v
      | .next t => t.1.remainder fanOut) := by
  rw [step_eq_move]
  have rule := s.move_rule
  generalize s.move = move at rule ⊢
  cases rule with
  | finish finished outermost =>
      simp only [remainder, Frame.remainder_finished fanOut finished, outermost, pure_bind]
      rfl
  | resume finished suspended onward =>
      simp only [remainder, Frame.remainder_finished fanOut finished, suspended, pure_bind,
        onward]
      rfl
  | enter here fresh onward =>
      simp only [remainder, fresh, Option.map_none, Frame.remainder_entered fanOut here,
        pure_bind, onward, enter, Frame.remainder_start, addressOf_cons, unwind, bind_assoc]
  | perform performs advances =>
      simp only [remainder_performs fanOut performs, bind_assoc, pure_bind, advances]

/-- A run gives what is left of it. -/
theorem run_eq_remainder : ∀ (moves : Nat) (s : ControlState), s.remaining = moves →
    s.run fanOut = (s.remainder fanOut).run := by
  intro moves
  induction moves with
  | zero => intro s none; exact absurd s.remaining_pos (by omega)
  | succ moves ih =>
      intro s counted
      rw [run_eq_step, remainder_eq_step, ExceptT.run_bind, ExceptT.run_mk]
      congr
      funext outcome
      match outcome with
      | .error _ => rfl
      | .ok (.done _) => rfl
      | .ok (.next t) => exact ih t.1 (by have := t.2; omega)

end ControlState

/-- What is left at the start of a run is the whole program. -/
theorem Pipeline.remainder_start {m : Type → Type} [Monad m] [LawfulMonad m]
    [MonadLiftT (Traced Call) m] (fanOut : FanOut m) (p : Pipeline) :
    (ControlState.start p).remainder fanOut = p.evaluate fanOut [] := by
  simp [ControlState.remainder, ControlState.start, Frame.remainder_start, unwind]

/-- **The machine evaluates the recursive program.** A run of a pipeline gives exactly
what its evaluation does, and comes to this end within the moves of the pipeline. -/
theorem Pipeline.execute_eq_evaluate {m : Type → Type} [Monad m] [LawfulMonad m]
    [MonadLiftT (Traced Call) m] (fanOut : FanOut m) (p : Pipeline) :
    p.execute fanOut = (p.evaluate fanOut []).run ∧
      Prod.snd <$> (ControlState.start p).history fanOut p.moves =
        RunEnd.ofOutcome <$> (p.evaluate fanOut []).run := by
  have executes : p.execute fanOut = (p.evaluate fanOut []).run := by
    rw [execute, ControlState.run_eq_remainder fanOut _ _ rfl, remainder_start]
  have moves : (ControlState.start p).remaining = p.moves := ControlState.moves_start p
  refine ⟨executes, ?_⟩
  rw [ControlState.history_end fanOut p.moves _ (Nat.le_of_eq moves), ← executes]
  rfl

/-- One number is added by an inner pipeline, and the stage behind it refuses the sum. -/
def refusedSum : Pipeline :=
  ⟨Value.ofData (a := .int64) (1 : Int64),
    [.apply (.of (Value.ofData (a := .int64) (41 : Int64))) fun function argument => pure do
        let n : Int64 ← function.downcast (.data .int64)
        let k : Int64 ← argument.downcast (.data .int64)
        return Value.ofData (a := .int64) (n + k),
      .tryMap (.data .int64) (.data .int64) fun n => .error s!"{Int64.toInt n} is refused"]⟩

theorem Pipeline.execute_eq_evaluate_refusedSum :
    LawfulMonad (Traced Call) ∧
      (refusedSum.execute fun _ _ v => (pure (.ok v) : Traced Call _)).result =
        .error (.stage .transform 1 (.raised "42 is refused")) := by
  refine ⟨inferInstance, ?_⟩
  rw [(Pipeline.execute_eq_evaluate _ _).1]
  rfl

end Conduit
