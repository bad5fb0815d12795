import Conduit.Proofs.Machine.Delivery

/-! # Runs inside suspended pipelines

A pipeline may be run with other pipelines suspended around it
(`Conduit.ControlState.inside`). Its run is then move for move the one that it has alone,
with longer paths to its stages, up to the move that would end the run: this one hands the
result over to the innermost of the suspended pipelines (`Conduit.ControlState.Mirrored`).
So neither the states that are passed through nor the outcome depend on what is suspended, and
what is suspended is left as it was (`Conduit.ControlState.independent_of_context`).
-/

namespace Conduit

/-- The path of a stage when the pipeline it starts from is run inside suspended ones. -/
def StagePath.inside (path : StagePath) (around : List Frame) : StagePath :=
  ⟨addressOf around ++ path.indices⟩

/-- The work of a stage inside suspended pipelines; only the path of a parallel stage tells
of them. -/
def Work.inside (around : List Frame) : Work → Work
  | transform run value => transform run value
  | apply glue function argument => apply glue function argument
  | parallelMap path stage container => parallelMap (path.inside around) stage container

@[simp] theorem Work.kind_inside (around : List Frame) (work : Work) :
    (work.inside around).kind = work.kind := by
  cases work <;> rfl

theorem addressOf_append (suspended around : List Frame) :
    addressOf (suspended ++ around) = addressOf around ++ addressOf suspended := by
  simp [addressOf]

namespace ControlState

/-- The state with more pipelines suspended around it. -/
def inside (s : ControlState) (around : List Frame) : ControlState :=
  ⟨s.suspended ++ around, s.current, s.pending⟩

theorem path_inside (s : ControlState) (around : List Frame) :
    (s.inside around).path = s.path.inside around := by
  rw [path_eq, path_eq, StagePath.inside, inside, addressOf_append, List.append_assoc]

/-- A state inside suspended pipelines has the same work done. -/
theorem Performs.inside {s : ControlState} {work : Work} (performs : s.Performs work)
    (around : List Frame) : (s.inside around).Performs (work.inside around) := by
  cases performs with
  | transform here => exact .transform here
  | apply here pending => exact .apply here pending
  | parallelMap here =>
      rw [Work.inside, ← path_inside]
      exact .parallelMap here

section Mirrors

variable (f : Frame) (rest : List Frame)

/-- The move of a state, and the one that it has inside suspended pipelines: where the run
would end, the innermost of these is resumed with the result; every other move is the same and
leaves them as they are. -/
inductive Mirrored (s : ControlState) : s.Move → (s.inside (f :: rest)).Move → Prop
  | finish {next : (s.inside (f :: rest)).Successor} (finished : s.current.stage? = none)
      (outermost : s.suspended = []) (resumes : next.1 = resume f rest s.current.pointer) :
      Mirrored s (.finish s.current.pointer.value) (.goTo next)
  | goTo {next : s.Successor} {other : (s.inside (f :: rest)).Successor}
      (onward : s.Onward next.1) (same : other.1 = next.1.inside (f :: rest)) :
      Mirrored s (.goTo next) (.goTo other)
  | perform {work : Work} {onward : Value → s.Successor}
      {other : Value → (s.inside (f :: rest)).Successor} (performs : s.Performs work)
      (advances : ∀ v, (onward v).1 = s.advance v)
      (same : ∀ v, (other v).1 = (onward v).1.inside (f :: rest)) :
      Mirrored s (.perform work onward) (.perform (work.inside (f :: rest)) other)

/-- **Every move is mirrored** inside suspended pipelines. -/
theorem move_mirrored (s : ControlState) :
    Mirrored f rest s s.move (s.inside (f :: rest)).move := by
  have rule := s.move_rule
  generalize s.move = move at rule ⊢
  cases rule with
  | finish finished outermost =>
      have suspended : (s.inside (f :: rest)).suspended = f :: rest := by
        rw [inside, outermost, List.nil_append]
      obtain ⟨next, moves, resumes⟩ :=
        move_of_finished (s := s.inside (f :: rest)) finished suspended
      rw [moves]
      exact .finish finished outermost resumes
  | @resume g outer next finished suspended onward =>
      have around : (s.inside (f :: rest)).suspended = g :: (outer ++ f :: rest) := by
        rw [inside, suspended, List.cons_append]
      obtain ⟨other, moves, resumes⟩ :=
        move_of_finished (s := s.inside (f :: rest)) finished around
      rw [moves]
      refine .goTo (onward ▸ .resume finished suspended) ?_
      rw [resumes, onward]
      rfl
  | enter here fresh onward =>
      obtain ⟨other, moves, enters⟩ := move_of_fresh (s := s.inside (f :: rest)) here fresh
      rw [moves]
      refine .goTo (onward ▸ .enter here fresh) ?_
      rw [enters, onward]
      rfl
  | perform performs advances =>
      obtain ⟨other, moves, advances'⟩ := move_of_performs (performs.inside (f :: rest))
      rw [moves]
      refine .perform performs advances fun v => ?_
      rw [advances', advances]
      rfl

end Mirrors

/-- A run ends behind the last stage of its root. -/
theorem Placed.finished {root : Pipeline} {s : ControlState} (placed : Placed root s)
    (finished : s.current.stage? = none) (outermost : s.suspended = []) :
    s.current.pointer = ⟨root.length, s.current.pointer.value⟩ := by
  obtain ⟨encloses, index_le⟩ := placed
  rw [outermost] at encloses
  rw [Frame.stage?_eq_none_iff, Frame.isFinished, decide_eq_true_eq] at finished
  generalize s.current = current at encloses index_le finished ⊢
  cases encloses
  exact congrArg (Pointer.mk · current.pointer.value) (Nat.le_antisymm index_le finished)

section Runs

variable {m : Type → Type} [Monad m] [LawfulMonad m] [MonadLiftT (Traced Call) m]

section Unfold

variable (fanOut : FanOut m) (s : ControlState)

/-- A watched run is the move of its state, and then what is watched from where this leads. -/
theorem history_eq_move (limit : Nat) : s.history fanOut (limit + 1) = (match s.move with
    | .finish v => pure ([s], .done v)
    | .goTo next => do
        let (states, last) ← next.1.history fanOut limit
        return (s :: states, last)
    | .perform work onward => do
        match ← work.perform fanOut with
        | .ok v =>
            let (states, last) ← (onward v).1.history fanOut limit
            return (s :: states, last)
        | .error e => return ([s], .failed (e.atStage work.kind s.current.pointer.index))) := by
  rw [history, step]
  generalize s.move = move
  cases move with
  | finish result => rw [pure_bind]
  | goTo next => rw [pure_bind]
  | perform work onward =>
      rw [bind_assoc]
      congr
      funext outcome
      cases outcome <;> rw [pure_bind]

/-- A run is the move of its state, and then the run from where this leads. -/
theorem run_eq_move : s.run fanOut = (match s.move with
    | .finish v => pure (.ok v)
    | .goTo next => next.1.run fanOut
    | .perform work onward => do
        match ← work.perform fanOut with
        | .ok v => (onward v).1.run fanOut
        | .error e => return .error (e.atStage work.kind s.current.pointer.index)) := by
  rw [run_eq_step, step]
  generalize s.move = move
  cases move with
  | finish result => rw [pure_bind]
  | goTo next => rw [pure_bind]
  | perform work onward =>
      rw [bind_assoc]
      congr
      funext outcome
      cases outcome <;> rw [pure_bind]

end Unfold

/-- What a watched run of a pipeline becomes inside suspended ones: once it is done, the
innermost of them goes on for the moves that are left to watch, with the result pending. -/
def carryOn (nested : FanOut m) (f : Frame) (rest : List Frame) (root : Pipeline) (limit : Nat) :
    List ControlState × RunEnd → m (List ControlState × RunEnd)
  | (states, .done v) => do
      let (others, last) ←
        history nested (limit - states.length) ⟨rest, f, some ⟨root.length, v⟩⟩
      return (states.map (·.inside (f :: rest)) ++ others, last)
  | (states, last) => return (states.map (·.inside (f :: rest)), last)

/-- The outcome of a pipeline inside suspended ones: a result is pending at the innermost of
them, and a failure is theirs as well. -/
def runOn (nested : FanOut m) (f : Frame) (rest : List Frame) (root : Pipeline) :
    Except Error Value → m (Except Error Value)
  | .ok v => run nested ⟨rest, f, some ⟨root.length, v⟩⟩
  | .error e => return .error e

variable {nested alone : FanOut m} {f : Frame} {rest : List Frame} {root : Pipeline}

/-- A state that is watched first is also watched first inside suspended pipelines. -/
theorem carryOn_cons (limit : Nat) (s : ControlState) (states : List ControlState) (last : RunEnd) :
    carryOn nested f rest root (limit + 1) (s :: states, last) = (do
      let (others, last) ← carryOn nested f rest root limit (states, last)
      return (s.inside (f :: rest) :: others, last)) := by
  cases last with
  | done v => simp [carryOn]
  | failed e => simp [carryOn]
  | unfinished => simp [carryOn]

section Answers

variable (answers : ∀ path stage container,
  nested (path.inside (f :: rest)) stage container = alone path stage container)
include answers

omit [LawfulMonad m] in
/-- The work of a stage is done alike inside suspended pipelines. -/
theorem perform_inside (work : Work) :
    (work.inside (f :: rest)).perform nested = work.perform alone := by
  cases work with
  | transform run value => rfl
  | apply glue function argument => rfl
  | parallelMap path stage container => exact answers path stage container

/-- **A watched run inside suspended pipelines** is the one without them, carried on. -/
theorem history_inside (limit : Nat) (s : ControlState) (placed : Placed root s) :
    (s.inside (f :: rest)).history nested limit =
      s.history alone limit >>= carryOn nested f rest root limit := by
  induction limit generalizing s with
  | zero => simp [history, carryOn]
  | succ limit ih =>
      rw [history_eq_move, history_eq_move]
      have mirrored := move_mirrored f rest s
      generalize s.move = move at mirrored ⊢
      generalize (s.inside (f :: rest)).move = other at mirrored ⊢
      cases mirrored with
      | finish finished outermost resumes =>
          have last := placed.finished finished outermost
          simp [carryOn, resumes, resume, ← last]
      | goTo onward same =>
          simp only [same, ih _ (onward.placed placed), bind_assoc, pure_bind, carryOn_cons]
      | perform performs advances same =>
          simp only [perform_inside answers, bind_assoc]
          congr
          funext outcome
          cases outcome with
          | error e => simp [carryOn, inside]
          | ok v =>
              have onward := Onward.advance performs v
              rw [← advances] at onward
              simp only [same, ih _ (onward.placed placed), bind_assoc, pure_bind, carryOn_cons]

/-- **A run inside suspended pipelines** is the one without them, and the run that the innermost
of them has with its result. -/
theorem run_inside (s : ControlState) (placed : Placed root s) :
    (s.inside (f :: rest)).run nested = s.run alone >>= runOn nested f rest root := by
  induction s using successor_induction with
  | step s ih =>
      rw [run_eq_move, run_eq_move]
      have mirrored := move_mirrored f rest s
      generalize s.move = move at mirrored ⊢
      generalize (s.inside (f :: rest)).move = other at mirrored ⊢
      cases mirrored with
      | finish finished outermost resumes =>
          have last := placed.finished finished outermost
          simp [runOn, resumes, resume, ← last]
      | goTo onward same => simp only [same, ih _ (onward.placed placed)]
      | perform performs advances same =>
          simp only [perform_inside answers, bind_assoc]
          congr
          funext outcome
          cases outcome with
          | error e => simp [runOn, inside]
          | ok v =>
              have onward := Onward.advance performs v
              rw [← advances] at onward
              simp only [same, ih _ (onward.placed placed)]

end Answers

/-- **A run does not depend on its context.** Inside suspended pipelines a run has the moves that
it has alone, the paths of its parallel stages lengthened by the places of those pipelines. As
long as it is watched it passes through the same states, with the suspended pipelines unchanged
around them, up to the same failure; when it is done, the innermost of these goes on from where
it stood, with its value as it was and the result pending. So its outcome is the one it has alone,
and then what becomes of the result. -/
theorem independent_of_context (f : Frame) (rest : List Frame) (p : Pipeline)
    (nested alone : FanOut m)
    (answers : ∀ path stage container,
      nested (path.inside (f :: rest)) stage container = alone path stage container) :
    (∀ s : ControlState, Mirrored f rest s s.move (s.inside (f :: rest)).move) ∧
    (∀ limit, history nested limit ⟨f :: rest, .start p, none⟩ =
      (start p).history alone limit >>= carryOn nested f rest p limit) ∧
    run nested ⟨f :: rest, .start p, none⟩ = (start p).run alone >>= runOn nested f rest p :=
  ⟨move_mirrored f rest, fun limit => history_inside answers limit (start p) (placed_start p),
    run_inside answers (start p) (placed_start p)⟩

end Runs

/-- One number is added by an inner pipeline, and the sum goes through a parallel stage. -/
def relayedSum : Pipeline :=
  ⟨Value.ofData (a := .int64) (40 : Int64),
    [.apply (.of (Value.ofData (a := .int64) (1 : Int64))) fun function argument => pure do
        let n : Int64 ← function.downcast (.data .int64)
        let k : Int64 ← argument.downcast (.data .int64)
        return Value.ofData (a := .int64) (n + k),
      .parMap .list .int64 .int64 fun _ n => pure n]⟩

/-- Every parallel stage gives its container back. -/
def givingBack : FanOut (Traced Call) := fun _ _ v => pure (.ok v)

/-- The parallel stages inside the first stage of the root give their containers back. -/
def givingBackInside : FanOut (Traced Call) := fun path _ v =>
  pure (if path.indices.head? = some 0 then .ok v else .error (.raised "Not inside"))

/-- The sum is relayed in the place of the inner pipeline of `refusedSum`, which takes it over
and adds its own number. -/
theorem independent_of_context_relayedSum :
    (∀ path stage container,
      givingBackInside (path.inside [.start refusedSum]) stage container =
        givingBack path stage container) ∧
    ((history givingBackInside 9 ⟨[.start refusedSum], .start relayedSum, none⟩).result.1.map
        fun s => (s.depth, s.path.indices)) =
      [(1, [0, 0]), (2, [0, 0, 0]), (1, [0, 0]), (1, [0, 1]), (1, [0, 2]), (0, [0]), (0, [1])] ∧
    (run givingBackInside ⟨[.start refusedSum], .start relayedSum, none⟩).result =
      .error (.stage .transform 1 (.raised "42 is refused")) := by
  have answers : ∀ path stage container,
      givingBackInside (path.inside [.start refusedSum]) stage container =
        givingBack path stage container := fun _ _ _ => rfl
  obtain ⟨_, watched, comes⟩ := independent_of_context (.start refusedSum) [] relayedSum
    givingBackInside givingBack answers
  refine ⟨answers, ?_, ?_⟩
  · rw [watched]
    rfl
  · rw [comes]
    rfl

end ControlState

end Conduit
