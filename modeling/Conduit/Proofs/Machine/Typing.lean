import Conduit.Pipeline.Builder
import Conduit.Proofs.Error.Causes
import Conduit.Proofs.Machine.Visits

/-! # Pipelines that fit together

A pipeline made of typed stages, each taking what the one before it gives, has a type of its
own (`Conduit.Pipeline.Gives`). So have the states of its runs: the current pipeline gives what
the innermost suspended one awaits, and so on outwards (`Conduit.ControlState.Typed`). Every
move keeps this, and no stage finds a value of a type other than its own, as long as parallel
stages are carried out in keeping with their types (`Conduit.ControlState.Typed.run`).
-/

namespace Conduit

/-- A mismatch of types is behind the failure. -/
def Error.IsMismatch (e : Error) : Prop :=
  ∃ expected found, e.rootCause = .typeMismatch expected found

theorem Error.isMismatch_atStage {kind : StageKind} {index : Nat} {e : Error} :
    (e.atStage kind index).IsMismatch ↔ e.IsMismatch := by
  rw [IsMismatch, rootCause_atStage]
  rfl

/-- The outcome is a value of the type, or a failure that has no mismatch of types behind
it. -/
inductive Yields (b : ValueType) : Except Error Value → Prop
  | ok {v : Value} (type : v.type = b) : Yields b (.ok v)
  | error {e : Error} (other : ¬ e.IsMismatch) : Yields b (.error e)

mutual

/-- The stage is a typed one, and takes values of type `a` to values of type `b`. -/
inductive Stage.Takes : Stage → ValueType → ValueType → Prop
  | map (a b : ValueType) (f : a.Carrier → Traced Call b.Carrier) :
      Stage.Takes (.map a b f) a b
  | tryMap (a b : ValueType) (f : a.Carrier → Except String b.Carrier) :
      Stage.Takes (.tryMap a b f) a b
  | ap {f : ValueType} {inner : Pipeline} (functions : Pipeline.Gives inner f)
      (a b : ValueType) (call : f.Carrier → a.Carrier → b.Carrier) :
      Stage.Takes (.ap f a b call inner) a b
  | mapEach (shape : Shape) (a b : DataType) (f : a.Carrier → Traced Call b.Carrier) :
      Stage.Takes (.mapEach shape a b f) (.data (shape.container a)) (.data (shape.container b))
  | parMap (shape : Shape) (a b : DataType)
      (f : (host : String) → a.Carrier → Traced Call b.Carrier) :
      Stage.Takes (.parMap shape a b f) (.data (shape.container a)) (.data (shape.container b))
  | tryParMap (shape : Shape) (a b : DataType)
      (f : (host : String) → a.Carrier → Traced Call (Except String b.Carrier)) :
      Stage.Takes (.tryParMap shape a b f) (.data (shape.container a))
        (.data (shape.container b))
  | parMapDeferred (shape : Shape) (a b : DataType)
      (f : (host : String) → a.Carrier → Traced Call (Deferred String b.Carrier)) :
      Stage.Takes (.parMapDeferred shape a b f) (.data (shape.container a))
        (.data (shape.container b))

/-- The pipeline is built from typed stages, and values of the type come out of it. -/
inductive Pipeline.Gives : Pipeline → ValueType → Prop
  | of (a : ValueType) (x : a.Carrier) : Pipeline.Gives (.of ⟨a, x⟩) a
  | andThen {p : Pipeline} {stage : Stage} {a b : ValueType} (gives : Pipeline.Gives p a)
      (takes : Stage.Takes stage a b) : Pipeline.Gives (p.andThen stage) b

end

/-- What a stage does with values of type `a` is right for type `b`. -/
inductive Stage.Fits (a b : ValueType) : Stage → Prop
  | transform {run : Value → Outcome} (yields : ∀ v, v.type = a → Yields b (run v).result) :
      Fits a b (.transform run)
  | parallelMap {stage : ParallelMap} (input : a = .data (stage.shape.container stage.input))
      (output : b = .data (stage.shape.container stage.output)) : Fits a b (.parallelMap stage)
  | apply {inner : Pipeline} {glue : Value → Value → Outcome} {f : ValueType}
      (functions : inner.Gives f) (yields : ∀ function argument, function.type = f →
        argument.type = a → Yields b (glue function argument).result) :
      Fits a b (.apply inner glue)

theorem Stage.fits_map (a b : ValueType) (f : a.Carrier → Traced Call b.Carrier) :
    (Stage.map a b f).Fits a b := by
  refine .transform ?_
  rintro ⟨_, x⟩ rfl
  dsimp only
  rw [Value.downcast_self]
  exact .ok rfl

/-- A typed stage does what its types say. -/
theorem Stage.Takes.fits {stage : Stage} {a b : ValueType} (takes : stage.Takes a b) :
    stage.Fits a b := by
  cases takes with
  | map _ _ f => exact fits_map a b f
  | mapEach shape a b f => exact fits_map _ _ _
  | tryMap _ _ f =>
      refine .transform ?_
      rintro ⟨_, x⟩ rfl
      rw [Value.downcast_self]
      dsimp only [bind, Except.bind]
      cases f x with
      | ok y => exact .ok rfl
      | error message => exact .error nofun
  | ap functions _ _ call =>
      refine .apply functions ?_
      rintro ⟨_, g⟩ ⟨_, x⟩ rfl rfl
      rw [Value.downcast_self, Value.downcast_self]
      exact .ok rfl
  | parMap => exact .parallelMap rfl rfl
  | tryParMap => exact .parallelMap rfl rfl
  | parMapDeferred => exact .parallelMap rfl rfl

/-- Typed stages take values of one type, one after the other, to values of another. -/
inductive TakesAll : List Stage → ValueType → ValueType → Prop
  | nil (a : ValueType) : TakesAll [] a a
  | cons {stage : Stage} {rest : List Stage} {a b c : ValueType} (first : stage.Takes a b)
      (others : TakesAll rest b c) : TakesAll (stage :: rest) a c

theorem TakesAll.concat {stages : List Stage} {stage : Stage} {a b c : ValueType}
    (earlier : TakesAll stages a b) (last : stage.Takes b c) :
    TakesAll (stages ++ [stage]) a c := by
  induction earlier with
  | nil => exact .cons last (.nil c)
  | cons first _ ih => exact .cons first (ih last)

theorem Pipeline.Gives.stages :
    ∀ {p : Pipeline} {b : ValueType}, p.Gives b → TakesAll p.stages p.initial.type b
  | _, _, .of a _ => .nil a
  | _, _, .andThen gives takes => gives.stages.concat takes

namespace Frame

/-- The stages ahead take the running value to one of the type. -/
def Gives (f : Frame) (b : ValueType) : Prop := TakesAll f.ahead f.pointer.value.type b

/-- The frame stands at an apply stage that awaits a function of type `hole`, from where it
gives values of type `b`. -/
def Awaits (f : Frame) (hole b : ValueType) : Prop :=
  ∃ inner glue, f.stage? = some (.apply inner glue) ∧
    ∃ c, (∀ function argument, function.type = hole → argument.type = f.pointer.value.type →
        Yields c (glue function argument).result) ∧
      ∀ v : Value, v.type = c → (f.advance v).Gives b

theorem gives_start {p : Pipeline} {b : ValueType} (gives : p.Gives b) : (start p).Gives b :=
  gives.stages

variable {f : Frame} {b : ValueType}

/-- Behind the last stage the running value has the type that the frame gives. -/
theorem Gives.finished (gives : f.Gives b) (finished : f.stage? = none) :
    f.pointer.value.type = b := by
  rw [Gives, ahead_eq_nil finished] at gives
  cases gives
  rfl

/-- The stage ahead takes the running value to one from which the frame goes on. -/
theorem Gives.stage {stage : Stage} (gives : f.Gives b) (here : f.stage? = some stage) :
    ∃ c, stage.Takes f.pointer.value.type c ∧ ∀ v : Value, v.type = c → (f.advance v).Gives b := by
  rw [Gives, ahead_eq_cons here f.pointer.value] at gives
  cases gives with
  | cons first others =>
      refine ⟨_, first, fun v type => ?_⟩
      rw [Gives, show (f.advance v).pointer.value.type = _ from type]
      exact others

end Frame

/-- Suspended frames, the innermost first, each of which gives what the next one outwards
awaits. -/
inductive AwaitsAll : List Frame → ValueType → ValueType → Prop
  | nil (a : ValueType) : AwaitsAll [] a a
  | cons {f : Frame} {rest : List Frame} {a b c : ValueType} (inner : f.Awaits a b)
      (outer : AwaitsAll rest b c) : AwaitsAll (f :: rest) a c

/-- What is left of the run fits together, and values of the type come out of it. -/
inductive ControlState.Typed (s : ControlState) (out : ValueType) : Prop
  | running {b : ValueType} (around : AwaitsAll s.suspended b out) (fresh : s.pending = none)
      (gives : s.current.Gives b)
  | resumed {b : ValueType} {child : Pointer} (around : AwaitsAll s.suspended b out)
      (pending : s.pending = some child) (awaits : s.current.Awaits child.value.type b)

variable {σ : Type} [MonadLiftT (Traced Call) (StateM σ)]

/-- Parallel stages are carried out in keeping with their types. -/
def TypedFanOut (fanOut : FanOut (StateM σ)) : Prop :=
  ∀ path (stage : ParallelMap) (container : Value) (a : σ),
    container.type = .data (stage.shape.container stage.input) →
      Yields (.data (stage.shape.container stage.output))
        ((fanOut path stage container).run a).1

namespace ControlState

variable {s : ControlState} {out : ValueType}

theorem typed_start {p : Pipeline} (gives : p.Gives out) : (start p).Typed out :=
  .running (.nil out) rfl (Frame.gives_start gives)

/-- The result of a run has its type. -/
theorem Typed.finish (typed : s.Typed out) (finished : s.current.stage? = none)
    (outermost : s.suspended = []) : s.current.pointer.value.type = out := by
  cases typed with
  | running around _ gives =>
      rw [outermost] at around
      cases around
      exact gives.finished finished
  | resumed _ _ awaits =>
      obtain ⟨inner, glue, here, _⟩ := awaits
      rw [finished] at here
      cases here

/-- The stage around a finished pipeline gets the function that it awaits. -/
theorem Typed.resume (typed : s.Typed out) {f : Frame} {rest : List Frame}
    (finished : s.current.stage? = none) (suspended : s.suspended = f :: rest) :
    (resume f rest s.current.pointer).Typed out := by
  cases typed with
  | running around _ gives =>
      rw [suspended] at around
      cases around with
      | cons inner outer =>
          rw [← gives.finished finished] at inner
          exact .resumed outer rfl inner
  | resumed _ _ awaits =>
      obtain ⟨inner, glue, here, _⟩ := awaits
      rw [finished] at here
      cases here

/-- The inner pipeline of an apply stage gives the function that the stage awaits. -/
theorem Typed.enter (typed : s.Typed out) {inner : Pipeline} {glue : Value → Value → Outcome}
    (here : s.current.stage? = some (.apply inner glue)) (fresh : s.pending = none) :
    (s.enter inner).Typed out := by
  cases typed with
  | running around _ gives =>
      obtain ⟨c, takes, onward⟩ := gives.stage here
      cases takes.fits with
      | apply functions yields =>
          exact .running (.cons ⟨inner, glue, here, c, yields, onward⟩ around) rfl
            (Frame.gives_start functions)
  | resumed _ pending _ => rw [fresh] at pending; cases pending

variable [ReportsOnly σ] {fanOut : FanOut (StateM σ)}

/-- The work of a stage gives a value from which the run goes on, or fails for another reason
than a mismatch of types. -/
theorem Typed.perform (typed : s.Typed out) (fans : TypedFanOut fanOut) {work : Work}
    (performs : s.Performs work) (a : σ) :
    ∃ c, Yields c ((work.perform fanOut).run a).1 ∧
      ∀ v : Value, v.type = c → (s.advance v).Typed out := by
  have lifted {b : ValueType} (outcome : Outcome) (yields : Yields b outcome.result) :
      Yields b ((monadLift outcome : StateM σ _).run a).1 := by
    rw [ReportsOnly.result_lift]
    exact yields
  -- With a function pending, the type it has is known from the suspended frame, not from
  -- the stages ahead.
  cases typed with
  | running around fresh gives =>
      have goes {stage : Stage} (here : s.current.stage? = some stage) :
          ∃ c, stage.Fits s.current.pointer.value.type c ∧
            ∀ v : Value, v.type = c → (s.advance v).Typed out := by
        obtain ⟨c, takes, onward⟩ := gives.stage here
        exact ⟨c, takes.fits, fun v type => .running around rfl (onward v type)⟩
      cases performs with
      | apply _ pending => rw [fresh] at pending; cases pending
      | transform here =>
          obtain ⟨c, fits, onward⟩ := goes here
          cases fits with
          | transform yields => exact ⟨c, lifted _ (yields _ rfl), onward⟩
      | parallelMap here =>
          obtain ⟨c, fits, onward⟩ := goes here
          cases fits with
          | parallelMap input output =>
              rw [output] at onward
              exact ⟨_, fans s.path _ _ a input, onward⟩
  | @resumed b child around pending awaits =>
      obtain ⟨inner, glue, here, c, yields, onward⟩ := awaits
      refine ⟨c, ?_, fun v type => .running around rfl (onward v type)⟩
      cases performs with
      | transform there => rw [here] at there; cases there
      | parallelMap there => rw [here] at there; cases there
      | apply there held =>
          rw [here] at there
          rw [pending] at held
          cases there
          cases held
          exact lifted _ (yields _ _ rfl rfl)

/-- What a step of a typed run comes to: it goes on typed, or ends with a value of the type,
or fails for another reason than a mismatch of types. -/
inductive StepsTyped (s : ControlState) (out : ValueType) :
    Except Error (Step s.Successor Value) → Prop
  | next {t : s.Successor} (typed : t.1.Typed out) : StepsTyped s out (.ok (.next t))
  | done {v : Value} (type : v.type = out) : StepsTyped s out (.ok (.done v))
  | error {e : Error} (other : ¬ e.IsMismatch) : StepsTyped s out (.error e)

/-- **A step keeps types**, and finds no mismatch of them. -/
theorem Typed.step (typed : s.Typed out) (fans : TypedFanOut fanOut) (a : σ) :
    s.StepsTyped out ((s.step fanOut).run a).1 := by
  rw [run_step]
  have rule := s.move_rule
  generalize s.move = move at rule ⊢
  cases rule with
  | finish finished outermost => exact .done (typed.finish finished outermost)
  | resume finished suspended onward =>
      exact .next (onward ▸ typed.resume finished suspended)
  | enter here fresh onward => exact .next (onward ▸ typed.enter here fresh)
  | @perform work onward performs advances =>
      obtain ⟨c, yields, goes⟩ := typed.perform fans performs a
      dsimp only
      generalize (work.perform fanOut).run a = outcome at yields ⊢
      obtain ⟨result, b⟩ := outcome
      cases yields with
      | @ok v type => exact .next (advances v ▸ goes v type)
      | error other => exact .error fun mismatch => other (Error.isMismatch_atStage.mp mismatch)

/-- **Typed runs find no mismatch of types.** -/
theorem Typed.run (fans : TypedFanOut fanOut) (typed : s.Typed out) (a : σ) :
    Yields out ((s.run fanOut).run a).1 := by
  induction s using successor_induction generalizing a with
  | step s ih =>
      have steps := typed.step fans a
      rw [run_run]
      generalize (s.step fanOut).run a = outcome at steps ⊢
      obtain ⟨result, b⟩ := outcome
      cases steps with
      | @next t typed => exact ih t typed b
      | done type => exact .ok type
      | error other => exact .error other

end ControlState

/-- A pipeline that fits together gives a value of its type when it is executed, or fails for
another reason than a mismatch of types. -/
theorem Pipeline.Gives.execute [ReportsOnly σ] {fanOut : FanOut (StateM σ)} {p : Pipeline}
    {out : ValueType} (gives : p.Gives out) (fans : TypedFanOut fanOut) (a : σ) :
    Yields out ((p.execute fanOut).run a).1 :=
  (ControlState.typed_start gives).run fans a

end Conduit
