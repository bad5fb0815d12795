import Conduit.Coordinator.Dispatch
import Conduit.Local
import Conduit.Proofs.Machine.Nesting

/-! # Runs that share a state

An engine's fan-out keeps a state of its own between the steps of a run: the calls it
has seen, or the floor with its workers. The states that such a run visits
(`Conduit.Visits`) are reachable, because stage code only reports to the shared state
and its results do not depend on it.
-/

namespace Conduit

/-- Stage code reports to the shared state but takes nothing from it. -/
class ReportsOnly (σ : Type) [MonadLiftT (Traced Call) (StateM σ)] : Prop where
  result_lift : ∀ {α : Type} (t : Traced Call α) (a : σ),
    ((monadLift t : StateM σ α).run a).1 = t.result

instance : ReportsOnly (Array Call) where
  result_lift _ _ := rfl

instance : ReportsOnly Floor where
  result_lift _ _ := rfl

variable {σ : Type} [MonadLiftT (Traced Call) (StateM σ)] (fanOut : FanOut (StateM σ))

/-- The states of a run from the start of `root`, each with the shared state there. -/
inductive Visits (root : Pipeline) (opening : σ) : ControlState → σ → Prop
  | start : Visits root opening (.start root) opening
  | step {s : ControlState} {a b : σ} {next : s.Successor} (visits : Visits root opening s a)
      (steps : (s.step fanOut).run a = (.ok (.next next), b)) : Visits root opening next.1 b

namespace ControlState

/-- A step and the shared state after it. -/
theorem run_step (s : ControlState) (a : σ) :
    (s.step fanOut).run a = (match s.move with
      | .finish result => (.ok (.done result), a)
      | .goTo next => (.ok (.next next), a)
      | .perform work onward =>
          match (work.perform fanOut).run a with
          | (.ok v, b) => (.ok (.next (onward v)), b)
          | (.error e, b) => (.error (e.atStage work.kind s.current.pointer.index), b)) := by
  rw [step]
  generalize s.move = move
  cases move with
  | finish result => rfl
  | goTo next => rfl
  | perform work onward =>
      rw [StateT.run_bind]
      dsimp only
      cases (work.perform fanOut).run a with
      | mk outcome b => cases outcome <;> rfl

/-- A run makes one step, and goes on from where it leads. -/
theorem run_run (s : ControlState) (a : σ) :
    (s.run fanOut).run a = (match (s.step fanOut).run a with
      | (.error e, b) => (.error e, b)
      | (.ok (.done v), b) => (.ok v, b)
      | (.ok (.next t), b) => (t.1.run fanOut).run b) := by
  rw [run_eq_step, StateT.run_bind]
  match (s.step fanOut).run a with
  | (.error e, b) => rfl
  | (.ok (.done v), b) => rfl
  | (.ok (.next t), b) => rfl

/-- A run that completes has made its step. -/
theorem step_of_run {s : ControlState} {a : σ} {v : Value}
    (completes : ((s.run fanOut).run a).1 = .ok v) :
    ∃ step, ((s.step fanOut).run a).1 = .ok step := by
  rw [run_run] at completes
  generalize (s.step fanOut).run a = outcome at completes ⊢
  match outcome, completes with
  | (.ok step, _), _ => exact ⟨step, rfl⟩

/-- A run that has gone on comes to the outcome of the rest. -/
theorem run_of_step {s : ControlState} {a b : σ} {next : s.Successor}
    (steps : (s.step fanOut).run a = (.ok (.next next), b)) :
    (s.run fanOut).run a = (next.1.run fanOut).run b := by
  rw [run_run, steps]

/-- A step at a parallel stage carries the stage out, and goes on behind it. -/
theorem run_step_parallelMap {s : ControlState} {stage : ParallelMap}
    (here : s.current.stage? = some (.parallelMap stage)) (a : σ) :
    (s.step fanOut).run a =
      match (fanOut s.path stage s.current.pointer.value).run a with
      | (.ok v, b) => (.ok (.next ⟨s.advance v, remaining_advance here (.inr rfl) v⟩), b)
      | (.error e, b) => (.error (e.atStage .parallelMap s.current.pointer.index), b) := by
  rw [run_step]
  have rule := s.move_rule
  generalize s.move = move at rule ⊢
  cases rule with
  | finish finished => rw [here] at finished; cases finished
  | resume finished => rw [here] at finished; cases finished
  | enter there => rw [here] at there; cases there
  | @perform work onward performs advances =>
      cases performs with
      | transform there => rw [here] at there; cases there
      | apply there => rw [here] at there; cases there
      | parallelMap there =>
          rw [here] at there
          cases there
          dsimp only [Work.perform]
          generalize (fanOut s.path stage s.current.pointer.value).run a = outcome
          obtain ⟨result, b⟩ := outcome
          cases result with
          | ok v =>
              have onward : onward v = ⟨s.advance v, remaining_advance here (.inr rfl) v⟩ :=
                Subtype.ext (advances v)
              dsimp only
              rw [onward]
          | error e => rfl

/-- A step at a parallel stage succeeds just when the stage is carried out with success. -/
theorem step_parallelMap_succeeds_iff {s : ControlState} {stage : ParallelMap}
    (here : s.current.stage? = some (.parallelMap stage)) (a : σ) :
    (∃ step, ((s.step fanOut).run a).1 = .ok step) ↔
      ∃ v, ((fanOut s.path stage s.current.pointer.value).run a).1 = .ok v := by
  rw [run_step_parallelMap fanOut here]
  generalize (fanOut s.path stage s.current.pointer.value).run a = outcome
  obtain ⟨result, b⟩ := outcome
  cases result with
  | ok v => exact ⟨fun _ => ⟨v, rfl⟩, fun _ => ⟨_, rfl⟩⟩
  | error e =>
      constructor
      · rintro ⟨step, gives⟩
        cases gives
      · rintro ⟨v, gives⟩
        cases gives

/-- A step at a parallel stage fails as the stage does, and says at which place. -/
theorem step_parallelMap_failed {s : ControlState} {stage : ParallelMap}
    (here : s.current.stage? = some (.parallelMap stage)) {a : σ} {e : Error}
    (failed : ((s.step fanOut).run a).1 = .error e) :
    ∃ cause, ((fanOut s.path stage s.current.pointer.value).run a).1 = .error cause ∧
      e = cause.atStage .parallelMap s.current.pointer.index := by
  rw [run_step_parallelMap fanOut here] at failed
  generalize (fanOut s.path stage s.current.pointer.value).run a = outcome at failed ⊢
  obtain ⟨result, b⟩ := outcome
  cases result with
  | ok v => cases failed
  | error cause => cases failed; exact ⟨cause, rfl, rfl⟩

variable {fanOut} [ReportsOnly σ]

/-- What the work of a stage gave, some stateless fan-out gives as well. -/
theorem perform_result {work : Work} {a : σ} {outcome : Except Error Value}
    (gives : ((work.perform fanOut).run a).1 = outcome) :
    (work.perform fun _ _ _ => (pure outcome : Traced Call _)).result = outcome := by
  cases work with
  | transform run value => exact (ReportsOnly.result_lift _ a).symm.trans gives
  | apply glue function argument => exact (ReportsOnly.result_lift _ a).symm.trans gives
  | parallelMap path stage container => rfl

/-- A step of a run leads onward. -/
theorem leads_of_run_step {s : ControlState} {a b : σ} {next : s.Successor}
    (steps : (s.step fanOut).run a = (.ok (.next next), b)) : s.Leads next.1 := by
  rw [run_step] at steps
  cases moves : s.move with
  | finish result => rw [moves] at steps; cases steps
  | goTo other =>
      rw [moves] at steps
      cases steps
      refine ⟨fun _ _ v => pure (.ok v), next, ?_, rfl⟩
      rw [step, moves]
      rfl
  | perform work onward =>
      rw [moves] at steps
      dsimp only at steps
      cases gives : (work.perform fanOut).run a with
      | mk outcome c =>
        rw [gives] at steps
        cases outcome with
        | error e => cases steps
        | ok v =>
            cases steps
            refine ⟨fun _ _ _ => pure (.ok v), onward v, ?_, rfl⟩
            rw [step, moves, Traced.result_bind,
              perform_result (by rw [gives] : ((work.perform fanOut).run a).1 = .ok v)]
            rfl

end ControlState

variable {fanOut} [ReportsOnly σ]

omit [ReportsOnly σ] in
/-- A run of one parallel stage is at its start, or has finished. -/
theorem Visits.single {v : Value} {stage : ParallelMap} {opening a : σ} {s : ControlState}
    (visits : Visits fanOut ⟨v, [.parallelMap stage]⟩ opening s a) :
    s = .start ⟨v, [.parallelMap stage]⟩ ∨ s.current.stage? = none ∧ s.suspended = [] := by
  induction visits with
  | start => exact .inl rfl
  | @step s a b next _ steps ih =>
      right
      rcases ih with rfl | ⟨finished, outermost⟩
      · rw [ControlState.run_step_parallelMap fanOut rfl] at steps
        generalize (fanOut _ stage _).run a = outcome at steps
        match outcome, steps with
        | (.ok u, _), rfl => exact ⟨rfl, rfl⟩
      · rw [ControlState.run_step] at steps
        have rule := s.move_rule
        generalize s.move = move at rule steps
        cases rule with
        | finish => cases steps
        | resume _ suspended => rw [outermost] at suspended; cases suspended
        | enter here => rw [finished] at here; cases here
        | perform performs =>
            cases performs with
            | transform here => rw [finished] at here; cases here
            | parallelMap here => rw [finished] at here; cases here
            | apply here => rw [finished] at here; cases here

/-- What a run visits is reachable. -/
theorem Visits.reachable {root : Pipeline} {opening : σ} {s : ControlState} {a : σ}
    (visits : Visits fanOut root opening s a) : ControlState.Reachable root s := by
  induction visits with
  | start => exact .start
  | step _ steps ih => exact .step ih (ControlState.leads_of_run_step steps)

end Conduit
