import Conduit.Proofs.Coordinator.Gathering

/-! # Distributed runs are confluent

A run of a crew is told apart from another by the course it takes: the order in which
workers move, and whether they may skip their elements once another one has failed. The
course decides nothing but which failure is reported: two runs of a crew carry out the same
parallel stages, and come to the same value or both fail
(`Conduit.Coordinator.confluent`).
-/

namespace Conduit

/-- What is left open about a run: the policy of cancellation, and the order in which
workers move. -/
structure Course where
  cancellation : CancellationPolicy
  immediate : Bool
  schedule : List (List Nat)
  strides : List (List Nat)

/-- The crew on a course. -/
def Crew.on (crew : Crew) (course : Course) : Crew :=
  { crew with
    config := { crew.config with cancellation := course.cancellation }
    immediate := course.immediate }

/-- The floor on which a run on this course begins. -/
def Course.opening (course : Course) : Floor :=
  { schedule := course.schedule, strides := course.strides }

/-- The path of the parallel stage that a state carries out. -/
def ControlState.dispatched? (s : ControlState) : Option StagePath :=
  match s.move with
  | .perform (.parallelMap path _ _) _ => some path
  | _ => none

namespace Coordinator

/-- The paths of the parallel stages that a run carries out, in order. -/
def dispatched (crew : Crew) (floor : Floor) : List StagePath :=
  (((ControlState.start crew.root).history (fanOut crew) crew.root.moves).run
    floor).1.1.filterMap ControlState.dispatched?

theorem settled_opening (course : Course) : course.opening.Settled := by
  intro number job here
  simp [Course.opening] at here

/-- Between two steps of a run on a course nobody is under way. -/
theorem settled_of_visits {crew : Crew} {course : Course} {s : ControlState} {floor : Floor}
    (visits : Visits (fanOut crew) crew.root course.opening s floor) : floor.Settled :=
  settled_between (settled_opening course) visits

/-- Two runs of a crew stay in step. -/
theorem inStep_on (crew : Crew) (first second : Course) :
    ControlState.InStep (fanOut (crew.on first)) (fanOut (crew.on second)) (fun _ _ => True)
      fun _ floor floor' => floor.Settled ∧ floor'.Settled := by
  constructor
  · intro s floor floor' ⟨settled, settled'⟩
    have fans (stage : ParallelMap) : Alike (fun _ _ => True)
        ((fanOut (crew.on first) s.path stage s.current.pointer.value).run floor).1
        ((fanOut (crew.on second) s.path stage s.current.pointer.value).run floor').1 :=
      (run_fanOut (crew.on first) settled s.path stage s.current.pointer.value).1.fork
        (run_fanOut (crew.on second) settled' s.path stage s.current.pointer.value).1
    exact ControlState.alike_step (fun _ => trivial) (fun stage _ => fans stage)
      fun _ _ _ _ _ => trivial
  · intro s floor floor' ⟨settled, settled'⟩ next after after' steps steps'
    exact ⟨settled_step settled steps, settled_step settled' steps'⟩

/-- **Distributed runs are confluent.** Whatever courses two runs of a crew take, both come
to the same value or both fail, after the same parallel stages have been carried out. A
parallel stage is carried out with success just when each of its elements is encoded, treated
by a worker that does not find its stage cancelled, and decoded without failure. -/
theorem confluent (crew : Crew) (first second : Course) :
    Alike (fun _ _ => True) ((execute (crew.on first)).run first.opening).1
        ((execute (crew.on second)).run second.opening).1 ∧
      dispatched (crew.on first) first.opening = dispatched (crew.on second) second.opening ∧
      ∀ (course : Course) (s : ControlState) (floor : Floor) (stage : ParallelMap),
        Visits (fanOut (crew.on course)) crew.root course.opening s floor →
          s.current.stage? = some (.parallelMap stage) →
            ((∃ step, ((s.step (fanOut (crew.on course))).run floor).1 = .ok step) ↔
              ∃ source, s.current.pointer.value.downcast
                  (.data (stage.shape.container stage.input)) = .ok source ∧
                ∀ (position : Nat) (x : stage.input.Carrier),
                  (stage.shape.elements source)[position]? = some x →
                    ∃ v w y, stage.input.encode x = .ok v ∧
                      workerOutcome crew (crew.request s.path position v) = .ok w ∧
                      stage.output.decode w = .ok y) := by
  have inStep := inStep_on crew first second
  have opens := And.intro (settled_opening first) (settled_opening second)
  refine ⟨inStep.run (s := .start crew.root) opens, ?_, ?_⟩
  · exact congrArg (List.filterMap ControlState.dispatched?)
      (inStep.history crew.root.moves (.start crew.root) _ _ opens).1
  · intro course s floor stage visits here
    have alike := (run_fanOut (crew.on course) (settled_of_visits visits) s.path stage
      s.current.pointer.value).1
    rw [ControlState.step_parallelMap_succeeds_iff _ here, ← alike.succeeds_iff]
    exact ParallelMap.result_succeeds_iff

end Coordinator

end Conduit
