import Conduit.Proofs.Coordinator.Agreement
import Conduit.Proofs.Coordinator.Confluence

/-! # Which failure a stage reports

A parallel stage that fails reports what has become of one of its elements: a failure of the
element's own, or that its worker skipped the element because another one had failed
(`Conduit.Coordinator.reports_element`). Whether a skipped element is reported in place of the
one that failed is a matter of the course: workers that run as soon as they are started never
bring it about, and workers that start late may (`Conduit.Coordinator.late_failure_hidden`).
-/

namespace Conduit

namespace Coordinator

section Blames

variable (crew : Crew) (path : StagePath) (stage : ParallelMap)
  (source : (stage.shape.container stage.input).Carrier)

/-- Some element of the collection fails by itself with this failure. -/
def FailsWith (cause : Error) : Prop :=
  ∃ position x, (stage.shape.elements source)[position]? = some x ∧
    stage.elementOutcome (treatment crew path) (x, position) = .error cause

/-- The failure is an element's own, or it is that the worker of an element skipped it, while
another element failed by itself. -/
inductive Blames (cause : Error) : Prop
  | own (fails : FailsWith crew path stage source cause)
  | skipped {position : Nat} {x : stage.input.Carrier}
      (here : (stage.shape.elements source)[position]? = some x)
      (tells : cause = Worker.skipped (crew.config.workerName position))
      (genuine : ∃ other, FailsWith crew path stage source other)

end Blames

variable {crew : Crew} {path : StagePath} {flag : Nat} {stage : ParallelMap}
  {source : (stage.shape.container stage.input).Carrier} {floor : Floor}

theorem Troubled.failsWith (troubled : Troubled crew path stage source) :
    ∃ other, FailsWith crew path stage source other := by
  obtain ⟨position, x, e, here, own⟩ := troubled
  exact ⟨e, position, x, here, own⟩

/-- A failure among the slots is accounted for by an element. -/
theorem Gathering.blames {slots : List (Slot Ticket Error stage.output.Carrier)}
    (gathering : Gathering crew path flag stage source slots floor) {e : Error}
    (failed : .failed e ∈ slots) : Blames crew path stage source e := by
  obtain ⟨place, there⟩ := List.getElem?_of_mem failed
  cases gathering.accounts place _ there with
  | failed here own => exact .own ⟨place, _, here, own⟩
  | skipped here _ _ alarmed => exact .skipped here rfl alarmed.2.failsWith

/-- A stage that has been given its collection fails by one of its elements. -/
theorem blames_of_run {container : Value} (settled : floor.Settled)
    (clear : floor.Clear crew flag)
    (holds : container.downcast (.data (stage.shape.container stage.input)) = .ok source)
    {cause : Error}
    (failed : ((stage.run (dispatch crew path flag) container).run floor).1 = .error cause) :
    Blames crew path stage source cause := by
  obtain ⟨slots, floor', gathering, member⟩ := gathering_of_failed settled clear holds failed
  exact gathering.blames member

/-- An immediate crew's stage fails by an element's own failure. -/
theorem failsWith_of_result {container : Value}
    (holds : container.downcast (.data (stage.shape.container stage.input)) = .ok source)
    {cause : Error} (failed : stage.result (treatment crew path) container = .error cause) :
    FailsWith crew path stage source cause := by
  rw [ParallelMap.result, holds] at failed
  dsimp only at failed
  cases traversed : (stage.shape.elements source).zipIdx.mapM
      (stage.elementOutcome (treatment crew path)) with
  | ok ys => rw [traversed] at failed; cases failed
  | error e =>
      rw [traversed] at failed
      cases failed
      obtain ⟨⟨x, position⟩, member, fails⟩ := mapM_failed traversed
      exact ⟨position, x, List.mem_zipIdx_iff_getElem?.mp member, fails⟩

theorem treatment_on (crew : Crew) (course : Course) (path : StagePath) :
    treatment (crew.on course) path = treatment crew path := rfl

/-- Whose failure it is does not depend on the course. -/
theorem FailsWith.of_on {course : Course} {cause : Error}
    (fails : FailsWith (crew.on course) path stage source cause) :
    FailsWith crew path stage source cause := by
  unfold FailsWith at fails
  rw [treatment_on] at fails
  exact fails

theorem Blames.of_on {course : Course} {cause : Error}
    (blames : Blames (crew.on course) path stage source cause) :
    Blames crew path stage source cause := by
  cases blames with
  | own fails => exact .own fails.of_on
  | skipped here tells genuine => exact .skipped here tells (genuine.imp fun _ => .of_on)

/-- **A stage reports one of its elements.** When a run fails at a parallel stage that was
given its collection, then on every course it reports, at the place of the stage, a failure
of an element's own, or that an element was skipped; and elements are skipped only when
another one fails by itself. Workers that run as soon as they are started leave nothing to
skip: the failure is an element's own. -/
theorem reports_element (crew : Crew) (course : Course) {s : ControlState} {floor : Floor}
    {stage : ParallelMap}
    (visits : Visits (fanOut (crew.on course)) crew.root course.opening s floor)
    (here : s.current.stage? = some (.parallelMap stage))
    {source : (stage.shape.container stage.input).Carrier}
    (holds : s.current.pointer.value.downcast (.data (stage.shape.container stage.input)) =
      .ok source)
    {e : Error} (failed : ((s.step (fanOut (crew.on course))).run floor).1 = .error e) :
    ∃ cause, e = cause.atStage .parallelMap s.current.pointer.index ∧
      Blames crew s.path stage source cause ∧
        (course.immediate = true → FailsWith crew s.path stage source cause) := by
  have settled := settled_of_visits visits
  obtain ⟨cause, fails, located⟩ := ControlState.step_parallelMap_failed _ here failed
  refine ⟨cause, located, ?_, ?_⟩
  · have opened : (openFlag (crew.on course) floor).2.Settled := settled
    rw [fanOut_eq_run] at fails
    have blames : Blames (crew.on course) s.path stage source cause :=
      blames_of_run opened (clear_openFlag _ floor) holds fails
    exact blames.of_on
  · intro immediate
    have result : ((fanOut (crew.on course) s.path stage s.current.pointer.value).run floor).1 =
        stage.result (treatment (crew.on course) s.path) s.current.pointer.value :=
      run_fanOut_immediate immediate settled s.path stage s.current.pointer.value
    exact (failsWith_of_result holds (result.symm.trans fails)).of_on

/-- The second worker is through with its element before the first one starts. -/
def lateCourse : Course where
  cancellation := .bestEffort
  immediate := false
  schedule := [[1, 0]]
  strides := []

/-- The first worker's element is in order, and is skipped. -/
theorem fanOut_lateCourse :
    ((fanOut (flagCrew.on lateCourse) ⟨[0]⟩ checkFlag flagCrew.root.initial).run
      lateCourse.opening).1 = .error (Worker.skipped "multitask-worker-0") :=
  eq_error_of_failure? (by decide +kernel)

theorem stage_flagCrew :
    (ControlState.start flagCrew.root).current.stage? = some (.parallelMap checkFlag) := rfl

theorem step_lateCourse :
    (((ControlState.start flagCrew.root).step (fanOut (flagCrew.on lateCourse))).run
      lateCourse.opening).1 = .error (Worker.skipped "multitask-worker-0") := by
  rw [ControlState.run_step_parallelMap _ stage_flagCrew]
  have fails := fanOut_lateCourse
  change ((fanOut _ (ControlState.start flagCrew.root).path _
    (ControlState.start flagCrew.root).current.pointer.value).run _).1 = _ at fails
  generalize (fanOut _ _ _ _).run lateCourse.opening = outcome at fails ⊢
  obtain ⟨result, floor⟩ := outcome
  cases fails
  rfl

/-- The run of the late course reports the element that was skipped, and does so because
another element has failed by itself. -/
theorem reports_element_lateCourse :
    ∃ cause, Worker.skipped "multitask-worker-0" = cause.atStage .parallelMap 0 ∧
      Blames flagCrew ⟨[0]⟩ checkFlag [true, false] cause := by
  obtain ⟨cause, located, blames, _⟩ :=
    reports_element flagCrew lateCourse .start stage_flagCrew rfl step_lateCourse
  exact ⟨cause, located, blames⟩

theorem failsWith_flagCrew {cause : Error}
    (fails : FailsWith flagCrew ⟨[0]⟩ checkFlag [true, false] cause) :
    cause = .raised "The flag is not set" := by
  have first : failure? (checkFlag.elementOutcome (treatment flagCrew ⟨[0]⟩) (true, 0)) =
      none := by decide +kernel
  have second : failure? (checkFlag.elementOutcome (treatment flagCrew ⟨[0]⟩) (false, 1)) =
      some (.raised "The flag is not set") := by decide +kernel
  obtain ⟨position, x, here, own⟩ := fails
  have own := congrArg failure? own
  rcases position with _ | _ | position
  · obtain rfl : x = true := (Option.some.inj here).symm
    exact nomatch first.symm.trans own
  · obtain rfl : x = false := (Option.some.inj here).symm
    exact (Option.some.inj (second.symm.trans own)).symm
  · cases here

/-- **A late worker can hide a failure**: best-effort cancellation does not always report an
element that failed by itself. -/
theorem late_failure_hidden :
    ¬ ∀ (crew : Crew) (course : Course), course.cancellation = .bestEffort →
      (∀ request, crew.hiring request = .ok (some .serve)) →
        ∀ (s : ControlState) (floor : Floor) (stage : ParallelMap)
          (source : (stage.shape.container stage.input).Carrier) (e : Error),
          Visits (fanOut (crew.on course)) crew.root course.opening s floor →
            s.current.stage? = some (.parallelMap stage) →
              s.current.pointer.value.downcast (.data (stage.shape.container stage.input)) =
                .ok source →
                ((s.step (fanOut (crew.on course))).run floor).1 = .error e →
                  ∃ cause, e = cause.atStage .parallelMap s.current.pointer.index ∧
                    FailsWith crew s.path stage source cause := by
  intro reports
  obtain ⟨cause, located, fails⟩ := reports flagCrew lateCourse rfl (fun _ => rfl) _ _ checkFlag
    [true, false] _ .start stage_flagCrew rfl step_lateCourse
  rw [failsWith_flagCrew fails] at located
  cases located

end Coordinator

end Conduit
