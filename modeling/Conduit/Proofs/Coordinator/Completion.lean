import Conduit.Proofs.Coordinator.Agreement
import Conduit.Proofs.Coordinator.Confluence
import Conduit.Proofs.Wire.Depth

/-! # What completes in the run's own thread

The in-process engine moves elements as values, the distributed one as texts, whose readers
bound how deep they nest. A pipeline that completes in the run's own thread completes with
workers, whatever their order, just when all elements that it sends out and gets back leave
room for the one object that the wire has around each
(`Conduit.Coordinator.completes_iff_fits`). An element that leaves no room, and completes in
one thread, is enough to make the engines differ (`Conduit.Coordinator.deep_element_lost`).
-/

namespace Conduit

namespace Local

/-- What becomes of the JSON form of an element in the run's own thread. -/
def treatment (stage : ParallelMap) (_position : Nat) (v : Json) : Except Error Json :=
  outcomeOf (stage.callElement host v).result.ending

section Places

variable (stage : ParallelMap) (source : (stage.shape.container stage.input).Carrier)

/-- What a slot says about the element of its place, unless it failed. -/
inductive Knows (place : Nat) : Slot (Deferred Error Json) Error stage.output.Carrier → Prop
  | waiting {x : stage.input.Carrier} {v : Json} {d : Deferred Error Json}
      (here : (stage.shape.elements source)[place]? = some x)
      (encoded : stage.input.encode x = .ok v)
      (ending : d.ending = (stage.callElement host v).result.ending) : Knows place (.waiting d)
  | done {x : stage.input.Carrier} {y : stage.output.Carrier}
      (here : (stage.shape.elements source)[place]? = some x)
      (own : stage.elementOutcome (treatment stage) (x, place) = .ok y) : Knows place (.done y)
  | failed (e : Error) : Knows place (.failed e)

variable {stage source} {place : Nat} {x : stage.input.Carrier} {v : Json}
  {d : Deferred Error Json}

/-- An element that answers, gives its own value or fails. -/
theorem knows_answerOf (here : (stage.shape.elements source)[place]? = some x)
    (encoded : stage.input.encode x = .ok v)
    (ending : d.ending = (stage.callElement host v).result.ending) :
    Knows stage source place (.ofAnswer (stage.answer (answerOf d))) := by
  obtain ⟨turns, ending'⟩ := d
  cases turns with
  | succ turns => exact .waiting here encoded ending
  | zero =>
      have own : stage.elementOutcome (treatment stage) (x, place) =
          (outcomeOf ending').bind stage.receive := by
        rw [ParallelMap.elementOutcome, encoded, show ending' = _ from ending]
        rfl
      change Knows stage source place (.ofAnswer (.now ((outcomeOf ending').bind stage.receive)))
      cases received : (outcomeOf ending').bind stage.receive with
      | ok y => exact .done here (own.trans received)
      | error e => exact .failed e

theorem knows_start (here : (stage.shape.elements source)[place]? = some x)
    (log : Array Call) :
    Knows stage source place
      (.ofAnswer ((stage.start (dispatch stage : Dispatch (Recorder Call) _) x place).run
        log).1) := by
  rw [ParallelMap.run_start]
  cases encoded : stage.input.encode x with
  | error fault => exact .failed _
  | ok v => exact knows_answerOf here encoded rfl

end Places

/-- When the run's own thread has gathered the elements of a stage, each value is the one
that its element gives there by itself, whatever time it took. -/
theorem gathered (stage : ParallelMap) (source : (stage.shape.container stage.input).Carrier)
    (log : Array Call) :
    Ended (fun slots _ => Asking.InPlaces (Knows stage source) slots)
      (stage.shape.elements source).zipIdx.length
      (stage.asking (dispatch stage : Dispatch (Recorder Call) _)).Faults
      (((stage.asking (dispatch stage : Dispatch (Recorder Call) _)).gather
        (fun (x, position) => stage.start (dispatch stage) x position)
        (stage.shape.elements source).zipIdx).run log) := by
  refine Asking.gather_places ?_ ?_ log
  · intro place (x, position) log here
    obtain ⟨element, rfl⟩ := getElem?_of_zipIdx here
    exact knows_start element log
  · intro place d log known
    cases known with
    | waiting here encoded ending => exact knows_answerOf here encoded ending

theorem values_of_gathered {stage : ParallelMap}
    {source : (stage.shape.container stage.input).Carrier} {ys : List stage.output.Carrier}
    (count : ys.length = (stage.shape.elements source).zipIdx.length)
    (places : Asking.InPlaces (Knows stage source) (ys.map .done)) :
    (stage.shape.elements source).zipIdx.mapM (stage.elementOutcome (treatment stage)) =
      .ok ys := by
  refine ParallelMap.mapM_elementOutcome count fun position x y element there => ?_
  have known := places position (.done y) (by rw [List.getElem?_map, there]; rfl)
  cases known with
  | done here own =>
      cases element.symm.trans here
      exact own

/-- **A stage that succeeds in the run's own thread** gives what its elements give there by
themselves. -/
theorem result_of_run {stage : ParallelMap} {container u : Value} {log : Array Call}
    (succeeds : ((stage.run (dispatch stage : Dispatch (Recorder Call) _) container).run log).1 =
      .ok u) : stage.result (treatment stage) container = .ok u := by
  obtain ⟨source, ys, holds, gathers, rfl⟩ := ParallelMap.gather_succeeds succeeds
  obtain ⟨count, places⟩ := (gathered stage source log).completed gathers
  rw [ParallelMap.result, holds]
  dsimp only
  rw [values_of_gathered count places]
  rfl

end Local

namespace ParallelMap

/-- The elements of the container and what becomes of them are in good order, and have no
floating-point numbers. -/
def Tidy (stage : ParallelMap) (container : Value) : Prop :=
  ∀ source, container.downcast (.data (stage.shape.container stage.input)) = .ok source →
    ∀ x ∈ stage.shape.elements source, ∀ v, stage.input.encode x = .ok v →
      Orderly v ∧
        ∀ w, (stage.callElement Local.host v).result.ending = .returned w → Orderly w

end ParallelMap

namespace Coordinator

section Element

variable {crew : Crew} {stage : ParallelMap} {path : StagePath} {v w : Json}
  (serves : ∀ request, crew.hiring request = .ok (some .serve)) (portable : stage.Portable)
  (resolves : crew.root.resolve path = .ok stage) (small : ∀ i ∈ path.indices, i < 2 ^ 64)
include serves portable resolves small

/-- An element that comes back from its worker was fit for the wire, and so is what came
back: the value that the run's own thread would have made of it. -/
theorem sendable_of_treatment {position : Nat} (orderly : Orderly v)
    (returns : ∀ w, (stage.callElement Local.host v).result.ending = .returned w → Orderly w)
    (treated : treatment crew path position v = .ok w) :
    Sendable v ∧ Sendable w ∧ (stage.callElement Local.host v).result.ending = .returned w := by
  rw [treatment_served (serves _)] at treated
  -- Either reader, the worker's or the coordinator's, turns a value that nests too deep into a
  -- failure, so nothing could have come back.
  by_cases sendable : Sendable v
  · have decoded := WorkerMessage.decode_encode small sendable
    have own : (Worker.attend crew.root (crew.config.workerName position)
        (WorkerMessage.mk path v).encode false).result =
          (stage.callElement Local.host v).result.ending := by
      rw [Worker.attend_own resolves decoded]
      exact portable.callElement_host _ Local.host v
    rw [own] at treated
    cases ending : (stage.callElement Local.host v).result.ending with
    | lost => exact absurd ending (portable.callElement_alive Local.host v)
    | failed e => rw [ending, partingOutcome_failed] at treated; cases treated
    | returned w' =>
        rw [ending] at treated
        change outcomeOf (Reply.success w').encode = _ at treated
        by_cases fit : Sendable w'
        · rw [outcomeOf_success fit] at treated
          cases treated
          exact ⟨sendable, fit, rfl⟩
        · obtain ⟨text, unread⟩ := Reply.decode_success_deep (returns w' ending) fit
          rw [outcomeOf, unread] at treated
          cases treated
  · obtain ⟨text, unread⟩ := WorkerMessage.decode_encode_deep small orderly sendable
    rw [Worker.attend, if_neg Bool.false_ne_true, unread] at treated
    dsimp only at treated
    change partingOutcome _ (Worker.replyText? (.failed _)) = _ at treated
    rw [partingOutcome_failed] at treated
    cases treated

/-- A stage that comes to a result with workers has all its elements fit for the wire. -/
theorem fits_of_result {container u : Value} (tidy : stage.Tidy container)
    (succeeds : stage.result (treatment crew path) container = .ok u) : stage.Fits container := by
  obtain ⟨source, holds, each⟩ := ParallelMap.result_succeeds_iff.mp ⟨u, succeeds⟩
  intro source' holds' x member v encoded
  cases holds.symm.trans holds'
  obtain ⟨position, here⟩ := List.getElem?_of_mem member
  obtain ⟨orderly, returns⟩ := tidy source holds x member v encoded
  obtain ⟨v', w, y, encoded', treated, _⟩ := each position x here
  cases encoded.symm.trans encoded'
  obtain ⟨sendable, fit, ending⟩ :=
    sendable_of_treatment serves portable resolves small orderly returns treated
  refine ⟨sendable, fun w' ending' => ?_⟩
  cases ending.symm.trans ending'
  exact fit

end Element

/-- What is asked of a crew that is to complete what the run's own thread does: settings that
are valid, workers that all serve, functions of elements that come to the same end everywhere,
and places that are machine words. -/
structure Dependable (crew : Crew) : Prop where
  valid : crew.config.validate = .ok ()
  serves : ∀ request, crew.hiring request = .ok (some .serve)
  portable : ∀ path stage, crew.root.resolve path = .ok stage → stage.Portable
  small : ∀ path stage, crew.root.resolve path = .ok stage → ∀ i ∈ path.indices, i < 2 ^ 64

section Run

variable {crew : Crew} (dependable : Dependable crew) {s : ControlState} {log : Array Call}
  {floor : Floor} (visits : Visits Local.fanOut crew.root (#[] : Array Call) s log)
  (settled : floor.Settled)
include dependable visits settled

/-- A step that succeeds with workers finds the elements of its stage fit for the wire. -/
theorem fits_of_step {stage : ParallelMap} (tidy : stage.Tidy s.current.pointer.value)
    (here : s.current.stage? = some (.parallelMap stage))
    (remotely : ∃ step, ((s.step (fanOut crew)).run floor).1 = .ok step) :
    stage.Fits s.current.pointer.value := by
  have resolves := visits.reachable.resolve_path here
  obtain ⟨u, succeeds⟩ :=
    (run_fanOut crew settled s.path stage s.current.pointer.value).1.succeeds_iff.mpr
      ((ControlState.step_parallelMap_succeeds_iff _ here floor).mp remotely)
  exact fits_of_result dependable.serves (dependable.portable s.path stage resolves) resolves
    (dependable.small s.path stage resolves) tidy succeeds

/-- A step that succeeds in the run's own thread, with elements that are fit for the wire,
succeeds with workers as well, and in the same way. -/
theorem alike_step_of_fits
    (fits : ∀ stage, s.current.stage? = some (.parallelMap stage) →
      stage.Fits s.current.pointer.value)
    (locally : ∃ step, ((s.step (Local.fanOut : FanOut (Recorder Call))).run log).1 = .ok step) :
    Alike (fun _ _ => True) ((s.step (Local.fanOut : FanOut (Recorder Call))).run log).1
      ((s.step (fanOut crew)).run floor).1 := by
  have fans (stage : ParallelMap) (here : s.current.stage? = some (.parallelMap stage)) :
      Alike (fun _ _ => True)
        ((Local.fanOut s.path stage s.current.pointer.value : Recorder Call _).run log).1
        ((fanOut crew s.path stage s.current.pointer.value).run floor).1 := by
    have resolves := visits.reachable.resolve_path here
    obtain ⟨u, gives⟩ := (ControlState.step_parallelMap_succeeds_iff _ here log).mp locally
    have own : stage.result (Local.treatment stage) s.current.pointer.value = .ok u :=
      Local.result_of_run gives
    have crosses : Alike Error.Crosses
        (stage.result (Local.treatment stage) s.current.pointer.value)
        (stage.result (treatment crew s.path) s.current.pointer.value) :=
      result_alike_of_portable dependable.serves (dependable.portable s.path stage resolves)
        resolves (dependable.small s.path stage resolves) (fits stage here)
    rw [own] at crosses
    have remotely := (run_fanOut crew settled s.path stage s.current.pointer.value).1
    rw [crosses.eq_ok] at remotely
    rw [gives]
    exact remotely
  exact ControlState.alike_step (fun _ => trivial) fans fun _ _ _ _ _ => trivial

end Run

/-- What holds at every parallel stage that the run in its own thread comes to. -/
def Throughout (root : Pipeline) (holds : ParallelMap → Value → Prop) : Prop :=
  ∀ s log stage, Visits Local.fanOut root (#[] : Array Call) s log →
    s.current.stage? = some (.parallelMap stage) → holds stage s.current.pointer.value

section Execute

variable {crew : Crew} (dependable : Dependable crew) {floor : Floor} (settled : floor.Settled)
  {v : Value} (locally : ((Local.execute crew.root).run #[]).1 = .ok v)
include dependable settled locally

/-- What completes in one thread completes with workers, if its elements are fit for the
wire throughout. -/
theorem completes_of_fits (fits : Throughout crew.root ParallelMap.Fits) :
    ((execute crew).run floor).1 = .ok v := by
  -- The runs stay in step only while the one in this thread is bound to complete.
  have inStep : ControlState.InStep Local.fanOut (fanOut crew) (fun _ _ => True)
      fun s log floor => Visits Local.fanOut crew.root (#[] : Array Call) s log ∧
        floor.Settled ∧ ((s.run (Local.fanOut : FanOut (Recorder Call))).run log).1 = .ok v := by
    constructor
    · intro s log floor ⟨visits, settled, completes⟩
      exact alike_step_of_fits dependable visits settled
        (fun stage here => fits s log stage visits here) (ControlState.step_of_run _ completes)
    · intro s log floor ⟨visits, settled, completes⟩ next log' floor' steps steps'
      rw [ControlState.run_of_step _ steps] at completes
      exact ⟨visits.step steps, settled_step settled steps', completes⟩
  have run := inStep.run (s := .start crew.root) ⟨.start, settled, locally⟩
  change Alike _ ((Local.execute crew.root).run #[]).1 ((execute crew).run floor).1 at run
  rw [locally] at run
  exact run.eq_ok

/-- What completes in one thread and with workers has its elements fit for the wire
throughout. -/
theorem fits_of_completes (tidy : Throughout crew.root ParallelMap.Tidy) {w : Value}
    (remotely : ((execute crew).run floor).1 = .ok w) : Throughout crew.root ParallelMap.Fits := by
  -- Both runs go through the same states, and complete from each of them.
  have both {s : ControlState} {log : Array Call}
      (visits : Visits Local.fanOut crew.root (#[] : Array Call) s log) :
      ((s.run (Local.fanOut : FanOut (Recorder Call))).run log).1 = .ok v ∧
        ∃ floor : Floor, floor.Settled ∧ ((s.run (fanOut crew)).run floor).1 = .ok w := by
    induction visits with
    | start => exact ⟨locally, floor, settled, remotely⟩
    | @step s log log' next visits steps ih =>
        obtain ⟨locally, floor, settled, remotely⟩ := ih
        have succeeds := ControlState.step_of_run _ remotely
        have alike := alike_step_of_fits dependable visits settled
          (fun stage here => fits_of_step dependable visits settled
            (tidy s log stage visits here) here succeeds)
          (ControlState.step_of_run _ locally)
        rw [steps] at alike
        have steps' : (s.step (fanOut crew)).run floor =
            (.ok (.next next), ((s.step (fanOut crew)).run floor).2) :=
          Prod.ext alike.eq_ok rfl
        rw [ControlState.run_of_step _ steps] at locally
        rw [ControlState.run_of_step _ steps'] at remotely
        exact ⟨locally, _, settled_step settled steps', remotely⟩
  intro s log stage visits here
  obtain ⟨_, floor, settled, remotely⟩ := both visits
  exact fits_of_step dependable visits settled (tidy s log stage visits here) here
    (ControlState.step_of_run _ remotely)

end Execute

/-- Under valid settings, a run of a type is a run, and a look at the type of its value. -/
theorem run_executeAs {crew : Crew} (valid : crew.config.validate = .ok ()) (type : ValueType)
    (floor : Floor) :
    ((executeAs crew type).run floor).1 =
      ((execute crew).run floor).1.bind fun v => (v.downcast type).map fun x => ⟨type, x⟩ := by
  rw [executeAs, valid]
  rfl

theorem executes_of_executeAs {crew : Crew} (valid : crew.config.validate = .ok ())
    {type : ValueType} {floor : Floor} {w : Value}
    (completes : ((executeAs crew type).run floor).1 = .ok w) :
    ∃ u, ((execute crew).run floor).1 = .ok u := by
  rw [run_executeAs valid] at completes
  cases executes : ((execute crew).run floor).1 with
  | error e => rw [executes] at completes; cases completes
  | ok u => exact ⟨u, rfl⟩

/-- **What completes in one thread** completes with dependable workers, whatever their order,
just when all elements that it sends out and gets back leave room for the wire's own object.
It completes with the same value then, and with no other value ever. -/
theorem completes_iff_fits (crew : Crew) (type : ValueType) (floor : Floor)
    (dependable : Dependable crew) (settled : floor.Settled)
    (tidy : Throughout crew.root ParallelMap.Tidy) {v : Value}
    (locally : ((Local.executeAs type crew.root).run #[]).1 = .ok v) :
    (((executeAs crew type).run floor).1 = .ok v ↔ Throughout crew.root ParallelMap.Fits) ∧
      ∀ w, ((executeAs crew type).run floor).1 = .ok w → w = v := by
  change ((Local.execute crew.root).run #[]).1.bind _ = _ at locally
  cases executes : ((Local.execute crew.root).run #[]).1 with
  | error e => rw [executes] at locally; cases locally
  | ok u =>
      rw [executes] at locally
      have completes (fits : Throughout crew.root ParallelMap.Fits) :
          ((executeAs crew type).run floor).1 = .ok v := by
        rw [run_executeAs dependable.valid, completes_of_fits dependable settled executes fits]
        exact locally
      have fits {w : Value} (remotely : ((executeAs crew type).run floor).1 = .ok w) :
          Throughout crew.root ParallelMap.Fits := by
        obtain ⟨u', executes'⟩ := executes_of_executeAs dependable.valid remotely
        exact fits_of_completes dependable settled executes tidy executes'
      refine ⟨⟨fits, completes⟩, fun w remotely => ?_⟩
      rw [completes (fits remotely)] at remotely
      cases remotely
      rfl

/-- Nothing, inside this many arrays. -/
def nested : Nat → Json
  | 0 => .null
  | depth + 1 => .array [nested depth]

theorem nesting_nested (depth : Nat) : (nested depth).nesting = depth := by
  induction depth with
  | zero => rfl
  | succ depth ih => simp [nested, Json.nesting, Json.nestingOfElements, ih]

theorem orderly_nested (depth : Nat) : Orderly (nested depth) := by
  induction depth with
  | zero => exact ⟨trivial, trivial⟩
  | succ depth ih => exact ⟨⟨ih.ordered, trivial⟩, ih.integers, trivial⟩

/-- A stage that gives its elements back. -/
def keepElement : ParallelMap where
  shape := .list
  input := .json
  output := .json
  element _ v := pure (.now (.returned v))

/-- A crew that has one element kept, which nests this deep. -/
def keepingCrew (depth : Nat) : Crew where
  root := ⟨Value.ofData (a := .list .json) [nested depth], [.parallelMap keepElement]⟩
  immediate := false

theorem dependable_keepingCrew (depth : Nat) : Dependable (keepingCrew depth) where
  valid := valid_flagCrew
  serves _ := rfl
  portable path stage resolves := by
    rw [(Pipeline.resolve_single resolves).2]
    exact ⟨fun _ _ => nofun, fun _ _ _ => rfl⟩
  small path stage resolves i member := by
    rw [(Pipeline.resolve_single resolves).1] at member
    rw [List.mem_singleton.mp member]
    decide

/-- The stage of such a crew sends out its element and gets back the same. -/
theorem throughout_keepingCrew {depth : Nat} {holds : ParallelMap → Value → Prop}
    (start : holds keepElement (keepingCrew depth).root.initial) :
    Throughout (keepingCrew depth).root holds := by
  intro s log stage visits here
  rcases visits.single with rfl | ⟨finished, _⟩
  · cases here
    exact start
  · rw [finished] at here
    cases here

theorem locally_keepingCrew (depth : Nat) :
    ((Local.execute (keepingCrew depth).root).run #[]).1 =
      .ok (keepingCrew depth).root.initial := rfl

theorem local_keepingCrew (depth : Nat) :
    ((Local.executeAs (.data (.list .json)) (keepingCrew depth).root).run #[]).1 =
      .ok (keepingCrew depth).root.initial := rfl

theorem tidy_keepingCrew (depth : Nat) :
    Throughout (keepingCrew depth).root ParallelMap.Tidy := by
  refine throughout_keepingCrew fun source holds x member v encoded => ?_
  cases holds
  obtain rfl := List.mem_singleton.mp member
  cases encoded
  refine ⟨orderly_nested depth, fun w returned => ?_⟩
  cases returned
  exact orderly_nested depth

theorem fits_keepingCrew_iff {depth : Nat} :
    Throughout (keepingCrew depth).root ParallelMap.Fits ↔ depth ≤ elementNesting := by
  have sendable_iff : Sendable (nested depth) ↔ depth ≤ elementNesting := by
    rw [(orderly_nested depth).sendable_iff, nesting_nested]
  rw [← sendable_iff]
  constructor
  · intro fits
    exact (fits _ _ keepElement .start rfl _ rfl (nested depth) (List.mem_singleton.mpr rfl) _
      rfl).1
  · intro sendable
    refine throughout_keepingCrew fun source holds x member v encoded => ?_
    cases holds
    obtain rfl := List.mem_singleton.mp member
    cases encoded
    refine ⟨sendable, fun w returned => ?_⟩
    cases returned
    exact sendable

/-- An element that just leaves room for the wire's own object is kept on both engines. -/
theorem completes_iff_fits_keepingCrew :
    ((executeAs (keepingCrew 126) (.data (.list .json))).run {}).1 =
      .ok (keepingCrew 126).root.initial :=
  (completes_iff_fits (keepingCrew 126) (.data (.list .json)) {} (dependable_keepingCrew 126)
    (fun _ _ => nofun) (tidy_keepingCrew 126) (local_keepingCrew 126)).1.mpr
      (fits_keepingCrew_iff.mpr (by decide))

/-- **A deep element can be lost**: what completes in one thread does not always complete
with workers, even when these do all that is asked of them. -/
theorem deep_element_lost :
    ¬ ∀ (crew : Crew) (type : ValueType) (floor : Floor), Dependable crew → floor.Settled →
      Throughout crew.root ParallelMap.Tidy →
        ∀ v, ((Local.executeAs type crew.root).run #[]).1 = .ok v →
          ((executeAs crew type).run floor).1 = .ok v := by
  intro completes
  have settled : ({} : Floor).Settled := fun _ _ => nofun
  have dependable := dependable_keepingCrew 127
  obtain ⟨u, remotely⟩ := executes_of_executeAs dependable.valid
    (completes (keepingCrew 127) (.data (.list .json)) {} dependable settled
      (tidy_keepingCrew 127) _ (local_keepingCrew 127))
  have fits := fits_of_completes dependable settled (locally_keepingCrew 127)
    (tidy_keepingCrew 127) remotely
  exact absurd (fits_keepingCrew_iff.mp fits) (by decide)

end Coordinator

end Conduit
