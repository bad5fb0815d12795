import Conduit.Proofs.Coordinator.Gathering
import Conduit.Proofs.Coordinator.Immediate
import Conduit.Proofs.Coordinator.Tasks
import Conduit.Proofs.Traversal.Passages

/-! # The two engines agree

With workers that run when they are started, the distributed engine comes to the same
result as the in-process engine, or to a failure that reads the same
(`Conduit.Coordinator.agrees_with_local`). Failures change in one way when they cross the
boundary: a value without JSON form becomes a failure that a stage raised, with the same
text.
-/

namespace Conduit

namespace Error

/-- The variants of failures. A stage's comes with the place that it shows. -/
inductive Variant where
  | stage (kind : StageKind) (index : Nat)
  | raised
  | typeMismatch
  | protocol
  | workerSpawn
  | workerExited
  | malformedReply
  | cancelled
  | serialization
  | configuration
  | io
  deriving DecidableEq

/-- The outermost variant of a failure. -/
def variant : Error → Variant
  | stage kind index _ => .stage kind index
  | raised _ => .raised
  | typeMismatch _ _ => .typeMismatch
  | protocol _ => .protocol
  | workerSpawn _ => .workerSpawn
  | workerExited _ => .workerExited
  | malformedReply _ => .malformedReply
  | cancelled _ => .cancelled
  | serialization _ => .serialization
  | configuration _ => .configuration
  | io _ => .io

/-- Two failures read the same, belong to the same group and show the same place. Only
their innermost causes may differ: a fault of conversion has become a raised failure. -/
structure Agrees (e e' : Error) : Prop where
  message : e.message = e'.message
  category : e.category = e'.category
  variant : e.variant = e'.variant
  root : e'.rootCause.variant = e.rootCause.variant ∨
    (e.rootCause.variant = .serialization ∧ e'.rootCause.variant = .raised)

theorem Agrees.refl (e : Error) : e.Agrees e := ⟨rfl, rfl, rfl, .inl rfl⟩

/-- What becomes of the failure of an element on its way from its worker. -/
inductive Crosses : Error → Error → Prop
  | same (e : Error) : Crosses e e
  | serialization (fault : Json.Fault) :
      Crosses (.serialization fault) (.raised (Error.serialization fault).message)

/-- Failures that crossed agree once their stage has put its place around them. -/
theorem Crosses.atStage {e e' : Error} (crosses : e.Crosses e') (kind : StageKind)
    (index : Nat) : (e.atStage kind index).Agrees (e'.atStage kind index) := by
  cases crosses with
  | same => exact .refl _
  | serialization fault => exact ⟨rfl, rfl, rfl, .inr ⟨rfl, rfl⟩⟩

end Error

namespace ParallelMap

/-- The function of an element has its answer at its first turn, a value or a failure, and
the same on every host. -/
structure Plain (stage : ParallelMap) : Prop where
  prompt : ∀ host x, (stage.element host x).result.turns = 0
  alive : ∀ host x, (stage.element host x).result.ending ≠ .lost
  hostless : ∀ host host' x, (stage.element host x).result = (stage.element host' x).result

/-- The function of an element always comes to an end, after whatever time, and to the same
one on every host. -/
structure Portable (stage : ParallelMap) : Prop where
  alive : ∀ host x, (stage.element host x).result.ending ≠ .lost
  hostless : ∀ host host' x,
    (stage.element host x).result.ending = (stage.element host' x).result.ending

theorem Plain.portable {stage : ParallelMap} (plain : stage.Plain) : stage.Portable :=
  ⟨plain.alive, fun host host' x => congrArg Deferred.ending (plain.hostless host host' x)⟩

/-- The elements of the container and what becomes of them can be sent. -/
def Fits (stage : ParallelMap) (container : Value) : Prop :=
  ∀ source, container.downcast (.data (stage.shape.container stage.input)) = .ok source →
    ∀ x ∈ stage.shape.elements source, ∀ v, stage.input.encode x = .ok v →
      Sendable v ∧
        ∀ w, (stage.callElement Local.host v).result.ending = .returned w → Sendable w

namespace Plain

variable {stage : ParallelMap} (plain : stage.Plain)
include plain

/-- In the run's own thread, the elements of such a stage answer at once. -/
theorem promptDispatch :
    PromptDispatch (Local.dispatch stage : Dispatch (Recorder Call) _) (fun _ => True)
      fun _ v => Local.outcomeOf (stage.callElement Local.host v).result.ending :=
  Local.promptDispatch plain.prompt

end Plain

namespace Portable

variable {stage : ParallelMap} (portable : stage.Portable)
include portable

theorem callElement_host (host host' : String) (v : Json) :
    (stage.callElement host v).result.ending = (stage.callElement host' v).result.ending := by
  unfold callElement
  cases stage.input.decode v with
  | error fault => rfl
  | ok x => exact congrArg (Ending.andThen _ _) (portable.hostless host host' x)

theorem callElement_alive (host : String) (v : Json) :
    (stage.callElement host v).result.ending ≠ .lost := by
  unfold callElement
  cases stage.input.decode v with
  | error fault => exact nofun
  | ok x =>
      have alive := portable.alive host x
      change (stage.element host x).result.ending.andThen _ _ ≠ .lost
      cases ending : (stage.element host x).result.ending with
      | lost => exact absurd ending alive
      | failed message => exact nofun
      | returned y =>
          change Ending.ofExcept ((stage.output.encode y).mapError Error.serialization) ≠ _
          intro lost
          cases encoded : stage.output.encode y with
          | ok w => rw [encoded] at lost; cases lost
          | error fault => rw [encoded] at lost; cases lost

end Portable

end ParallelMap

namespace Coordinator

variable {crew : Crew} {stage : ParallelMap} {path : StagePath}

/-- A worker learns of an element what the run's own thread would, and what crosses back
says the same. -/
theorem treat_alike (serves : ∀ request, crew.hiring request = .ok (some .serve))
    (portable : stage.Portable) (resolves : crew.root.resolve path = .ok stage)
    (small : ∀ i ∈ path.indices, i < 2 ^ 64)
    {v : Json} (sendable : Sendable v)
    (returns : ∀ w, (stage.callElement Local.host v).result.ending = .returned w → Sendable w)
    (position : Nat) :
    Alike Error.Crosses (Local.outcomeOf (stage.callElement Local.host v).result.ending)
      (treatment crew path position v) := by
  have decoded := WorkerMessage.decode_encode small sendable
  have own : (Worker.attend crew.root (crew.config.workerName position)
      (WorkerMessage.mk path v).encode false).result =
        (stage.callElement Local.host v).result.ending := by
    rw [Worker.attend_own resolves decoded]
    exact portable.callElement_host _ Local.host v
  have alive := portable.callElement_alive Local.host v
  rw [treatment_served (serves _), own]
  cases ending : (stage.callElement Local.host v).result.ending with
  | lost => exact absurd ending alive
  | returned w =>
      have back : partingOutcome (crew.config.workerName position)
          (Worker.replyText? (.returned w)) = .ok w :=
        outcomeOf_success (returns w ending)
      rw [back]
      exact .ok w
  | failed e =>
      rw [partingOutcome_failed]
      refine .error ?_
      rcases ParallelMap.callElement_failed ending with ⟨fault, rfl⟩ | ⟨message, rfl⟩
      · exact .serialization fault
      · exact .same _

/-- The engines agree on a stage. -/
theorem result_alike_of_portable (serves : ∀ request, crew.hiring request = .ok (some .serve))
    (portable : stage.Portable) (resolves : crew.root.resolve path = .ok stage)
    (small : ∀ i ∈ path.indices, i < 2 ^ 64) {container : Value} (fits : stage.Fits container) :
    Alike Error.Crosses
      (stage.result (fun _ v => Local.outcomeOf (stage.callElement Local.host v).result.ending)
        container)
      (stage.result (treatment crew path) container) := by
  unfold ParallelMap.result
  cases holds : container.downcast (.data (stage.shape.container stage.input)) with
  | error e => exact .error (.same e)
  | ok source =>
      refine Alike.map (Alike.mapM ?_) stage.assemble fun _ _ same => same
      intro (x, position) member
      have element : x ∈ stage.shape.elements source :=
        List.mem_of_getElem? (List.mem_zipIdx_iff_getElem?.mp member)
      unfold ParallelMap.elementOutcome
      dsimp only
      cases encoded : stage.input.encode x with
      | error fault => exact .error (Error.Crosses.same _)
      | ok v =>
          obtain ⟨sendable, returns⟩ := fits source holds x element v encoded
          exact (treat_alike serves portable resolves small sendable returns _).bind .same
            stage.receive

/-- The engines agree on a stage whose elements answer at once. -/
theorem result_alike (serves : ∀ request, crew.hiring request = .ok (some .serve))
    (plain : stage.Plain) (resolves : crew.root.resolve path = .ok stage)
    (small : ∀ i ∈ path.indices, i < 2 ^ 64)
    {container : Value} (fits : stage.Fits container) :
    Alike Error.Crosses
      (stage.result (fun _ v => Local.outcomeOf (stage.callElement Local.host v).result.ending)
        container)
      (stage.result (treatment crew path) container) :=
  result_alike_of_portable serves plain.portable resolves small fits

/-- **The engines agree.** Let the functions of all elements answer at once and alike
everywhere, let workers run when they are started, and let whatever the in-process run
sends out and gets back be fit for the wire. Then both engines come to the same value, or
to failures that read the same, in the same group and at the same place. Places in
pipelines are machine words. -/
theorem agrees_with_local (crew : Crew) (type : ValueType) (floor : Floor)
    (valid : crew.config.validate = .ok ()) (immediate : crew.immediate = true)
    (serves : ∀ request, crew.hiring request = .ok (some .serve)) (settled : floor.Settled)
    (plain : ∀ path stage, crew.root.resolve path = .ok stage → stage.Plain)
    (small : ∀ path stage, crew.root.resolve path = .ok stage → ∀ i ∈ path.indices, i < 2 ^ 64)
    (fits : ∀ s log stage, Visits Local.fanOut crew.root (#[] : Array Call) s log →
      s.current.stage? = some (.parallelMap stage) → stage.Fits s.current.pointer.value) :
    Alike Error.Agrees ((Local.executeAs type crew.root).run #[]).1
      ((executeAs crew type).run floor).1 := by
  have inStep : ControlState.InStep Local.fanOut (fanOut crew) Error.Agrees
      fun s log floor =>
        Visits Local.fanOut crew.root (#[] : Array Call) s log ∧ floor.Settled := by
    constructor
    · intro s log floor ⟨visits, settled⟩
      refine ControlState.alike_step Error.Crosses.same ?_ fun _ _ crosses kind index =>
        crosses.atStage kind index
      intro stage here
      have resolves := visits.reachable.resolve_path here
      have plain := plain s.path stage resolves
      have locally := (stage.run_prompt plain.promptDispatch s.current.pointer.value
        (s := log) trivial).1
      have remotely := run_fanOut_immediate immediate settled s.path stage
        s.current.pointer.value
      have alike := result_alike serves plain resolves (small s.path stage resolves)
        (fits s log stage visits here)
      rw [← locally, ← remotely] at alike
      exact alike
    · intro s log floor ⟨visits, settled⟩ next log' floor' locally remotely
      exact ⟨visits.step locally, settled_step settled remotely⟩
  have run := inStep.run (s := .start crew.root) ⟨.start, settled⟩
  have remotely : ((executeAs crew type).run floor).1 =
      ((execute crew).run floor).1.bind fun v => (v.downcast type).map fun x => ⟨type, x⟩ := by
    rw [executeAs, valid]
    rfl
  rw [remotely]
  exact run.bind Error.Agrees.refl _

/-- A stage that lets flags pass which are set, and refuses others. -/
def checkFlag : ParallelMap where
  shape := .list
  input := .bool
  output := .bool
  element _ b := pure (.now (match (b : Bool) with
    | true => .returned true
    | false => .failed "The flag is not set"))

/-- A crew that checks two flags, the second of which is not set. -/
def flagCrew : Crew where
  root := ⟨Value.ofData (a := .list .bool) [true, false], [.parallelMap checkFlag]⟩
  immediate := true

theorem resolve_flagCrew {path : StagePath} {stage : ParallelMap}
    (resolves : flagCrew.root.resolve path = .ok stage) :
    path.indices = [0] ∧ stage = checkFlag :=
  Pipeline.resolve_single resolves

theorem plain_checkFlag : checkFlag.Plain where
  prompt _ _ := rfl
  alive _ b := by
    intro lost
    cases (b : Bool) <;> cases lost
  hostless _ _ _ := rfl

theorem sendable_bool (b : Bool) : Sendable (.bool b) := ⟨trivial, trivial, Nat.zero_le _⟩

theorem fits_checkFlag (container : Value) : checkFlag.Fits container := by
  intro source _ b _ v encoded
  cases encoded
  refine ⟨sendable_bool b, fun w returned => ?_⟩
  cases (b : Bool) with
  | true => cases returned; exact sendable_bool true
  | false => cases returned

theorem valid_flagCrew : flagCrew.config.validate = .ok () := by
  have clean : "multitask-worker".contains '\x00' = false := by simp
  have named : flagCrew.config.namePrefix.contains '\x00' = false := clean
  rw [WorkerConfig.validate, if_neg (by decide), named]
  rfl

/-- Both engines refuse the second flag. -/
theorem agrees_with_local_flagCrew :
    ((Local.executeAs (.data (.list .bool)) flagCrew.root).run #[]).1 =
        .error (.stage .parallelMap 0 (.raised "The flag is not set")) ∧
      Alike Error.Agrees
        ((Local.executeAs (.data (.list .bool)) flagCrew.root).run #[]).1
        ((executeAs flagCrew (.data (.list .bool))).run {}).1 := by
  refine ⟨rfl, agrees_with_local flagCrew _ {} valid_flagCrew rfl (fun _ => rfl)
    (fun _ _ => nofun) ?_ ?_ ?_⟩
  · intro path stage resolves
    rw [(resolve_flagCrew resolves).2]
    exact plain_checkFlag
  · intro path stage resolves i member
    rw [(resolve_flagCrew resolves).1] at member
    rw [List.mem_singleton.mp member]
    decide
  · intro s log stage visits here
    have resolves := visits.reachable.resolve_path here
    rw [(resolve_flagCrew resolves).2]
    exact fits_checkFlag _

end Coordinator

end Conduit
