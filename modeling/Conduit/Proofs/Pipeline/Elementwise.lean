import Conduit.Pipeline.Builder
import Conduit.Proofs.DataType.RoundTrip
import Conduit.Proofs.Machine.Itinerary
import Conduit.Proofs.Traversal.Passages

/-! # Elements treated in the run's own thread

A stage that sends its elements out in JSON form and a stage that maps them in place come to
the same on the in-process engine, values and calls alike, as long as nothing is lost of the
elements and of their values on the way (`Conduit.Local.parMap_eq_mapEach`).
-/

namespace Conduit

/-- A traced traversal has the events of its elements one after the other. -/
theorem Traced.mapM_eq {ε α β : Type} (f : α → Traced ε β) (xs : List α) :
    xs.mapM f = ⟨xs.flatMap fun x => (f x).events, xs.map fun x => (f x).result⟩ := by
  induction xs with
  | nil => rfl
  | cons x rest ih =>
      rw [List.mapM_cons, ih]
      ext1
      · exact congrArg ((f x).events ++ ·) (List.append_nil _)
      · rfl

section Append

variable {m : Type → Type} [Monad m] [LawfulMonad m] [MonadLiftT (Traced Call) m]
  (fanOut : FanOut m) (outer : List Nat)

/-- Stages behind others are evaluated from the value of those. -/
theorem evaluateStages_append (index : Nat) (earlier later : List Stage) (v : Value) :
    evaluateStages fanOut outer index (earlier ++ later) v = (do
      let w ← evaluateStages fanOut outer index earlier v
      evaluateStages fanOut outer (index + earlier.length) later w) := by
  induction earlier generalizing index v with
  | nil => simp [evaluateStages]
  | cons stage rest ih =>
      have count : index + 1 + rest.length = index + (rest.length + 1) := by omega
      simp only [List.cons_append, evaluateStages, ih, bind_assoc, List.length_cons, count]

theorem Pipeline.evaluate_andThen (p : Pipeline) (stage : Stage) :
    (p.andThen stage).evaluate fanOut outer = (do
      let v ← p.evaluate fanOut outer
      stage.evaluate fanOut outer p.length v) := by
  obtain ⟨initial, stages⟩ := p
  simp only [andThen, evaluate, length, evaluateStages_append, evaluateStages, Nat.zero_add,
    bind_pure]

end Append

/-- The function of an element gives what `f` gives, at its first turn. -/
def ParallelMap.Computes (stage : ParallelMap)
    (f : (host : String) → stage.input.Carrier → Traced Call stage.output.Carrier) : Prop :=
  ∀ host x, stage.element host x = do return .now (.returned (← f host x))

theorem ParallelMap.Computes.synchronous {stage : ParallelMap}
    {f : (host : String) → stage.input.Carrier → Traced Call stage.output.Carrier}
    (computes : stage.Computes f) : stage.Synchronous := by
  intro host x
  rw [computes host x]
  rfl

namespace Local

section Element

variable {stage : ParallelMap}
  {f : (host : String) → stage.input.Carrier → Traced Call stage.output.Carrier}
  (computes : stage.Computes f) {x : stage.input.Carrier} (argument : stage.input.Returns x)
include computes argument

/-- An element of which nothing is lost on the way comes back as what the function makes of it. -/
theorem own_of_returns (value : stage.output.Returns (f host x).result) (position : Nat) :
    stage.elementOutcome (passage.treat stage) (x, position) = .ok (f host x).result := by
  obtain ⟨v, encodes, decodes⟩ := argument
  obtain ⟨w, encodes', decodes'⟩ := value
  have treated : passage.treat stage position v = .ok w := by
    rw [treat_passage]
    change outcomeOf (stage.callElement host v).result.ending = _
    rw [ParallelMap.callElement, decodes]
    dsimp only
    rw [computes host x]
    change outcomeOf (.ofExcept ((stage.output.encode (f host x).result).mapError _)) = _
    rw [encodes']
    rfl
  rw [ParallelMap.elementOutcome, encodes]
  dsimp only
  rw [treated]
  change (stage.output.decode w).mapError _ = _
  rw [decodes']
  rfl

theorem reports_of_returns (position : Nat) :
    passage.reports stage (x, position) = (f host x).events := by
  obtain ⟨v, encodes, decodes⟩ := argument
  rw [Passage.reports, Passage.argument?_of_arrives encodes rfl, decodes]
  change (stage.element host x).events = _
  rw [computes host x]
  exact List.append_nil _

end Element

section Run

variable {stage : ParallelMap}
  {f : (host : String) → stage.input.Carrier → Traced Call stage.output.Carrier}

/-- A stage comes to what the function makes of the elements, one after the other, if nothing is
lost of any on the way. -/
theorem run_of_returns (computes : stage.Computes f)
    (source : (stage.shape.container stage.input).Carrier)
    (crosses : ∀ x ∈ stage.shape.elements source,
      stage.input.Returns x ∧ stage.output.Returns (f host x).result) (calls : Array Call) :
    (stage.run (dispatch stage : Dispatch (Recorder Call) _) (.ofData source)).run calls =
      (.ok (stage.assemble ((stage.shape.elements source).map fun x => (f host x).result)),
        ((stage.shape.elements source).flatMap fun x => (f host x).events).foldl
          Array.push calls) := by
  obtain ⟨reached, outcome, record, reported, calls', inTurn, runs, -, called⟩ :=
    runs_in_turn computes.synchronous source calls
  have own (position : Nat) (x : stage.input.Carrier)
      (here : (stage.shape.elements source)[position]? = some x) :
      stage.elementOutcome (passage.treat stage) (x, position) = .ok (f host x).result :=
    have ⟨argument, value⟩ := crosses x (List.mem_of_getElem? here)
    own_of_returns computes argument value position
  obtain ⟨rfl, rfl⟩ := inTurn.ends.of_all own
  have reports : (stage.shape.elements source).zipIdx.map (passage.reports stage) =
      (stage.shape.elements source).map fun x => (f host x).events := by
    calc
      _ = ((stage.shape.elements source).zipIdx.map Prod.fst).map fun x => (f host x).events := by
        rw [List.map_map]
        refine List.map_congr_left fun (x, position) member => ?_
        have here := List.mem_of_getElem? (List.mem_zipIdx_iff_getElem?.mp member)
        exact reports_of_returns computes (crosses x here).1 position
      _ = _ := by rw [List.zipIdx_map_fst]
  rw [inTurn.calls, ← List.length_zipIdx, List.take_length, List.flatMap_def, reports,
    ← List.flatMap_def] at called
  rw [runs]
  refine Prod.ext rfl (Array.ext' ?_)
  simp [called]

end Run

section Pipelines

variable (shape : Shape) {a b : DataType} (f : (host : String) → a.Carrier → Traced Call b.Carrier)

/-- What elementwise stages make of a collection, with the function of the run's own thread. -/
def mapped (source : (shape.container a).Carrier) : (shape.container b).Carrier :=
  shape.ofElements ((shape.elements source).map fun x => (f host x).result)

/-- The calls for the elements of a collection, after those made before. -/
def called (source : (shape.container a).Carrier) (calls : Array Call) : Array Call :=
  ((shape.elements source).flatMap fun x => (f host x).events).foldl Array.push calls

theorem run_mapEach (index : Nat) (source : (shape.container a).Carrier) (calls : Array Call) :
    ((Stage.mapEach shape a b (f host)).evaluate (m := Recorder Call) fanOut [] index
        (.ofData source)).run.run calls =
      (.ok (.ofData (mapped shape f source)), called shape f source calls) := by
  simp only [Stage.mapEach, Stage.map, Stage.evaluate, Value.downcast_ofData, Traced.mapM_eq]
  change (Except.ok (Value.ofData (mapped shape f source)),
    ((((shape.elements source).flatMap fun x => (f host x).events) ++ []) ++ []).foldl
      Array.push calls) = _
  rw [List.append_nil, List.append_nil]
  rfl

theorem run_parMap (index : Nat) (source : (shape.container a).Carrier) (calls : Array Call)
    (crosses : ∀ x ∈ shape.elements source, a.Returns x ∧ b.Returns (f host x).result) :
    ((Stage.parMap shape a b f).evaluate (m := Recorder Call) fanOut [] index
        (.ofData source)).run.run calls =
      (.ok (.ofData (mapped shape f source)), called shape f source calls) := by
  let stage : ParallelMap := ⟨shape, a, b, fun host x => do
    return .now (.ofExcept (← (do return .ok (← f host x))))⟩
  have computes : stage.Computes f := fun host x => by
    simp only [stage, bind_assoc, pure_bind]
    rfl
  have runs := run_of_returns computes source crosses calls
  rw [Stage.parMap, Stage.tryParMap, Stage.parMapDeferred, Stage.evaluate]
  exact congrArg (Prod.map (Except.mapError (Error.atStage .parallelMap index)) id) runs

/-- A stage behind a pipeline is run on the value that comes out of it. -/
theorem execute_andThen (p : Pipeline) (stage : Stage) (calls : Array Call) :
    (execute (p.andThen stage)).run calls =
      match (execute p).run calls with
      | (.error e, calls') => (.error e, calls')
      | (.ok v, calls') =>
          (stage.evaluate (m := Recorder Call) fanOut [] p.length v).run.run calls' := by
  rw [execute, execute, Pipeline.execute, Pipeline.execute,
    ControlState.run_eq_remainder _ _ _ rfl, ControlState.run_eq_remainder _ _ _ rfl,
    Pipeline.remainder_start, Pipeline.remainder_start, Pipeline.evaluate_andThen,
    ExceptT.run_bind, StateT.run_bind]
  obtain ⟨outcome, calls'⟩ := (p.evaluate (m := Recorder Call) fanOut []).run.run calls
  cases outcome with
  | error e => rfl
  | ok v => rfl

/-- What comes out of the pipeline is a piece of data for which `holds`. -/
def Supplies (p : Pipeline) (calls : Array Call) {c : DataType} (holds : c.Carrier → Prop) : Prop :=
  ∀ v, ((execute p).run calls).1 = .ok v → ∃ x : c.Carrier, v = .ofData x ∧ holds x

/-- **Treating elements one by one is mapping them in place.** Let elements and values be of types
whose JSON form stands for them, and in range. Encoding and decoding gives them back, and a
pipeline that ends by having its elements treated one by one comes to the same value, after the
same calls, as one that ends by mapping them in place. It fails only if the stages before do. -/
theorem parMap_eq_mapEach (p : Pipeline) (shape : Shape) {a b : DataType} (argument : a.Built)
    (value : b.Built) (f : (host : String) → a.Carrier → Traced Call b.Carrier)
    (calls : Array Call)
    (supplies : Supplies p calls fun source : (shape.container a).Carrier =>
      ∀ x ∈ shape.elements source, a.InRange x ∧ b.InRange (f host x).result) :
    (∀ x : a.Carrier, a.InRange x → a.Returns x) ∧ (∀ y : b.Carrier, b.InRange y → b.Returns y) ∧
      (execute (p.andThen (.parMap shape a b f))).run calls =
        (execute (p.andThen (.mapEach shape a b (f host)))).run calls ∧
      ∀ (source : (shape.container a).Carrier) (calls' : Array Call),
        (execute p).run calls = (.ok (.ofData source), calls') →
          (execute (p.andThen (.parMap shape a b f))).run calls =
            (.ok (.ofData (mapped shape f source)), called shape f source calls') := by
  refine ⟨argument.returns, value.returns, ?_⟩
  rw [execute_andThen, execute_andThen]
  rw [Supplies] at supplies
  generalize (execute p).run calls = ending at supplies ⊢
  obtain ⟨outcome, calls'⟩ := ending
  cases outcome with
  | error e => exact ⟨rfl, nofun⟩
  | ok v =>
      obtain ⟨source, rfl, inRange⟩ := supplies v rfl
      have runs := run_parMap shape f p.length source calls' fun x member =>
        have ⟨here, there⟩ := inRange x member
        ⟨argument.returns x here, value.returns _ there⟩
      constructor
      · exact runs.trans (run_mapEach shape f p.length source calls').symm
      · intro source' calls'' same
        cases same
        exact runs

end Pipelines

/-- Whether an integer is positive, unless it is zero. -/
def positive? (n : BitVec 128) : Traced Call (Option Bool) :=
  ⟨[DataType.describe .int128 n], if n = 0 then none else some (0 < n.toInt)⟩

/-- Integers of every sign, up to the last one in range. -/
def integers : List (BitVec 128) := [0, 0xFFFFFFFFFFFFFFFF, -1]

/-- Integers in range and options of truth values come back as they were. -/
theorem parMap_eq_mapEach_positive :
    (execute ((Pipeline.of (.ofData (a := .list .int128) integers)).andThen
        (.parMap .list .int128 (.option .bool) fun _ => positive?))).run #[] =
      (.ok (.ofData (a := .list (.option .bool)) [none, some true, some false]),
        #[.int 0, .int 0xFFFFFFFFFFFFFFFF, .int (-1)]) := by
  have inRange : ∀ n ∈ integers, -2 ^ 63 ≤ n.toInt ∧ n.toInt ≤ 2 ^ 64 - 1 := by
    simp [integers]
  have supplies : Supplies (.of (.ofData (a := .list .int128) integers)) #[]
      fun source : (Shape.list.container .int128).Carrier => ∀ x ∈ Shape.list.elements source,
        DataType.InRange .int128 x ∧ DataType.InRange (.option .bool) (positive? x).result := by
    intro v yields
    cases yields
    refine ⟨integers, rfl, fun x member => ⟨inRange x member, ?_⟩⟩
    cases (positive? x).result <;> trivial
  have values : integers.map (fun n => (positive? n).result) =
      [none, some true, some false] := by
    simp [integers, positive?]
  have reports : integers.flatMap (fun n => (positive? n).events) =
      [.int 0, .int 0xFFFFFFFFFFFFFFFF, .int (-1)] := by
    simp [integers, positive?, DataType.describe]
  obtain ⟨-, -, -, yields⟩ := parMap_eq_mapEach _ .list .int128
    (.option .bool fun _ => nofun) (fun _ => positive?) #[] supplies
  refine (yields integers #[] rfl).trans (Prod.ext ?_ ?_)
  · exact congrArg (fun ys => Except.ok (Value.ofData (a := .list (.option .bool)) ys)) values
  · exact congrArg (List.foldl Array.push #[]) reports

end Local

end Conduit
