import Conduit.ParallelMap
import Conduit.Proofs.Traversal.Prompt

/-! # What a parallel stage gives

Every element of a parallel stage is encoded, treated, and decoded again. Once it is known
what the treatment makes of each, the outcome of the whole stage is as well: the values in
their places, or the failure of the first element that fails
(`Conduit.ParallelMap.result`). A dispatch whose elements answer at once comes to just this
outcome (`Conduit.ParallelMap.run_prompt`).
-/

namespace Conduit

section Traversal

variable {ε α β : Type} {f : α → Except ε β}

/-- A traversal gives the values that its elements give, in their order. -/
theorem mapM_eq_ok : ∀ {xs : List α} {ys : List β}, ys.length = xs.length →
    (∀ (i : Nat) (x : α) (y : β), xs[i]? = some x → ys[i]? = some y → f x = .ok y) →
      xs.mapM f = .ok ys
  | [], [], _, _ => rfl
  | x :: rest, y :: others, count, gives => by
      have first := gives 0 x y rfl rfl
      have later := mapM_eq_ok (Nat.succ.inj count) fun i => gives (i + 1)
      rw [List.mapM_cons, first, later]
      rfl

/-- A traversal succeeds just when all its elements do. -/
theorem mapM_succeeds_iff {xs : List α} :
    (∃ ys, xs.mapM f = .ok ys) ↔ ∀ x ∈ xs, ∃ y, f x = .ok y := by
  induction xs with
  | nil => exact ⟨fun _ => nofun, fun _ => ⟨[], rfl⟩⟩
  | cons x rest ih =>
      rw [List.forall_mem_cons, ← ih, List.mapM_cons]
      constructor
      · rintro ⟨ys, gives⟩
        cases first : f x with
        | error e => rw [first] at gives; cases gives
        | ok y =>
            cases others : rest.mapM f with
            | error e => rw [first, others] at gives; cases gives
            | ok zs => exact ⟨⟨y, rfl⟩, zs, rfl⟩
      · rintro ⟨⟨y, first⟩, ys, others⟩
        rw [first, others]
        exact ⟨y :: ys, rfl⟩

theorem map_of_mapM_eq_ok {xs : List α} {ys : List β} (gives : xs.mapM f = .ok ys) :
    xs.map f = ys.map .ok := by
  induction xs generalizing ys with
  | nil => cases gives; rfl
  | cons x rest ih =>
      rw [List.mapM_cons] at gives
      cases first : f x with
      | error e => rw [first] at gives; cases gives
      | ok y =>
          cases others : rest.mapM f with
          | error e => rw [first, others] at gives; cases gives
          | ok zs =>
              rw [first, others] at gives
              cases gives
              rw [List.map_cons, List.map_cons, first, ih others]

/-- The values of a traversal are those of its elements. -/
theorem mapM_eq_ok_iff {xs : List α} {ys : List β} :
    xs.mapM f = .ok ys ↔ xs.map f = ys.map .ok := by
  refine ⟨map_of_mapM_eq_ok, fun values => mapM_eq_ok ?_ fun i x y here there => ?_⟩
  · simpa using (congrArg List.length values).symm
  · simpa [here, there] using congrArg (·[i]?) values

/-- A traversal fails by one of its elements. -/
theorem mapM_failed {xs : List α} {e : ε} (fails : xs.mapM f = .error e) :
    ∃ x ∈ xs, f x = .error e := by
  induction xs with
  | nil => cases fails
  | cons x rest ih =>
      rw [List.mapM_cons] at fails
      cases first : f x with
      | error e' =>
          rw [first] at fails
          cases fails
          exact ⟨x, List.mem_cons_self, first⟩
      | ok y =>
          cases others : rest.mapM f with
          | ok ys => rw [first, others] at fails; cases fails
          | error e' =>
              rw [first, others] at fails
              cases fails
              obtain ⟨z, member, last⟩ := ih others
              exact ⟨z, List.mem_cons_of_mem x member, last⟩

/-- Every element is numbered by its place. -/
theorem getElem?_of_zipIdx {xs : List α} {place position : Nat} {x : α}
    (here : xs.zipIdx[place]? = some (x, position)) : xs[place]? = some x ∧ position = place := by
  rw [List.getElem?_zipIdx, Nat.zero_add] at here
  obtain ⟨x', element, pair⟩ := Option.map_eq_some_iff.mp here
  cases pair
  exact ⟨element, rfl⟩

/-- The values of elements in their positions. -/
theorem values_in_positions {own : α × Nat → Except ε β} {xs : List α} {ys : List β}
    (values : xs.zipIdx.map own = ys.map .ok) :
    ys.length = xs.length ∧ ∀ position x, xs[position]? = some x →
      ∃ y, ys[position]? = some y ∧ own (x, position) = .ok y := by
  constructor
  · simpa using (congrArg List.length values).symm
  · intro position x here
    have there := congrArg (·[position]?) values
    simp only [List.getElem?_map, List.getElem?_zipIdx, here, Nat.zero_add,
      Option.map_some] at there
    cases gives : ys[position]? with
    | none => simp [gives] at there
    | some y => exact ⟨y, rfl, by simpa [gives] using there⟩

end Traversal

@[simp] theorem Value.downcast_ofData {a : DataType} (x : a.Carrier) :
    (Value.ofData x).downcast (.data a) = .ok x :=
  Value.downcast_self (.data a) x

namespace ParallelMap

variable (stage : ParallelMap) (treat : (position : Nat) → Json → Except Error Json)

/-- The outcome of an element by itself, when `treat` tells what becomes of its JSON form. -/
def elementOutcome : stage.input.Carrier × Nat → Except Error stage.output.Carrier
  | (x, position) =>
      match stage.input.encode x with
      | .error fault => .error (.serialization fault)
      | .ok v => (treat position v).bind stage.receive

/-- The collection made of the values of its elements. -/
def assemble (ys : List stage.output.Carrier) : Value :=
  Value.ofData (a := stage.shape.container stage.output) (stage.shape.ofElements ys)

/-- The outcome of the stage when elements are treated in order, up to the first failure. -/
def result (container : Value) : Except Error Value :=
  match container.downcast (.data (stage.shape.container stage.input)) with
  | .error e => .error e
  | .ok source =>
      ((stage.shape.elements source).zipIdx.mapM (stage.elementOutcome treat)).map
        stage.assemble

variable {stage treat} in
/-- Values that are their elements' own are what a traversal of the elements gives. -/
theorem mapM_elementOutcome {source : (stage.shape.container stage.input).Carrier}
    {ys : List stage.output.Carrier}
    (count : ys.length = (stage.shape.elements source).zipIdx.length)
    (own : ∀ (position : Nat) (x : stage.input.Carrier) (y : stage.output.Carrier),
      (stage.shape.elements source)[position]? = some x → ys[position]? = some y →
        stage.elementOutcome treat (x, position) = .ok y) :
    (stage.shape.elements source).zipIdx.mapM (stage.elementOutcome treat) = .ok ys := by
  refine mapM_eq_ok count fun place (x, position) y here there => ?_
  obtain ⟨element, rfl⟩ := getElem?_of_zipIdx here
  exact own position x y element there

section Success

variable {stage treat}

theorem elementOutcome_succeeds_iff {x : stage.input.Carrier} {position : Nat} :
    (∃ y, stage.elementOutcome treat (x, position) = .ok y) ↔
      ∃ v w y, stage.input.encode x = .ok v ∧ treat position v = .ok w ∧
        stage.output.decode w = .ok y := by
  rw [elementOutcome]
  cases encoded : stage.input.encode x with
  | error fault =>
      constructor
      · rintro ⟨y, gives⟩
        cases gives
      · rintro ⟨v, w, y, same, _⟩
        cases same
  | ok v =>
      dsimp only
      constructor
      · rintro ⟨y, gives⟩
        cases treated : treat position v with
        | error e => rw [treated] at gives; cases gives
        | ok w =>
            rw [treated] at gives
            change (stage.output.decode w).mapError _ = _ at gives
            cases decoded : stage.output.decode w with
            | error fault => rw [decoded] at gives; cases gives
            | ok z => exact ⟨v, w, z, rfl, treated, decoded⟩
      · rintro ⟨v', w, y, same, treated, decoded⟩
        cases same
        rw [treated]
        refine ⟨y, ?_⟩
        change (stage.output.decode w).mapError _ = _
        rw [decoded]
        rfl

/-- All elements together succeed just when each of them does. -/
theorem elements_succeed_iff {xs : List stage.input.Carrier} :
    (∃ ys, xs.zipIdx.mapM (stage.elementOutcome treat) = .ok ys) ↔
      ∀ (position : Nat) (x : stage.input.Carrier), xs[position]? = some x →
        ∃ v w y, stage.input.encode x = .ok v ∧ treat position v = .ok w ∧
          stage.output.decode w = .ok y := by
  rw [mapM_succeeds_iff]
  constructor
  · intro succeed position x here
    exact elementOutcome_succeeds_iff.mp
      (succeed (x, position) (List.mem_zipIdx_iff_getElem?.mpr here))
  · intro succeed (x, position) member
    exact elementOutcome_succeeds_iff.mpr
      (succeed position x (List.mem_zipIdx_iff_getElem?.mp member))

/-- **A stage succeeds just when each of its elements does**: it is encoded, treated and
decoded without failure. -/
theorem result_succeeds_iff {container : Value} :
    (∃ v, stage.result treat container = .ok v) ↔
      ∃ source, container.downcast (.data (stage.shape.container stage.input)) = .ok source ∧
        ∀ (position : Nat) (x : stage.input.Carrier),
          (stage.shape.elements source)[position]? = some x →
            ∃ v w y, stage.input.encode x = .ok v ∧ treat position v = .ok w ∧
              stage.output.decode w = .ok y := by
  rw [result]
  cases container.downcast (.data (stage.shape.container stage.input)) with
  | error e =>
      constructor
      · rintro ⟨v, gives⟩
        cases gives
      · rintro ⟨source, holds, _⟩
        cases holds
  | ok source =>
      dsimp only
      constructor
      · rintro ⟨v, gives⟩
        refine ⟨source, rfl, elements_succeed_iff.mp ?_⟩
        cases traversed : (stage.shape.elements source).zipIdx.mapM
            (stage.elementOutcome treat) with
        | error e => rw [traversed] at gives; cases gives
        | ok ys => exact ⟨ys, rfl⟩
      · rintro ⟨same, holds, succeed⟩
        cases holds
        obtain ⟨ys, traversed⟩ := elements_succeed_iff.mpr succeed
        rw [traversed]
        exact ⟨_, rfl⟩

end Success

section Run

variable {σ κ : Type} (dispatch : Dispatch (StateM σ) κ)

/-- The stage takes its collection apart and gathers the outcomes of its elements. -/
theorem run_run (container : Value) (s : σ) :
    (stage.run dispatch container).run s =
      match container.downcast (.data (stage.shape.container stage.input)) with
      | .error e => (.error e, s)
      | .ok source =>
          (((stage.asking dispatch).gather
            (fun (x, position) => stage.start dispatch x position)
            (stage.shape.elements source).zipIdx).run s).map (Except.map stage.assemble) id := by
  rw [run]
  cases container.downcast (.data (stage.shape.container stage.input)) with
  | error e => rfl
  | ok source => rfl

section Gathered

variable {stage dispatch} {container : Value} {s : σ}

/-- A stage that has been given its collection fails as its gathering does. -/
theorem gather_failed {source : (stage.shape.container stage.input).Carrier}
    (holds : container.downcast (.data (stage.shape.container stage.input)) = .ok source)
    {e : Error} (failed : ((stage.run dispatch container).run s).1 = .error e) :
    (((stage.asking dispatch).gather (fun (x, position) => stage.start dispatch x position)
      (stage.shape.elements source).zipIdx).run s).1 = .error e := by
  rw [run_run, holds] at failed
  dsimp only at failed
  generalize ((stage.asking dispatch).gather _ _).run s = ending at failed ⊢
  obtain ⟨outcome, t⟩ := ending
  cases outcome with
  | ok ys => cases failed
  | error e' => cases failed; rfl

/-- A stage that succeeds puts together what it has gathered from its collection. -/
theorem gather_succeeds {v : Value}
    (succeeds : ((stage.run dispatch container).run s).1 = .ok v) :
    ∃ source ys, container.downcast (.data (stage.shape.container stage.input)) = .ok source ∧
      (((stage.asking dispatch).gather (fun (x, position) => stage.start dispatch x position)
        (stage.shape.elements source).zipIdx).run s).1 = .ok ys ∧ v = stage.assemble ys := by
  rw [run_run] at succeeds
  cases holds : container.downcast (.data (stage.shape.container stage.input)) with
  | error e => rw [holds] at succeeds; cases succeeds
  | ok source =>
      rw [holds] at succeeds
      dsimp only at succeeds
      refine ⟨source, ?_⟩
      generalize ((stage.asking dispatch).gather _ _).run s = ending at succeeds ⊢
      obtain ⟨outcome, t⟩ := ending
      cases outcome with
      | error e => cases succeeds
      | ok ys => cases succeeds; exact ⟨ys, rfl, rfl, rfl⟩

end Gathered

/-- Elements that are sent out have their answers at once, in states of a kind that
successes keep. -/
structure PromptDispatch (dispatch : Dispatch (StateM σ) κ) (kept : σ → Prop)
    (treat : (position : Nat) → Json → Except Error Json) : Prop where
  sends : ∀ position v s, kept s →
    ((dispatch.send position v).run s).1 = .now (treat position v)
  keeps : ∀ position v s w, kept s → treat position v = .ok w →
    kept ((dispatch.send position v).run s).2
  patient : ∀ s, ((dispatch.replies.patience []).run s).2 = s

variable {stage treat dispatch} {kept : σ → Prop}

theorem run_start (x : stage.input.Carrier) (position : Nat) (s : σ) :
    (stage.start dispatch x position).run s =
      match stage.input.encode x with
      | .error fault => (.now (.error (.serialization fault)), s)
      | .ok v => ((dispatch.send position v).run s).map stage.answer id := by
  rw [start]
  cases stage.input.encode x with
  | error fault => rfl
  | ok v => rfl

theorem PromptDispatch.prompt (prompt : PromptDispatch dispatch kept treat)
    (stage : ParallelMap) (xs : List (stage.input.Carrier × Nat)) :
    Prompt (fun (x, position) => stage.start dispatch x position) xs kept
      (stage.elementOutcome treat)
      fun (x, position) s => ((stage.start dispatch x position).run s).2 where
  answers := by
    intro (x, position) _ s here
    dsimp only
    rw [run_start, elementOutcome]
    cases stage.input.encode x with
    | error fault => rfl
    | ok v =>
        have sent := prompt.sends position v s here
        dsimp only
        generalize (dispatch.send position v).run s = outcome at sent ⊢
        obtain ⟨answer, t⟩ := outcome
        obtain rfl : answer = _ := sent
        rfl
  keeps := by
    intro (x, position) _ s y here succeeds
    dsimp only
    rw [run_start]
    rw [elementOutcome] at succeeds
    cases encoded : stage.input.encode x with
    | error fault => exact here
    | ok v =>
        rw [encoded] at succeeds
        cases treated : treat position v with
        | error e => simp only [treated] at succeeds; cases succeeds
        | ok w => exact prompt.keeps position v s w here treated

/-- **A prompt stage comes to its result**, and keeps what its elements keep if it
succeeds. -/
theorem run_prompt (stage : ParallelMap) (prompt : PromptDispatch dispatch kept treat)
    (container : Value) {s : σ} (here : kept s) :
    ((stage.run dispatch container).run s).1 = stage.result treat container ∧
      ∀ v, stage.result treat container = .ok v →
        kept ((stage.run dispatch container).run s).2 := by
  rw [run_run, result]
  cases container.downcast (.data (stage.shape.container stage.input)) with
  | error e => exact ⟨rfl, nofun⟩
  | ok source =>
      have each := prompt.prompt stage (stage.shape.elements source).zipIdx
      dsimp only
      rw [(stage.asking dispatch).run_gather_prompt each prompt.patient here]
      refine ⟨rfl, fun v succeeds => ?_⟩
      cases gathered : (stage.shape.elements source).zipIdx.mapM (stage.elementOutcome treat) with
      | error e => rw [gathered] at succeeds; cases succeeds
      | ok ys => exact afterAll_keeps each.keeps here gathered

end Run

end ParallelMap

end Conduit
