import Conduit.Local
import Conduit.Proofs.Traversal.Records

/-! # Elements that are treated in order

When every element of a stage has its answer as soon as it is sent out, the stage works through
its elements in the order of their positions, up to the first that fails, and takes up none
behind it (`Conduit.ParallelMap.runRecorded_prompt`). What it leaves behind is what the elements
that it has reached leave behind, one after the other (`Conduit.Prompt.observe`).
-/

namespace Conduit

section Reach

variable {ε α β : Type} (own : α → Except ε β)

/-- The number of elements that are reached in order, up to the first that fails. -/
def reach : List α → Nat
  | [] => 0
  | x :: rest =>
      match own x with
      | .ok _ => reach rest + 1
      | .error _ => 1

variable {own} {xs : List α}

theorem reach_of_succeeds {ys : List β} (succeeds : xs.mapM own = .ok ys) :
    reach own xs = xs.length := by
  induction xs generalizing ys with
  | nil => rfl
  | cons x rest ih =>
      rw [List.mapM_cons] at succeeds
      rw [reach]
      cases first : own x with
      | error e => rw [first] at succeeds; cases succeeds
      | ok y =>
          cases others : rest.mapM own with
          | error e => rw [first, others] at succeeds; cases succeeds
          | ok zs => exact congrArg (· + 1) (ih others)

/-- A failure is that of the last element reached, and all before it have their values. -/
theorem reach_of_fails {e : ε} (fails : xs.mapM own = .error e) :
    ∃ position x, xs[position]? = some x ∧ own x = .error e ∧ reach own xs = position + 1 ∧
      ∀ place z, place < position → xs[place]? = some z → ∃ y, own z = .ok y := by
  induction xs with
  | nil => cases fails
  | cons x rest ih =>
      rw [List.mapM_cons] at fails
      rw [reach]
      cases first : own x with
      | error e' =>
          rw [first] at fails
          cases fails
          exact ⟨0, x, rfl, first, rfl, fun place z earlier => absurd earlier (Nat.not_lt_zero _)⟩
      | ok y =>
          cases others : rest.mapM own with
          | ok zs => rw [first, others] at fails; cases fails
          | error e' =>
              rw [first, others] at fails
              cases fails
              obtain ⟨position, z, here, last, reached, before⟩ := ih others
              refine ⟨position + 1, z, here, last, congrArg (· + 1) reached, ?_⟩
              intro place z' earlier there
              cases place with
              | zero => cases there; exact ⟨y, first⟩
              | succ place => exact before place z' (Nat.lt_of_succ_lt_succ earlier) there

/-- How elements that are treated in order end, and how many of them are reached: all, with the
values of all, or those up to the first that fails, with its failure. -/
inductive EndsInTurn (own : α × Nat → Except ε β) (xs : List α) :
    (reached : Nat) → Except ε (List β) → Prop
  | failed {position : Nat} {x : α} {e : ε} (here : xs[position]? = some x)
      (fails : own (x, position) = .error e)
      (before : ∀ place z, place < position → xs[place]? = some z → ∃ y, own (z, place) = .ok y) :
      EndsInTurn own xs (position + 1) (.error e)
  | completed {ys : List β} (count : ys.length = xs.length)
      (values : ∀ position x, xs[position]? = some x →
        ∃ y, ys[position]? = some y ∧ own (x, position) = .ok y) :
      EndsInTurn own xs xs.length (.ok ys)

theorem endsInTurn (own : α × Nat → Except ε β) (xs : List α) :
    EndsInTurn own xs (reach own xs.zipIdx) (xs.zipIdx.mapM own) := by
  cases outcome : xs.zipIdx.mapM own with
  | ok ys =>
      obtain ⟨count, values⟩ := values_in_positions (mapM_eq_ok_iff.mp outcome)
      rw [reach_of_succeeds outcome, List.length_zipIdx]
      exact .completed count values
  | error e =>
      obtain ⟨place, ⟨x, position⟩, there, fails, reached, before⟩ := reach_of_fails outcome
      obtain ⟨here, rfl⟩ := getElem?_of_zipIdx there
      rw [reached]
      refine .failed here fails fun place z earlier there => before place (z, place) earlier ?_
      rw [List.getElem?_zipIdx, there, Nat.zero_add]
      rfl

/-- The first element that fails is the last one reached. -/
theorem EndsInTurn.of_first {own : α × Nat → Except ε β} {reached position : Nat}
    {outcome : Except ε (List β)} {x : α} {e : ε} (ends : EndsInTurn own xs reached outcome)
    (here : xs[position]? = some x) (fails : own (x, position) = .error e)
    (before : ∀ place z, place < position → xs[place]? = some z →
      ∃ y, own (z, place) = .ok y) : reached = position + 1 ∧ outcome = .error e := by
  cases ends with
  | completed count values =>
      obtain ⟨y, -, gives⟩ := values position x here
      rw [fails] at gives
      cases gives
  | @failed place z e' there fails' before' =>
      rcases Nat.lt_trichotomy place position with earlier | rfl | later
      · obtain ⟨y, gives⟩ := before place z earlier there
        rw [fails'] at gives
        cases gives
      · obtain rfl : x = z := Option.some.inj (here.symm.trans there)
        rw [fails] at fails'
        cases fails'
        exact ⟨rfl, rfl⟩
      · obtain ⟨y, gives⟩ := before' position x later here
        rw [fails] at gives
        cases gives

/-- All elements are reached if all have values. -/
theorem EndsInTurn.of_all {own : α × Nat → Except ε β} {reached : Nat}
    {outcome : Except ε (List β)} {value : α → β} (ends : EndsInTurn own xs reached outcome)
    (all : ∀ position x, xs[position]? = some x → own (x, position) = .ok (value x)) :
    reached = xs.length ∧ outcome = .ok (xs.map value) := by
  cases ends with
  | failed here fails =>
      rw [all _ _ here] at fails
      cases fails
  | @completed ys count values =>
      refine ⟨rfl, congrArg Except.ok (List.ext_getElem? fun position => ?_)⟩
      rw [List.getElem?_map]
      cases here : xs[position]? with
      | none => simpa [count] using here
      | some x =>
          obtain ⟨y, there, gives⟩ := values position x here
          rw [all position x here] at gives
          cases gives
          exact there

end Reach

section Observe

variable {σ κ ε α β γ : Type} {kept : σ → Prop} {own : α → Except ε β} {after : α → σ → σ}
  {start : α → StateM σ (Answer κ ε β)} {xs : List α}

/-- What every element adds to what is seen of the state, those reached add in order. -/
theorem Prompt.observe (prompt : Prompt start xs kept own after) (seen : σ → List γ)
    {adds : α → List γ} (each : ∀ x ∈ xs, ∀ s, kept s → seen (after x s) = seen s ++ adds x)
    {s : σ} (here : kept s) :
    seen (afterAll own after xs s) = seen s ++ (xs.take (reach own xs)).flatMap adds := by
  induction xs generalizing s with
  | nil => exact (List.append_nil _).symm
  | cons x rest ih =>
      have added := each x List.mem_cons_self s here
      rw [afterAll, reach]
      cases first : own x with
      | error e => simpa using added
      | ok y =>
          have others := ih ⟨fun z member => prompt.answers z (List.mem_cons_of_mem x member),
              fun z member => prompt.keeps z (List.mem_cons_of_mem x member)⟩
            (fun z member => each z (List.mem_cons_of_mem x member))
            (prompt.keeps x List.mem_cons_self s y here first)
          dsimp only
          rw [others, added, List.append_assoc, List.take_succ_cons, List.flatMap_cons]

end Observe

namespace ParallelMap

variable {σ κ : Type} {dispatch : Dispatch (StateM σ) κ} {kept : σ → Prop}
  {treat : (position : Nat) → Json → Except Error Json}

/-- What a stage puts on record about an element that is answered at once. -/
def handlings (stage : ParallelMap) (treat : (position : Nat) → Json → Except Error Json) :
    stage.input.Carrier × Nat → List Handling
  | (x, position) => .taken position ::
      match stage.input.encode x with
      | .error _ => []
      | .ok v => [.sent position v, .answered position (treat position v)]

/-- Elements that answer at once do so when a record is kept. -/
theorem PromptDispatch.promptRecorded (prompt : PromptDispatch dispatch kept treat)
    (stage : ParallelMap) (xs : List (stage.input.Carrier × Nat)) :
    Prompt (fun (x, position) => stage.startRecorded dispatch x position) xs (fun s => kept s.1)
      (stage.elementOutcome treat) fun element s =>
        (((stage.start dispatch element.1 element.2).run s.1).2,
          s.2 ++ stage.handlings treat element) where
  answers := by
    intro (x, position) _ (s, record) here
    change (stage.start dispatch.recorded x position).run (s, record ++ [.taken position]) = _
    rw [run_start, run_start, elementOutcome, handlings]
    cases stage.input.encode x with
    | error fault => rfl
    | ok v =>
        have sent := prompt.sends position v s here
        change ((stage.answer (Answer.map (·, position) ((dispatch.send position v).run s).1)),
          ((dispatch.send position v).run s).2, record ++ [.taken position] ++ .sent position v ::
            ((dispatch.send position v).run s).1.outcomes.map (.answered position)) = _
        rw [sent, List.append_assoc]
        rfl
  keeps element member s y here succeeds :=
    (prompt.prompt stage xs).keeps element member s.1 y here succeeds

/-- **A prompt stage works through its elements in order**, and takes up none behind the first
that fails. What is seen of the state afterwards is what the elements reached have added. -/
theorem runRecorded_prompt (prompt : PromptDispatch dispatch kept treat) (stage : ParallelMap)
    (source : (stage.shape.container stage.input).Carrier) {s : σ} (here : kept s) :
    ∃ reached outcome t, EndsInTurn (stage.elementOutcome treat) (stage.shape.elements source)
        reached outcome ∧
      (stage.runRecorded dispatch (.ofData source)).run (s, []) =
        (outcome.map stage.assemble, t,
          ((stage.shape.elements source).zipIdx.take reached).flatMap (stage.handlings treat)) ∧
      ∀ {γ : Type} (seen : σ → List γ) (adds : stage.input.Carrier × Nat → List γ),
        (∀ x position s, kept s →
          seen ((stage.start dispatch x position).run s).2 = seen s ++ adds (x, position)) →
        seen t = seen s ++ ((stage.shape.elements source).zipIdx.take reached).flatMap adds := by
  have each := prompt.promptRecorded stage (stage.shape.elements source).zipIdx
  have here' : kept (s, ([] : List Handling)).1 := here
  have gathers := (stage.asking dispatch.recorded).run_gather_prompt each
    (fun t => Prod.ext (prompt.patient t.1) (List.append_nil t.2)) here'
  have records := each.observe Prod.snd (fun _ _ _ _ => rfl) here'
  have observes {γ : Type} (seen : σ → List γ) (adds : stage.input.Carrier × Nat → List γ)
      (added : ∀ x position s, kept s →
        seen ((stage.start dispatch x position).run s).2 = seen s ++ adds (x, position)) :=
    each.observe (fun t => seen t.1) (fun element _ t here => added element.1 element.2 t.1 here)
      here'
  generalize afterAll _ _ _ _ = last at gathers records observes
  obtain ⟨t, record⟩ := last
  refine ⟨_, _, t, endsInTurn _ _, ?_, fun seen adds => observes seen adds⟩
  rw [runRecorded, Value.downcast_ofData]
  refine (congrArg (Prod.map (Except.map stage.assemble) id) gathers).trans ?_
  exact congrArg (fun record => (_, t, record)) records

end ParallelMap

end Conduit
