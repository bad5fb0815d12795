import Conduit.Proofs.Traversal.Clocks
import Conduit.Proofs.Traversal.Places
import Conduit.Proofs.Traversal.Records

/-! # Elements and their positions

A stage sends the element of a position out at most once, and what it puts in that position is
what came back for it. None of this depends on how elements are treated, nor on the order in
which they are answered (`Conduit.ParallelMap.run_in_positions`).
-/

namespace Conduit

variable {σ κ : Type}

section Record

variable (position : Nat)

/-- What was sent out for the position. -/
def sentAt (record : List Handling) : List Json :=
  record.filterMap fun
    | .sent place v => if place = position then some v else none
    | _ => none

/-- The answers that came back for the position. -/
def answersAt (record : List Handling) : List (Except Error Json) :=
  record.filterMap fun
    | .answered place outcome => if place = position then some outcome else none
    | _ => none

variable {position} {place : Nat} (record later : List Handling)

@[simp] theorem sentAt_append :
    sentAt position (record ++ later) = sentAt position record ++ sentAt position later :=
  List.filterMap_append

@[simp] theorem answersAt_append :
    answersAt position (record ++ later) = answersAt position record ++ answersAt position later :=
  List.filterMap_append

@[simp] theorem sentAt_nil : sentAt position [] = [] := rfl

@[simp] theorem answersAt_nil : answersAt position [] = [] := rfl

@[simp] theorem sentAt_taken :
    sentAt position (.taken place :: record) = sentAt position record := rfl

@[simp] theorem answersAt_taken :
    answersAt position (.taken place :: record) = answersAt position record := rfl

@[simp] theorem sentAt_sent (v : Json) :
    sentAt position (.sent place v :: record) =
      (if place = position then [v] else []) ++ sentAt position record := by
  by_cases same : place = position <;> simp [sentAt, same]

@[simp] theorem answersAt_sent (v : Json) :
    answersAt position (.sent place v :: record) = answersAt position record := rfl

@[simp] theorem sentAt_answers (outcomes : List (Except Error Json)) :
    sentAt position (outcomes.map (.answered place)) = [] := by
  simp [sentAt]

@[simp] theorem answersAt_answers (outcomes : List (Except Error Json)) :
    answersAt position (outcomes.map (.answered place)) =
      if place = position then outcomes else [] := by
  by_cases same : place = position <;> simp [answersAt, same]

end Record

namespace ParallelMap

variable (stage : ParallelMap)

/-- How far the element of a position has come: what has been sent out for it, what has been
answered, and the slot that it fills. -/
inductive Comes (position : Nat) (x : stage.input.Carrier) :
    List Json → List (Except Error Json) → Slot (κ × Nat) Error stage.output.Carrier → Prop
  | unencoded {fault : Json.Fault} (encodes : stage.input.encode x = .error fault) :
      Comes position x [] [] (.failed (.serialization fault))
  | waiting {v : Json} (encodes : stage.input.encode x = .ok v) (ticket : κ) :
      Comes position x [v] [] (.waiting (ticket, position))
  | refused {v : Json} {e : Error} (encodes : stage.input.encode x = .ok v) :
      Comes position x [v] [.error e] (.failed e)
  | undecoded {v w : Json} {fault : Json.Fault} (encodes : stage.input.encode x = .ok v)
      (decodes : stage.output.decode w = .error fault) :
      Comes position x [v] [.ok w] (.failed (.serialization fault))
  | delivered {v w : Json} {y : stage.output.Carrier} (encodes : stage.input.encode x = .ok v)
      (decodes : stage.output.decode w = .ok y) : Comes position x [v] [.ok w] (.done y)

/-- The element was sent out once and answered once, with what `y` is decoded from. -/
def Delivered (x : stage.input.Carrier) (sent : List Json) (answers : List (Except Error Json))
    (y : stage.output.Carrier) : Prop :=
  ∃ v w, stage.input.encode x = .ok v ∧ sent = [v] ∧ answers = [.ok w] ∧
    stage.output.decode w = .ok y

/-- The elements of the slots have come as far as the slots tell, and nothing has happened with
the elements behind. -/
structure Kept (xs : List stage.input.Carrier)
    (slots : List (Slot (κ × Nat) Error stage.output.Carrier)) (record : List Handling) : Prop where
  comes : ∀ position slot, slots[position]? = some slot → ∃ x, xs[position]? = some x ∧
    stage.Comes position x (sentAt position record) (answersAt position record) slot
  ahead : ∀ position, slots.length ≤ position →
    sentAt position record = [] ∧ answersAt position record = []

variable {stage} {xs : List stage.input.Carrier}
  {slots : List (Slot (κ × Nat) Error stage.output.Carrier)} {record : List Handling}

/-- An element that was sent out stands as its answer has it. -/
theorem comes_of_answer {position : Nat} {x : stage.input.Carrier} {v : Json}
    (encodes : stage.input.encode x = .ok v) (answer : Answer κ Error Json) :
    stage.Comes position x [v] answer.outcomes
      (.ofAnswer (stage.answer (answer.map (·, position)))) := by
  cases answer with
  | later ticket => exact .waiting encodes ticket
  | now outcome =>
      cases outcome with
      | error e => exact .refused encodes
      | ok w =>
          change stage.Comes position x [v] [.ok w]
            (.ofAnswer (.now ((stage.output.decode w).mapError .serialization)))
          cases decodes : stage.output.decode w with
          | error fault => exact .undecoded encodes decodes
          | ok y => exact .delivered encodes decodes

/-- What has been delivered fills its slot. -/
theorem Comes.done_of_delivered {position : Nat} {x : stage.input.Carrier} {sent : List Json}
    {answers : List (Except Error Json)} {slot : Slot (κ × Nat) Error stage.output.Carrier}
    {y : stage.output.Carrier} (comes : stage.Comes position x sent answers slot)
    (delivered : stage.Delivered x sent answers y) : slot = .done y := by
  obtain ⟨v, w, encodes, once, came, decodes⟩ := delivered
  cases comes with
  | unencoded => cases once
  | waiting => cases came
  | refused => cases came
  | undecoded _ decodes' =>
      cases came
      rw [decodes] at decodes'
      cases decodes'
  | delivered _ decodes' =>
      cases came
      rw [decodes] at decodes'
      cases decodes'
      rfl

theorem Comes.delivered_of_done {position : Nat} {x : stage.input.Carrier} {sent : List Json}
    {answers : List (Except Error Json)} {y : stage.output.Carrier}
    (comes : stage.Comes (κ := κ) position x sent answers (.done y)) :
    stage.Delivered x sent answers y := by
  cases comes with
  | delivered encodes decodes => exact ⟨_, _, encodes, rfl, rfl, decodes⟩

/-- A step that fills the slot of one position and leaves the others keeps them all. -/
theorem Kept.step (kept : stage.Kept xs slots record)
    {slots' : List (Slot (κ × Nat) Error stage.output.Carrier)} {record' : List Handling}
    {position : Nat} {x : stage.input.Carrier} {slot : Slot (κ × Nat) Error stage.output.Carrier}
    (here : xs[position]? = some x)
    (fills : ∀ place, slots'[place]? = if place = position then some slot else slots[place]?)
    (others : ∀ place, place ≠ position → sentAt place record' = sentAt place record ∧
      answersAt place record' = answersAt place record)
    (comes : stage.Comes position x (sentAt position record') (answersAt position record') slot) :
    stage.Kept xs slots' record' := by
  constructor
  · intro place other there
    rw [fills] at there
    by_cases same : place = position
    · subst same
      rw [if_pos rfl] at there
      cases there
      exact ⟨x, here, comes⟩
    · rw [if_neg same] at there
      rw [(others place same).1, (others place same).2]
      exact kept.comes place other there
  · intro place beyond
    have none := fills place
    rw [List.getElem?_eq_none beyond] at none
    by_cases same : place = position
    · rw [if_pos same] at none
      cases none
    · rw [if_neg same] at none
      rw [(others place same).1, (others place same).2]
      exact kept.ahead place (List.getElem?_eq_none_iff.mp none.symm)

theorem Kept.unencoded (kept : stage.Kept xs slots record) {x : stage.input.Carrier}
    (here : xs[slots.length]? = some x) {fault : Json.Fault}
    (encodes : stage.input.encode x = .error fault) :
    stage.Kept xs (slots ++ [.failed (.serialization fault)])
      (record ++ [.taken slots.length]) := by
  obtain ⟨sent, answered⟩ := kept.ahead slots.length (Nat.le_refl _)
  refine kept.step here (getElem?_concat _) (fun place _ => by simp) ?_
  simpa [sent, answered] using .unencoded encodes

theorem Kept.sent (kept : stage.Kept xs slots record) {x : stage.input.Carrier}
    (here : xs[slots.length]? = some x) {v : Json} (encodes : stage.input.encode x = .ok v)
    (answer : Answer κ Error Json) :
    stage.Kept xs (slots ++ [.ofAnswer (stage.answer (answer.map (·, slots.length)))])
      (record ++ [.taken slots.length] ++
        .sent slots.length v :: answer.outcomes.map (.answered slots.length)) := by
  obtain ⟨sent, answered⟩ := kept.ahead slots.length (Nat.le_refl _)
  refine kept.step here (getElem?_concat _) (fun place other => by simp [Ne.symm other]) ?_
  simpa [sent, answered] using comes_of_answer encodes answer

theorem Kept.answered {before after : List (Slot (κ × Nat) Error stage.output.Carrier)}
    {ticket : κ} {position : Nat}
    (kept : stage.Kept xs (before ++ .waiting (ticket, position) :: after) record)
    (answer : Answer κ Error Json) :
    stage.Kept xs (before ++ .ofAnswer (stage.answer (answer.map (·, position))) :: after)
      (record ++ answer.outcomes.map (.answered position)) := by
  obtain ⟨x, here, comes⟩ := kept.comes before.length (.waiting (ticket, position)) (by simp)
  generalize sent : sentAt before.length record = vs at comes
  generalize answered : answersAt before.length record = outcomes at comes
  cases comes with
  | @waiting v encodes =>
      refine kept.step here (getElem?_insert _ _) (fun place other => by simp [Ne.symm other]) ?_
      simpa [sent, answered] using comes_of_answer encodes answer

variable (dispatch : Dispatch (StateM σ) κ)

section Outcome

variable {xs : List stage.input.Carrier}
  {slots : List (Slot (κ × Nat) Error stage.output.Carrier)} {record : List Handling}

/-- When there are values for all elements, each of them has been delivered. -/
theorem Kept.delivered {ys : List stage.output.Carrier} (count : ys.length = xs.length)
    (kept : stage.Kept (κ := κ) xs (ys.map .done) record) (position : Nat) {x : stage.input.Carrier}
    (here : xs[position]? = some x) : ∃ y, ys[position]? = some y ∧
      stage.Delivered x (sentAt position record) (answersAt position record) y := by
  obtain ⟨within, -⟩ := List.getElem?_eq_some_iff.mp here
  rw [← count] at within
  have there : ys[position]? = some ys[position] := List.getElem?_eq_getElem within
  obtain ⟨x', here', comes⟩ := kept.comes position (.done ys[position]) (by simp [within])
  obtain rfl : x' = x := Option.some.inj (here'.symm.trans here)
  exact ⟨ys[position], there, comes.delivered_of_done⟩

/-- A slot without a value is that of an element which has not been delivered. -/
theorem Kept.fails {asking : Asking (StateM σ) (κ × Nat) Error stage.output.Carrier}
    (kept : stage.Kept xs slots record)
    {slot : Slot (κ × Nat) Error stage.output.Carrier} (member : slot ∈ slots) {e : Error}
    (faults : asking.Faults slot e) : ∃ position x, xs[position]? = some x ∧
      stage.Comes position x (sentAt position record) (answersAt position record) slot ∧
        ∀ y, ¬ stage.Delivered x (sentAt position record) (answersAt position record) y := by
  obtain ⟨position, there⟩ := List.getElem?_of_mem member
  obtain ⟨x, here, comes⟩ := kept.comes position slot there
  refine ⟨position, x, here, comes, fun y delivered => ?_⟩
  rw [comes.done_of_delivered delivered] at faults
  exact faults

end Outcome

end ParallelMap

namespace ParallelMap

variable {stage : ParallelMap} {dispatch : Dispatch (StateM σ) κ} {container : Value}
  {source : (stage.shape.container stage.input).Carrier}

section Treated

variable {fates : (position : Nat) → Json → Fate Error Json} {fateOf : κ → Fate Error Json}

end Treated

end ParallelMap

end Conduit
