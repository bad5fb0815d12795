import Conduit.Proofs.Traversal.Mirrors
import Conduit.Proofs.Traversal.Stages

/-! # What a stage does with its elements

A record kept beside the state tells which elements a stage takes up, which of them it sends
out, and how these are answered. Nothing reads the record, so that a stage that keeps it does
what it does without (`Conduit.ParallelMap.run_runRecorded`).
-/

namespace Conduit

variable {σ κ ε α β : Type}

/-- What happens with the element of a position. -/
inductive Handling where
  /-- The stage turns to the element, which is encoded next. -/
  | taken (position : Nat)
  | sent (position : Nat) (v : Json)
  | answered (position : Nat) (outcome : Except Error Json)

/-- A computation with `value` made of its result, and with what `note` tells of the result put
on record. -/
def recording (value : α → β) (note : α → List Handling) (x : StateM σ α) :
    StateM (σ × List Handling) β :=
  fun (s, record) => (value (x.run s).1, (x.run s).2, record ++ note (x.run s).1)

/-- The outcome that the answer brings, if it brings one. -/
def Answer.outcomes : Answer κ ε β → List (Except ε β)
  | .now outcome => [outcome]
  | .later _ => []

/-- The same dispatch, with a record of what is sent and answered. The tickets tell the position
that they are for. -/
def Dispatch.recorded (dispatch : Dispatch (StateM σ) κ) :
    Dispatch (StateM (σ × List Handling)) (κ × Nat) where
  send position v := recording (Answer.map (·, position))
    (fun answer => .sent position v :: answer.outcomes.map (.answered position))
    (dispatch.send position v)
  replies :=
    { ask := fun (ticket, position) => recording (Answer.map (·, position))
        (fun answer => answer.outcomes.map (.answered position)) (dispatch.replies.ask ticket)
      wake := recording id (fun _ => []) dispatch.replies.wake
      patience := fun tickets =>
        recording id (fun _ => []) (dispatch.replies.patience (tickets.map Prod.fst))
      abandoned := fun (ticket, _) => dispatch.replies.abandoned ticket }

namespace ParallelMap

variable (stage : ParallelMap) (dispatch : Dispatch (StateM σ) κ)

/-- Starts the element of a position, which is put on record. -/
def startRecorded (x : stage.input.Carrier) (position : Nat) :
    StateM (σ × List Handling) (Answer (κ × Nat) Error stage.output.Carrier) :=
  fun (s, record) => (stage.start dispatch.recorded x position).run (s, record ++ [.taken position])

/-- Runs the stage on a collection, with a record of what it does with the elements. -/
def runRecorded (container : Value) : StateM (σ × List Handling) (Except Error Value) := do
  match container.downcast (.data (stage.shape.container stage.input)) with
  | .error e => return .error e
  | .ok source =>
      let outcome ← (stage.asking dispatch.recorded).gather
        (fun (x, position) => stage.startRecorded dispatch x position)
        (stage.shape.elements source).zipIdx
      return outcome.map stage.assemble

variable {stage dispatch}

theorem answer_positioned (answer : Answer κ Error Json) (position : Nat) :
    (stage.answer (answer.map (·, position))).map Prod.fst = stage.answer answer := by
  cases answer <;> rfl

theorem start_mirrored (dispatch : Dispatch (StateM σ) κ) (x : stage.input.Carrier)
    (position : Nat) :
    Mirrored Prod.fst (Answer.map Prod.fst) (stage.startRecorded dispatch x position)
      (stage.start dispatch x position) := by
  intro (s, record)
  rw [run_start]
  change _ = (((stage.start dispatch.recorded x position).run (s, record ++ _)).1.map Prod.fst,
    ((stage.start dispatch.recorded x position).run (s, record ++ _)).2.1)
  rw [run_start]
  cases stage.input.encode x with
  | error fault => rfl
  | ok v =>
      exact congrArg (·, ((dispatch.send position v).run s).2)
        (answer_positioned ((dispatch.send position v).run s).1 position).symm

theorem asking_mirrors (dispatch : Dispatch (StateM σ) κ) :
    (stage.asking dispatch.recorded).Mirrors (stage.asking dispatch) Prod.fst Prod.fst where
  ask := by
    intro (ticket, position) (s, record)
    exact congrArg (·, ((dispatch.replies.ask ticket).run s).2)
      (answer_positioned ((dispatch.replies.ask ticket).run s).1 position).symm
  wake _ := rfl
  patience _ _ := rfl
  abandoned _ := rfl

variable (stage dispatch) in
/-- **A record changes nothing.** A stage that keeps one comes to the same outcome in the same
state. -/
theorem run_runRecorded (container : Value) (s : σ) (record : List Handling) :
    (stage.run dispatch container).run s =
      (((stage.runRecorded dispatch container).run (s, record)).1,
        ((stage.runRecorded dispatch container).run (s, record)).2.1) := by
  rw [run_run, runRecorded]
  cases container.downcast (.data (stage.shape.container stage.input)) with
  | error e => rfl
  | ok source =>
      have same := (asking_mirrors dispatch).gather (fun x => start_mirrored dispatch x.1 x.2)
        (stage.shape.elements source).zipIdx (s, record)
      exact congrArg (Prod.map (Except.map stage.assemble) id) same

end ParallelMap

end Conduit
