import Conduit.Proofs.Traversal.Places
import Conduit.Proofs.Traversal.Stages

/-! # Where the failures of a parallel stage come from

A parallel stage fails because it is given something else than its collection, because an
element has no JSON form, because an element that was sent out fails, or because what came
back for it is not of the stage's type (`Conduit.ParallelMap.failsBy_of_run`).
-/

namespace Conduit

/-- The answer is fair: its failure is among `faults`, or its ticket is a fair one. -/
def Answer.Within {κ ε β : Type} (fair : κ → Prop) (faults : ε → Prop) : Answer κ ε β → Prop
  | .now (.ok _) => True
  | .now (.error e) => faults e
  | .later ticket => fair ticket

/-- The slot is fair: its failure is among `faults`, or its ticket is a fair one. -/
def Slot.Within {κ ε β : Type} (fair : κ → Prop) (faults : ε → Prop) : Slot κ ε β → Prop
  | .done _ => True
  | .failed e => faults e
  | .waiting ticket => fair ticket

theorem Answer.Within.slot {κ ε β : Type} {fair : κ → Prop} {faults : ε → Prop}
    {answer : Answer κ ε β} (within : answer.Within fair faults) :
    (Slot.ofAnswer answer).Within fair faults := by
  match answer, within with
  | .now (.ok _), _ => exact trivial
  | .now (.error _), fault => exact fault
  | .later _, ticket => exact ticket

variable {σ κ : Type}

/-- Whatever the shared state, elements that are sent out fail only by `faults`. -/
structure Dispatch.Within (dispatch : Dispatch (StateM σ) κ) (fair : κ → Prop)
    (faults : Error → Prop) : Prop where
  sends : ∀ position v s, ((dispatch.send position v).run s).1.Within fair faults
  asks : ∀ ticket s, fair ticket → ((dispatch.replies.ask ticket).run s).1.Within fair faults
  abandoned : ∀ ticket, fair ticket → faults (dispatch.replies.abandoned ticket)

namespace Dispatch

/-- The answers about elements: to one that is sent out, and to a ticket from an answer. -/
inductive Answers (dispatch : Dispatch (StateM σ) κ) : Answer κ Error Json → Prop
  | send (position : Nat) (v : Json) (s : σ) : Answers dispatch ((dispatch.send position v).run s).1
  | ask {ticket : κ} (waits : Answers dispatch (.later ticket)) (s : σ) :
      Answers dispatch ((dispatch.replies.ask ticket).run s).1

/-- The failures of elements that are sent out. -/
inductive Fails (dispatch : Dispatch (StateM σ) κ) : Error → Prop
  | answered {e : Error} (answers : dispatch.Answers (.now (.error e))) : Fails dispatch e
  | abandoned {ticket : κ} (waits : dispatch.Answers (.later ticket)) :
      Fails dispatch (dispatch.replies.abandoned ticket)

variable {dispatch : Dispatch (StateM σ) κ} {fair : κ → Prop} {faults : Error → Prop}

theorem Within.answers (within : dispatch.Within fair faults) {answer : Answer κ Error Json}
    (answers : dispatch.Answers answer) : answer.Within fair faults := by
  induction answers with
  | send position v s => exact within.sends position v s
  | ask _ s ih => exact within.asks _ s ih

theorem Within.fails (within : dispatch.Within fair faults) {e : Error}
    (fails : dispatch.Fails e) : faults e := by
  cases fails with
  | answered answers => exact within.answers answers
  | abandoned waits => exact within.abandoned _ (within.answers waits)

end Dispatch

namespace ParallelMap

/-- The reasons for which a stage fails on what it is given. -/
inductive FailsBy (stage : ParallelMap) (dispatch : Dispatch (StateM σ) κ) (container : Value) :
    Error → Prop
  | downcast {e : Error}
      (other : container.downcast (.data (stage.shape.container stage.input)) = .error e) :
      FailsBy stage dispatch container e
  | encode {source : (stage.shape.container stage.input).Carrier} {x : stage.input.Carrier}
      {fault : Json.Fault}
      (holds : container.downcast (.data (stage.shape.container stage.input)) = .ok source)
      (member : x ∈ stage.shape.elements source) (unwritten : stage.input.encode x = .error fault) :
      FailsBy stage dispatch container (.serialization fault)
  | element {e : Error} (fails : dispatch.Fails e) : FailsBy stage dispatch container e
  | decode {v : Json} {fault : Json.Fault} (answers : dispatch.Answers (.now (.ok v)))
      (unread : stage.output.decode v = .error fault) :
      FailsBy stage dispatch container (.serialization fault)

variable {stage : ParallelMap} {dispatch : Dispatch (StateM σ) κ} {container : Value}

/-- Decoding a value adds no failures but its own. -/
theorem within_answer {answer : Answer κ Error Json} (answers : dispatch.Answers answer) :
    (stage.answer answer).Within (fun ticket => dispatch.Answers (.later ticket))
      (stage.FailsBy dispatch container) := by
  match answer, answers with
  | .later _, waits => exact waits
  | .now (.error _), answers => exact .element (.answered answers)
  | .now (.ok v), answers =>
      change (Answer.now ((stage.output.decode v).mapError Error.serialization)).Within _ _
      cases unread : stage.output.decode v with
      | ok y => exact trivial
      | error fault => exact .decode answers unread

theorem within_start {source : (stage.shape.container stage.input).Carrier}
    (holds : container.downcast (.data (stage.shape.container stage.input)) = .ok source)
    {x : stage.input.Carrier} (member : x ∈ stage.shape.elements source) (position : Nat) (s : σ) :
    ((stage.start dispatch x position).run s).1.Within
      (fun ticket => dispatch.Answers (.later ticket)) (stage.FailsBy dispatch container) := by
  rw [run_start]
  cases unwritten : stage.input.encode x with
  | error fault => exact .encode holds member unwritten
  | ok v => exact within_answer (.send position v s)

/-- **A stage fails for one of its reasons.** -/
theorem failsBy_of_run {s : σ} {e : Error}
    (failed : ((stage.run dispatch container).run s).1 = .error e) :
    stage.FailsBy dispatch container e := by
  cases holds : container.downcast (.data (stage.shape.container stage.input)) with
  | error other =>
      rw [run_run, holds] at failed
      cases failed
      exact .downcast holds
  | ok source =>
      have ended : Ended (fun slots _ => Asking.InPlaces (fun _ slot =>
            slot.Within (fun ticket => dispatch.Answers (.later ticket))
              (stage.FailsBy dispatch container)) slots)
          (stage.shape.elements source).zipIdx.length (stage.asking dispatch).Faults _ :=
        Asking.gather_places
          (fun _ pair t here => (within_start holds
            (List.mem_of_getElem? (getElem?_of_zipIdx here).1) pair.2 t).slot)
          (fun _ _ t waits => (within_answer (.ask waits t)).slot) s
      obtain ⟨slots, slot, places, member, gives⟩ := ended.failed (gather_failed holds failed)
      obtain ⟨place, there⟩ := List.getElem?_of_mem member
      have known := places place slot there
      cases slot with
      | done y => exact gives.elim
      | failed e' =>
          obtain rfl : e' = e := gives
          exact known
      | waiting ticket =>
          obtain rfl : dispatch.replies.abandoned ticket = e := gives
          exact .element (.abandoned known)

end ParallelMap

end Conduit
