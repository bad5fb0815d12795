import Conduit.DataType.Codec
import Conduit.Deferred
import Conduit.Error
import Conduit.Traced
import Conduit.Traversal.Gather
import Conduit.Traversal.Shape

/-! # Stages that treat elements one by one

A parallel stage takes a collection apart, has every element treated elsewhere, and
puts the outcomes together in the same places. Elements cross the boundary in JSON
form, on the way out and on the way back, wherever they are treated.
-/

namespace Conduit

/-- A call of an element's function, by its argument in JSON. -/
abbrev Call := Json

/-- A stage that treats the elements of a collection. -/
structure ParallelMap where
  shape : Shape
  input : DataType
  output : DataType
  /-- The function of one element, on the host of the given name. -/
  element : (host : String) → input.Carrier → Traced Call (Deferred String output.Carrier)

/-- A way to have elements treated: what happens when the element of a position is
sent out in JSON form, and how it is asked for afterwards. -/
structure Dispatch (m : Type → Type) (κ : Type) where
  send : (position : Nat) → Json → m (Answer κ Error Json)
  replies : Asking m κ Error Json

namespace ParallelMap

variable (stage : ParallelMap)

/-- The name of the stage's kind of collection. -/
def capability : String := stage.shape.name

/-- Treats one element in JSON form on the given host. -/
def callElement (host : String) (v : Json) : Traced Call (Deferred Error Json) :=
  match stage.input.decode v with
  | .error fault => pure (.now (.failed (.serialization fault)))
  | .ok x => do
      let answer ← stage.element host x
      return answer.andThen .raised fun y =>
        (stage.output.encode y).mapError .serialization

/-- The value of an element that came back. -/
def receive (v : Json) : Except Error stage.output.Carrier :=
  (stage.output.decode v).mapError .serialization

/-- An answer with the value that came back decoded. -/
def answer {κ : Type} : Answer κ Error Json → Answer κ Error stage.output.Carrier
  | .now outcome => .now (outcome.bind stage.receive)
  | .later ticket => .later ticket

section Run

variable {m : Type → Type} [Monad m] {κ : Type} (dispatch : Dispatch m κ)

/-- Encodes the element of a position and sends it out. -/
@[specialize] def start (x : stage.input.Carrier) (position : Nat) :
    m (Answer κ Error stage.output.Carrier) :=
  match stage.input.encode x with
  | .error fault => return .now (.error (.serialization fault))
  | .ok v => return stage.answer (← dispatch.send position v)

/-- How the stage asks again for the elements it sent out. -/
@[specialize] def asking : Asking m κ Error stage.output.Carrier :=
  { dispatch.replies with ask := fun ticket => return stage.answer (← dispatch.replies.ask ticket) }

/-- Runs the stage on a collection. -/
@[specialize] def run (container : Value) : m (Except Error Value) := do
  match container.downcast (.data (stage.shape.container stage.input)) with
  | .error e => return .error e
  | .ok source =>
      let outcome ← (stage.asking dispatch).gather
        (fun (x, position) => stage.start dispatch x position)
        (stage.shape.elements source).zipIdx
      return outcome.map fun ys =>
        Value.ofData (a := stage.shape.container stage.output) (stage.shape.ofElements ys)

end Run

end ParallelMap

end Conduit
