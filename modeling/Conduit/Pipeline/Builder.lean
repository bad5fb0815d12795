import Conduit.Pipeline.Basic

/-! # Typed stages

Stages made from functions on carriers. Each takes the running value as one of its
input type, and gives one of its output type; a running value of any other type is
a type mismatch.
-/

namespace Conduit

namespace Stage

/-- Applies a function that always gives a result. -/
def map (a b : ValueType) (f : a.Carrier → Traced Call b.Carrier) : Stage :=
  .transform fun v =>
    match v.downcast a with
    | .error e => pure (.error e)
    | .ok x => do return .ok ⟨b, ← f x⟩

/-- Applies a function that may fail with a message. -/
def tryMap (a b : ValueType) (f : a.Carrier → Except String b.Carrier) : Stage :=
  .transform fun v => pure do
    let x ← v.downcast a
    match f x with
    | .ok y => return ⟨b, y⟩
    | .error message => throw (.raised message)

/-- Applies the function that the inner pipeline gives, a value of type `f` that
`call` knows how to use. The function is taken out before its argument. -/
def ap (f a b : ValueType) (call : f.Carrier → a.Carrier → b.Carrier) (inner : Pipeline) : Stage :=
  .apply inner fun function argument => pure do
    let g ← function.downcast f
    let x ← argument.downcast a
    return ⟨b, call g x⟩

/-- Applies a closure. -/
def apClosure (a b : ValueType) (inner : Pipeline) : Stage := ap (.closure a b) a b id inner

/-- Applies a plain function. -/
def apFunction (a b : DataType) (inner : Pipeline) : Stage :=
  ap (.function a b) (.data a) (.data b) id inner

/-- Applies a function to every element of a collection, without sending the
elements anywhere. -/
def mapEach (shape : Shape) (a b : DataType) (f : a.Carrier → Traced Call b.Carrier) : Stage :=
  map (.data (shape.container a)) (.data (shape.container b)) fun xs => do
    return shape.ofElements (← (shape.elements xs).mapM f)

/-- Has every element of a collection treated by a function that may take its time
and may fail. -/
def parMapDeferred (shape : Shape) (a b : DataType)
    (f : (host : String) → a.Carrier → Traced Call (Deferred String b.Carrier)) : Stage :=
  .parallelMap ⟨shape, a, b, f⟩

/-- Has every element of a collection treated by a function that may fail. -/
def tryParMap (shape : Shape) (a b : DataType)
    (f : (host : String) → a.Carrier → Traced Call (Except String b.Carrier)) : Stage :=
  parMapDeferred shape a b fun host x => do return .now (.ofExcept (← f host x))

/-- Has every element of a collection treated by a function that always gives a
result. -/
def parMap (shape : Shape) (a b : DataType)
    (f : (host : String) → a.Carrier → Traced Call b.Carrier) : Stage :=
  tryParMap shape a b fun host x => do return .ok (← f host x)

end Stage

end Conduit
