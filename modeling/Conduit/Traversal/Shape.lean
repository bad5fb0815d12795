import Conduit.Value

/-! # Shapes of collections

The collections whose elements a stage may treat one by one: lists, and options,
which hold one element or none.
-/

namespace Conduit

/-- A kind of collection. -/
inductive Shape where
  | list
  | option
  deriving DecidableEq, Repr

namespace Shape

/-- The name by which a stage tells its kind of collection. -/
def name : Shape → String
  | list => "vec"
  | option => "option"

/-- The type of the collections of a type. -/
def container : Shape → DataType → DataType
  | list, a => .list a
  | option, a => .option a

/-- The elements of a collection, in order. -/
def elements {a : DataType} : (s : Shape) → (s.container a).Carrier → List a.Carrier
  | list, xs => xs
  | option, o => Option.toList o

/-- The collection of the given elements; an option takes the first. -/
def ofElements {a : DataType} : (s : Shape) → List a.Carrier → (s.container a).Carrier
  | list, xs => xs
  | option, xs => xs.head?

/-- A collection is made of its elements. -/
@[simp] theorem ofElements_elements {a : DataType} (s : Shape) (xs : (s.container a).Carrier) :
    s.ofElements (s.elements xs) = xs := by
  cases s with
  | list => rfl
  | option => cases xs <;> rfl

end Shape

end Conduit
