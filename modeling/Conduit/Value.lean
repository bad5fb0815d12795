import Conduit.DataType

/-! # Values that know their type

The running value of a pipeline is a value together with its type. Two types are
the same only if they are identical; nothing is converted on the way.
-/

namespace Conduit

/-- The type of a running value: data, or a function. -/
inductive ValueType where
  | data (a : DataType)
  /-- A plain function on data. -/
  | function (a b : DataType)
  /-- A function that may hold values of its own; its result may be one again. -/
  | closure (a b : ValueType)
  deriving DecidableEq, Inhabited

namespace ValueType

/-- The name that type errors show. -/
def name : ValueType → String
  | data a => a.name
  | function a b => s!"fn({a.name}) -> {b.name}"
  | closure a b =>
      s!"alloc::boxed::Box<dyn core::ops::function::Fn({a.name}) -> {b.name} + core::marker::Send>"

/-- The values of the type. -/
def Carrier : ValueType → Type
  | data a => a.Carrier
  | function a b => a.Carrier → b.Carrier
  | closure a b => a.Carrier → b.Carrier

end ValueType

/-- A value with its type. -/
structure Value where
  type : ValueType
  datum : type.Carrier

namespace Value

/-- A piece of data as a value. -/
def ofData {a : DataType} (x : a.Carrier) : Value := ⟨.data a, x⟩

/-- The value as one of the wanted type, if that is its type. -/
def as? (v : Value) (wanted : ValueType) : Option wanted.Carrier :=
  if h : v.type = wanted then some (h ▸ v.datum) else none

@[simp] theorem as?_self (a : ValueType) (x : a.Carrier) : (Value.mk a x).as? a = some x := by
  simp [as?]

end Value

end Conduit
