import Conduit.Decimal.Layout
import Conduit.Machine.Trampoline

/-! # Walks along the integers

A walk adds up the numbers it passes, in steps of one length, until it has reached a
limit or stands at a number where it must stop. It shows a repeated step at work, and
counts how often the step was taken.
-/

namespace Conduit.Catalogue

/-- A walk. -/
structure Walk where
  stride : Int
  limit : Int
  stopAt : Option Int

namespace Walk

/-- How a walk fails. -/
inductive Fault where
  | stopped (at_ : Int)
  /-- The walk comes no nearer to any of its ends. -/
  | endless
  deriving DecidableEq

/-- The sentence that reports a fault. -/
def Fault.message : Fault → String
  | stopped at_ => s!"stopped at {String.ofList (Decimal.integerText at_)}"
  | endless => "the walk has no end"

/-- Where a walk stands, and the sum of the numbers it has passed. -/
structure State where
  place : Int
  sum : Int64

variable (walk : Walk)

/-- The distance to the end that the walk heads for. -/
def distance (s : State) : Nat :=
  if 0 < walk.stride then (walk.limit - s.place).toNat
  else ((walk.stopAt.map (s.place - ·)).getD 0).toNat

/-- Takes one step and counts it. -/
def step (s : State) :
    StateM Nat (Except Fault (Step {t : State // walk.distance t < walk.distance s} Int64)) := do
  modify (· + 1)
  if walk.stopAt = some s.place then return .error (.stopped s.place)
  else if walk.limit ≤ s.place then return .ok (.done s.sum)
  else
    let t : State := ⟨s.place + walk.stride, s.sum + Int64.ofInt s.place⟩
    if nearer : walk.distance t < walk.distance s then return .ok (.next ⟨t, nearer⟩)
    else return .error .endless

/-- Walks from a place; gives the sum or the fault, and the number of steps. -/
def run (start : Int) : Except Fault Int64 × Nat :=
  (trampoline walk.distance walk.step ⟨start, 0⟩).run 0

end Walk

end Conduit.Catalogue
