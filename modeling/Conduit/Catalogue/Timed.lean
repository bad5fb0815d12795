import Conduit.Traced
import Conduit.Traversal.Gather
import Conduit.Traversal.Shape

/-! # Elements with a clock

Elements that are waited for a given number of turns and then give a number or a
message. Their gathering is written down: when each one starts, and when it ends.
-/

namespace Conduit.Catalogue

/-- An element with its number of turns and its outcome. -/
structure Timed where
  label : Int
  turns : Nat
  outcome : Except String Int64

namespace Timed

/-- What happens to an element. -/
inductive Event where
  | started (label : Int)
  | ended (label : Int)
  deriving DecidableEq

/-- The number that an element gives; zero for one that gives a message. -/
def number (x : Timed) : Int64 :=
  match x.outcome with
  | .ok n => n
  | .error _ => 0

/-- An element one turn later: it ends when no turns are left. -/
def poll (x : Timed) : Recorder Event (Answer Timed String Int64) := do
  match x.turns with
  | 0 =>
      modify (·.push (.ended x.label))
      return .now (x.outcome.map (· + 1))
  | turns + 1 => return .later { x with turns := turns }

/-- How elements are asked for again. -/
def asking : Asking (Recorder Event) Timed String Int64 where
  ask := poll
  wake := pure ()
  patience xs := pure ((xs.map Timed.turns).foldl max 0 + 1)
  abandoned x := s!"element {x.turns} turns early"

/-- Starts all elements and then gathers what they give. -/
def gather (xs : List Timed) : Recorder Event (Except String (List Int64)) := do
  for x in xs do
    modify (·.push (.started x.label))
  asking.gather poll xs

end Timed

end Conduit.Catalogue
