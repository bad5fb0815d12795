import Conduit.Local
import Conduit.Machine.History

/-! # Rehearsals

Runs in one thread in which the answers for some positions are given in advance.
What is sent out is written down, stage by stage.
-/

namespace Conduit.Rehearsal

/-- What a parallel stage sent out. -/
structure Sending where
  path : StagePath
  capability : String
  /-- The positions and the elements in JSON form, in the order in which they went. -/
  elements : Array (Nat × Json)

/-- What has been written down. -/
structure Log where
  calls : Array Call
  sendings : Array Sending

/-- Nothing written down. -/
def Log.empty : Log := ⟨#[], #[]⟩

/-- A rehearsal: a computation that writes things down. -/
abbrev Rehearsing := StateM Log

instance : MonadLift (Traced Call) Rehearsing where
  monadLift t := fun log => (t.result, { log with calls := t.events.foldl Array.push log.calls })

/-- The answers that are given in advance, by position. -/
abbrev Answers := List (Nat × Except Error Json)

/-- Adds an element to the newest entry. -/
def Log.noteElement (log : Log) (position : Nat) (v : Json) : Log :=
  { log with
    sendings := log.sendings.modify (log.sendings.size - 1) fun sending =>
      { sending with elements := sending.elements.push (position, v) } }

/-- Treats elements in the thread of the rehearsal, apart from those whose answer is
given. -/
def dispatch (answers : Answers) (stage : ParallelMap) :
    Dispatch Rehearsing (Deferred Error Json) where
  send position v := do
    modify fun log => log.noteElement position v
    match answers.lookup position with
    | some outcome => return .now outcome
    | none => (Local.dispatch stage).send position v
  replies := Local.replies

/-- Carries out parallel stages and writes down what they send out. -/
def fanOut (answers : Answers) : FanOut Rehearsing := fun path stage container => do
  modify fun log => { log with sendings := log.sendings.push ⟨path, stage.capability, #[]⟩ }
  stage.run (dispatch answers stage) container

/-- Watches a run. -/
def watch (answers : Answers) (limit : Nat) (s : ControlState) :
    (List ControlState × RunEnd) × Log :=
  (s.history (fanOut answers) limit).run .empty

end Conduit.Rehearsal
