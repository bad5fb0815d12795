import Conduit.Local
import Conduit.Proofs.Traversal.Order

/-! # The way of an element

An element is encoded, brought to where it is treated, decoded there, given to its function, and
its value goes the same way back. The way can end at each of these points, and the function has
been called just when it ends behind the call (`Conduit.Passage.fares`). An engine is told by how
elements and values get across (`Conduit.Passage`).
-/

namespace Conduit

/-- How elements are brought to where they are treated, and what comes back of them. -/
structure Passage where
  /-- The name of the thread that treats the element of a position. -/
  host : (position : Nat) → String
  /-- The element as it arrives there. -/
  arrive : Json → Except Error Json
  /-- The value as it comes back. -/
  back : Json → Except Error Json
  /-- A failure as the run learns of it. -/
  cross : Error → Error
  /-- The failure of an element whose thread ended with it. -/
  lost : (position : Nat) → Error

namespace Passage

variable (passage : Passage) (stage : ParallelMap)

/-- What the run learns from the ending of an element's work. -/
def home (position : Nat) : Ending Error Json → Except Error Json
  | .returned w => passage.back w
  | .failed e => .error (passage.cross e)
  | .lost => .error (passage.lost position)

/-- What becomes of the element of a position, by its JSON form. -/
def treat (position : Nat) (v : Json) : Except Error Json :=
  match passage.arrive v with
  | .error e => .error (passage.cross e)
  | .ok v' => passage.home position (stage.callElement (passage.host position) v').result.ending

/-- The argument that the function of the element is called with, if it is called. -/
def argument? (x : stage.input.Carrier) : Option stage.input.Carrier :=
  match stage.input.encode x with
  | .error _ => none
  | .ok v =>
      match passage.arrive v with
      | .error _ => none
      | .ok v' => (stage.input.decode v').toOption

/-- What the function of the element of a position reports, if it is called. -/
def reports (element : stage.input.Carrier × Nat) : List Call :=
  match passage.argument? stage element.1 with
  | none => []
  | some x => (stage.element (passage.host element.2) x).events

/-- The function is called with `x'` for the element `x`. -/
def Calls (x x' : stage.input.Carrier) : Prop :=
  ∃ v v', stage.input.encode x = .ok v ∧ passage.arrive v = .ok v' ∧ stage.input.decode v' = .ok x'

/-- How the element of a position fares: the argument that its function is called with, if it is,
and its outcome. -/
inductive Fares (position : Nat) (x : stage.input.Carrier) :
    Option stage.input.Carrier → Except Error stage.output.Carrier → Prop
  | unencoded {fault : Json.Fault} (encodes : stage.input.encode x = .error fault) :
      Fares position x none (.error (.serialization fault))
  | unread {v : Json} {e : Error} (encodes : stage.input.encode x = .ok v)
      (arrives : passage.arrive v = .error e) : Fares position x none (.error (passage.cross e))
  | undecoded {v v' : Json} {fault : Json.Fault} (encodes : stage.input.encode x = .ok v)
      (arrives : passage.arrive v = .ok v') (decodes : stage.input.decode v' = .error fault) :
      Fares position x none (.error (passage.cross (.serialization fault)))
  | raised {x' : stage.input.Carrier} {message : String} (calls : passage.Calls stage x x')
      (ends : (stage.element (passage.host position) x').result.ending = .failed message) :
      Fares position x (some x') (.error (passage.cross (.raised message)))
  | lost {x' : stage.input.Carrier} (calls : passage.Calls stage x x')
      (ends : (stage.element (passage.host position) x').result.ending = .lost) :
      Fares position x (some x') (.error (passage.lost position))
  | unencodedOutput {x' : stage.input.Carrier} {y : stage.output.Carrier} {fault : Json.Fault}
      (calls : passage.Calls stage x x')
      (ends : (stage.element (passage.host position) x').result.ending = .returned y)
      (encodes : stage.output.encode y = .error fault) :
      Fares position x (some x') (.error (passage.cross (.serialization fault)))
  | unreturned {x' : stage.input.Carrier} {y : stage.output.Carrier} {w : Json} {e : Error}
      (calls : passage.Calls stage x x')
      (ends : (stage.element (passage.host position) x').result.ending = .returned y)
      (encodes : stage.output.encode y = .ok w) (returns : passage.back w = .error e) :
      Fares position x (some x') (.error e)
  | undecodedOutput {x' : stage.input.Carrier} {y : stage.output.Carrier} {w w' : Json}
      {fault : Json.Fault} (calls : passage.Calls stage x x')
      (ends : (stage.element (passage.host position) x').result.ending = .returned y)
      (encodes : stage.output.encode y = .ok w) (returns : passage.back w = .ok w')
      (decodes : stage.output.decode w' = .error fault) :
      Fares position x (some x') (.error (.serialization fault))
  | delivered {x' : stage.input.Carrier} {y z : stage.output.Carrier} {w w' : Json}
      (calls : passage.Calls stage x x')
      (ends : (stage.element (passage.host position) x').result.ending = .returned y)
      (encodes : stage.output.encode y = .ok w) (returns : passage.back w = .ok w')
      (decodes : stage.output.decode w' = .ok z) : Fares position x (some x') (.ok z)

variable {passage stage}

/-- An element whose function is called fares as its ending has it. -/
theorem fares_of_calls {position : Nat} {x x' : stage.input.Carrier}
    (calls : passage.Calls stage x x') :
    passage.Fares stage position x (some x')
      ((passage.home position ((stage.element (passage.host position) x').result.andThen .raised
        fun y => (stage.output.encode y).mapError .serialization).ending).bind stage.receive) := by
  change passage.Fares stage position x (some x') ((passage.home position
    ((stage.element (passage.host position) x').result.ending.andThen .raised
      fun y => (stage.output.encode y).mapError .serialization)).bind stage.receive)
  cases ends : (stage.element (passage.host position) x').result.ending with
  | failed message => exact .raised calls ends
  | lost => exact .lost calls ends
  | returned y =>
      dsimp only [Ending.andThen]
      cases encodes : stage.output.encode y with
      | error fault => exact .unencodedOutput calls ends encodes
      | ok w =>
          change passage.Fares stage position x (some x') ((passage.back w).bind stage.receive)
          cases returns : passage.back w with
          | error e => exact .unreturned calls ends encodes returns
          | ok w' =>
              change passage.Fares stage position x (some x')
                ((stage.output.decode w').mapError .serialization)
              cases decodes : stage.output.decode w' with
              | error fault => exact .undecodedOutput calls ends encodes returns decodes
              | ok z => exact .delivered calls ends encodes returns decodes

/-- **Every element fares in one of these ways.** -/
theorem fares (passage : Passage) (stage : ParallelMap) (x : stage.input.Carrier)
    (position : Nat) :
    passage.Fares stage position x (passage.argument? stage x)
      (stage.elementOutcome (passage.treat stage) (x, position)) := by
  rw [argument?, ParallelMap.elementOutcome]
  cases encodes : stage.input.encode x with
  | error fault => exact .unencoded encodes
  | ok v =>
      dsimp only
      rw [treat]
      cases arrives : passage.arrive v with
      | error e => exact .unread encodes arrives
      | ok v' =>
          dsimp only
          rw [ParallelMap.callElement]
          cases decodes : stage.input.decode v' with
          | error fault => exact .undecoded encodes arrives decodes
          | ok x' => exact fares_of_calls ⟨v, v', encodes, arrives, decodes⟩

theorem argument?_of_arrives {x : stage.input.Carrier} {v v' : Json}
    (encodes : stage.input.encode x = .ok v) (arrives : passage.arrive v = .ok v') :
    passage.argument? stage x = (stage.input.decode v').toOption := by
  rw [argument?, encodes]
  dsimp only
  rw [arrives]

/-- The work on an element that arrives reports what its function does. -/
theorem events_callElement {x : stage.input.Carrier} {v v' : Json}
    (encodes : stage.input.encode x = .ok v) (arrives : passage.arrive v = .ok v')
    (position : Nat) :
    (stage.callElement (passage.host position) v').events =
      passage.reports stage (x, position) := by
  rw [reports, argument?_of_arrives encodes arrives, ParallelMap.callElement]
  cases stage.input.decode v' with
  | error fault => rfl
  | ok x' => exact List.append_nil _

theorem reports_of_unencoded {x : stage.input.Carrier} {fault : Json.Fault}
    (encodes : stage.input.encode x = .error fault) (position : Nat) :
    passage.reports stage (x, position) = [] := by
  rw [reports, argument?, encodes]

theorem reports_of_unread {x : stage.input.Carrier} {v : Json} {e : Error}
    (encodes : stage.input.encode x = .ok v) (arrives : passage.arrive v = .error e)
    (position : Nat) : passage.reports stage (x, position) = [] := by
  rw [reports, argument?, encodes]
  dsimp only
  rw [arrives]

/-- What a run has done that works through its elements in order: it has taken up as many of them
as it reached, sent out those with a JSON form, and has had the reports of the functions that
were called, all of it in the order of the positions. -/
structure InTurn (passage : Passage) (stage : ParallelMap) (xs : List stage.input.Carrier)
    (reached : Nat) (outcome : Except Error (List stage.output.Carrier)) (record : List Handling)
    (reported : List Call) : Prop where
  fares : ∀ position x, xs[position]? = some x →
    passage.Fares stage position x (passage.argument? stage x)
      (stage.elementOutcome (passage.treat stage) (x, position))
  ends : EndsInTurn (stage.elementOutcome (passage.treat stage)) xs reached outcome
  handled : record = (xs.zipIdx.take reached).flatMap (stage.handlings (passage.treat stage))
  calls : reported = (xs.zipIdx.take reached).flatMap (passage.reports stage)

end Passage

/-- The function of an element has its answer at its first turn, whatever the host. -/
def ParallelMap.Synchronous (stage : ParallelMap) : Prop :=
  ∀ host x, (stage.element host x).result.turns = 0

theorem ParallelMap.Synchronous.callElement_turns {stage : ParallelMap}
    (synchronous : stage.Synchronous) (host : String) (v : Json) :
    (stage.callElement host v).result.turns = 0 := by
  unfold callElement
  cases stage.input.decode v with
  | error fault => rfl
  | ok x => exact synchronous host x

namespace Local

/-- In the run's own thread elements and values are as they were. -/
def passage : Passage where
  host _ := host
  arrive := .ok
  back := .ok
  cross := id
  lost _ := .workerExited s!"{host} terminated without replying"

theorem treat_passage (stage : ParallelMap) :
    passage.treat stage = fun _ v => outcomeOf (stage.callElement host v).result.ending := by
  funext position v
  change passage.home position (stage.callElement host v).result.ending = _
  cases (stage.callElement host v).result.ending <;> rfl

variable {stage : ParallelMap}

/-- In the run's own thread, elements whose functions answer at once are answered at once. -/
theorem promptDispatch (synchronous : stage.Synchronous) :
    ParallelMap.PromptDispatch (dispatch stage : Dispatch (Recorder Call) _) (fun _ => True)
      fun _ v => outcomeOf (stage.callElement host v).result.ending where
  sends position v log _ := by
    change answerOf (stage.callElement host v).result = _
    rw [answerOf, synchronous.callElement_turns]
  keeps _ _ _ _ _ _ := trivial
  patient _ := rfl

/-- An element that is started in the run's own thread leaves the reports of its function. -/
theorem calls_start (x : stage.input.Carrier) (position : Nat) (calls : Array Call) :
    ((stage.start (dispatch stage : Dispatch (Recorder Call) _) x position).run calls).2.toList =
      calls.toList ++ passage.reports stage (x, position) := by
  rw [ParallelMap.run_start]
  cases encodes : stage.input.encode x with
  | error fault => rw [Passage.reports_of_unencoded encodes, List.append_nil]
  | ok v =>
      change ((stage.callElement host v).events.foldl Array.push calls).toList = _
      have arrives : passage.arrive v = .ok v := rfl
      rw [← Passage.events_callElement encodes arrives position]
      simp [passage]

/-- In the run's own thread a stage works through its elements in order. -/
theorem runs_in_turn (synchronous : stage.Synchronous)
    (source : (stage.shape.container stage.input).Carrier) (calls : Array Call) :
    ∃ reached outcome record reported calls',
      passage.InTurn stage (stage.shape.elements source) reached outcome record reported ∧
        (stage.run (dispatch stage : Dispatch (Recorder Call) _) (.ofData source)).run calls =
          (outcome.map stage.assemble, calls') ∧
        (stage.runRecorded (dispatch (m := Recorder Call) stage) (.ofData source)).run
            (calls, []) = (outcome.map stage.assemble, calls', record) ∧
        calls'.toList = calls.toList ++ reported := by
  obtain ⟨reached, outcome, calls', ends, records, observes⟩ :=
    ParallelMap.runRecorded_prompt (promptDispatch synchronous) stage source (s := calls) trivial
  have runs := stage.run_runRecorded (dispatch (m := Recorder Call) stage) (.ofData source) calls []
  rw [← treat_passage] at ends records
  rw [records] at runs
  exact ⟨reached, outcome, _, _, calls',
    ⟨fun position x _ => Passage.fares _ stage x position, ends, rfl, rfl⟩, runs, records,
    observes Array.toList _ fun x position calls _ => calls_start x position calls⟩

end Local

end Conduit
