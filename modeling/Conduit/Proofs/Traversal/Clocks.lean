import Conduit.Catalogue.Timed
import Conduit.Local
import Conduit.Proofs.Traversal.Fates
import Conduit.Proofs.Traversal.Stages

/-! # Elements that take their time

The in-process engine waits for the elements of a stage one turn of each per round, so that
their work decides how the stage ends, as elements with a clock decide how a traversal ends
(`Conduit.traversal_ends_by_fates`). Which failure is reported depends on the size of the
collection: more than thirty elements are waited for in the order of their places, and a
failure that comes sooner in a later place is not the one reported
(`Conduit.Catalogue.Timed.soonest_failure_hidden`).
-/

namespace Conduit

/-- The patience for tickets with clocks lasts for each of them. -/
theorem turns_lt_patience {κ : Type} (turns : κ → Nat) {tickets : List κ} {ticket : κ}
    (member : ticket ∈ tickets) : turns ticket < (tickets.map turns).foldl max 0 + 1 := by
  rw [List.foldl_max, Nat.zero_max]
  exact Nat.lt_succ_of_le (List.le_max?_getD_of_mem (List.mem_map_of_mem member))

/-- Gathering elements whose fates are known ends by these fates, with the rounds counted. -/
theorem Asking.Punctual.gather_endsBy {σ κ ε α β : Type} {asking : Asking (StateM σ) κ ε β}
    {fateOf : κ → Fate ε β} (punctual : asking.Punctual fateOf)
    {start : α → StateM σ (Answer κ ε β)} {fate : α → Fate ε β} {xs : List α}
    (starts : ∀ x ∈ xs, ∀ s, (fate x).Answers fateOf ((start x).run s).1) (s : σ) :
    ∃ rounds, (asking.counted.gather (fun x => counting (start x)) xs).run (s, 0) =
        (((asking.gather start xs).run s).1, ((asking.gather start xs).run s).2, rounds) ∧
      EndsBy (xs.map fate) ((asking.gather start xs).run s).1 rounds := by
  obtain ⟨rounds, counted⟩ := asking.run_gather_counted start xs s
  have ends := punctual.gather_ends starts s
  rw [counted, ← List.length_map fate] at ends
  exact ⟨rounds, counted, ends.endsBy⟩

section Treated

variable {σ κ : Type} {dispatch : Dispatch (StateM σ) κ}
  {fates : (position : Nat) → Json → Fate Error Json} {fateOf : κ → Fate Error Json}

/-- Whatever the shared state, the elements that are sent out are answered as `fates` has it. -/
structure Dispatch.Treats (dispatch : Dispatch (StateM σ) κ)
    (fates : (position : Nat) → Json → Fate Error Json) (fateOf : κ → Fate Error Json) : Prop where
  sends : ∀ position v s, (fates position v).Answers fateOf ((dispatch.send position v).run s).1
  replies : dispatch.replies.Punctual fateOf

namespace ParallelMap

variable (stage : ParallelMap)

/-- The fate of an element whose value is decoded when it comes back. -/
def received (fate : Fate Error Json) : Fate Error stage.output.Carrier :=
  ⟨fate.turns, fate.outcome.bind stage.receive⟩

/-- What becomes of an element, by what becomes of those that are sent out. -/
def fateBy (fates : (position : Nat) → Json → Fate Error Json) :
    stage.input.Carrier × Nat → Fate Error stage.output.Carrier
  | (x, position) =>
      match stage.input.encode x with
      | .error fault => ⟨0, .error (.serialization fault)⟩
      | .ok v => stage.received (fates position v)

variable {stage}

theorem received_answers {fate : Fate Error Json} {answer : Answer κ Error Json}
    (answers : fate.Answers fateOf answer) :
    (stage.received fate).Answers (fun ticket => stage.received (fateOf ticket))
      (stage.answer answer) := by
  cases answers with
  | now outcome => exact .now _
  | later ticket => exact .later ticket

/-- Elements whose answers come in their turn are asked for as their fates have it. -/
theorem asking_punctual (treats : dispatch.Treats fates fateOf) :
    (stage.asking dispatch).Punctual fun ticket => stage.received (fateOf ticket) where
  asks ticket s := received_answers (treats.replies.asks ticket s)
  patient tickets s := treats.replies.patient tickets s

/-- An element is started as its fate has it. -/
theorem start_answers (treats : dispatch.Treats fates fateOf)
    (element : stage.input.Carrier × Nat) (s : σ) :
    (stage.fateBy fates element).Answers (fun ticket => stage.received (fateOf ticket))
      ((stage.start dispatch element.1 element.2).run s).1 := by
  obtain ⟨x, position⟩ := element
  rw [run_start, fateBy]
  cases stage.input.encode x with
  | error fault => exact .now _
  | ok v => exact received_answers (treats.sends position v s)

end ParallelMap

end Treated

namespace Local

variable (stage : ParallelMap)

/-- What becomes of an element whose work is under way. -/
def fateOf (d : Deferred Error Json) : Fate Error stage.output.Carrier :=
  ⟨d.turns, (outcomeOf d.ending).bind stage.receive⟩

/-- What becomes of an element of the stage. -/
def fate : stage.input.Carrier × Nat → Fate Error stage.output.Carrier
  | (x, _) =>
      match stage.input.encode x with
      | .error fault => ⟨0, .error (.serialization fault)⟩
      | .ok v => fateOf stage (stage.callElement host v).result

/-- What becomes of the work on an element. -/
def workFate (d : Deferred Error Json) : Fate Error Json := ⟨d.turns, outcomeOf d.ending⟩

theorem answers (d : Deferred Error Json) : (workFate d).Answers workFate (answerOf d) := by
  obtain ⟨turns, ending⟩ := d
  cases turns with
  | zero => exact .now _
  | succ turns => exact .later (Deferred.mk turns ending)

/-- Elements whose work is under way are answered in their turn. -/
theorem treats : (dispatch (m := Recorder Call) stage).Treats
    (fun _ v => workFate (stage.callElement host v).result) workFate where
  sends _ v _ := answers (stage.callElement host v).result
  replies := {
    asks := fun d _ => answers d
    patient := fun _ _ _ member => turns_lt_patience Deferred.turns member }

variable {stage}

/-- The stage asks for elements whose work is under way in their turn. -/
theorem punctual :
    (stage.asking (dispatch (m := Recorder Call) stage)).Punctual (fateOf stage) :=
  ParallelMap.asking_punctual (treats stage)

/-- An element is started as its fate has it. -/
theorem start_answers (x : stage.input.Carrier) (position : Nat) (calls : Array Call) :
    (fate stage (x, position)).Answers (fateOf stage)
      ((stage.start (dispatch (m := Recorder Call) stage) x position).run calls).1 :=
  ParallelMap.start_answers (treats stage) (x, position) calls

end Local

namespace Catalogue.Timed

/-- What becomes of an element with a clock. -/
def fate (x : Timed) : Fate String Int64 := ⟨x.turns, x.outcome.map (· + 1)⟩

theorem poll_answers (x : Timed) (log : Array Event) :
    (fate x).Answers fate ((poll x).run log).1 := by
  obtain ⟨label, turns, outcome⟩ := x
  cases turns with
  | zero => exact .now _
  | succ turns => exact .later (Timed.mk label turns outcome)

theorem punctual : asking.Punctual fate where
  asks := poll_answers
  patient _ _ _ member := turns_lt_patience Timed.turns member

/-- Two elements: the second fails at once, and the first fails one turn later. -/
def lateAndEarly : List Timed := [⟨0, 1, .error "late"⟩, ⟨1, 0, .error "early"⟩]

end Catalogue.Timed

/-- **A traversal ends by the fates of its elements.** Let every element be waited for during
some number of turns and then have its outcome, whatever the others do. Without a failure
there are all values; a small collection fails with the failure that comes soonest, and after
just its turns; a large one fails with the failure in the foremost place, after the turns of
all elements up to it. So the failure that comes soonest ends a traversal in its turn just
when the collection is small or nobody before it takes longer. A stage of the in-process
engine puts together what such a traversal gives. -/
theorem traversal_ends_by_fates {σ κ ε α β : Type} {asking : Asking (StateM σ) κ ε β}
    {fateOf : κ → Fate ε β} {start : α → StateM σ (Answer κ ε β)} {fate : α → Fate ε β}
    (punctual : asking.Punctual fateOf) (xs : List α)
    (starts : ∀ x ∈ xs, ∀ s, (fate x).Answers fateOf ((start x).run s).1) (s : σ)
    (stage : ParallelMap) {container : Value}
    {source : (stage.shape.container stage.input).Carrier}
    (holds : container.downcast (.data (stage.shape.container stage.input)) = .ok source)
    (calls : Array Call) :
    (∃ rounds,
      (asking.counted.gather (fun x => counting (start x)) xs).run (s, 0) =
          (((asking.gather start xs).run s).1, ((asking.gather start xs).run s).2, rounds) ∧
        EndsBy (xs.map fate) ((asking.gather start xs).run s).1 rounds ∧
        (FailsSoonest (xs.map fate) ((asking.gather start xs).run s).1 rounds ↔
          xs.length ≤ eagerLimit ∨ Unhindered (xs.map fate))) ∧
      ∃ outcome calls' rounds,
        ((stage.asking (Local.dispatch stage)).counted.gather
            (fun (x, position) => counting (stage.start (Local.dispatch stage) x position))
            (stage.shape.elements source).zipIdx).run (calls, 0) =
          (outcome, calls', rounds) ∧
        (stage.run (Local.dispatch (m := Recorder Call) stage) container).run calls =
          (outcome.map stage.assemble, calls') ∧
        EndsBy ((stage.shape.elements source).zipIdx.map (Local.fate stage)) outcome rounds ∧
        (FailsSoonest ((stage.shape.elements source).zipIdx.map (Local.fate stage)) outcome
            rounds ↔
          (stage.shape.elements source).length ≤ eagerLimit ∨
            Unhindered ((stage.shape.elements source).zipIdx.map (Local.fate stage))) := by
  constructor
  · obtain ⟨rounds, counted, ends⟩ := punctual.gather_endsBy starts s
    have meets := ends.failsSoonest_iff
    rw [List.length_map] at meets
    exact ⟨rounds, counted, ends, meets⟩
  · have starts : ∀ x ∈ (stage.shape.elements source).zipIdx, ∀ calls,
        (Local.fate stage x).Answers (Local.fateOf stage)
          ((stage.start (Local.dispatch (m := Recorder Call) stage) x.1 x.2).run calls).1 :=
      fun (x, position) _ calls => Local.start_answers x position calls
    obtain ⟨rounds, counted, ends⟩ := Local.punctual.gather_endsBy starts calls
    have meets := ends.failsSoonest_iff
    rw [List.length_map, List.length_zipIdx] at meets
    refine ⟨_, _, rounds, counted, ?_, ends, meets⟩
    rw [ParallelMap.run_run, holds]
    rfl

/-- A stage that fails on all elements, and on `true` one turn later. -/
def failingStage : ParallelMap where
  shape := .list
  input := .bool
  output := .bool
  element _ late := pure (match (late : Bool) with
    | true => ⟨1, .failed "late"⟩
    | false => ⟨0, .failed "early"⟩)

open Catalogue Timed in
/-- The early failure ends both traversals, in its turn. -/
theorem traversal_ends_by_fates_lateAndEarly :
    (∃ rounds, (asking.counted.gather (fun x => counting (poll x)) lateAndEarly).run (#[], 0) =
          (.error "early", #[.ended 1], rounds) ∧
        FailsSoonest (lateAndEarly.map fate) (.error "early") rounds) ∧
      ∃ outcome calls rounds,
        ((failingStage.asking (Local.dispatch failingStage)).counted.gather
            (fun (x, position) =>
              counting (failingStage.start (Local.dispatch failingStage) x position))
            [(true, 0), (false, 1)]).run (#[], 0) = (outcome, calls, rounds) ∧
        (failingStage.run (Local.dispatch (m := Recorder Call) failingStage)
            (.ofData (a := .list .bool) [true, false])).run #[] =
          (outcome.map failingStage.assemble, calls) ∧
        FailsSoonest [⟨1, .error (.raised "late")⟩, ⟨0, .error (.raised "early")⟩] outcome
          rounds := by
  obtain ⟨⟨rounds, counted, -, meets⟩, outcome, calls, rounds', counted', runs, -, meets'⟩ :=
    traversal_ends_by_fates punctual lateAndEarly (fun x _ => poll_answers x) #[] failingStage
      (Value.downcast_self (.data (.list .bool)) [true, false]) #[]
  exact ⟨⟨rounds, counted, meets.mpr (.inl (by decide))⟩, outcome, calls, rounds', counted',
    runs, meets'.mpr (.inl (by decide))⟩

namespace Catalogue.Timed

/-- Thirty-one elements, of which the first two fail. -/
def manyLateAndEarly : List Timed := lateAndEarly ++ List.replicate 29 ⟨2, 0, .ok 0⟩

/-- The failure that comes soonest is not always the one that a traversal reports. -/
theorem soonest_failure_hidden :
    ¬ ∀ (xs : List Timed) (log : Array Event) (position : Nat) (x : Timed) (e : String),
      xs[position]? = some x → x.outcome = .error e →
      (∀ (place : Nat) (other : Timed) (e' : String), xs[place]? = some other →
        other.outcome = .error e' →
          x.turns < other.turns ∨ x.turns = other.turns ∧ position ≤ place) →
      ((gather xs).run log).1 = .error e := by
  intro soonest
  have early := soonest manyLateAndEarly #[] 1 ⟨1, 0, .error "early"⟩ "early" rfl rfl ?_
  · have late : ((gather manyLateAndEarly).run #[]).1 = .error "late" := rfl
    rw [late] at early
    exact absurd early (by decide)
  · intro place other e' there fails
    match place with
    | 0 => cases there; exact .inl Nat.zero_lt_one
    | 1 => cases there; exact .inr ⟨rfl, Nat.le_refl 1⟩
    | place + 2 =>
        obtain rfl : other = ⟨2, 0, .ok 0⟩ :=
          List.eq_of_mem_replicate (List.mem_of_getElem? there)
        cases fails

end Catalogue.Timed

end Conduit
