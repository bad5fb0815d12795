import Conduit.Demo.Documents
import Conduit.Demo.Options
import Conduit.Demo.Threads
import Conduit.Local
import Conduit.Pipeline.Builder

/-! # The demonstration

A sample pipeline that squares numbers and tells for each square where it was
computed, run on either engine.
-/

namespace Conduit.Demo

/-- A square, and the host that computed it. -/
def Square : DataType := .pair .uint64 .text

/-- The line for a square. -/
def line (label : String) (square : UInt64 × String) : String :=
  s!"{label} {square.1.toNat} computed on {square.2}"

/-- The pipeline that gives the function from squares to lines. -/
def describe : Pipeline :=
  (Pipeline.of ⟨.data .text, "element"⟩).andThen
    (Stage.map (.data .text) (.closure (.data (.list Square)) (.data (.list .text)))
      fun (label : String) => pure fun (squares : List (UInt64 × String)) =>
        squares.map (line label))

/-- The numbers from one on, squared. -/
def squares (size : Nat) : Pipeline :=
  let numbers : List UInt64 := (List.range size).map Nat.toUInt64
  (Pipeline.of ⟨.data (.list .uint64), numbers⟩)
    |>.andThen (Stage.mapEach .list .uint64 .uint64 fun (n : UInt64) => pure (n + 1 : UInt64))
    |>.andThen (Stage.parMap .list .uint64 Square fun host (n : UInt64) => pure (n * n, host))
    |>.andThen (Stage.apClosure (.data (.list Square)) (.data (.list .text)) describe)

/-- The type of the result. -/
def Lines : ValueType := .data (.list .text)

/-- Why there is no result: what was being done, and the failure of it. -/
structure Failure where
  activity : Option String
  error : Error

namespace Failure

/-- The sentences of a failure, the broadest first. -/
def sentences (failure : Failure) : List String :=
  failure.activity.toList ++ failure.error.message :: failure.error.sources

/-- A sentence below the first one; its lines are indented. Several of them are
numbered. -/
def causeText (number : Option Nat) (sentence : String) : String :=
  let indent (first later : String) : String :=
    first ++ ("\n" ++ later).intercalate (sentence.splitOn "\n")
  match number with
  | none => indent "    " "    "
  | some n =>
      let digits := n.repr
      indent ("".pushn ' ' (5 - digits.length) ++ digits ++ ": ") "       "

/-- The report of a failure. -/
def report (failure : Failure) : String :=
  match failure.sentences with
  | [] => "Error: "
  | [first] => "Error: " ++ first
  | [first, cause] => s!"Error: {first}\n\nCaused by:\n" ++ causeText none cause
  | first :: causes =>
      let numbered := causes.zipIdx.map fun (cause, n) => causeText (some n) cause
      s!"Error: {first}\n\nCaused by:\n" ++ "\n".intercalate numbered

end Failure

/-- The lines of a run's result. -/
def linesOf (activity : String) (outcome : Except Error Value) : Except Failure (List String) :=
  (outcome.bind fun v => v.downcast Lines).mapError fun e => ⟨activity, e⟩

/-- The settings of the distributed engine: those of a file, if one is named. -/
def settings (options : Options) (files : String → FileContent) (env : Environment) :
    Except Failure WorkerConfig :=
  match options.configPath with
  | some path =>
      (WorkerConfig.ofFileWithEnvironment path (files path) env).mapError fun fault =>
        ⟨some s!"failed to load {path}", fault.toError⟩
  | none => (WorkerConfig.ofEnvironment env).mapError fun fault => ⟨none, fault.toError⟩

/-- Runs the demonstration, and gives its lines. -/
def run (options : Options) (files : String → FileContent) (env : Environment) :
    Except Failure (List String) :=
  let pipeline := squares options.size
  match options.engine with
  | .singleThread =>
      linesOf "single-thread run failed" ((Local.executeAs Lines pipeline).run #[]).1
  | .distributed => do
      let crew := Coordinator.threadCrew pipeline (← settings options files env)
      linesOf "distributed run failed" ((Coordinator.executeAs crew Lines).run {}).1

end Conduit.Demo
