import Conduit.Text.Numeral

/-! # The command line of the demonstration

Options are written long or short, with their value behind an equals sign or as the
next argument. Short options may stand together behind one hyphen; all but the last
of them have no value. Each option may be given once, and nothing else may be given.
-/

namespace Conduit.Demo

/-- The engines that the demonstration runs on. -/
inductive Engine where
  | singleThread
  | distributed
  deriving DecidableEq, Repr

/-- The engine of a name. -/
def Engine.ofName? : String → Option Engine
  | "single-thread" => some singleThread
  | "distributed" => some distributed
  | _ => none

/-- The options of the command line. -/
inductive Flag where
  | engine
  | config
  | size
  | verbose
  deriving DecidableEq, Repr

namespace Flag

/-- The option of a long name. -/
def ofLong? : String → Option Flag
  | "engine" => some engine
  | "config" => some config
  | "size" => some size
  | "verbose" => some verbose
  | _ => none

/-- The option of a short name. -/
def ofShort? : Char → Option Flag
  | 'e' => some engine
  | 'c' => some config
  | 's' => some size
  | 'v' => some verbose
  | _ => none

/-- Whether an option has a value. -/
def hasValue : Flag → Bool
  | verbose => false
  | _ => true

end Flag

/-- The uses of options in order, each with its value, which is empty for an option
without one. -/
abbrev Uses := List (Flag × String)

/-- The options behind one hyphen; the last one may still need its value. -/
def cluster? : List Char → Option (Uses × Option Flag)
  | [] => some ([], none)
  | c :: rest => do
      let flag ← Flag.ofShort? c
      if flag.hasValue then
        match rest with
        | [] => return ([], some flag)
        | '=' :: value => return ([(flag, String.ofList value)], none)
        | value => return ([(flag, String.ofList value)], none)
      else
        let (uses, open?) ← cluster? rest
        return ((flag, "") :: uses, open?)

/-- The options of an argument that begins with a hyphen; the last one may still need
its value. -/
def argument? : List Char → Option (Uses × Option Flag)
  | '-' :: '-' :: text => do
      let flag ← Flag.ofLong? (String.ofList (text.takeWhile (· != '=')))
      match text.dropWhile (· != '='), flag.hasValue with
      | [], true => return ([], some flag)
      | [], false => return ([(flag, "")], none)
      | _ :: value, true => return ([(flag, String.ofList value)], none)
      | _, false => none
  | '-' :: c :: text => cluster? (c :: text)
  | _ => none

/-- Whether an argument can be the value of the option before it. -/
def isValue (arg : String) : Bool := !arg.startsWith "-" || arg == "-"

/-- The uses of options in the arguments. Two hyphens alone end the options. -/
def uses? : List String → Option Uses
  | [] => some []
  | ["--"] => some []
  | arg :: rest => do
      let (uses, open?) ← argument? arg.toList
      match open?, rest with
      | none, rest => return uses ++ (← uses? rest)
      | some flag, value :: rest =>
          if isValue value then return uses ++ (flag, value) :: (← uses? rest) else none
      | some _, [] => none

/-- What the command line asks for. -/
structure Options where
  engine : Engine := .distributed
  /-- The path of the settings of the distributed engine. -/
  configPath : Option String := none
  /-- The number of elements. -/
  size : Nat := 10
  verbose : Bool := false
  deriving DecidableEq, Repr

namespace Options

/-- A path, which is not empty. -/
def path? (text : String) : Option String := if text.isEmpty then none else some text

/-- The options of a command line, if it is well formed. The path of the settings may
also come from `MULTITASK_CONFIG`. -/
def parse? (args : List String) (configVariable : Option String) : Option Options := do
  let uses ← uses? args
  if !decide (uses.map Prod.fst).Nodup then none
  let standard : Options := {}
  let engine ← (uses.lookup .engine).elim (some standard.engine) Engine.ofName?
  let size ← (uses.lookup .size).elim (some standard.size)
    fun text => (Text.parseNat64 text).toOption
  let configPath ← ((uses.lookup .config).or configVariable).elim (some none)
    fun text => (path? text).map some
  return { engine, configPath, size, verbose := (uses.lookup .verbose).isSome }

end Options

end Conduit.Demo
