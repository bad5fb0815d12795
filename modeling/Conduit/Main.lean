import Conduit.Demo.Squares

/-! # The demonstration as a program -/

namespace Conduit

/-- What there is at a path of the machine. -/
def readContent (path : String) : IO FileContent := do
  try
    return .bytes (← IO.FS.readBinFile path)
  catch
    | .noFileOrDirectory .. => return .absent
    | .inappropriateType .. => return .directory
    | _ => return .denied

/-- The environment of the program. -/
def readEnvironment : IO Environment := do
  return ⟨← IO.getEnv "MULTITASK_WORKER_PREFIX", ← IO.getEnv "MULTITASK_WORKER_STACK_SIZE",
    ← IO.getEnv "MULTITASK_CANCELLATION"⟩

end Conduit

/-- Runs the demonstration as the command line asks for it. -/
def main (args : List String) : IO UInt32 := do
  match Conduit.Demo.Options.parse? args (← IO.getEnv "MULTITASK_CONFIG") with
  | none =>
      IO.eprintln "usage: [-e single-thread|distributed] [-s N] [-c PATH] [-v]"
      return 2
  | some options =>
      let content ← match options.configPath with
        | some path => Conduit.readContent path
        | none => pure .absent
      match Conduit.Demo.run options (fun _ => content) (← Conduit.readEnvironment) with
      | .ok lines =>
          lines.forM fun line => IO.println line
          return 0
      | .error failure =>
          IO.eprintln failure.report
          return 1
