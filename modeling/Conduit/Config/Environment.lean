import Conduit.Config.Basic

/-! # Settings from the environment

Variables of the environment replace settings one after the other. When one of them
is at fault, those before it have been taken over already.
-/

namespace Conduit

/-- The variables that the settings depend on; none where one is not set, or holds
something other than a text. -/
structure Environment where
  /-- `MULTITASK_WORKER_PREFIX` -/
  namePrefix : Option String := none
  /-- `MULTITASK_WORKER_STACK_SIZE` -/
  stackSize : Option String := none
  /-- `MULTITASK_CANCELLATION` -/
  cancellation : Option String := none

namespace Environment

/-- The size of a stack that a variable gives. -/
def parseStackSize (text : String) : Except ConfigFault Nat :=
  (Text.parseNat64 (Text.trim text)).mapError (.badStackText text)

/-- Takes the variables over into the settings. -/
def override (env : Environment) : ExceptT ConfigFault (StateM WorkerConfig) Unit := do
  if let some text := env.namePrefix then
    modify fun config => { config with namePrefix := text }
  if let some text := env.stackSize then
    let size ← (parseStackSize text : ExceptT ConfigFault (StateM WorkerConfig) Nat)
    modify fun config => { config with stackSize := some size }
  if let some text := env.cancellation then
    let policy ← (CancellationPolicy.parse text :
      ExceptT ConfigFault (StateM WorkerConfig) CancellationPolicy)
    modify fun config => { config with cancellation := policy }

end Environment

namespace WorkerConfig

/-- The outcome of taking variables over, and the settings that are left. -/
def applyEnvironment (config : WorkerConfig) (env : Environment) :
    Except ConfigFault Unit × WorkerConfig :=
  env.override.run.run config

/-- The settings with the variables taken over, which must be valid then. -/
def withEnvironment (config : WorkerConfig) (env : Environment) :
    Except ConfigFault WorkerConfig := do
  let (outcome, left) := config.applyEnvironment env
  outcome
  left.validate
  return left

/-- The standard settings with the variables taken over. -/
def ofEnvironment (env : Environment) : Except ConfigFault WorkerConfig :=
  ({} : WorkerConfig).withEnvironment env

end WorkerConfig

end Conduit
