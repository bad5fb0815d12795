import Conduit.Config.Basic

/-! # Starting threads

Workers run on threads of their own, with the stack that the settings choose. Whether a
thread can be had is up to the system that the program runs on.
-/

namespace Conduit

/-- What a system answers when it is asked for a thread of a name, with a stack of a size if
one is chosen: that the thread has been started, or why it cannot be. -/
abbrev ThreadSystem := (name : String) → (stackSize : Option Nat) → Except String Unit

/-- Starts threads with stacks of a given size. -/
structure ThreadSpawner where
  stackSize : Option Nat := none
  deriving DecidableEq

namespace ThreadSpawner

/-- Starts threads as the settings choose. -/
def ofConfig (config : WorkerConfig) : ThreadSpawner := ⟨config.stackSize⟩

/-- Starts a thread of the given name on a system. -/
def spawnOn (spawner : ThreadSpawner) (system : ThreadSystem) (name : String) :
    Except Error Unit :=
  (system name spawner.stackSize).mapError fun why => .workerSpawn s!"{name}: {why}"

/-- A spawner in diagnostics. -/
def inspect (spawner : ThreadSpawner) : String :=
  describeFields "ThreadSpawner"
    [("stack_size", describeOption (spawner.stackSize.map Nat.repr))] true

end ThreadSpawner

end Conduit
