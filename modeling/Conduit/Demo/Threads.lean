import Conduit.Coordinator.Dispatch

/-! # Threads and spawners

What stands in for the system's threads and for spawners of other makes when the engine runs.
Threads run at once, one after the other, and can be had unless their stacks are beyond all
bounds. A spawner by names treats all requests for a name alike.
-/

namespace Conduit

/-- Stacks from this size on exceed the addresses that a process has. -/
def stackLimit : Nat := 0x800000000000

/-- A system that has threads for all stacks that fit into a process. -/
def roomySystem : ThreadSystem := fun _ stackSize =>
  if stackSize.any (stackLimit ≤ ·) then
    .error "Resource temporarily unavailable (os error 11)"
  else .ok ()

/-- Starts a thread of the given name. -/
def ThreadSpawner.spawn (spawner : ThreadSpawner) (name : String) : Except Error Unit :=
  spawner.spawnOn roomySystem name

/-- A crew whose workers run on threads of their own. -/
def Coordinator.threadCrew (root : Pipeline) (config : WorkerConfig) : Crew where
  root := root
  config := config
  hiring := (ThreadSpawner.ofConfig config).hiring roomySystem
  immediate := true

/-- How a spawner by names meets a request. -/
inductive Hiring where
  | start (program : Program)
  | refuse (why : String)
  /-- The request is taken and forgotten. -/
  | drop
  deriving DecidableEq, Repr

/-- What comes of a request for a worker of this name. -/
def Hiring.meet (name : String) : Hiring → Except Error (Option Program)
  | start program => .ok (some program)
  | refuse why => .error (.workerSpawn s!"{name}: {why}")
  | drop => .ok none

instance : Coe (String → Hiring) (Request → Except Error (Option Program)) where
  coe byName := fun request => (byName request.name).meet request.name

end Conduit
