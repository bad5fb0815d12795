import Conduit.Coordinator.Floor
import Conduit.Machine.Step
import Conduit.Transport.ThreadSpawner

/-! # Sending elements to workers

The coordinator asks for one worker for each element and listens at the worker's
channel. Whatever goes wrong with an element raises the flag of its stage.
-/

namespace Conduit

/-- The request for a worker that is to have the element of a position, by its JSON form. -/
def Crew.request (crew : Crew) (path : StagePath) (position : Nat) (v : Json) : Request where
  path := path
  name := crew.config.workerName position
  payload := (WorkerMessage.mk path v).encode

/-- How requests for workers are met when each runs on a thread of its own. -/
def ThreadSpawner.hiring (spawner : ThreadSpawner) (system : ThreadSystem) (request : Request) :
    Except Error (Option Program) :=
  (spawner.spawnOn system request.name).map fun _ => some .serve

namespace Coordinator

/-- An element that was sent: the worker's name and the place of its channel. -/
structure Ticket where
  name : String
  channel : Nat

/-- The failure of an element whose worker will not reply. -/
def silence (name : String) : Error := .workerExited s!"{name} terminated without replying"

/-- What a text that arrived says about its element. -/
def outcomeOf (text : String) : Except Error Json := (Reply.decode text).bind Reply.toOutcome

/-- Listens at the channel of an element. -/
def listen (ticket : Ticket) (floor : Floor) : Option (Except Error Json) × Floor :=
  let (arrival, channel) := (floor.channels[ticket.channel]?.getD .fresh).receive
  let floor := { floor with channels := floor.channels.setIfInBounds ticket.channel channel }
  match arrival with
  | .received text => (some (outcomeOf text), floor)
  | .closed => (some (.error (silence ticket.name)), floor)
  | .empty => (none, floor)

/-- Settles an element of the stage with this flag: a failure raises the flag. -/
def settle (flag : Nat) (outcome : Except Error Json) (floor : Floor) : Floor :=
  match outcome with
  | .ok _ => floor
  | .error _ => floor.cancel flag

/-- Asks about an element that was sent. -/
def ask (crew : Crew) (flag : Nat) (ticket : Ticket) (floor : Floor) :
    Answer Ticket Error Json × Floor :=
  match listen ticket (floor.stride crew) with
  | (none, floor) => (.later ticket, floor)
  | (some outcome, floor) => (.now outcome, settle flag outcome floor)

/-- Opens a channel. -/
def openChannel (floor : Floor) : Nat × Floor :=
  (floor.channels.size, { floor with channels := floor.channels.push .fresh })

/-- Opens a flag for a stage. -/
def openFlag (crew : Crew) (floor : Floor) : Nat × Floor :=
  (floor.flags.size,
    { floor with flags := floor.flags.push (.ofPolicy crew.config.cancellation) })

/-- Sends the element of a position to a worker, and listens for the first time. -/
def send (crew : Crew) (path : StagePath) (flag position : Nat) (v : Json) (floor : Floor) :
    Answer Ticket Error Json × Floor :=
  let request := crew.request path position v
  let (channel, floor) := openChannel (floor.stride crew)
  match floor.spawn crew request channel flag with
  | (.error e, floor) => (.now (.error e), settle flag (.error e) floor)
  | (.ok _, floor) => ask crew flag ⟨request.name, channel⟩ floor

/-- How elements that were sent are asked for again. Every turn of the schedule, and
every worker after it, is worth waiting for. -/
def replies (crew : Crew) (flag : Nat) : Asking OnFloor Ticket Error Json where
  ask ticket := ask crew flag ticket
  wake := fun floor => ((), floor.wake crew)
  patience _ := fun floor => (floor.schedule.length + floor.jobs.size + 1, floor)
  abandoned ticket := silence ticket.name

/-- Has the elements of a stage treated by workers. -/
def dispatch (crew : Crew) (path : StagePath) (flag : Nat) : Dispatch OnFloor Ticket where
  send := send crew path flag
  replies := replies crew flag

/-- Carries out parallel stages by workers. -/
def fanOut (crew : Crew) : FanOut OnFloor := fun path stage container => do
  let flag ← openFlag crew
  stage.run (dispatch crew path flag) container

/-- Runs the crew's pipeline. -/
def execute (crew : Crew) : OnFloor (Except Error Value) := crew.root.execute (fanOut crew)

/-- Runs the crew's pipeline to its end, and lets the workers that are left finish. -/
def executeAll (crew : Crew) (floor : Floor) : Except Error Value × Floor :=
  let (outcome, floor) := (execute crew).run floor
  (outcome, floor.close crew)

/-- Runs the crew's pipeline under valid settings, for a result of the given type. -/
def executeAs (crew : Crew) (type : ValueType) : OnFloor (Except Error Value) := do
  match crew.config.validate with
  | .error fault => return .error fault.toError
  | .ok _ =>
      let outcome ← execute crew
      return outcome.bind fun v => (v.downcast type).map fun x => ⟨type, x⟩

/-- Runs the crew's pipeline under valid settings to its end, and lets the workers
that are left finish. -/
def executeAllAs (crew : Crew) (type : ValueType) (floor : Floor) :
    Except Error Value × Floor :=
  let (outcome, floor) := (executeAs crew type).run floor
  (outcome, floor.close crew)

/-- The coordinator's part that sends elements out, in diagnostics. -/
def inspectFanOut (config : WorkerConfig) : String :=
  describeFields "WorkerFanOut" [("config", config.inspect)] false

/-- The distributed engine in diagnostics. -/
def inspectEngine (output : ValueType) (config : WorkerConfig) (customSpawner : Bool) : String :=
  describeFields "DistributedExecutor"
    [("output", Text.quoted output.name), ("config", config.inspect),
      ("custom_spawner", toString customSpawner)] true

end Coordinator

end Conduit
