import Conduit.Config.Basic
import Conduit.Transport.Channel
import Conduit.Worker

/-! # The floor of a distributed run

What the coordinator and its workers share: a flag for every parallel stage that has
been carried out, a channel for every element that was sent, and the workers that were
started, each with its own task. A worker goes through its task in three moves, in
any interleaving with the others and with the coordinator: it looks at its stage's
flag, does its work, and replies.
-/

namespace Conduit

/-- What a started worker does. -/
inductive Program where
  /-- Attends to its element. -/
  | serve
  /-- Sends a fixed text. -/
  | reply (text : String)
  /-- Ends without a word. -/
  | silent
  deriving DecidableEq, Repr

/-- A request for a worker. A run carries out the stage at a path once at most, so it makes no
request twice. -/
structure Request where
  /-- The place of the stage that asks for the worker. -/
  path : StagePath
  name : String
  payload : String

/-- How far a worker has come. -/
inductive Phase where
  | waiting
  /-- It has looked at the flag. -/
  | informed (cancelled : Bool)
  /-- It has done its work, and has this text to send, if any. -/
  | finished (parting : Option String)
  | gone
  deriving DecidableEq, Repr

/-- A worker and its task. -/
structure Job where
  name : String
  payload : String
  /-- The place of the channel for its reply. -/
  channel : Nat
  /-- The place of its stage's flag. -/
  flag : Nat
  program : Program
  phase : Phase

/-- How a worker ended. -/
inductive JobEnd where
  | replied
  | silent
  /-- Its reply was refused. -/
  | unheard (error : Error)

/-- What happens on the floor, as far as it is written down. -/
inductive FloorEvent where
  | spawned (name : String)
  | refused (name : String)
  | started (name payload : String) (cancelled : Bool)
  | ended (name : String) (how : JobEnd)
  /-- The run has its result; workers may be left. -/
  | returned

/-- How a distributed run is set up: the pipeline that coordinator and workers share,
the settings, and how requests for workers are met. -/
structure Crew where
  root : Pipeline
  config : WorkerConfig := {}
  /-- What the spawner makes of a request. It may fail in any way, start a worker with any
  program, or take the request and forget it. -/
  hiring : Request → Except Error (Option Program) := fun _ => .ok (some .serve)
  /-- A worker goes through its task as soon as it is started; otherwise it waits for
  its turn. -/
  immediate : Bool

/-- The state of a distributed run. -/
structure Floor where
  flags : Array CancelFlag := #[]
  channels : Array Channel := #[]
  /-- The workers in the order in which they were started. -/
  jobs : Array Job := #[]
  /-- The workers that get a turn between two rounds of the coordinator. -/
  schedule : List (List Nat) := []
  /-- The workers that make a move each while the coordinator is in the middle of a
  round, at the points where it starts or asks about an element. -/
  strides : List (List Nat) := []
  events : Array FloorEvent := #[]
  calls : Array Call := #[]

/-- A computation on the floor. -/
abbrev OnFloor := StateM Floor

instance : MonadLift (Traced Call) OnFloor where
  monadLift t := fun floor =>
    (t.result, { floor with calls := t.events.foldl Array.push floor.calls })

namespace Floor

/-- Writes an event down. -/
def note (event : FloorEvent) (floor : Floor) : Floor :=
  { floor with events := floor.events.push event }

/-- Changes a worker's phase. -/
def setPhase (floor : Floor) (number : Nat) (phase : Phase) : Floor :=
  { floor with jobs := floor.jobs.modify number fun job => { job with phase := phase } }

/-- Raises a flag, if its policy lets it. -/
def cancel (floor : Floor) (flag : Nat) : Floor :=
  { floor with flags := floor.flags.modify flag CancelFlag.cancel }

/-- Whether a flag is raised. -/
def isCancelled (floor : Floor) (flag : Nat) : Bool := floor.flags[flag]?.any CancelFlag.raised

/-- A worker looks at its stage's flag. -/
def inform (floor : Floor) (number : Nat) (job : Job) : Floor :=
  let cancelled := floor.isCancelled job.flag
  (floor.setPhase number (.informed cancelled)).note (.started job.name job.payload cancelled)

/-- A worker attends to its element, having found the flag raised or not. -/
def attend (crew : Crew) (floor : Floor) (number : Nat) (job : Job) (cancelled : Bool) : Floor :=
  let work := Worker.attend crew.root job.name job.payload cancelled
  let floor := floor.setPhase number (.finished (Worker.replyText? work.result))
  { floor with
    flags := floor.flags.modify job.flag fun flag => Worker.flagAfter flag work.result
    calls := work.events.foldl Array.push floor.calls }

/-- A worker does its work. -/
def work (crew : Crew) (floor : Floor) (number : Nat) (job : Job) (cancelled : Bool) : Floor :=
  match job.program with
  | .serve => floor.attend crew number job cancelled
  | .reply text => floor.setPhase number (.finished (some text))
  | .silent => floor.setPhase number (.finished none)

/-- A worker leaves, with a reply if it has one. -/
def part (floor : Floor) (number : Nat) (job : Job) (parting : Option String) : Floor :=
  let channel := floor.channels[job.channel]?.getD .fresh
  let (how, channel) :=
    match parting with
    | none => (JobEnd.silent, channel.dropSender)
    | some text =>
        match channel.send text with
        | (.ok _, channel) => (JobEnd.replied, channel)
        | (.error e, channel) => (JobEnd.unheard e, channel)
  let floor := floor.setPhase number .gone
  let floor := { floor with channels := floor.channels.setIfInBounds job.channel channel }
  floor.note (.ended job.name how)

/-- A worker makes its next move; one that is gone makes none. -/
def advance (crew : Crew) (number : Nat) (floor : Floor) : Floor :=
  match floor.jobs[number]? with
  | none => floor
  | some job =>
      match job.phase with
      | .waiting => floor.inform number job
      | .informed cancelled => floor.work crew number job cancelled
      | .finished parting => floor.part number job parting
      | .gone => floor

/-- A worker makes all moves of its task that are left. -/
def runJob (crew : Crew) (number : Nat) (floor : Floor) : Floor :=
  ((floor.advance crew number).advance crew number).advance crew number

/-- Workers go through their tasks, one after the other. -/
def runJobs (crew : Crew) (numbers : List Nat) (floor : Floor) : Floor :=
  numbers.foldl (fun floor number => floor.runJob crew number) floor

/-- Asks for a worker. -/
def spawn (crew : Crew) (request : Request) (channel flag : Nat) (floor : Floor) :
    Except Error Unit × Floor :=
  match crew.hiring request with
  | .error e => (.error e, floor.note (.refused request.name))
  | .ok none =>
      let floor := floor.note (.spawned request.name)
      (.ok (), { floor with channels := floor.channels.modify channel Channel.dropSender })
  | .ok (some program) =>
      let floor := floor.note (.spawned request.name)
      let number := floor.jobs.size
      let job : Job := ⟨request.name, request.payload, channel, flag, program, .waiting⟩
      let floor := { floor with jobs := floor.jobs.push job }
      (.ok (), if crew.immediate then floor.runJob crew number else floor)

/-- The first worker that is not through with its task. -/
def firstWaiting? (floor : Floor) : Option Nat :=
  floor.jobs.findIdx? fun job => job.phase != .gone

/-- Gives workers their turns between two rounds: those the schedule names next, and
after the schedule the first one that waits. -/
def wake (crew : Crew) (floor : Floor) : Floor :=
  match floor.schedule with
  | batch :: rest => { floor with schedule := rest }.runJobs crew batch
  | [] =>
      match floor.firstWaiting? with
      | some number => floor.runJob crew number
      | none => floor

/-- Lets workers move while the coordinator is in the middle of a round. -/
def stride (crew : Crew) (floor : Floor) : Floor :=
  match floor.strides with
  | numbers :: rest =>
      numbers.foldl (fun floor number => floor.advance crew number) { floor with strides := rest }
  | [] => floor

/-- The run has its result: nobody listens any more, and the workers that are left go
through their tasks in order. -/
def close (crew : Crew) (floor : Floor) : Floor :=
  { floor with channels := floor.channels.map Channel.dropReceiver }.note .returned
    |>.runJobs crew (List.range floor.jobs.size)

end Floor

end Conduit
