import Conduit.Coordinator.Dispatch
import Conduit.Proofs.Coordinator.Moves
import Conduit.Proofs.Wire.Replies

/-! # What becomes of a task

A task has an outcome of its own: the one that its worker brings about when it never finds
its stage cancelled (`Conduit.Coordinator.workerOutcome`). What a worker replies is what the
coordinator learns, up to the form in which failures cross the boundary.
-/

namespace Conduit

namespace Coordinator

/-- What the coordinator learns from a worker that has this text to send, if any. -/
def partingOutcome (name : String) : Option String → Except Error Json
  | none => .error (silence name)
  | some text => outcomeOf text

end Coordinator

/-- The outcome of a hired worker's task, when it never finds its stage cancelled. -/
def Job.own (crew : Crew) (job : Job) : Except Error Json :=
  Coordinator.partingOutcome job.name
    (job.program.parting crew.root job.name job.payload false)

/-- The request of the stage at this path to which the worker was hired. -/
def Job.request (path : StagePath) (job : Job) : Request := ⟨path, job.name, job.payload⟩

namespace Coordinator

/-- The outcome of a request for a worker that never finds its stage cancelled. -/
def workerOutcome (crew : Crew) (request : Request) : Except Error Json :=
  match crew.hiring request with
  | .error e => .error e
  | .ok none => .error (silence request.name)
  | .ok (some program) =>
      partingOutcome request.name
        (program.parting crew.root request.name request.payload false)

/-- What becomes of the element of a position, by its JSON form, when its worker never finds
its stage cancelled. -/
def treatment (crew : Crew) (path : StagePath) (position : Nat) (v : Json) :
    Except Error Json :=
  workerOutcome crew (crew.request path position v)

/-- An element whose worker serves has the outcome of the worker's reply. -/
theorem treatment_served {crew : Crew} {path : StagePath} {position : Nat} {v : Json}
    (serves : crew.hiring (crew.request path position v) = .ok (some .serve)) :
    treatment crew path position v =
      partingOutcome (crew.config.workerName position) (Worker.replyText?
        (Worker.attend crew.root (crew.config.workerName position)
          (WorkerMessage.mk path v).encode false).result) := by
  rw [treatment, workerOutcome, serves]
  rfl

theorem workerOutcome_hired {crew : Crew} {path : StagePath} {job : Job}
    (hired : crew.hiring (job.request path) = .ok (some job.program)) :
    workerOutcome crew (job.request path) = job.own crew := by
  rw [workerOutcome, hired]
  rfl

/-- A value that is fit for the wire comes back. -/
theorem outcomeOf_success {v : Json} (sendable : Sendable v) :
    outcomeOf (Reply.success v).encode = .ok v := by
  rw [outcomeOf, Reply.decode_success sendable]
  rfl

/-- A failure comes back as its description stands for. -/
theorem outcomeOf_failure (e : Error) :
    outcomeOf (Reply.failure e).encode = .error (ErrorDescription.ofError e).toError := by
  rw [outcomeOf, Reply.decode_failure]
  rfl

/-- What the coordinator learns from the ending of an element's work. -/
theorem partingOutcome_failed (name : String) (e : Error) :
    partingOutcome name (Worker.replyText? (.failed e)) =
      .error (ErrorDescription.ofError e).toError :=
  outcomeOf_failure e

/-- A worker whose work raises its stage's flag has a failure to report. -/
theorem partingOutcome_raises {root : Pipeline} {name payload : String} {cancelled : Bool}
    {program : Program} (raises : program.raises root name payload cancelled = true) :
    ∃ e, partingOutcome name (program.parting root name payload cancelled) = .error e := by
  cases program with
  | reply text => cases raises
  | silent => cases raises
  | serve =>
      unfold Program.raises at raises
      unfold Program.parting
      generalize (Worker.attend root name payload cancelled).result = ending at raises ⊢
      cases ending with
      | returned v => cases raises
      | lost => cases raises
      | failed e => exact ⟨_, partingOutcome_failed name e⟩

section Listen

variable {ticket : Ticket}

/-- Listening at a channel that is unused finds nothing. -/
theorem listen_fresh {floor : Floor} (there : floor.channels[ticket.channel]? = some .fresh) :
    listen ticket floor = (none, floor) := by
  have same : floor.channels.setIfInBounds ticket.channel .fresh = floor.channels := by
    apply Array.ext_getElem?
    intro channel
    rw [Array.getElem?_setIfInBounds]
    split
    next same =>
      rw [← same, there, if_pos (Array.getElem?_eq_some_iff.mp there).1]
    next => rfl
  unfold listen
  rw [there]
  exact congrArg (fun channels => (none, { floor with channels := channels })) same

/-- Listening finds what a worker has left behind, and takes it out of its channel. -/
theorem listen_parted (floor : Floor) {parting : Option String}
    (there : floor.channels[ticket.channel]? = some (Channel.fresh.parted parting)) :
    ∃ channels, listen ticket floor =
        (some (partingOutcome ticket.name parting), { floor with channels := channels }) ∧
      ∀ other, ticket.channel ≠ other → channels[other]? = floor.channels[other]? := by
  unfold listen
  rw [there]
  cases parting <;>
    exact ⟨_, rfl, fun other differ => Array.getElem?_setIfInBounds_ne differ⟩

end Listen

end Coordinator

end Conduit
