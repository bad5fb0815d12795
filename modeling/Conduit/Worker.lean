import Conduit.Transport.CancelFlag
import Conduit.Wire.Message
import Conduit.Wire.Reply

/-! # Workers

A worker holds the same pipeline as the coordinator. It is started with a message,
treats the element in it by the stage that the message's path names, and replies. A
worker that finds its stage cancelled replies without calling the element's function.
-/

namespace Conduit.Worker

/-- The failure of a worker that finds its stage cancelled. -/
def skipped (name : String) : Error :=
  .cancelled s!"{name} skipped its element after a sibling failed"

/-- Carries out a message. The worker waits for an element that takes its time. -/
def executeMessage (p : Pipeline) (host : String) (message : WorkerMessage) :
    Traced Call (Ending Error Json) :=
  match p.resolve message.path with
  | .error e => pure (.failed e)
  | .ok stage => do return (← stage.callElement host message.value).ending

/-- The work of a worker of this name on a payload, when it found its stage's flag
raised or not. -/
def attend (p : Pipeline) (name payload : String) (cancelled : Bool) :
    Traced Call (Ending Error Json) :=
  if cancelled then pure (.failed (skipped name))
  else
    match WorkerMessage.decode payload with
    | .error e => pure (.failed e)
    | .ok message => executeMessage p name message

/-- The flag after an element's work: a failure raises it. -/
def flagAfter (flag : CancelFlag) : Ending Error Json → CancelFlag
  | .failed _ => flag.cancel
  | .returned _ => flag
  | .lost => flag

/-- The reply about an element; none when the worker's thread ended with it. -/
def replyText? : Ending Error Json → Option String
  | .returned v => some (Reply.ofOutcome (.ok v)).encode
  | .failed e => some (Reply.ofOutcome (.error e)).encode
  | .lost => none

end Conduit.Worker
