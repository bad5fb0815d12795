import Conduit.Error
import Conduit.Inspect

/-! # Reply channels

A channel delivers one text from a worker to the coordinator. Either side may leave: a
channel whose worker left without a word is closed for the coordinator, and a word for
a coordinator that has left is refused.
-/

namespace Conduit

/-- A way for one text from one side to the other. -/
structure Channel where
  /-- The text that was sent and not received yet. -/
  message : Option String
  /-- The sending side has sent its text or left. -/
  senderGone : Bool
  receiverGone : Bool
  deriving DecidableEq, Inhabited

/-- What the receiving side finds. -/
inductive Arrival where
  | received (text : String)
  | empty
  | closed
  deriving DecidableEq

namespace Channel

/-- A channel that nothing has happened to. -/
def fresh : Channel := ⟨none, false, false⟩

/-- The channel after the sending side has left. -/
def dropSender (channel : Channel) : Channel := { channel with senderGone := true }

/-- The channel after the receiving side has left. -/
def dropReceiver (channel : Channel) : Channel := { channel with receiverGone := true }

/-- Sends a text, after which the sending side has left. -/
def send (channel : Channel) (text : String) : Except Error Unit × Channel :=
  if channel.receiverGone then
    (.error (.cancelled "Coordinator is no longer waiting for this reply"), channel.dropSender)
  else (.ok (), { channel with message := some text, senderGone := true })

/-- Looks for a text, which is taken out of the channel. -/
def receive (channel : Channel) : Arrival × Channel :=
  match channel.message with
  | some text => (.received text, { channel with message := none })
  | none => (if channel.senderGone then .closed else .empty, channel)

/-- The sending side of a channel in diagnostics. -/
def inspect (channel : Channel) : String :=
  describeFields "ReplyPort" [("closed", toString channel.receiverGone)] true

end Channel

end Conduit
