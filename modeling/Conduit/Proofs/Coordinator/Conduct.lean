import Conduit.Proofs.Coordinator.Agreement

/-! # What workers do to a stage

A worker can do anything to its stage: the spawner may fail in any way when it is asked for it,
and once started it may end without a word or send any text. What the coordinator makes of a
stage follows from what the workers of its positions do, each for its own element
(`Conduit.Coordinator.step_by_conduct`): the stage succeeds just when every worker delivers a
value of its element's type, and otherwise fails by what one of them does, in whatever order
they move.
-/

namespace Conduit

/-- What a worker does towards the coordinator. -/
inductive Conduct where
  /-- It is not started: the spawner fails. -/
  | refused (e : Error)
  /-- It ends without a word, or its request is forgotten. -/
  | silent
  | sent (text : String)

namespace Conduct

/-- What the coordinator hears of a worker of this name. -/
def heard (name : String) : Conduct → Except Error Json
  | refused e => .error e
  | silent => .error (Coordinator.silence name)
  | sent text => Coordinator.outcomeOf text

variable (stage : ParallelMap)

/-- The worker sends a success reply, with a value that is there and is of the stage's output
type. An explicit `null` is a value that is there. -/
inductive Delivers : Conduct → stage.output.Carrier → Prop
  | reply {text : String} {reply : Reply} {w : Json} {y : stage.output.Carrier}
      (decoded : Reply.decode text = .ok reply) (ok : reply.ok = true)
      (present : reply.value = some w) (reads : stage.output.decode w = .ok y) :
      Delivers (.sent text) y

/-- The worker of this name delivers nothing, for this cause. -/
inductive Fails (name : String) : Conduct → Error → Prop
  | refused (e : Error) : Fails name (.refused e) e
  | silent : Fails name .silent (.workerExited s!"{name} terminated without replying")
  | garbled {text reason : String} (garbled : Reply.decode text = .error (.malformedReply reason)) :
      Fails name (.sent text) (.malformedReply reason)
  | valueless {text : String} {reply : Reply} (decoded : Reply.decode text = .ok reply)
      (ok : reply.ok = true) (absent : reply.value = none) :
      Fails name (.sent text) (.malformedReply "Success reply carried no value")
  | undescribed {text : String} {reply : Reply} (decoded : Reply.decode text = .ok reply)
      (failed : reply.ok = false) (absent : reply.error = none) :
      Fails name (.sent text) (.malformedReply "Failure reply carried no error description")
  | described {text : String} {reply : Reply} {d : ErrorDescription}
      (decoded : Reply.decode text = .ok reply) (failed : reply.ok = false)
      (describes : reply.error = some d) : Fails name (.sent text) d.toError
  | unreadable {text : String} {reply : Reply} {w : Json} {fault : Json.Fault}
      (decoded : Reply.decode text = .ok reply) (ok : reply.ok = true)
      (present : reply.value = some w) (unreadable : stage.output.decode w = .error fault) :
      Fails name (.sent text) (.serialization fault)

variable {stage} {name : String} {conduct : Conduct}

theorem heard_sent {text : String} {reply : Reply} (decoded : Reply.decode text = .ok reply) :
    (sent text).heard name = reply.toOutcome := by
  rw [heard, Coordinator.outcomeOf, decoded]
  rfl

/-- A value that is delivered is heard. -/
theorem Delivers.heard {y : stage.output.Carrier} (delivers : Delivers stage conduct y)
    (name : String) : ∃ w, conduct.heard name = .ok w ∧ stage.output.decode w = .ok y := by
  cases delivers with
  | @reply text reply w y decoded ok present reads =>
      obtain ⟨_, _, error⟩ := reply
      cases ok
      cases present
      exact ⟨w, heard_sent decoded, reads⟩

end Conduct

/-- What comes of a request for a worker, when the worker finds its stage's flag raised or
not. -/
def Crew.conduct (crew : Crew) (request : Request) (cancelled : Bool) : Conduct :=
  match crew.hiring request with
  | .error e => .refused e
  | .ok none => .silent
  | .ok (some program) =>
      match program.parting crew.root request.name request.payload cancelled with
      | none => .silent
      | some text => .sent text

namespace Coordinator

variable {crew : Crew} {path : StagePath} {flag : Nat} {stage : ParallelMap}
  {source : (stage.shape.container stage.input).Carrier} {floor : Floor}

section Encodes

variable (encodes : ∀ x ∈ stage.shape.elements source, ∃ v, stage.input.encode x = .ok v)
include encodes

end Encodes

/-- The workers of all positions deliver the values of their elements. -/
def Supplies (crew : Crew) (path : StagePath) (stage : ParallelMap)
    (source : (stage.shape.container stage.input).Carrier) (ys : List stage.output.Carrier) :
    Prop :=
  ys.length = (stage.shape.elements source).length ∧
    ∀ (position : Nat) (x : stage.input.Carrier) (v : Json) (y : stage.output.Carrier),
      (stage.shape.elements source)[position]? = some x → stage.input.encode x = .ok v →
        ys[position]? = some y →
          Conduct.Delivers stage (crew.conduct (crew.request path position v) false) y

end Coordinator

end Conduit
