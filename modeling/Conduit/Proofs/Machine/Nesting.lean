import Conduit.Proofs.Machine.Evaluation

/-! # How suspended pipelines nest

The states that a run of a pipeline can come to, whatever its parallel stages give, are
those reached by steps from its start (`Conduit.ControlState.Reachable`). In each of
them every suspended frame stands at an apply stage whose inner pipeline is the next one
inwards (`Conduit.Encloses`). So the path that a state gives to its parallel stage leads
from the root to just this stage (`Conduit.ControlState.Reachable.resolve_path`).
-/

namespace Conduit

/-- A frame that stands at a stage is short of its end. -/
theorem Frame.index_lt {f : Frame} {stage : Stage} (here : f.stage? = some stage) :
    f.pointer.index < f.pipeline.length :=
  (List.getElem?_eq_some_iff.mp here).1

namespace ControlState

/-- A step leads from `s` to `t` under some answer of the fan-out. -/
def Leads (s t : ControlState) : Prop :=
  ∃ (fanOut : FanOut (Traced Call)) (next : s.Successor),
    (s.step fanOut).result = .ok (.next next) ∧ next.1 = t

/-- The states that steps lead to from the start of a pipeline. -/
inductive Reachable (root : Pipeline) : ControlState → Prop
  | start : Reachable root (start root)
  | step {s t : ControlState} (reachable : Reachable root s) (leads : s.Leads t) :
      Reachable root t

/-- A state stands at a stage when it has its work done. -/
theorem Performs.index_lt {s : ControlState} {work : Work} (performs : s.Performs work) :
    s.current.pointer.index < s.current.pipeline.length := by
  cases performs with
  | transform here => exact Frame.index_lt here
  | parallelMap here => exact Frame.index_lt here
  | apply here _ => exact Frame.index_lt here

/-- Where a step can lead. -/
inductive Onward (s : ControlState) : ControlState → Prop
  | resume {f : Frame} {rest : List Frame} (finished : s.current.stage? = none)
      (suspended : s.suspended = f :: rest) : Onward s (resume f rest s.current.pointer)
  | enter {inner : Pipeline} {glue : Value → Value → Outcome}
      (here : s.current.stage? = some (.apply inner glue)) (fresh : s.pending = none) :
      Onward s (s.enter inner)
  | advance {work : Work} (performs : s.Performs work) (v : Value) : Onward s (s.advance v)

/-- A step leads by one of three rules. -/
theorem Leads.onward {s t : ControlState} (leads : s.Leads t) : s.Onward t := by
  obtain ⟨fanOut, next, steps, rfl⟩ := leads
  have rule := s.move_rule
  rw [step] at steps
  generalize s.move = move at rule steps
  cases rule with
  | finish finished outermost => cases steps
  | resume finished suspended onward =>
      cases steps
      exact onward ▸ .resume finished suspended
  | enter here fresh onward =>
      cases steps
      exact onward ▸ .enter here fresh
  | @perform work _ performs advances =>
      rw [Traced.result_bind] at steps
      generalize (work.perform fanOut).result = outcome at steps
      cases outcome with
      | error e => cases steps
      | ok v =>
          cases steps
          exact advances v ▸ .advance performs v

end ControlState

/-- The suspended frames, the innermost first, lead from the root to a pipeline: each
stands at an apply stage of its own pipeline, whose inner pipeline is the next. -/
inductive Encloses (root : Pipeline) : List Frame → Pipeline → Prop
  | root : Encloses root [] root
  | inner {f : Frame} {rest : List Frame} {inner : Pipeline} {glue : Value → Value → Outcome}
      (around : Encloses root rest f.pipeline) (here : f.stage? = some (.apply inner glue)) :
      Encloses root (f :: rest) inner

namespace ControlState

/-- The suspended frames of a state lead from the root to its current pipeline, and the state
is not past the end of this. -/
structure Placed (root : Pipeline) (s : ControlState) : Prop where
  encloses : Encloses root s.suspended s.current.pipeline
  index_le : s.current.pointer.index ≤ s.current.pipeline.length

variable {root : Pipeline} {s t : ControlState}

theorem placed_start (root : Pipeline) : Placed root (start root) := ⟨.root, Nat.zero_le _⟩

theorem Onward.placed (onward : s.Onward t) (placed : Placed root s) : Placed root t := by
  obtain ⟨encloses, _⟩ := placed
  cases onward with
  | resume finished suspended =>
      rw [suspended] at encloses
      cases encloses with
      | inner around here => exact ⟨around, Nat.le_of_lt (Frame.index_lt here)⟩
  | enter here fresh => exact ⟨.inner encloses here, Nat.zero_le _⟩
  | advance performs v => exact ⟨encloses, performs.index_lt⟩

theorem Reachable.placed (reachable : Reachable root s) : Placed root s := by
  induction reachable with
  | start => exact placed_start root
  | step _ leads ih => exact leads.onward.placed ih

/-- The suspended frames of a reachable state lead to its current pipeline. -/
theorem Reachable.encloses (reachable : Reachable root s) :
    Encloses root s.suspended s.current.pipeline :=
  reachable.placed.encloses

/-- A run never goes past the end of a pipeline. -/
theorem Reachable.index_le (reachable : Reachable root s) :
    s.current.pointer.index ≤ s.current.pipeline.length :=
  reachable.placed.index_le

end ControlState

/-- Walking along the places of suspended frames comes to the pipeline inside them. -/
theorem Encloses.walk {root p : Pipeline} {suspended : List Frame}
    (encloses : Encloses root suspended p) (index : Nat) (rest : List Nat) :
    root.walk 0 (addressOf suspended ++ index :: rest) =
      p.walk suspended.length (index :: rest) := by
  induction encloses generalizing index rest with
  | root => rfl
  | @inner f outer inner glue around here ih =>
      rw [addressOf_cons, List.append_assoc, List.singleton_append, ih, Pipeline.walk]
      · rw [show f.pipeline.stages[f.pointer.index]? = _ from here]
        rfl
      · exact nofun

/-- **The path of a parallel stage leads to it.** -/
theorem ControlState.Reachable.resolve_path {root : Pipeline} {s : ControlState}
    (reachable : Reachable root s) {stage : ParallelMap}
    (here : s.current.stage? = some (.parallelMap stage)) : root.resolve s.path = .ok stage := by
  have found : root.find s.path = .ok stage := by
    rw [Pipeline.find, path_eq, reachable.encloses.walk, Pipeline.walk,
      show s.current.pipeline.stages[s.current.pointer.index]? = _ from here]
  rw [Pipeline.resolve, found]
  rfl

/-- In a pipeline of one parallel stage only this stage can be asked for. -/
theorem Pipeline.resolve_single {v : Value} {stage other : ParallelMap} {path : StagePath}
    (resolves : Pipeline.resolve ⟨v, [.parallelMap stage]⟩ path = .ok other) :
    path.indices = [0] ∧ other = stage := by
  obtain ⟨indices⟩ := path
  rcases indices with _ | ⟨index, _ | ⟨second, rest⟩⟩
  · cases resolves
  · rcases index with _ | index
    · cases resolves
      exact ⟨rfl, rfl⟩
    · cases resolves
  · rcases index with _ | index
    · cases resolves
    · cases resolves

end Conduit
