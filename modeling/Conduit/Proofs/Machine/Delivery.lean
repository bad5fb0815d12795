import Conduit.Proofs.Machine.Nesting

/-! # Results reach the stages they are for

A run stands at most as deep as apply stages nest in its pipeline. Whenever a result is
pending, the run stands at an apply stage, and it is this stage's inner pipeline that has
just finished with the result (`Conduit.ControlState.Reachable.owner_of_pending`). The next
move joins the two, so that no result is lost on the way
(`Conduit.ControlState.Reachable.delivers`).
-/

namespace Conduit

mutual

/-- The number of inner pipelines that can be under way at once at a stage. -/
def Stage.applyNesting : Stage → Nat
  | .transform _ => 0
  | .parallelMap _ => 0
  | .apply inner _ => inner.applyNesting + 1

/-- The number of inner pipelines that can be under way at once in a pipeline. -/
def Pipeline.applyNesting : Pipeline → Nat
  | ⟨_, stages⟩ => applyNestingOf stages

/-- The deepest nesting among stages. -/
def applyNestingOf : List Stage → Nat
  | [] => 0
  | stage :: rest => max stage.applyNesting (applyNestingOf rest)

end

theorem applyNesting_le_of_mem {stage : Stage} :
    ∀ {stages : List Stage}, stage ∈ stages → stage.applyNesting ≤ applyNestingOf stages
  | first :: rest, member => by
      rw [applyNestingOf]
      rcases List.mem_cons.mp member with rfl | later
      · exact Nat.le_max_left _ _
      · exact Nat.le_trans (applyNesting_le_of_mem later) (Nat.le_max_right _ _)

theorem Pipeline.applyNesting_eq (p : Pipeline) : p.applyNesting = applyNestingOf p.stages := by
  cases p
  rw [Pipeline.applyNesting]

theorem Frame.applyNesting_le {f : Frame} {stage : Stage} (here : f.stage? = some stage) :
    stage.applyNesting ≤ f.pipeline.applyNesting := by
  have member : stage ∈ f.pipeline.stages := List.mem_of_getElem? here
  rw [Pipeline.applyNesting_eq]
  exact applyNesting_le_of_mem member

/-- Every suspended frame takes one of the levels to which apply stages nest. -/
theorem Encloses.depth_le {root p : Pipeline} {suspended : List Frame}
    (encloses : Encloses root suspended p) :
    suspended.length + p.applyNesting ≤ root.applyNesting := by
  induction encloses with
  | root => simp
  | @inner f rest inner glue around here ih =>
      have deeper : inner.applyNesting + 1 ≤ f.pipeline.applyNesting := by
        simpa [Stage.applyNesting] using Frame.applyNesting_le here
      simp only [List.length_cons]
      omega

namespace ControlState

theorem Performs.not_finished {s : ControlState} {work : Work} (performs : s.Performs work) :
    s.current.stage? ≠ none := by
  cases performs with
  | transform here => simp [here]
  | parallelMap here => simp [here]
  | apply here _ => simp [here]

/-- An apply stage has no work done before a result is pending at it. -/
theorem Performs.not_fresh {s : ControlState} {work : Work} (performs : s.Performs work)
    {inner : Pipeline} {glue : Value → Value → Outcome}
    (here : s.current.stage? = some (.apply inner glue)) : s.pending ≠ none := by
  cases performs with
  | transform there => cases here.symm.trans there
  | parallelMap there => cases here.symm.trans there
  | apply _ pending => simp [pending]

/-- A state has one work done at most. -/
theorem Performs.unique {s : ControlState} {work other : Work} (performs : s.Performs work)
    (also : s.Performs other) : other = work := by
  cases performs with
  | transform here =>
      cases also with
      | transform there => cases here.symm.trans there; rfl
      | parallelMap there => cases here.symm.trans there
      | apply there => cases here.symm.trans there
  | parallelMap here =>
      cases also with
      | transform there => cases here.symm.trans there
      | parallelMap there => cases here.symm.trans there; rfl
      | apply there => cases here.symm.trans there
  | apply here pending =>
      cases also with
      | transform there => cases here.symm.trans there
      | parallelMap there => cases here.symm.trans there
      | apply there held => cases here.symm.trans there; cases pending.symm.trans held; rfl

/-- A finished pipeline resumes the innermost one around it. -/
theorem move_of_finished {s : ControlState} {f : Frame} {rest : List Frame}
    (finished : s.current.stage? = none) (suspended : s.suspended = f :: rest) :
    ∃ next : s.Successor, s.move = .goTo next ∧ next.1 = resume f rest s.current.pointer := by
  have rule := s.move_rule
  generalize s.move = move at rule ⊢
  cases rule with
  | finish _ outermost => rw [suspended] at outermost; cases outermost
  | @resume f' rest' next _ around onward =>
      rw [suspended] at around
      cases around
      exact ⟨next, rfl, onward⟩
  | enter here => rw [finished] at here; cases here
  | perform performs => exact absurd finished performs.not_finished

/-- An apply stage at which nothing is pending is entered. -/
theorem move_of_fresh {s : ControlState} {inner : Pipeline} {glue : Value → Value → Outcome}
    (here : s.current.stage? = some (.apply inner glue)) (fresh : s.pending = none) :
    ∃ next : s.Successor, s.move = .goTo next ∧ next.1 = s.enter inner := by
  have rule := s.move_rule
  generalize s.move = move at rule ⊢
  cases rule with
  | finish finished => cases here.symm.trans finished
  | resume finished => cases here.symm.trans finished
  | @enter _ _ next there _ onward =>
      cases here.symm.trans there
      exact ⟨next, rfl, onward⟩
  | perform performs => exact absurd fresh (performs.not_fresh here)

/-- A state with work to be done has it done next. -/
theorem move_of_performs {s : ControlState} {work : Work} (performs : s.Performs work) :
    ∃ onward, s.move = .perform work onward ∧ ∀ v, (onward v).1 = s.advance v := by
  have rule := s.move_rule
  generalize s.move = move at rule ⊢
  cases rule with
  | finish finished => exact absurd finished performs.not_finished
  | resume finished => exact absurd finished performs.not_finished
  | enter here fresh => exact absurd fresh (performs.not_fresh here)
  | perform also advances =>
      cases performs.unique also
      exact ⟨_, rfl, advances⟩

/-- An apply stage joins the result that is pending at it with the running value. -/
theorem move_of_pending {s : ControlState} {inner : Pipeline} {glue : Value → Value → Outcome}
    {child : Pointer} (here : s.current.stage? = some (.apply inner glue))
    (pending : s.pending = some child) :
    ∃ onward, s.move = .perform (.apply glue child.value s.current.pointer.value) onward ∧
      ∀ v, (onward v).1 = s.advance v :=
  move_of_performs (.apply here pending)

variable {root : Pipeline} {s : ControlState}

/-- **What is pending has an owner.** The run stands at the apply stage whose inner pipeline
was under way just before, and has finished with the result that is pending. -/
theorem Reachable.owner_of_pending (reachable : Reachable root s) {child : Pointer}
    (pending : s.pending = some child) :
    ∃ inner glue, s.current.stage? = some (.apply inner glue) ∧ child.index = inner.length ∧
      ∃ before, Reachable root before ∧ before.current = ⟨child, inner⟩ ∧
        before.suspended = s.current :: s.suspended := by
  cases reachable with
  | start => cases pending
  | @step before _ reachable leads =>
      -- Only a resumption leaves something pending; the other moves clear it.
      cases leads.onward with
      | enter here fresh => cases pending
      | advance performs v => cases pending
      | @resume f rest finished suspended =>
          cases pending
          have encloses := reachable.encloses
          rw [suspended] at encloses
          cases encloses with
          | @inner _ _ _ glue around here =>
              have ended := Frame.stage?_eq_none_iff.mp finished
              rw [Frame.isFinished, decide_eq_true_eq] at ended
              exact ⟨before.current.pipeline, glue, here,
                Nat.le_antisymm reachable.index_le ended, before, reachable, rfl, suspended⟩

/-- **Suspended pipelines nest, and results reach the stages they are for.** In every state
that a run comes to, the frames lead from the root to the current pipeline, each suspended at
the apply stage that has the next one inside; the run is nowhere past the end of a pipeline
and no deeper than apply stages nest. A result is pending only at an apply stage whose inner
pipeline has just finished with it, and the next move joins it with the running value. When a
pipeline has finished, nothing is pending, and its result goes to the apply stage around it,
where the move after that joins it with the value suspended there. -/
theorem Reachable.delivers (reachable : Reachable root s) :
    Encloses root s.suspended s.current.pipeline ∧
    s.current.pointer.index ≤ s.current.pipeline.length ∧
    s.depth ≤ root.applyNesting ∧
    (s.current.isFinished = false → ∃ stage, s.current.stage? = some stage) ∧
    (∀ child, s.pending = some child → ∃ inner glue,
      s.current.stage? = some (.apply inner glue) ∧ child.index = inner.length ∧
      (∃ before, Reachable root before ∧ before.current = ⟨child, inner⟩ ∧
        before.suspended = s.current :: s.suspended) ∧
      ∃ onward, s.move = .perform (.apply glue child.value s.current.pointer.value) onward ∧
        ∀ v, (onward v).1 = s.advance v) ∧
    (s.current.isFinished = true → s.pending = none ∧
      ∀ f rest, s.suspended = f :: rest → ∃ glue next,
        f.stage? = some (.apply s.current.pipeline glue) ∧
        s.move = .goTo next ∧ next.1 = resume f rest s.current.pointer ∧
        ∃ onward, (resume f rest s.current.pointer).move =
          .perform (.apply glue s.current.pointer.value f.pointer.value) onward) := by
  have encloses := reachable.encloses
  refine ⟨encloses, reachable.index_le, ?_, ?_, ?_, ?_⟩
  · have levels := encloses.depth_le
    rw [depth]
    omega
  · intro going
    cases here : s.current.stage? with
    | some stage => exact ⟨stage, rfl⟩
    | none =>
        rw [Frame.stage?_eq_none_iff.mp here] at going
        cases going
  · intro child pending
    obtain ⟨inner, glue, here, ended, given⟩ := reachable.owner_of_pending pending
    exact ⟨inner, glue, here, ended, given, move_of_pending here pending⟩
  · intro ended
    have finished := Frame.stage?_eq_none_iff.mpr ended
    constructor
    · cases pending : s.pending with
      | none => rfl
      | some child =>
          obtain ⟨inner, glue, here, _⟩ := reachable.owner_of_pending pending
          rw [finished] at here
          cases here
    · intro f rest suspended
      rw [suspended] at encloses
      cases encloses with
      | @inner _ _ _ glue around here =>
          obtain ⟨next, moves, leads⟩ := move_of_finished finished suspended
          obtain ⟨onward, joins, _⟩ := move_of_pending
            (s := resume f rest s.current.pointer) here rfl
          exact ⟨glue, next, here, moves, leads, onward, joins⟩

/-- The sum of `refusedSum` has its inner result, and has not been made yet. -/
def pendingSum : ControlState :=
  resume (.start refusedSum) [] ⟨0, Value.ofData (a := .int64) (41 : Int64)⟩

theorem reachable_pendingSum : Reachable refusedSum pendingSum := by
  have inside : Reachable refusedSum ((start refusedSum).enter
      (.of (Value.ofData (a := .int64) (41 : Int64)))) :=
    .step .start ⟨fun _ _ v => pure (.ok v), ⟨_, rfl⟩, rfl, rfl⟩
  exact .step inside ⟨fun _ _ v => pure (.ok v), ⟨_, rfl⟩, rfl, rfl⟩

/-- The sum is made next, of the inner result and the value of the outer pipeline. -/
theorem Reachable.delivers_pendingSum :
    Reachable refusedSum pendingSum ∧ pendingSum.depth ≤ refusedSum.applyNesting ∧
      ∃ inner glue onward, pendingSum.current.stage? = some (.apply inner glue) ∧
        pendingSum.move = .perform (.apply glue (Value.ofData (a := .int64) (41 : Int64))
          (Value.ofData (a := .int64) (1 : Int64))) onward := by
  obtain ⟨_, _, shallow, _, owned, _⟩ := Reachable.delivers reachable_pendingSum
  obtain ⟨inner, glue, here, _, _, onward, joins, _⟩ := owned _ rfl
  exact ⟨reachable_pendingSum, shallow, inner, glue, onward, here, joins⟩

end ControlState

end Conduit
