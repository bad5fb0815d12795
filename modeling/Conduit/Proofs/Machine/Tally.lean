import Conduit.Proofs.Machine.Delivery
import Conduit.Proofs.Machine.Visits
import Mathlib.Algebra.GroupWithZero.Nat

/-! # The number of steps of a run

A run can be made with the calls of its step counted
(`Conduit.ControlState.runTallied`). It makes as many calls as moves remain if it succeeds,
and fewer if it fails: what remains gets smaller by one with every step, comes to one just
where the run ends, and is above one wherever a stage still has to do its work
(`Conduit.ControlState.run_tallied_spends`). At the start of a pipeline the number is read
off its stages (`Conduit.Pipeline.executes_in_moves`).
-/

namespace Conduit

section Trampoline

variable {m : Type → Type} [Monad m] {σ ε ρ : Type} (size : σ → Nat)
  (step : (s : σ) → m (Except ε (Step {t : σ // size t < size s} ρ)))

/-- A step with its calls counted. -/
def tallied (s : σ) : StateT Nat m (Except ε (Step {t : σ // size t < size s} ρ)) :=
  fun calls => do return (← step s, calls + 1)

/-- A repeated step adds its own call to those before, and the repetition goes on with
these. -/
theorem run_trampoline_tallied [LawfulMonad m] (s : σ) (calls : Nat) :
    (trampoline size (tallied size step) s).run calls = (step s >>= fun outcome =>
      match outcome with
      | .error e => pure (.error e, calls + 1)
      | .ok (.done result) => pure (.ok result, calls + 1)
      | .ok (.next t) => (trampoline size (tallied size step) t.1).run (calls + 1)) := by
  rw [trampoline_eq_step, StateT.run_bind]
  change (do return (← step s, calls + 1)) >>= _ = _
  rw [bind_assoc]
  congr
  funext outcome
  rw [pure_bind]
  match outcome with
  | .error _ => rfl
  | .ok (.done _) => rfl
  | .ok (.next _) => rfl

end Trampoline

/-- A run that may make this many steps has made all of them if it succeeded; if it failed,
it has made some and not all. -/
inductive Spends (moves : Nat) : Except Error Value → Nat → Prop
  | completed (v : Value) : Spends moves (.ok v) moves
  | failed {e : Error} {calls : Nat} (some : 0 < calls) (fewer : calls < moves) :
      Spends moves (.error e) calls

theorem Spends.onward {moves more calls : Nat} {outcome : Except Error Value}
    (spends : Spends moves outcome calls) (one_more : moves + 1 = more) :
    Spends more outcome (calls + 1) := by
  subst one_more
  cases spends with
  | completed v => exact .completed v
  | failed some fewer => exact .failed (Nat.succ_pos _) (Nat.succ_lt_succ fewer)

theorem Pipeline.moves_eq (p : Pipeline) : p.moves = 1 + (p.stages.map Stage.moves).sum := by
  obtain ⟨initial, stages⟩ := p
  have total (stages : List Stage) : movesOf stages = (stages.map Stage.moves).sum := by
    induction stages with
    | nil => rw [movesOf]; rfl
    | cons stage rest ih => rw [movesOf, ih, List.map_cons, List.sum_cons]
  rw [Pipeline.moves, total, Nat.add_comm]

namespace ControlState

theorem Successor.one_lt_remaining {s : ControlState} (next : s.Successor) :
    1 < s.remaining := by
  have left := next.1.remaining_pos
  have one_fewer := next.2
  omega

/-- One move is left just where the run is to end. -/
theorem remaining_eq_one_iff {s : ControlState} :
    s.remaining = 1 ↔ ∃ v, s.move = .finish v := by
  have rule := s.move_rule
  generalize s.move = move at rule ⊢
  cases rule with
  | finish finished outermost =>
      have last : s.remaining = 1 := by
        have none_ahead := Frame.ahead_eq_nil finished
        cases pending : s.pending <;>
          simp [remaining, pending, outermost, movesSuspended, Frame.moves, Frame.movesResumed,
            none_ahead, movesOf, movesOfResumed]
      exact ⟨fun _ => ⟨_, rfl⟩, fun _ => last⟩
  | @resume _ _ next _ _ _ =>
      have more := next.one_lt_remaining
      refine ⟨fun last => by omega, ?_⟩
      rintro ⟨_, ⟨⟩⟩
  | @enter _ _ next _ _ _ =>
      have more := next.one_lt_remaining
      refine ⟨fun last => by omega, ?_⟩
      rintro ⟨_, ⟨⟩⟩
  | @perform _ onward _ _ =>
      have more := (onward s.current.pointer.value).one_lt_remaining
      refine ⟨fun last => by omega, ?_⟩
      rintro ⟨_, ⟨⟩⟩

section Tallied

variable {m : Type → Type} [Monad m] [MonadLiftT (Traced Call) m]

/-- The run from a state, with the calls of its step counted. -/
def runTallied (fanOut : FanOut m) (s : ControlState) : StateT Nat m (Except Error Value) :=
  trampoline remaining (tallied remaining (shrinkingStep fanOut)) s

end Tallied

variable {σ : Type} [MonadLiftT (Traced Call) (StateM σ)] (fanOut : FanOut (StateM σ))

/-- A counted run makes one step, counts it, and goes on from where it leads. -/
theorem run_runTallied (s : ControlState) (calls : Nat) (a : σ) :
    ((s.runTallied fanOut).run calls).run a = (match (s.step fanOut).run a with
      | (.error e, b) => ((.error e, calls + 1), b)
      | (.ok (.done v), b) => ((.ok v, calls + 1), b)
      | (.ok (.next t), b) => ((t.1.runTallied fanOut).run (calls + 1)).run b) := by
  rw [runTallied, run_trampoline_tallied, shrinkingStep, bind_assoc, StateT.run_bind]
  cases (s.step fanOut).run a with
  | mk outcome b =>
    cases outcome with
    | error e => rfl
    | ok step => cases step <;> rfl

variable {fanOut}

/-- A step that is done was the last move. -/
theorem remaining_of_done {s : ControlState} {a b : σ} {v : Value}
    (steps : (s.step fanOut).run a = (.ok (.done v), b)) : s.remaining = 1 := by
  rw [run_step] at steps
  refine remaining_eq_one_iff.mpr ?_
  generalize s.move = move at steps ⊢
  cases move with
  | finish result => exact ⟨result, rfl⟩
  | goTo next => cases steps
  | perform work onward =>
      dsimp only at steps
      generalize (work.perform fanOut).run a = outcome at steps
      obtain ⟨result, c⟩ := outcome
      cases result <;> cases steps

/-- A step that fails was not the last move. -/
theorem remaining_of_failed {s : ControlState} {a b : σ} {e : Error}
    (steps : (s.step fanOut).run a = (.error e, b)) : 1 < s.remaining := by
  have some_left := s.remaining_pos
  have not_last : s.remaining ≠ 1 := by
    intro last
    obtain ⟨v, finishes⟩ := remaining_eq_one_iff.mp last
    rw [run_step, finishes] at steps
    cases steps
  omega

variable (fanOut)

/-- **Counting changes nothing about a run**, and the calls it counts are as many as moves
remain, or fewer if it fails. -/
theorem run_tallied_spends (calls : Nat) (s : ControlState) (a : σ) :
    ∃ made, ((s.runTallied fanOut).run calls).run a =
        ((((s.run fanOut).run a).1, calls + made), ((s.run fanOut).run a).2) ∧
      Spends s.remaining ((s.run fanOut).run a).1 made := by
  induction s using successor_induction generalizing calls a with
  | step s ih =>
      rw [run_runTallied, run_run]
      cases steps : (s.step fanOut).run a with
      | mk outcome b =>
        cases outcome with
        | error e => exact ⟨1, rfl, .failed Nat.one_pos (remaining_of_failed steps)⟩
        | ok step =>
            cases step with
            | done v =>
                dsimp only
                rw [remaining_of_done steps]
                exact ⟨1, rfl, .completed v⟩
            | next t =>
                obtain ⟨made, counts, spends⟩ := ih t (calls + 1) b
                refine ⟨made + 1, ?_, spends.onward t.2⟩
                dsimp only
                rw [counts, Nat.add_right_comm, Nat.add_assoc]

end ControlState

/-- Runs a pipeline, with the calls of its step counted. -/
def Pipeline.executeTallied {m : Type → Type} [Monad m] [MonadLiftT (Traced Call) m]
    (fanOut : FanOut m) (p : Pipeline) : StateT Nat m (Except Error Value) :=
  (ControlState.start p).runTallied fanOut

/-- **The number of steps is in the pipeline.** Whatever the fan-out answers, a run that
succeeds makes one step for each transform and each parallel stage, two and those of the inner
pipeline for each apply stage, and one more that ends it; a run that fails makes fewer. The
moves that remain are as many at the start. In every state that a run can come to, each step
onward leaves exactly one fewer, and one is left just where the run ends. -/
theorem Pipeline.executes_in_moves {σ : Type} [MonadLiftT (Traced Call) (StateM σ)]
    (fanOut : FanOut (StateM σ)) (p : Pipeline) :
    p.moves = 1 + (p.stages.map Stage.moves).sum ∧
    (∀ a, ∃ calls, ((p.executeTallied fanOut).run 0).run a =
        ((((p.execute fanOut).run a).1, calls), ((p.execute fanOut).run a).2) ∧
      Spends p.moves ((p.execute fanOut).run a).1 calls) ∧
    (ControlState.start p).remaining = p.moves ∧
    ∀ s, ControlState.Reachable p s →
      (∀ t, s.Leads t → t.remaining + 1 = s.remaining) ∧
      (s.remaining = 1 ↔ ∃ v, s.move = .finish v) := by
  have at_start : (ControlState.start p).remaining = p.moves := ControlState.moves_start p
  refine ⟨p.moves_eq, ?_, at_start, ?_⟩
  · intro a
    obtain ⟨calls, counts, spends⟩ := ControlState.run_tallied_spends fanOut 0 (.start p) a
    rw [Nat.zero_add] at counts
    exact ⟨calls, counts, at_start ▸ spends⟩
  · intro s _
    refine ⟨?_, ControlState.remaining_eq_one_iff⟩
    rintro _ ⟨_, next, _, rfl⟩
    exact next.2

/-- A run of `refusedSum` fails before its fifth step; two moves are left when its sum is
made. -/
theorem Pipeline.executes_in_moves_refusedSum :
    refusedSum.moves = 5 ∧
    (∃ calls, (((refusedSum.executeTallied fun _ _ v =>
        (pure (.ok v) : StateM (Array Call) _)).run 0).run #[]).1 =
      (.error (.stage .transform 1 (.raised "42 is refused")), calls) ∧ calls < 5) ∧
    ControlState.Reachable refusedSum ControlState.pendingSum ∧
    ∀ t, ControlState.pendingSum.Leads t → t.remaining = 2 := by
  obtain ⟨total, spends, _, onward⟩ := Pipeline.executes_in_moves
    (fun _ _ v => (pure (.ok v) : StateM (Array Call) _)) refusedSum
  have reachable := ControlState.reachable_pendingSum
  refine ⟨total.trans rfl, ?_, reachable, fun t leads => ?_⟩
  · obtain ⟨calls, counts, within_moves⟩ := spends #[]
    refine ⟨calls, (congrArg Prod.fst counts).trans rfl, ?_⟩
    cases within_moves with
    | failed _ fewer => exact fewer
  · have fewer := (onward _ reachable).1 t leads
    exact Nat.succ.inj (fewer.trans rfl)

end Conduit
