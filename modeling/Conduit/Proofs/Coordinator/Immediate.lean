import Conduit.Proofs.Coordinator.Outcomes
import Conduit.Proofs.Machine.Visits
import Conduit.Proofs.Traversal.Stages

/-! # Workers that run when they are started

When every worker goes through its task as soon as it is started, an element has its
answer by the time it is sent: the outcome of its own task
(`Conduit.Coordinator.promptDispatch`). No flag is raised before the first failure, and with
the first failure the stage ends.
-/

namespace Conduit

namespace Floor

variable {crew : Crew} {floor : Floor}

theorem Settled.advance (settled : floor.Settled) (number : Nat) :
    floor.advance crew number = floor := by
  cases here : floor.jobs[number]? with
  | none => rw [Floor.advance, here]
  | some job => exact advance_gone here (settled number job here)

theorem Settled.stride (crew : Crew) (settled : floor.Settled) :
    ∃ strides, floor.stride crew = { floor with strides := strides } := by
  have idle : ∀ (numbers : List Nat) (floor : Floor), floor.Settled →
      numbers.foldl (fun floor number => floor.advance crew number) floor = floor := by
    intro numbers
    induction numbers with
    | nil => intro floor _; rfl
    | cons number rest ih =>
        intro floor settled
        rw [List.foldl_cons, settled.advance, ih floor settled]
  unfold Floor.stride
  split
  next rest _ => exact ⟨rest, idle _ { floor with strides := rest } settled⟩
  next empty => exact ⟨floor.strides, rfl⟩

section RunJob

variable {number : Nat} {job : Job} (here : floor.jobs[number]? = some job)
include here

/-- Everybody is through when the last worker has gone through its task. -/
theorem settled_runJob (others : ∀ (other : Nat) (job : Job), number ≠ other →
      floor.jobs[other]? = some job → job.phase = .gone) :
    (floor.runJob crew number).Settled := by
  intro other last there
  rw [jobs_runJob crew here, getElem_setPhase] at there
  by_cases same : number = other
  · rw [if_pos same, ← same, here] at there
    cases there
    rfl
  · rw [if_neg same] at there
    exact others other last same there

variable (waiting : job.phase = .waiting)
include waiting

/-- A worker that has just been hired goes through its task in three moves. -/
theorem runJob_waiting :
    floor.runJob crew number =
      (((floor.inform number job).work crew number
        { job with phase := .informed (floor.isCancelled job.flag) }
        (floor.isCancelled job.flag)).part number
        { job with phase := .finished (job.program.parting crew.root job.name job.payload
          (floor.isCancelled job.flag)) }
        (job.program.parting crew.root job.name job.payload (floor.isCancelled job.flag))) := by
  have informed : (floor.inform number job).jobs[number]? =
      some { job with phase := .informed (floor.isCancelled job.flag) } := by
    rw [jobs_inform, getElem_setPhase, if_pos rfl, here]
    rfl
  rw [runJob, advance_waiting here waiting, advance_informed informed rfl]
  refine advance_finished ?_ rfl
  rw [jobs_work, getElem_setPhase, if_pos rfl, informed]
  rfl

theorem channels_runJob :
    (floor.runJob crew number).channels = floor.channels.setIfInBounds job.channel
      ((floor.channels[job.channel]?.getD .fresh).parted
        (job.program.parting crew.root job.name job.payload (floor.isCancelled job.flag))) := by
  rw [runJob_waiting here waiting, channels_part, channels_work]
  rfl

theorem flags_runJob :
    (floor.runJob crew number).flags =
      if job.program.raises crew.root job.name job.payload (floor.isCancelled job.flag) then
        (floor.cancel job.flag).flags
      else floor.flags := by
  rw [runJob_waiting here waiting, flags_part, flags_work]
  rfl

end RunJob

end Floor

namespace Coordinator

open Floor (Settled)

variable {crew : Crew} {floor : Floor}

/-- No worker is under way, and the stage with this flag has had no failure. -/
structure Quiet (flag : Nat) (floor : Floor) : Prop where
  settled : floor.Settled
  clear : floor.isCancelled flag = false

/-- When nobody is under way, asking finds what a worker has left behind. -/
theorem ask_parted (crew : Crew) (flag : Nat) (ticket : Ticket) {parting : Option String}
    (settled : floor.Settled)
    (posted : floor.channels[ticket.channel]? = some (Channel.fresh.parted parting)) :
    (ask crew flag ticket floor).1 = .now (partingOutcome ticket.name parting) ∧
      ∀ w, partingOutcome ticket.name parting = .ok w → floor.isCancelled flag = false →
        Quiet flag (ask crew flag ticket floor).2 := by
  obtain ⟨strides, strode⟩ := settled.stride crew
  obtain ⟨channels, heard, _⟩ := listen_parted { floor with strides := strides } posted
  unfold ask
  rw [strode, heard]
  refine ⟨rfl, fun w succeeds clear => ?_⟩
  rw [succeeds]
  exact ⟨settled, clear⟩

/-- A worker that goes through its task as soon as it is hired leaves its own reply behind,
and raises no flag if that is a success. -/
theorem Quiet.runJob_hire {flag : Nat} (quiet : Quiet flag floor) (crew : Crew) {job : Job}
    (waiting : job.phase = .waiting) (flagged : job.flag = flag)
    (unused : floor.channels[job.channel]? = some .fresh) :
    let next := (floor.hire job).runJob crew floor.jobs.size
    next.Settled ∧
      next.channels[job.channel]? = some (Channel.fresh.parted
        (job.program.parting crew.root job.name job.payload false)) ∧
      ∀ w, job.own crew = .ok w → next.isCancelled flag = false := by
  intro next
  have here : (floor.hire job).jobs[floor.jobs.size]? = some job := by
    rw [Floor.getElem_hire, if_pos rfl]
  have clear : (floor.hire job).isCancelled job.flag = false := by
    rw [flagged]
    exact quiet.clear
  have others : ∀ (other : Nat) (last : Job), floor.jobs.size ≠ other →
      (floor.hire job).jobs[other]? = some last → last.phase = .gone := by
    intro other last differ there
    rw [Floor.getElem_hire, if_neg (Ne.symm differ)] at there
    exact quiet.settled other last there
  refine ⟨Floor.settled_runJob here others, ?_, fun w succeeds => ?_⟩
  · have held : (floor.hire job).channels[job.channel]? = some .fresh := unused
    have inside := (Array.getElem?_eq_some_iff.mp held).1
    rw [Floor.channels_runJob here waiting, clear, held,
      Array.getElem?_setIfInBounds_self_of_lt inside]
    rfl
  · have calm : job.program.raises crew.root job.name job.payload false = false := by
      cases raises : job.program.raises crew.root job.name job.payload false with
      | false => rfl
      | true =>
          obtain ⟨e, fails⟩ := partingOutcome_raises raises
          rw [Job.own, fails] at succeeds
          cases succeeds
    rw [Floor.isCancelled, Floor.flags_runJob here waiting, clear, calm,
      if_neg Bool.false_ne_true]
    exact quiet.clear

/-- A worker hired by an immediate crew has gone through its task when the request has been
met. -/
theorem spawn_immediate (immediate : crew.immediate = true) {flag channel : Nat}
    (quiet : Quiet flag floor) (fresh : floor.channels[channel]? = some .fresh)
    (request : Request) :
    (∀ e, (floor.spawn crew request channel flag).1 = .error e →
      workerOutcome crew request = .error e) ∧
    ((floor.spawn crew request channel flag).1 = .ok () → ∃ parting,
      let next := (floor.spawn crew request channel flag).2
      next.Settled ∧ next.channels[channel]? = some (Channel.fresh.parted parting) ∧
        partingOutcome request.name parting = workerOutcome crew request ∧
          ∀ w, workerOutcome crew request = .ok w → next.isCancelled flag = false) := by
  have meets := Floor.spawn_meets crew request channel flag floor
  generalize floor.spawn crew request channel flag = spawn at meets ⊢
  unfold workerOutcome
  cases meets with
  | refused hiring =>
      rw [hiring]
      exact ⟨fun e refused => by cases refused; rfl, nofun⟩
  | forgotten hiring =>
      rw [hiring]
      refine ⟨nofun, fun _ => ⟨none, quiet.settled, ?_, rfl, nofun⟩⟩
      dsimp only
      rw [Array.getElem?_modify, if_pos rfl, fresh]
      rfl
  | @started program hiring =>
      let job : Job := ⟨request.name, request.payload, channel, flag, program, .waiting⟩
      have waiting : job.phase = .waiting := rfl
      obtain ⟨settled, posted, clear⟩ := quiet.runJob_hire crew waiting rfl fresh
      rw [hiring]
      refine ⟨nofun, fun _ =>
        ⟨program.parting crew.root request.name request.payload false, ?_⟩⟩
      dsimp only
      rw [Floor.begin_immediate immediate]
      exact ⟨settled, posted, rfl, clear⟩

/-- An element that an immediate crew is sent has its answer at once. -/
theorem send_immediate (immediate : crew.immediate = true) {flag : Nat}
    (quiet : Quiet flag floor) (path : StagePath) (position : Nat) (v : Json) :
    let outcome := treatment crew path position v
    (send crew path flag position v floor).1 = .now outcome ∧
      ∀ w, outcome = .ok w → Quiet flag (send crew path flag position v floor).2 := by
  intro outcome
  obtain ⟨strides, strode⟩ := quiet.settled.stride crew
  have opened : Quiet flag (openChannel (floor.stride crew)).2 := by
    rw [strode]
    exact ⟨quiet.settled, quiet.clear⟩
  have fresh : (openChannel (floor.stride crew)).2.channels[(openChannel
      (floor.stride crew)).1]? = some .fresh := by
    rw [getElem_openChannel, if_pos rfl]
  have spawned := spawn_immediate immediate opened fresh (crew.request path position v)
  have sends := send_sends crew path flag position v floor
  generalize send crew path flag position v floor = sent at sends ⊢
  generalize Floor.spawn crew _ _ _ _ = spawn at spawned sends
  obtain ⟨refusal, started⟩ := spawned
  cases sends with
  | refused e =>
      have fails : outcome = .error e := refusal e rfl
      rw [fails]
      exact ⟨rfl, nofun⟩
  | met =>
      obtain ⟨parting, settled, posted, own, clear⟩ := started rfl
      obtain ⟨answers, quiets⟩ := ask_parted crew flag
        ⟨(crew.request path position v).name, (openChannel (floor.stride crew)).1⟩ settled posted
      rw [own] at answers quiets
      exact ⟨answers, fun w succeeds => quiets w succeeds (clear w succeeds)⟩

/-- **An immediate crew answers at once**, each element with the outcome of its own task. -/
theorem promptDispatch (immediate : crew.immediate = true) (path : StagePath) (flag : Nat) :
    ParallelMap.PromptDispatch (dispatch crew path flag) (Quiet flag) (treatment crew path) where
  sends position v _ quiet := (send_immediate immediate quiet path position v).1
  keeps position v _ w quiet := (send_immediate immediate quiet path position v).2 w
  patient _ := rfl

theorem quiet_openFlag (crew : Crew) (settled : floor.Settled) :
    Quiet (openFlag crew floor).1 (openFlag crew floor).2 where
  settled := settled
  clear := (clear_openFlag crew floor).not_cancelled

/-- A stage of an immediate crew comes to its result. -/
theorem run_fanOut_immediate (immediate : crew.immediate = true) (settled : floor.Settled)
    (path : StagePath) (stage : ParallelMap) (container : Value) :
    ((fanOut crew path stage container).run floor).1 =
      stage.result (treatment crew path) container :=
  (stage.run_prompt (promptDispatch immediate path (openFlag crew floor).1) container
    (quiet_openFlag crew settled)).1

end Coordinator

end Conduit
