import Conduit.Coordinator.Dispatch

/-! # The moves of workers

A worker's move changes its own phase, at most its own stage's flag, and at most its own
channel (`Conduit.Floor.advance_move`). Wakes and strides are made of such moves, so what
every move keeps, they keep (`Conduit.Floor.Stable`). No move changes the tasks that
workers were hired for (`Conduit.Floor.hired_advance`). Workers come to the floor by requests,
which the spawner may meet in three ways (`Conduit.Floor.spawn_meets`).
-/

namespace Conduit

/-- What a program has to send after its work, when it found its stage's flag raised or
not. -/
def Program.parting (root : Pipeline) (name payload : String) (cancelled : Bool) :
    Program → Option String
  | .serve => Worker.replyText? (Worker.attend root name payload cancelled).result
  | .reply text => some text
  | .silent => none

/-- Whether the work of a program raises its stage's flag. -/
def Program.raises (root : Pipeline) (name payload : String) (cancelled : Bool) :
    Program → Bool
  | .serve =>
      match (Worker.attend root name payload cancelled).result with
      | .failed _ => true
      | _ => false
  | _ => false

/-- The channel after its sending side has left, with a text if it had one. -/
def Channel.parted (channel : Channel) : Option String → Channel
  | none => channel.dropSender
  | some text => (channel.send text).2

/-- The number of moves that a worker has before it. -/
def Phase.movesLeft : Phase → Nat
  | .waiting => 3
  | .informed _ => 2
  | .finished _ => 1
  | .gone => 0

theorem Phase.movesLeft_eq_zero_iff {phase : Phase} : phase.movesLeft = 0 ↔ phase = .gone := by
  cases phase <;> simp [movesLeft]

theorem Phase.movesLeft_le (phase : Phase) : phase.movesLeft ≤ 3 := by
  cases phase <;> simp [movesLeft]

/-- The job as it was when its worker was hired. -/
def Job.asHired (job : Job) : Job := { job with phase := .waiting }

namespace Floor

variable {crew : Crew} {floor : Floor}

/-- The workers as they were hired, in order. -/
def hired (floor : Floor) : List Job := floor.jobs.toList.map Job.asHired

theorem jobs_setPhase (number : Nat) (phase : Phase) :
    (floor.setPhase number phase).jobs =
      floor.jobs.modify number fun job => { job with phase := phase } := rfl

theorem getElem_setPhase (number : Nat) (phase : Phase) (other : Nat) :
    (floor.setPhase number phase).jobs[other]? =
      if number = other then floor.jobs[other]?.map fun job => { job with phase := phase }
      else floor.jobs[other]? := by
  rw [jobs_setPhase, Array.getElem?_modify]

/-- A worker may be put into the phase that it is in. -/
theorem jobs_setPhase_self {number : Nat} {job : Job} (here : floor.jobs[number]? = some job) :
    (floor.setPhase number job.phase).jobs = floor.jobs := by
  apply Array.ext_getElem?
  intro other
  rw [getElem_setPhase]
  split
  next same =>
    rw [← same, here]
    rfl
  next => rfl

/-- Only a worker's last phase is seen. -/
theorem jobs_setPhase_of_jobs {next : Floor} {number : Nat} {phase : Phase}
    (jobs : next.jobs = (floor.setPhase number phase).jobs) (last : Phase) :
    (next.setPhase number last).jobs = (floor.setPhase number last).jobs := by
  apply Array.ext_getElem?
  intro other
  rw [getElem_setPhase, getElem_setPhase, jobs, getElem_setPhase]
  split
  · cases floor.jobs[other]? <;> rfl
  · rfl

/-- The floor with one more worker, who has not moved yet. -/
def hire (floor : Floor) (job : Job) : Floor :=
  { floor.note (.spawned job.name) with jobs := floor.jobs.push job }

theorem jobs_hire (floor : Floor) (job : Job) : (floor.hire job).jobs = floor.jobs.push job :=
  rfl

theorem getElem_hire (floor : Floor) (job : Job) (number : Nat) :
    (floor.hire job).jobs[number]? =
      if number = floor.jobs.size then some job else floor.jobs[number]? := by
  rw [jobs_hire, Array.getElem?_push]

/-- A worker that has just been hired goes through its task at once if the crew is
immediate. -/
def begin (crew : Crew) (number : Nat) (floor : Floor) : Floor :=
  if crew.immediate then floor.runJob crew number else floor

theorem begin_immediate (immediate : crew.immediate = true) (number : Nat) (floor : Floor) :
    floor.begin crew number = floor.runJob crew number := if_pos immediate

/-- The ways in which a request for a worker can be met, with the answer and the floor
afterwards. -/
inductive Meets (crew : Crew) (request : Request) (channel flag : Nat) (floor : Floor) :
    Except Error Unit × Floor → Prop
  | refused {e : Error} (hiring : crew.hiring request = .error e) :
      Meets crew request channel flag floor (.error e, floor.note (.refused request.name))
  | forgotten (hiring : crew.hiring request = .ok none) :
      Meets crew request channel flag floor (.ok (), { floor.note (.spawned request.name) with
        channels := floor.channels.modify channel Channel.dropSender })
  | started {program : Program} (hiring : crew.hiring request = .ok (some program)) :
      Meets crew request channel flag floor
        (.ok (), (floor.hire ⟨request.name, request.payload, channel, flag, program,
          .waiting⟩).begin crew floor.jobs.size)

/-- A request is met in one of these ways. -/
theorem spawn_meets (crew : Crew) (request : Request) (channel flag : Nat) (floor : Floor) :
    Meets crew request channel flag floor (floor.spawn crew request channel flag) := by
  unfold spawn
  split
  next hiring => exact .refused hiring
  next hiring => exact .forgotten hiring
  next hiring => exact .started hiring

theorem jobs_inform (number : Nat) (job : Job) :
    (floor.inform number job).jobs =
      (floor.setPhase number (.informed (floor.isCancelled job.flag))).jobs := rfl

theorem jobs_work (crew : Crew) (number : Nat) (job : Job) (cancelled : Bool) :
    (floor.work crew number job cancelled).jobs =
      (floor.setPhase number
        (.finished (job.program.parting crew.root job.name job.payload cancelled))).jobs := by
  unfold work
  cases job.program <;> rfl

theorem channels_work (crew : Crew) (number : Nat) (job : Job) (cancelled : Bool) :
    (floor.work crew number job cancelled).channels = floor.channels := by
  unfold work
  cases job.program <;> rfl

theorem flags_work (crew : Crew) (number : Nat) (job : Job) (cancelled : Bool) :
    (floor.work crew number job cancelled).flags =
      if job.program.raises crew.root job.name job.payload cancelled then
        (floor.cancel job.flag).flags
      else floor.flags := by
  have idle : floor.flags.modify job.flag (fun flag => flag) = floor.flags := by
    apply Array.ext_getElem?
    intro other
    rw [Array.getElem?_modify]
    split <;> simp
  unfold work Program.raises
  cases job.program with
  | reply text => rfl
  | silent => rfl
  | serve =>
      change floor.flags.modify job.flag (fun flag => Worker.flagAfter flag
        (Worker.attend crew.root job.name job.payload cancelled).result) = _
      cases (Worker.attend crew.root job.name job.payload cancelled).result with
      | returned v => exact idle
      | failed e => rfl
      | lost => exact idle

theorem jobs_part (number : Nat) (job : Job) (parting : Option String) :
    (floor.part number job parting).jobs = (floor.setPhase number .gone).jobs := rfl

theorem flags_part (number : Nat) (job : Job) (parting : Option String) :
    (floor.part number job parting).flags = floor.flags := rfl

theorem channels_part (number : Nat) (job : Job) (parting : Option String) :
    (floor.part number job parting).channels =
      floor.channels.setIfInBounds job.channel
        ((floor.channels[job.channel]?.getD .fresh).parted parting) := by
  cases parting with
  | none => rfl
  | some text =>
      simp only [part, note, Channel.parted]
      cases ((floor.channels[job.channel]?.getD .fresh).send text) with
      | mk sent channel => cases sent <;> rfl

section Advance

variable {number : Nat} {job : Job} (here : floor.jobs[number]? = some job)
include here

theorem advance_waiting (waiting : job.phase = .waiting) :
    floor.advance crew number = floor.inform number job := by
  rw [advance, here]
  dsimp only
  rw [waiting]

theorem advance_informed {cancelled : Bool} (informed : job.phase = .informed cancelled) :
    floor.advance crew number = floor.work crew number job cancelled := by
  rw [advance, here]
  dsimp only
  rw [informed]

theorem advance_finished {parting : Option String} (finished : job.phase = .finished parting) :
    floor.advance crew number = floor.part number job parting := by
  rw [advance, here]
  dsimp only
  rw [finished]

theorem advance_gone (gone : job.phase = .gone) : floor.advance crew number = floor := by
  rw [advance, here]
  dsimp only
  rw [gone]

end Advance

/-- The ways in which a worker can move. -/
inductive Move (crew : Crew) (floor : Floor) (number : Nat) : Floor → Prop
  | idle (through : ∀ job, floor.jobs[number]? = some job → job.phase = .gone) :
      Move crew floor number floor
  | inform {job : Job} (here : floor.jobs[number]? = some job) (waiting : job.phase = .waiting) :
      Move crew floor number (floor.inform number job)
  | work {job : Job} {cancelled : Bool} (here : floor.jobs[number]? = some job)
      (informed : job.phase = .informed cancelled) :
      Move crew floor number (floor.work crew number job cancelled)
  | part {job : Job} {parting : Option String} (here : floor.jobs[number]? = some job)
      (finished : job.phase = .finished parting) :
      Move crew floor number (floor.part number job parting)

/-- A worker moves in one of these ways. -/
theorem advance_move (crew : Crew) (floor : Floor) (number : Nat) :
    Move crew floor number (floor.advance crew number) := by
  unfold advance
  split
  next nobody => exact .idle fun job here => by rw [nobody] at here; cases here
  next here =>
    split
    next waiting => exact .inform here waiting
    next informed => exact .work here informed
    next finished => exact .part here finished
    next gone => exact .idle fun other there => by rw [here] at there; cases there; exact gone

/-- A move leaves its worker with one move fewer, and the others as they are. -/
theorem jobs_advance (crew : Crew) {number : Nat} {job : Job}
    (here : floor.jobs[number]? = some job) :
    ∃ phase, (floor.advance crew number).jobs = (floor.setPhase number phase).jobs ∧
      phase.movesLeft = job.phase.movesLeft - 1 := by
  have move := advance_move crew floor number
  generalize floor.advance crew number = next at move ⊢
  cases move with
  | idle through =>
      exact ⟨job.phase, (jobs_setPhase_self here).symm, by rw [through job here]; rfl⟩
  | inform there waiting =>
      rw [here] at there
      cases there
      exact ⟨_, jobs_inform _ _, by rw [waiting]; rfl⟩
  | work there informed =>
      rw [here] at there
      cases there
      exact ⟨_, jobs_work _ _ _ _, by rw [informed]; rfl⟩
  | part there finished =>
      rw [here] at there
      cases there
      exact ⟨_, jobs_part _ _ _, by rw [finished]; rfl⟩

/-- A worker that has all its turns at once is through with its task. -/
theorem jobs_runJob (crew : Crew) {number : Nat} {job : Job}
    (here : floor.jobs[number]? = some job) :
    (floor.runJob crew number).jobs = (floor.setPhase number .gone).jobs := by
  obtain ⟨one, first, fewer⟩ := jobs_advance crew here
  have there : (floor.advance crew number).jobs[number]? = some { job with phase := one } := by
    rw [first, getElem_setPhase, if_pos rfl, here]
    rfl
  obtain ⟨two, second, fewer'⟩ := jobs_advance crew there
  have second := second.trans (jobs_setPhase_of_jobs first two)
  have last : ((floor.advance crew number).advance crew number).jobs[number]? =
      some { job with phase := two } := by
    rw [second, getElem_setPhase, if_pos rfl, here]
    rfl
  obtain ⟨three, third, fewer''⟩ := jobs_advance crew last
  have most := job.phase.movesLeft_le
  obtain rfl : three = .gone := by
    rw [← Phase.movesLeft_eq_zero_iff]
    dsimp only at fewer' fewer''
    omega
  exact third.trans (jobs_setPhase_of_jobs second .gone)

/-- All workers are through with their tasks. -/
def Settled (floor : Floor) : Prop :=
  ∀ (number : Nat) (job : Job), floor.jobs[number]? = some job → job.phase = .gone

/-- A flag is raised, or lets itself be raised. -/
def isArmed (floor : Floor) (flag : Nat) : Bool :=
  floor.flags[flag]?.any fun flag => flag.raised || flag.enabled

/-- A flag is as the policy of the crew has it at first. -/
def Clear (crew : Crew) (flag : Nat) (floor : Floor) : Prop :=
  floor.flags[flag]? = some (.ofPolicy crew.config.cancellation)

theorem isCancelled_cancel (floor : Floor) (flag : Nat) :
    (floor.cancel flag).isCancelled flag = floor.isArmed flag := by
  rw [isCancelled, isArmed, cancel, Array.getElem?_modify, if_pos rfl]
  cases floor.flags[flag]? <;> rfl

theorem isCancelled_cancel_ne (floor : Floor) {other flag : Nat} (differ : other ≠ flag) :
    (floor.cancel other).isCancelled flag = floor.isCancelled flag := by
  rw [isCancelled, isCancelled, cancel, Array.getElem?_modify, if_neg differ]

theorem isArmed_cancel (floor : Floor) (other flag : Nat) :
    (floor.cancel other).isArmed flag = floor.isArmed flag := by
  rw [isArmed, isArmed, cancel, Array.getElem?_modify]
  split
  · cases floor.flags[flag]? with
    | none => rfl
    | some flag => simp [CancelFlag.cancel]
  · rfl

theorem isArmed_of_isCancelled {flag : Nat} (raised : floor.isCancelled flag = true) :
    floor.isArmed flag = true := by
  rw [isCancelled] at raised
  rw [isArmed]
  cases there : floor.flags[flag]? with
  | none => rw [there] at raised; cases raised
  | some held =>
      rw [there] at raised
      obtain ⟨up, enabled⟩ := held
      obtain rfl : up = true := raised
      rfl

/-- A raised flag stays raised when flags are raised. -/
theorem isCancelled_of_cancel {flag : Nat} (raised : floor.isCancelled flag = true)
    (other : Nat) : (floor.cancel other).isCancelled flag = true := by
  by_cases same : other = flag
  · rw [same, isCancelled_cancel]
    exact isArmed_of_isCancelled raised
  · rwa [isCancelled_cancel_ne floor same]

/-- A clear flag is not raised. -/
theorem Clear.not_cancelled {flag : Nat} (clear : floor.Clear crew flag) :
    floor.isCancelled flag = false := by
  rw [isCancelled, clear]
  rfl

/-- A property that the moves of workers keep, and that does not depend on who moves
next. -/
structure Stable (crew : Crew) (kept : Floor → Prop) : Prop where
  advance : ∀ floor number, kept floor → kept (floor.advance crew number)
  schedule : ∀ floor schedule, kept floor → kept { floor with schedule := schedule }
  strides : ∀ floor strides, kept floor → kept { floor with strides := strides }

namespace Stable

variable {kept : Floor → Prop} (stable : Stable crew kept)
include stable

theorem runJob (number : Nat) (start : kept floor) : kept (floor.runJob crew number) :=
  stable.advance _ _ (stable.advance _ _ (stable.advance _ _ start))

theorem begin (number : Nat) (start : kept floor) : kept (floor.begin crew number) := by
  unfold Floor.begin
  split
  · exact stable.runJob number start
  · exact start

theorem runJobs (numbers : List Nat) (start : kept floor) :
    kept (floor.runJobs crew numbers) := by
  induction numbers generalizing floor with
  | nil => exact start
  | cons number rest ih => exact ih (stable.runJob number start)

theorem wake (start : kept floor) : kept (floor.wake crew) := by
  unfold Floor.wake
  split
  · exact stable.runJobs _ (stable.schedule floor _ start)
  · split
    · exact stable.runJob _ start
    · exact start

theorem advances (numbers : List Nat) (start : kept floor) :
    kept (numbers.foldl (fun floor number => floor.advance crew number) floor) := by
  induction numbers generalizing floor with
  | nil => exact start
  | cons number rest ih => exact ih (stable.advance _ number start)

theorem stride (start : kept floor) : kept (floor.stride crew) := by
  unfold Floor.stride
  split
  · exact stable.advances _ (stable.strides floor _ start)
  · exact start

end Stable

end Floor

namespace Coordinator

theorem getElem_openChannel (floor : Floor) (channel : Nat) :
    (openChannel floor).2.channels[channel]? =
      if channel = (openChannel floor).1 then some .fresh else floor.channels[channel]? :=
  Array.getElem?_push

/-- A flag that has been opened is clear. -/
theorem clear_openFlag (crew : Crew) (floor : Floor) :
    (openFlag crew floor).2.Clear crew (openFlag crew floor).1 :=
  Array.getElem?_push_size

/-- A stage is carried out by its elements' workers, under a flag of its own. -/
theorem fanOut_eq_run (crew : Crew) (path : StagePath) (stage : ParallelMap) (container : Value)
    (floor : Floor) :
    (fanOut crew path stage container).run floor =
      (stage.run (dispatch crew path (openFlag crew floor).1) container).run
        (openFlag crew floor).2 := rfl

/-- What comes of sending an element, by what the request for its worker has come to. -/
inductive Sends (crew : Crew) (flag : Nat) (ticket : Ticket) :
    Except Error Unit × Floor → Answer Ticket Error Json × Floor → Prop
  | refused (e : Error) (next : Floor) :
      Sends crew flag ticket (.error e, next) (.now (.error e), settle flag (.error e) next)
  | met (next : Floor) : Sends crew flag ticket (.ok (), next) (ask crew flag ticket next)

/-- An element is sent by a request for a worker with a new channel. -/
theorem send_sends (crew : Crew) (path : StagePath) (flag position : Nat) (v : Json)
    (floor : Floor) :
    Sends crew flag
      ⟨(crew.request path position v).name, (openChannel (floor.stride crew)).1⟩
      ((openChannel (floor.stride crew)).2.spawn crew (crew.request path position v)
        (openChannel (floor.stride crew)).1 flag)
      (send crew path flag position v floor) := by
  unfold send
  dsimp only
  generalize Floor.spawn crew _ _ _ _ = spawn
  obtain ⟨answer, next⟩ := spawn
  cases answer with
  | error e => exact .refused e next
  | ok _ => exact .met next

theorem listen_frame (ticket : Ticket) (floor : Floor) :
    ∃ channels, (listen ticket floor).2 = { floor with channels := channels } := by
  unfold listen
  split
  split <;> exact ⟨_, rfl⟩

theorem settle_frame (flag : Nat) (outcome : Except Error Json) (floor : Floor) :
    ∃ flags, settle flag outcome floor = { floor with flags := flags } := by
  cases outcome <;> exact ⟨_, rfl⟩

/-- Asking about an element changes channels and flags, apart from what workers do in
between. -/
theorem ask_frame (crew : Crew) (flag : Nat) (ticket : Ticket) (floor : Floor) :
    ∃ flags channels, (ask crew flag ticket floor).2 =
      { floor.stride crew with flags := flags, channels := channels } := by
  obtain ⟨channels, listened⟩ := listen_frame ticket (floor.stride crew)
  unfold ask
  generalize listen ticket (floor.stride crew) = heard at listened ⊢
  obtain ⟨answer, next⟩ := heard
  cases answer with
  | none => exact ⟨_, channels, listened⟩
  | some outcome =>
      obtain ⟨flags, settled⟩ := settle_frame flag outcome next
      refine ⟨flags, channels, settled.trans ?_⟩
      rw [show next = _ from listened]

end Coordinator

end Conduit
