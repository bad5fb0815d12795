import Conduit.Proofs.Coordinator.Ports
import Conduit.Proofs.Machine.Visits
import Conduit.Proofs.Traversal.Stages

/-! # Runs tell stories

Whatever course a run takes, what happens on its floor is a story of the deeds of its workers
(`Conduit.Coordinator.told_executeAll`), and in the end all of them have gone through their
tasks (`Conduit.Coordinator.settled_executeAll`). So what every story says of workers, flags
and replies is true of every run (`Conduit.Coordinator.replies_once`).
-/

namespace Conduit

section Run

variable {σ : Type} [MonadLiftT (Traced Call) (StateM σ)] {fanOut : FanOut (StateM σ)}

/-- What every step keeps of the shared state, a run keeps. -/
theorem ControlState.run_keeps {kept : σ → Prop}
    (keeps : ∀ (s : ControlState) (a : σ), kept a → kept ((s.step fanOut).run a).2)
    (s : ControlState) (a : σ) (start : kept a) : kept ((s.run fanOut).run a).2 := by
  induction s using successor_induction generalizing a with
  | step s ih =>
      have steps := keeps s a start
      rw [run_run]
      generalize (s.step fanOut).run a = outcome at steps ⊢
      match outcome, steps with
      | (.error _, _), steps => exact steps
      | (.ok (.done _), _), steps => exact steps
      | (.ok (.next t), b), steps => exact ih t b steps

end Run

namespace Floor

variable {crew : Crew} {floor : Floor}

/-- When all workers that are left get their turns, all of them go through their tasks. -/
theorem settled_runJobs : ∀ (numbers : List Nat) (floor : Floor),
    (∀ (number : Nat) (job : Job), floor.jobs[number]? = some job →
      job.phase = .gone ∨ number ∈ numbers) →
    (floor.runJobs crew numbers).Settled
  | [], floor, through => fun number job here => (through number job here).resolve_right nofun
  | number :: rest, floor, through => by
      refine settled_runJobs rest (floor.runJob crew number) fun other job there => ?_
      cases here : floor.jobs[number]? with
      | none =>
          have idle : floor.advance crew number = floor := by rw [advance, here]
          rw [runJob, idle, idle, idle] at there
          refine (through other job there).imp_right fun member => ?_
          refine (List.mem_cons.mp member).resolve_left fun same => ?_
          rw [same, here] at there
          cases there
      | some own =>
          rw [jobs_runJob crew here, getElem_setPhase] at there
          split at there
          next same =>
            rw [← same, here] at there
            cases there
            exact .inl rfl
          next differ =>
            refine (through other job there).imp_right fun member => ?_
            exact (List.mem_cons.mp member).resolve_left (Ne.symm differ)

end Floor

namespace Coordinator

section Tends

variable {floor : Floor}

/-- Listening takes at most a text out of a channel. -/
theorem tends_listen (ticket : Ticket) (floor : Floor) : Tends floor (listen ticket floor).2 := by
  intro number job here held there
  obtain ⟨channels, listened, heard⟩ : ∃ channels,
      (listen ticket floor).2 = { floor with channels := channels } ∧
        channels = floor.channels.setIfInBounds ticket.channel
          (floor.channels[ticket.channel]?.getD .fresh).receive.2 := by
    unfold listen
    split
    next arrival channel received =>
      rw [received]
      split <;> exact ⟨_, rfl, rfl⟩
  rw [listened]
  dsimp only
  by_cases same : ticket.channel = job.channel
  · have inside := (Array.getElem?_eq_some_iff.mp there).1
    rw [heard, same, there, Array.getElem?_setIfInBounds_self_of_lt inside]
    exact ⟨_, rfl, tended_receive held⟩
  · rw [heard, Array.getElem?_setIfInBounds_ne same]
    exact ⟨held, there, .refl held⟩

/-- Opening a channel leaves those of workers alone. -/
theorem tends_openChannel (floor : Floor) : Tends floor (openChannel floor).2 := by
  intro number job here held there
  refine ⟨held, ?_, .refl held⟩
  rw [getElem_openChannel, if_neg (Custody.channel_ne_new there)]
  exact there

/-- Forgetting a worker leaves the channels of others alone. -/
theorem tends_forget {channel : Nat} {next : Floor}
    (unclaimed : ∀ (number : Nat) (job : Job), floor.jobs[number]? = some job →
      job.channel ≠ channel)
    (channels : next.channels = floor.channels.modify channel Channel.dropSender) :
    Tends floor next := by
  intro number job here held there
  refine ⟨held, ?_, .refl held⟩
  rw [channels, Array.getElem?_modify, if_neg (unclaimed number job here).symm]
  exact there

/-- The coordinator may leave all channels at once. -/
theorem tends_leave {next : Floor}
    (channels : next.channels = floor.channels.map Channel.dropReceiver) : Tends floor next := by
  intro number job here held there
  refine ⟨held.dropReceiver, ?_, tended_dropReceiver held⟩
  rw [channels, Array.getElem?_map, there]
  rfl

end Tends

/-- There is a story that leads to the floor. -/
def Told (crew : Crew) (opening floor : Floor) : Prop := ∃ log, Story crew opening log floor

namespace Told

variable {crew : Crew} {opening floor next : Floor}

theorem coordinates (told : Told crew opening floor) (jobs : next.jobs = floor.jobs)
    (flags : next.flags = floor.flags) (tends : Tends floor next) : Told crew opening next :=
  told.imp fun _ story => story.coordinates jobs flags tends

/-- What is told is kept by all that touches neither workers, nor flags, nor channels. -/
theorem congr (told : Told crew opening floor) (jobs : next.jobs = floor.jobs)
    (flags : next.flags = floor.flags) (channels : next.channels = floor.channels) :
    Told crew opening next :=
  told.coordinates jobs flags (tends_of_channels channels)

theorem settle (told : Told crew opening floor) (flag : Nat) (outcome : Except Error Json) :
    Told crew opening (Coordinator.settle flag outcome floor) :=
  let ⟨_, story⟩ := told
  ⟨_, story.settles flag outcome⟩

/-- Moves of workers are told. -/
theorem stable (crew : Crew) (opening : Floor) : Floor.Stable crew (Told crew opening) where
  advance floor number := by
    rintro ⟨log, story⟩
    rcases does_of_advance crew floor number with idle | ⟨deed, does⟩
    · rw [idle]
      exact ⟨log, story⟩
    · exact ⟨_, story.moves does⟩
  schedule _ _ told := told.congr rfl rfl rfl
  strides _ _ told := told.congr rfl rfl rfl

theorem ask (told : Told crew opening floor) (flag : Nat) (ticket : Ticket) :
    Told crew opening (Coordinator.ask crew flag ticket floor).2 := by
  have strided := (stable crew opening).stride told
  obtain ⟨channels, listened⟩ := listen_frame ticket (floor.stride crew)
  have heard : Told crew opening (listen ticket (floor.stride crew)).2 :=
    strided.coordinates (by rw [listened]) (by rw [listened]) (tends_listen ticket _)
  unfold Coordinator.ask
  generalize listen ticket (floor.stride crew) = result at heard ⊢
  obtain ⟨answer, after⟩ := result
  cases answer with
  | none => exact heard
  | some outcome => exact heard.settle flag outcome

/-- A request for a worker with a fresh channel that is nobody else's is told. -/
theorem spawn (told : Told crew opening floor) (request : Request) {channel : Nat} (flag : Nat)
    (fresh : floor.channels[channel]? = some .fresh)
    (unclaimed : ∀ (number : Nat) (job : Job), floor.jobs[number]? = some job →
      job.channel ≠ channel) :
    Told crew opening (floor.spawn crew request channel flag).2 := by
  have meets := Floor.spawn_meets crew request channel flag floor
  generalize floor.spawn crew request channel flag = spawn at meets ⊢
  cases meets with
  | refused => exact told.congr rfl rfl rfl
  | forgotten => exact told.coordinates rfl rfl (tends_forget unclaimed rfl)
  | @started program hiring =>
      have hired : Told crew opening
          (floor.hire ⟨request.name, request.payload, channel, flag, program, .waiting⟩) :=
        told.imp fun _ story => story.hires rfl fresh unclaimed
      exact (stable crew opening).begin _ hired

section Run

variable (nobody : opening.jobs = #[])
include nobody

/-- A channel that is opened is nobody's. -/
theorem unclaimed (told : Told crew opening floor) (number : Nat) (job : Job)
    (here : (openChannel floor).2.jobs[number]? = some job) :
    job.channel ≠ (openChannel floor).1 := by
  obtain ⟨_, story⟩ := told
  exact Nat.ne_of_lt ((story.ported nobody).channel_lt here)

theorem send (told : Told crew opening floor) (path : StagePath) (flag position : Nat)
    (v : Json) : Told crew opening (Coordinator.send crew path flag position v floor).2 := by
  have strided := (stable crew opening).stride told
  have opened : Told crew opening (openChannel (floor.stride crew)).2 :=
    strided.coordinates rfl rfl (tends_openChannel _)
  have spawned := opened.spawn (crew.request path position v) flag
    (by rw [getElem_openChannel, if_pos rfl]) (strided.unclaimed nobody)
  have sends := send_sends crew path flag position v floor
  generalize Coordinator.send crew path flag position v floor = sent at sends ⊢
  generalize Floor.spawn crew _ _ _ _ = spawn at spawned sends
  cases sends with
  | refused e => exact spawned.settle flag (.error e)
  | met => exact spawned.ask flag _

/-- What happens while a stage is carried out is told. -/
theorem fanOut (told : Told crew opening floor) (path : StagePath) (stage : ParallelMap)
    (container : Value) :
    Told crew opening ((Coordinator.fanOut crew path stage container).run floor).2 := by
  have opened : Told crew opening (openFlag crew floor).2 :=
    told.imp fun _ story => story.opensFlag
  rw [fanOut_eq_run]
  generalize (openFlag crew floor).2 = start at opened ⊢
  rw [ParallelMap.run_run]
  cases container.downcast (.data (stage.shape.container stage.input)) with
  | error e => exact opened
  | ok source =>
      have keeps : (stage.asking (dispatch crew path (openFlag crew floor).1)).Keeps
          fun _ t => Told crew opening t :=
        { ask := fun _ ticket _ _ told => told.ask _ ticket
          wake := fun _ _ told => (stable crew opening).wake told }
      refine (keeps.gather ?_ (fun _ _ told => told) opened).state
      rintro before ⟨x, position⟩ t _ told
      dsimp only
      rw [ParallelMap.run_start]
      cases stage.input.encode x with
      | error fault => exact told
      | ok v => exact told.send nobody path _ position v

theorem step (told : Told crew opening floor) (s : ControlState) :
    Told crew opening ((s.step (Coordinator.fanOut crew)).run floor).2 := by
  rw [ControlState.run_step]
  have rule := s.move_rule
  generalize s.move = move at rule ⊢
  cases rule with
  | finish => exact told
  | resume => exact told
  | enter => exact told
  | @perform work onward performs advances =>
      have worked : Told crew opening ((work.perform (Coordinator.fanOut crew)).run floor).2 := by
        cases performs with
        | transform => exact told.congr rfl rfl rfl
        | apply => exact told.congr rfl rfl rfl
        | @parallelMap stage here => exact told.fanOut nobody s.path stage s.current.pointer.value
      dsimp only
      generalize (work.perform (Coordinator.fanOut crew)).run floor = outcome at worked ⊢
      obtain ⟨result, after⟩ := outcome
      cases result <;> exact worked

end Run

theorem close (told : Told crew opening floor) : Told crew opening (floor.close crew) :=
  (stable crew opening).runJobs _ (told.coordinates rfl rfl (tends_leave rfl))

end Told

/-- **Every run tells a story**, workers that are left at its end included. -/
theorem told_executeAll (crew : Crew) {opening : Floor} (nobody : opening.jobs = #[]) :
    Told crew opening (executeAll crew opening).2 := by
  have run : Told crew opening ((execute crew).run opening).2 :=
    ControlState.run_keeps (fun s _ told => told.step nobody s) (.start crew.root) opening
      ⟨[], .opens⟩
  exact run.close

/-- In the end all workers have gone through their tasks. -/
theorem settled_executeAll (crew : Crew) (opening : Floor) :
    (executeAll crew opening).2.Settled := by
  refine Floor.settled_runJobs _ _ fun number job here => .inr ?_
  exact List.mem_range.mpr (Array.getElem?_eq_some_iff.mp here).1

/-- The floor on which a run begins, with a plan for the moves of workers. -/
def opening (schedule strides : List (List Nat)) : Floor :=
  { schedule := schedule, strides := strides }

/-- **Every worker that serves replies once.** Take any crew and any plan for the moves of its
workers. Its run tells a story, by the end of which every worker has gone through its task.
And in every story of the floor, which may put the moves of workers and coordinator in any
other order,

* what a worker has done is the beginning of its service, in which it has found its flag raised
  only under best effort;
* when it is through, it has handed one reply to its port, unless the function of its element
  takes it down;
* without cancellation it has then called this function once, if its payload leads to an
  element;
* every worker has a port to a channel of its own, through which nothing comes but what it
  hands to this port;
* a flag is raised only after a failure of its own stage was told, and stays raised;
* a deed of a worker makes of its own channel what the deed says, and leaves the others alone:
  a reply that is handed is in the channel, or refused because the coordinator has left. The
  calls that are told are those that are written down. -/
theorem replies_once (crew : Crew) (schedule strides : List (List Nat)) :
    (Told crew (opening schedule strides) (executeAll crew (opening schedule strides)).2 ∧
      (executeAll crew (opening schedule strides)).2.Settled) ∧
    ∀ log floor, Story crew (opening schedule strides) log floor →
      (∀ (number : Nat) (job : Job), floor.jobs[number]? = some job → job.program = .serve →
        (∃ cancelled all, Serves crew job.payload job.name cancelled all ∧
          (cancelled = true → crew.config.cancellation = .bestEffort) ∧
          deedsOf number log = all.take (3 - job.phase.movesLeft)) ∧
        (job.phase = .gone →
          (∀ (stage : ParallelMap) (v : Json) (x : stage.input.Carrier),
            Carries crew job.payload stage v x →
              (stage.element job.name x).result.ending ≠ .lost) →
          ∃ text taken, (deedsOf number log).filter Deed.isReply = [.handed text taken] ∧
            Taken taken) ∧
        (job.phase = .gone → crew.config.cancellation = .none →
          ∀ (stage : ParallelMap) (v : Json) (x : stage.input.Carrier),
            Carries crew job.payload stage v x →
              (deedsOf number log).flatMap Deed.calls = (stage.element job.name x).events)) ∧
      (∀ (number : Nat) (job : Job), floor.jobs[number]? = some job →
        ∃ held, floor.channels[job.channel]? = some held ∧ Port log number job held ∧
          ∀ (other : Nat) (job' : Job), floor.jobs[other]? = some job' →
            job'.channel = job.channel → other = number) ∧
      (∀ flag, floor.isCancelled flag = true →
        (∃ entry ∈ log, Alarms floor flag entry) ∧
          ∀ more next, Story crew floor more next → next.isCancelled flag = true) ∧
      ∀ number deed next, Does crew floor number deed next →
        (∃ job held after, floor.jobs[number]? = some job ∧
          floor.channels[job.channel]? = some held ∧
          next.channels[job.channel]? = some after ∧ OnPort held deed after ∧
          ∀ other, other ≠ job.channel → next.channels[other]? = floor.channels[other]?) ∧
        next.calls = deed.calls.foldl Array.push floor.calls := by
  refine ⟨⟨told_executeAll _ rfl, settled_executeAll _ _⟩, fun log floor story => ?_⟩
  have chronicle := story.chronicle rfl rfl
  have ported := story.ported rfl
  refine ⟨fun number job here serves => ?_, fun number job here => ?_, fun flag raised => ?_,
    fun number deed next does => ⟨?_, does.calls⟩⟩
  · obtain ⟨cancelled, all, service, allowed, deeds⟩ :=
      (chronicle.done number job here serves).serves
    have through : job.phase = .gone → deedsOf number log = all := by
      intro gone
      rw [deeds, gone]
      exact service.take_three
    refine ⟨⟨cancelled, all, service, allowed, deeds⟩, fun gone alive => ?_,
      fun gone never stage v x carries => ?_⟩
    · rw [through gone]
      exact service.reply alive
    · rw [through gone]
      cases cancelled with
      | true => cases never.symm.trans (allowed rfl)
      | false => exact service.calls carries
  · obtain ⟨held, there, port⟩ := ported.port number job here
    exact ⟨held, there, port, fun other job' here' shared =>
      ported.apart other number job' job here' here shared⟩
  · exact ⟨chronicle.alarmed flag raised, fun more next story => story.stays_raised raised⟩
  · obtain ⟨job, _, here, _, _, _, own, others⟩ := does.on_port
    obtain ⟨held, there, _⟩ := ported.port number job here
    obtain ⟨after, there', onPort⟩ := own held there
    exact ⟨job, held, after, here, there, there', onPort, others⟩

end Coordinator

end Conduit
