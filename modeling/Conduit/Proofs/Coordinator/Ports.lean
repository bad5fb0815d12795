import Conduit.Proofs.Coordinator.Deeds

/-! # Workers and their ports

Every worker has a channel of its own, and nobody else sends on it
(`Conduit.Coordinator.Story.ported`). So what a worker hands to its port is all that ever
comes through this channel: it is there afterwards, or was refused because the coordinator has
left (`Conduit.Coordinator.Does.on_port`).
-/

namespace Conduit.Coordinator

/-- What a worker's deed makes of the worker's channel. -/
inductive OnPort (held : Channel) : Deed → Channel → Prop
  | looked (cancelled : Bool) : OnPort held (.looked cancelled) held
  | worked (calls : List Call) (ending : Ending Error Json) :
      OnPort held (.worked calls ending) held
  | acted : OnPort held .acted held
  /-- The text is in the channel, and nothing else can be sent. -/
  | delivered (text : String) (listens : held.receiverGone = false) :
      OnPort held (.handed text (.ok ()))
        { held with message := some text, senderGone := true }
  /-- The coordinator has left, and the text is lost. -/
  | refused (text : String) (left : held.receiverGone = true) :
      OnPort held
        (.handed text (.error (.cancelled "Coordinator is no longer waiting for this reply")))
        { held with senderGone := true }
  | left : OnPort held .left { held with senderGone := true }

/-- The deed is a worker's last. -/
def Deed.IsLast : Deed → Prop
  | .handed _ _ => True
  | .left => True
  | _ => False

section OnPort

variable {held after : Channel} {deed : Deed}

/-- A worker gives its port away with its last deed. -/
theorem OnPort.sender (onPort : OnPort held deed after) :
    after.senderGone = true ↔ held.senderGone = true ∨ deed.IsLast := by
  cases onPort <;> simp [Deed.IsLast]

theorem OnPort.message_of_not_last (onPort : OnPort held deed after) (more : ¬ deed.IsLast) :
    after.message = held.message := by
  cases onPort with
  | delivered => exact absurd trivial more
  | _ => rfl

/-- A text that a deed leaves in the channel was there before, or has been handed. -/
theorem OnPort.message (onPort : OnPort held deed after) {text : String}
    (there : after.message = some text) :
    held.message = some text ∨ deed = .handed text (.ok ()) := by
  cases onPort with
  | delivered other => exact .inr (by rw [Option.some.inj there])
  | _ => exact .inl there

theorem onPort_send (held : Channel) (text : String) :
    OnPort held (.handed text (held.send text).1) (held.send text).2 := by
  obtain ⟨message, senderGone, receiverGone⟩ := held
  cases receiverGone with
  | false => exact .delivered text rfl
  | true => exact .refused text rfl

end OnPort

variable {crew : Crew} {floor next : Floor} {number : Nat} {deed : Deed}

/-- **A worker's deed reaches its own channel**, and no other. The worker is gone when this was
its last deed. -/
theorem Does.on_port (does : Does crew floor number deed next) :
    ∃ job phase, floor.jobs[number]? = some job ∧ job.phase ≠ .gone ∧
      next.jobs = (floor.setPhase number phase).jobs ∧ (phase = .gone ↔ deed.IsLast) ∧
      (∀ held, floor.channels[job.channel]? = some held →
        ∃ after, next.channels[job.channel]? = some after ∧ OnPort held deed after) ∧
      ∀ other, other ≠ job.channel → next.channels[other]? = floor.channels[other]? := by
  have parts {job : Job} (parting : Option String) (held : Channel)
      (there : floor.channels[job.channel]? = some held) :
      (floor.part number job parting).channels[job.channel]? = some (held.parted parting) := by
    have inside := (Array.getElem?_eq_some_iff.mp there).1
    rw [Floor.channels_part, there, Array.getElem?_setIfInBounds_self_of_lt inside]
    rfl
  have spares {job : Job} (parting : Option String) (other : Nat) (differ : other ≠ job.channel) :
      (floor.part number job parting).channels[other]? = floor.channels[other]? := by
    rw [Floor.channels_part, Array.getElem?_setIfInBounds_ne differ.symm]
  cases does with
  | @looks job here waiting =>
      exact ⟨job, _, here, by rw [waiting]; exact nofun, Floor.jobs_inform number job,
        iff_of_false nofun id, fun held there => ⟨held, there, .looked _⟩, fun _ _ => rfl⟩
  | @works job cancelled here informed serves =>
      refine ⟨job, _, here, by rw [informed]; exact nofun, Floor.jobs_work crew number job _,
        iff_of_false nofun id, ?_⟩
      rw [Floor.channels_work]
      exact ⟨fun held there => ⟨held, there, .worked _ _⟩, fun _ _ => rfl⟩
  | @acts job cancelled here informed other =>
      refine ⟨job, _, here, by rw [informed]; exact nofun, Floor.jobs_work crew number job _,
        iff_of_false nofun id, ?_⟩
      rw [Floor.channels_work]
      exact ⟨fun held there => ⟨held, there, .acted⟩, fun _ _ => rfl⟩
  | @hands job text here finished =>
      refine ⟨job, _, here, by rw [finished]; exact nofun, Floor.jobs_part number job _,
        iff_of_true rfl trivial, fun held there => ⟨_, parts _ held there, ?_⟩, spares _⟩
      rw [there]
      exact onPort_send held text
  | @leaves job here finished =>
      exact ⟨job, _, here, by rw [finished]; exact nofun, Floor.jobs_part number job _,
        iff_of_true rfl trivial, fun held there => ⟨_, parts _ held there, .left⟩, spares _⟩

/-- A worker's channel fits what is told of the worker: the port is given away just when the
worker is gone, nothing has come through it before, and no text is in the channel that the
worker has not handed. -/
structure Port (log : List Entry) (number : Nat) (job : Job) (held : Channel) : Prop where
  sender : held.senderGone = true ↔ job.phase = .gone
  unused : job.phase ≠ .gone → held.message = none
  texts : ∀ text, held.message = some text → Deed.handed text (.ok ()) ∈ deedsOf number log

/-- All workers have ports to channels of their own. -/
structure Ported (log : List Entry) (floor : Floor) : Prop where
  port : ∀ (number : Nat) (job : Job), floor.jobs[number]? = some job →
    ∃ held, floor.channels[job.channel]? = some held ∧ Port log number job held
  apart : ∀ (first second : Nat) (job other : Job), floor.jobs[first]? = some job →
    floor.jobs[second]? = some other → job.channel = other.channel → first = second

variable {log : List Entry}

/-- A channel that is tended goes on to fit its worker. -/
theorem Port.tended {job : Job} {held after : Channel} (port : Port log number job held)
    (tended : Tended held after) : Port log number job after where
  sender := by rw [tended.sender]; exact port.sender
  unused left := tended.message.elim (fun same => same.trans (port.unused left)) id
  texts text there := by
    rcases tended.message with same | none
    · exact port.texts text (same.symm.trans there)
    · rw [none] at there
      cases there

/-- A deed of the worker of the port continues what is told of it. -/
theorem Port.moves {job : Job} {held after : Channel} {phase : Phase}
    (port : Port log number job held) (onPort : OnPort held deed after)
    (last : phase = .gone ↔ deed.IsLast) (left : job.phase ≠ .gone) :
    Port (log ++ [.moved number deed]) number { job with phase := phase } after where
  sender := by
    rw [onPort.sender, port.sender]
    exact ⟨fun gone => last.mpr (gone.resolve_left left), fun gone => .inr (last.mp gone)⟩
  unused still := by
    rw [onPort.message_of_not_last fun isLast => still (last.mpr isLast)]
    exact port.unused left
  texts text there := by
    rw [deedsOf_moved]
    rcases onPort.message there with before | rfl
    · exact List.mem_append_left _ (port.texts text before)
    · exact List.mem_append_right _ List.mem_cons_self

/-- What is told of others does not matter to a port. -/
theorem Port.congr {job : Job} {held : Channel} {log' : List Entry}
    (port : Port log number job held) (deeds : deedsOf number log' = deedsOf number log) :
    Port log' number job held where
  sender := port.sender
  unused := port.unused
  texts text there := by rw [deeds]; exact port.texts text there

namespace Ported

/-- **A worker's move keeps all ports**: its own channel follows its deed, and the others stay
as they are. -/
theorem moves (ported : Ported log floor) (does : Does crew floor number deed next) :
    Ported (log ++ [.moved number deed]) next := by
  obtain ⟨job, phase, here, left, jobs, last, own, others⟩ := does.on_port
  have before {other : Nat} {job' : Job} (there : next.jobs[other]? = some job') :
      (other = number ∧ job' = { job with phase := phase }) ∨
        (other ≠ number ∧ floor.jobs[other]? = some job') := by
    rw [jobs, Floor.getElem_setPhase] at there
    split at there
    next same =>
      rw [← same, here] at there
      exact .inl ⟨same.symm, (Option.some.inj there).symm⟩
    next differ => exact .inr ⟨Ne.symm differ, there⟩
  constructor
  · intro other job' there
    rcases before there with ⟨rfl, rfl⟩ | ⟨differ, there⟩
    · obtain ⟨held, holds, port⟩ := ported.port other job here
      obtain ⟨after, holds', onPort⟩ := own held holds
      exact ⟨after, holds', port.moves onPort last left⟩
    · obtain ⟨held, holds, port⟩ := ported.port other job' there
      have foreign : job'.channel ≠ job.channel := fun shared =>
        differ (ported.apart other number job' job there here shared)
      exact ⟨held, (others _ foreign).trans holds, port.congr (deedsOf_moved_ne differ.symm)⟩
  · intro first second one two there there' shared
    have origin {other : Nat} {job' : Job} (there : next.jobs[other]? = some job') :
        ∃ earlier, floor.jobs[other]? = some earlier ∧ earlier.channel = job'.channel := by
      rcases before there with ⟨rfl, rfl⟩ | ⟨_, there⟩
      · exact ⟨job, here, rfl⟩
      · exact ⟨job', there, rfl⟩
    obtain ⟨earlier, was, channel⟩ := origin there
    obtain ⟨earlier', was', channel'⟩ := origin there'
    exact ported.apart first second earlier earlier' was was'
      (channel.trans (shared.trans channel'.symm))

/-- Ports are about workers, what is told of them, and what their channels hold. -/
theorem congr (ported : Ported log floor) {log' : List Entry} (jobs : next.jobs = floor.jobs)
    (deeds : ∀ number, deedsOf number log' = deedsOf number log) (tends : Tends floor next) :
    Ported log' next where
  port number job here := by
    rw [jobs] at here
    obtain ⟨held, holds, port⟩ := ported.port number job here
    obtain ⟨after, holds', tended⟩ := tends number job here held holds
    exact ⟨after, holds', (port.tended tended).congr (deeds number)⟩
  apart := by
    rw [jobs]
    exact ported.apart

/-- A worker that is hired has a port to a channel of its own. -/
theorem hires (ported : Ported log floor) {job : Job} (waiting : job.phase = .waiting)
    (unused : floor.channels[job.channel]? = some .fresh)
    (unclaimed : ∀ (number : Nat) (other : Job), floor.jobs[number]? = some other →
      other.channel ≠ job.channel) : Ported log (floor.hire job) := by
  have left : job.phase ≠ .gone := by rw [waiting]; exact nofun
  constructor
  · intro number other there
    rw [Floor.getElem_hire] at there
    split at there
    next =>
      cases there
      exact ⟨.fresh, unused, iff_of_false Bool.false_ne_true left, fun _ => rfl, nofun⟩
    next => exact ported.port number other there
  · intro first second one two there there' shared
    rw [Floor.getElem_hire] at there there'
    split at there
    next last =>
      cases there
      split at there'
      next last' => exact last.trans last'.symm
      next => exact absurd shared.symm (unclaimed second two there')
    next =>
      split at there'
      next =>
        cases there'
        exact absurd shared (unclaimed first one there)
      next => exact ported.apart first second one two there there' shared

/-- A channel that is not there yet belongs to no worker. -/
theorem channel_lt (ported : Ported log floor) {job : Job}
    (here : floor.jobs[number]? = some job) : job.channel < floor.channels.size := by
  obtain ⟨held, holds, _⟩ := ported.port number job here
  exact (Array.getElem?_eq_some_iff.mp holds).1

end Ported

/-- **In every story all workers have ports of their own**, when nobody has been hired before. -/
theorem Story.ported {opening : Floor} (nobody : opening.jobs = #[])
    (story : Story crew opening log floor) : Ported log floor := by
  induction story with
  | opens =>
      have none (number : Nat) (job : Job) : opening.jobs[number]? ≠ some job := by
        rw [nobody]
        exact nofun
      exact ⟨fun number job here => absurd here (none number job),
        fun first _ job _ here => absurd here (none first job)⟩
  | moves _ does ih => exact ih.moves does
  | settles _ flag outcome ih =>
      exact ih.congr (jobs_settle flag outcome _) (fun _ => deedsOf_settled flag outcome)
        (tends_of_channels (channels_settle flag outcome _))
  | opensFlag _ ih => exact ih.congr rfl (fun _ => rfl) (tends_of_channels rfl)
  | hires _ waiting unused unclaimed ih => exact ih.hires waiting unused unclaimed
  | coordinates _ jobs _ tends ih => exact ih.congr jobs (fun _ => rfl) tends

end Conduit.Coordinator
