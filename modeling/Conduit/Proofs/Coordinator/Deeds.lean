import Conduit.Proofs.Coordinator.Custody

/-! # What workers do

A worker looks at its stage's flag, does its work, and hands its reply to its port. These are
its deeds, and a floor has a story of them: workers and coordinator take their turns in any
order, and the coordinator may leave channels whenever it likes (`Conduit.Coordinator.Story`).
Whatever the others do, a worker's deeds are those of its own task, from the first on and each
of them once (`Conduit.Coordinator.Story.chronicle`).
-/

namespace Conduit

theorem Ending.ofExcept_or_lost {ε α : Type} (ending : Ending ε α) :
    (∃ outcome, ending = .ofExcept outcome) ∨ ending = .lost := by
  cases ending with
  | returned x => exact .inl ⟨.ok x, rfl⟩
  | failed e => exact .inl ⟨.error e, rfl⟩
  | lost => exact .inr rfl

theorem Ending.lost_of_andThen {ε ε' α β : Type} {fault : ε → ε'} {f : α → Except ε' β}
    {ending : Ending ε α} (lost : ending.andThen fault f = .lost) : ending = .lost := by
  cases ending with
  | returned x =>
      rw [andThen] at lost
      cases gives : f x <;> rw [gives] at lost <;> cases lost
  | failed e => cases lost
  | lost => rfl

namespace Coordinator

/-- What a worker does in one move. -/
inductive Deed where
  /-- It finds its stage's flag raised or not. -/
  | looked (cancelled : Bool)
  /-- It attends to its element, with these calls and this ending. -/
  | worked (calls : List Call) (ending : Ending Error Json)
  /-- It does something else than attend to its element. -/
  | acted
  /-- It hands a text to its reply port, which takes it or refuses it. -/
  | handed (text : String) (taken : Except Error Unit)
  /-- It leaves without a word. -/
  | left

/-- What is told of a floor: what workers do, and which outcomes the coordinator settles. -/
inductive Entry where
  | moved (number : Nat) (deed : Deed)
  | settled (flag : Nat) (outcome : Except Error Json)

/-- What is told of the worker of this number. -/
def deedsOf (number : Nat) (log : List Entry) : List Deed :=
  log.filterMap fun
    | .moved other deed => if other = number then some deed else none
    | .settled _ _ => none

section DeedsOf

variable {number : Nat} {log : List Entry} {deed : Deed}

theorem deedsOf_moved :
    deedsOf number (log ++ [.moved number deed]) = deedsOf number log ++ [deed] := by
  simp [deedsOf]

theorem deedsOf_moved_ne {other : Nat} (differ : other ≠ number) :
    deedsOf number (log ++ [.moved other deed]) = deedsOf number log := by
  simp [deedsOf, differ]

theorem deedsOf_settled (flag : Nat) (outcome : Except Error Json) :
    deedsOf number (log ++ [.settled flag outcome]) = deedsOf number log := by
  simp [deedsOf]

end DeedsOf

/-- The calls of a deed. -/
def Deed.calls : Deed → List Call
  | .worked calls _ => calls
  | _ => []

/-- A reply is handed to the port. -/
def Deed.isReply : Deed → Bool
  | .handed _ _ => true
  | _ => false

/-- What the worker of a task does when it attends to its element, having found the flag as it
did. -/
def attended (crew : Crew) (name payload : String) (cancelled : Bool) : Deed :=
  let work := Worker.attend crew.root name payload cancelled
  .worked work.events work.result

/-- The ways in which the worker of this number can move, with what it does and the floor
afterwards. -/
inductive Does (crew : Crew) (floor : Floor) (number : Nat) : Deed → Floor → Prop
  | looks {job : Job} (here : floor.jobs[number]? = some job) (waiting : job.phase = .waiting) :
      Does crew floor number (.looked (floor.isCancelled job.flag)) (floor.inform number job)
  | works {job : Job} {cancelled : Bool} (here : floor.jobs[number]? = some job)
      (informed : job.phase = .informed cancelled) (serves : job.program = .serve) :
      Does crew floor number (attended crew job.name job.payload cancelled)
        (floor.work crew number job cancelled)
  | acts {job : Job} {cancelled : Bool} (here : floor.jobs[number]? = some job)
      (informed : job.phase = .informed cancelled) (other : job.program ≠ .serve) :
      Does crew floor number .acted (floor.work crew number job cancelled)
  | hands {job : Job} {text : String} (here : floor.jobs[number]? = some job)
      (finished : job.phase = .finished (some text)) :
      Does crew floor number
        (.handed text ((floor.channels[job.channel]?.getD .fresh).send text).1)
        (floor.part number job (some text))
  | leaves {job : Job} (here : floor.jobs[number]? = some job)
      (finished : job.phase = .finished none) :
      Does crew floor number .left (floor.part number job none)

/-- A worker that moves does something. -/
theorem does_of_advance (crew : Crew) (floor : Floor) (number : Nat) :
    floor.advance crew number = floor ∨
      ∃ deed, Does crew floor number deed (floor.advance crew number) := by
  have move := Floor.advance_move crew floor number
  generalize floor.advance crew number = next at move ⊢
  cases move with
  | idle => exact .inl rfl
  | inform here waiting => exact .inr ⟨_, .looks here waiting⟩
  | @work job _ here informed =>
      by_cases serves : job.program = .serve
      · exact .inr ⟨_, .works here informed serves⟩
      · exact .inr ⟨_, .acts here informed serves⟩
  | @part _ parting here finished =>
      cases parting with
      | none => exact .inr ⟨_, .leaves here finished⟩
      | some text => exact .inr ⟨_, .hands here finished⟩

/-- What the coordinator can do to the channel of a worker: take out a text, and leave. It
does not send, and does not give away the worker's side. -/
structure Tended (held next : Channel) : Prop where
  message : next.message = held.message ∨ next.message = none
  sender : next.senderGone = held.senderGone

theorem Tended.refl (held : Channel) : Tended held held := ⟨.inl rfl, rfl⟩

theorem tended_receive (held : Channel) : Tended held held.receive.2 := by
  unfold Channel.receive
  cases held.message with
  | none => exact .refl held
  | some text => exact ⟨.inr rfl, rfl⟩

theorem tended_dropReceiver (held : Channel) : Tended held held.dropReceiver := ⟨.inl rfl, rfl⟩

/-- The channels of all workers are tended. -/
def Tends (floor next : Floor) : Prop :=
  ∀ (number : Nat) (job : Job), floor.jobs[number]? = some job →
    ∀ held, floor.channels[job.channel]? = some held →
      ∃ after, next.channels[job.channel]? = some after ∧ Tended held after

theorem tends_of_channels {floor next : Floor} (channels : next.channels = floor.channels) :
    Tends floor next := by
  intro _ job _ held there
  rw [channels]
  exact ⟨held, there, .refl held⟩

/-- **A story of a floor.** Workers make their moves, and the coordinator settles outcomes,
opens flags, and hires workers with fresh channels of their own. It may leave the channels of
workers whenever it likes, but does not send on them; what else it does to channels, plans and
records is left open. All this happens in any order. -/
inductive Story (crew : Crew) (opening : Floor) : List Entry → Floor → Prop
  | opens : Story crew opening [] opening
  | moves {log : List Entry} {floor next : Floor} {number : Nat} {deed : Deed}
      (story : Story crew opening log floor) (does : Does crew floor number deed next) :
      Story crew opening (log ++ [.moved number deed]) next
  | settles {log : List Entry} {floor : Floor} (story : Story crew opening log floor)
      (flag : Nat) (outcome : Except Error Json) :
      Story crew opening (log ++ [.settled flag outcome]) (settle flag outcome floor)
  | opensFlag {log : List Entry} {floor : Floor} (story : Story crew opening log floor) :
      Story crew opening log (openFlag crew floor).2
  | hires {log : List Entry} {floor : Floor} {job : Job} (story : Story crew opening log floor)
      (waiting : job.phase = .waiting) (unused : floor.channels[job.channel]? = some .fresh)
      (unclaimed : ∀ (number : Nat) (other : Job), floor.jobs[number]? = some other →
        other.channel ≠ job.channel) : Story crew opening log (floor.hire job)
  | coordinates {log : List Entry} {floor next : Floor} (story : Story crew opening log floor)
      (jobs : next.jobs = floor.jobs) (flags : next.flags = floor.flags)
      (tends : Tends floor next) : Story crew opening log next

/-- What a reply port answers: the text is delivered, or the coordinator has left. -/
inductive Taken : Except Error Unit → Prop
  | delivered : Taken (.ok ())
  | refused : Taken (.error (.cancelled "Coordinator is no longer waiting for this reply"))

/-- A port takes a text, or refuses it because the coordinator has left. -/
theorem send_taken (channel : Channel) (text : String) : Taken (channel.send text).1 := by
  rw [Channel.send]
  cases channel.receiverGone with
  | false => exact .delivered
  | true => exact .refused

section Life

variable (crew : Crew) (payload : String)

/-- The payload has a message, its path leads to a stage, and its value, of the JSON form `v`,
is an element of this stage. -/
structure Carries (stage : ParallelMap) (v : Json) (x : stage.input.Carrier) : Prop where
  leads : ∃ path, WorkerMessage.decode payload = .ok ⟨path, v⟩ ∧ crew.root.resolve path = .ok stage
  reads : stage.input.decode v = .ok x

/-- The payload does not lead to an element, for this cause. -/
inductive Astray : Error → Prop
  | message {e : Error} (garbled : WorkerMessage.decode payload = .error e) : Astray e
  | path {message : WorkerMessage} {e : Error}
      (decoded : WorkerMessage.decode payload = .ok message)
      (unresolved : crew.root.resolve message.path = .error e) : Astray e
  | element {message : WorkerMessage} {stage : ParallelMap} {fault : Json.Fault}
      (decoded : WorkerMessage.decode payload = .ok message)
      (resolves : crew.root.resolve message.path = .ok stage)
      (unreadable : stage.input.decode message.value = .error fault) :
      Astray (.serialization fault)

/-- All deeds of a worker of this name that serves and has found the flag as it did. It hands
one reply to its port, unless the element's function takes it down; it calls this function once
if its payload leads to an element and it has not found the flag raised, and otherwise not at
all. -/
inductive Serves (name : String) : (cancelled : Bool) → List Deed → Prop
  | skips {taken : Except Error Unit} (answer : Taken taken) :
      Serves name true [.looked true, .worked [] (.failed (Worker.skipped name)),
        .handed (Reply.failure (Worker.skipped name)).encode taken]
  | astray {e : Error} {taken : Except Error Unit} (astray : Astray crew payload e)
      (answer : Taken taken) :
      Serves name false [.looked false, .worked [] (.failed e),
        .handed (Reply.failure e).encode taken]
  | treats {stage : ParallelMap} {v : Json} {x : stage.input.Carrier}
      {outcome : Except Error Json} {taken : Except Error Unit}
      (carries : Carries crew payload stage v x)
      (ends : (stage.element name x).result.ending.andThen .raised (fun y =>
        (stage.output.encode y).mapError .serialization) = .ofExcept outcome)
      (answer : Taken taken) :
      Serves name false [.looked false,
        .worked (stage.element name x).events (.ofExcept outcome),
        .handed (Reply.ofOutcome outcome).encode taken]
  | falls {stage : ParallelMap} {v : Json} {x : stage.input.Carrier}
      (carries : Carries crew payload stage v x)
      (lost : (stage.element name x).result.ending = .lost) :
      Serves name false [.looked false, .worked (stage.element name x).events .lost, .left]

/-- The last deed of a worker after work with this ending. -/
def parting (taken : Except Error Unit) (ending : Ending Error Json) : Deed :=
  match Worker.replyText? ending with
  | some text => .handed text taken
  | none => .left

theorem parting_ofExcept (taken : Except Error Unit) (outcome : Except Error Json) :
    parting taken (.ofExcept outcome) = .handed (Reply.ofOutcome outcome).encode taken := by
  cases outcome <;> rfl

/-- The deeds of a worker, as its work makes them. -/
def life (name : String) (cancelled : Bool) (taken : Except Error Unit) : List Deed :=
  [.looked cancelled, attended crew name payload cancelled,
    parting taken (Worker.attend crew.root name payload cancelled).result]

variable {crew payload} {message : WorkerMessage}

theorem attend_of_message (decoded : WorkerMessage.decode payload = .ok message) (name : String) :
    Worker.attend crew.root name payload false =
      Worker.executeMessage crew.root name message := by
  rw [Worker.attend, if_neg Bool.false_ne_true, decoded]

theorem execute_of_stage {path : StagePath} {stage : ParallelMap}
    (resolves : crew.root.resolve path = .ok stage) (name : String) (v : Json) :
    Worker.executeMessage crew.root name ⟨path, v⟩ =
      (do return (← stage.callElement name v).ending) := by
  rw [Worker.executeMessage, resolves]

variable {taken : Except Error Unit} (answer : Taken taken)
include answer

theorem serves_of_carries {stage : ParallelMap} {v : Json} {x : stage.input.Carrier}
    (carries : Carries crew payload stage v x) (name : String) :
    Serves crew payload name false (life crew payload name false taken) := by
  obtain ⟨path, decoded, resolves⟩ := carries.leads
  have work : Worker.attend crew.root name payload false = ⟨(stage.element name x).events,
      (stage.element name x).result.ending.andThen .raised fun y =>
        (stage.output.encode y).mapError .serialization⟩ := by
    rw [attend_of_message decoded, execute_of_stage resolves, ParallelMap.callElement,
      carries.reads]
    refine Traced.ext ?_ rfl
    simp only [Traced.events_bind, Traced.events_pure, List.append_nil]
  rw [life, attended, work]
  dsimp only
  rcases Ending.ofExcept_or_lost ((stage.element name x).result.ending.andThen Error.raised fun y =>
      (stage.output.encode y).mapError Error.serialization) with ⟨outcome, ends⟩ | lost
  · rw [ends, parting_ofExcept]
    exact .treats carries ends answer
  · rw [lost]
    exact .falls carries (Ending.lost_of_andThen lost)

/-- **A worker's life is one of service**, whatever its payload. -/
theorem serves_life (name : String) (cancelled : Bool) :
    Serves crew payload name cancelled (life crew payload name cancelled taken) := by
  cases cancelled with
  | true => exact .skips answer
  | false =>
      -- Attending stops at the message, at its path, at its element, or at the element's function.
      cases decoded : WorkerMessage.decode payload with
      | error e =>
          rw [life, attended, Worker.attend, if_neg Bool.false_ne_true, decoded]
          exact .astray (.message decoded) answer
      | ok message =>
          obtain ⟨path, v⟩ := message
          cases resolves : crew.root.resolve path with
          | error e =>
              rw [life, attended, attend_of_message decoded, Worker.executeMessage, resolves]
              exact .astray (.path decoded resolves) answer
          | ok stage =>
              cases reads : stage.input.decode v with
              | error fault =>
                  rw [life, attended, attend_of_message decoded, execute_of_stage resolves,
                    ParallelMap.callElement, reads]
                  exact .astray (.element decoded resolves reads) answer
              | ok x =>
                  exact serves_of_carries answer ⟨⟨path, decoded, resolves⟩, reads⟩ name

omit answer

/-- A worker hands one reply to its port, unless the function of its element takes it down. -/
theorem Serves.reply {name : String} {cancelled : Bool} {deeds : List Deed}
    (serves : Serves crew payload name cancelled deeds)
    (alive : ∀ (stage : ParallelMap) (v : Json) (x : stage.input.Carrier),
      Carries crew payload stage v x → (stage.element name x).result.ending ≠ .lost) :
    ∃ text taken, deeds.filter Deed.isReply = [.handed text taken] ∧ Taken taken := by
  cases serves with
  | skips answer => exact ⟨_, _, rfl, answer⟩
  | astray _ answer => exact ⟨_, _, rfl, answer⟩
  | treats _ _ answer => exact ⟨_, _, rfl, answer⟩
  | falls carries lost => exact absurd lost (alive _ _ _ carries)

theorem Serves.take_three {name : String} {cancelled : Bool} {deeds : List Deed}
    (serves : Serves crew payload name cancelled deeds) : deeds.take 3 = deeds := by
  cases serves <;> rfl

/-- A payload that leads to an element does not go astray. -/
theorem Carries.not_astray {stage : ParallelMap} {v : Json} {x : stage.input.Carrier} {e : Error}
    (carries : Carries crew payload stage v x) : ¬ Astray crew payload e := by
  obtain ⟨path, decoded, resolves⟩ := carries.leads
  intro astray
  cases astray with
  | message garbled => cases decoded.symm.trans garbled
  | path decoded' unresolved =>
      cases decoded.symm.trans decoded'
      cases resolves.symm.trans unresolved
  | element decoded' resolves' unreadable =>
      cases decoded.symm.trans decoded'
      cases resolves.symm.trans resolves'
      cases carries.reads.symm.trans unreadable

/-- A payload leads to one element at most. -/
theorem Carries.same {stage stage' : ParallelMap} {v v' : Json} {x : stage.input.Carrier}
    {x' : stage'.input.Carrier} (carries : Carries crew payload stage v x)
    (carries' : Carries crew payload stage' v' x') (name : String) :
    (stage'.element name x').events = (stage.element name x).events := by
  obtain ⟨path, decoded, resolves⟩ := carries.leads
  obtain ⟨path', decoded', resolves'⟩ := carries'.leads
  cases decoded.symm.trans decoded'
  cases resolves.symm.trans resolves'
  cases carries.reads.symm.trans carries'.reads
  rfl

/-- A worker that has not found its flag raised calls the function of its element once. -/
theorem Serves.calls {name : String} {deeds : List Deed}
    (serves : Serves crew payload name false deeds) {stage : ParallelMap} {v : Json}
    {x : stage.input.Carrier} (carries : Carries crew payload stage v x) :
    deeds.flatMap Deed.calls = (stage.element name x).events := by
  cases serves with
  | astray astray => exact absurd astray carries.not_astray
  | treats carries' =>
      rw [← carries.same carries' name]
      exact List.append_nil _
  | falls carries' =>
      rw [← carries.same carries' name]
      exact List.append_nil _

end Life

/-- What the worker of a task has done when it has come this far. -/
inductive Done (crew : Crew) (name payload : String) : Phase → List Deed → Prop
  | waiting : Done crew name payload .waiting []
  | informed {cancelled : Bool} (allowed : cancelled = true → Cancels crew) :
      Done crew name payload (.informed cancelled) [.looked cancelled]
  | finished {cancelled : Bool} {reply : Option String} (allowed : cancelled = true → Cancels crew)
      (tells : Worker.replyText? (Worker.attend crew.root name payload cancelled).result = reply) :
      Done crew name payload (.finished reply)
        [.looked cancelled, attended crew name payload cancelled]
  | gone {cancelled : Bool} {taken : Except Error Unit} (allowed : cancelled = true → Cancels crew)
      (answer : Taken taken) : Done crew name payload .gone (life crew payload name cancelled taken)

/-- What a worker has done is the beginning of its service. -/
theorem Done.serves {crew : Crew} {name payload : String} {phase : Phase} {deeds : List Deed}
    (done : Done crew name payload phase deeds) :
    ∃ cancelled all, Serves crew payload name cancelled all ∧
      (cancelled = true → Cancels crew) ∧ deeds = all.take (3 - phase.movesLeft) := by
  cases done with
  | waiting => exact ⟨false, _, serves_life .delivered name false, nofun, rfl⟩
  | informed allowed => exact ⟨_, _, serves_life .delivered name _, allowed, rfl⟩
  | finished allowed => exact ⟨_, _, serves_life .delivered name _, allowed, rfl⟩
  | gone allowed answer => exact ⟨_, _, serves_life answer name _, allowed, rfl⟩

section Does

variable {crew : Crew} {floor next : Floor} {number : Nat} {deed : Deed}

/-- A worker that moves comes further in its own task, and what it does comes next in its
service. The others stay where they are. -/
theorem Does.comes_further (does : Does crew floor number deed next) :
    ∃ job phase, floor.jobs[number]? = some job ∧
      next.jobs = (floor.setPhase number phase).jobs ∧
        ((floor.isCancelled job.flag = true → Cancels crew) → job.program = .serve →
          ∀ deeds, Done crew job.name job.payload job.phase deeds →
            Done crew job.name job.payload phase (deeds ++ [deed])) := by
  cases does with
  | @looks job here waiting =>
      refine ⟨job, _, here, Floor.jobs_inform number job, fun allowed _ deeds done => ?_⟩
      rw [waiting] at done
      cases done
      exact .informed allowed
  | @works job cancelled here informed serves =>
      refine ⟨job, _, here, Floor.jobs_work crew number job cancelled, fun _ _ deeds done => ?_⟩
      rw [informed] at done
      cases done with
      | informed allowed =>
          rw [serves]
          exact .finished allowed rfl
  | @acts job cancelled here informed other =>
      exact ⟨job, _, here, Floor.jobs_work crew number job cancelled,
        fun _ serves => absurd serves other⟩
  | @hands job text here finished =>
      refine ⟨job, _, here, Floor.jobs_part number job _, fun _ _ deeds done => ?_⟩
      rw [finished] at done
      have answer := send_taken (floor.channels[job.channel]?.getD .fresh) text
      -- The text at hand is the one with which the worker's life ends.
      cases done with
      | finished allowed tells =>
          have all : Done crew job.name job.payload .gone _ := .gone allowed answer
          rw [life, parting, tells] at all
          exact all
  | @leaves job here finished =>
      refine ⟨job, _, here, Floor.jobs_part number job _, fun _ _ deeds done => ?_⟩
      rw [finished] at done
      cases done with
      | finished allowed tells =>
          have all : Done crew job.name job.payload .gone _ := .gone allowed .delivered
          rw [life, parting, tells] at all
          exact all

/-- What an entry of a log says about a flag that is raised: a worker of its stage has failed,
or the coordinator has settled a failure of its stage. -/
inductive Alarms (floor : Floor) (flag : Nat) : Entry → Prop
  | worker {number : Nat} {job : Job} {calls : List Call} {e : Error}
      (here : floor.jobs[number]? = some job) (own : job.flag = flag) :
      Alarms floor flag (.moved number (.worked calls (.failed e)))
  | dispatch (e : Error) : Alarms floor flag (.settled flag (.error e))

/-- A worker raises at most its own stage's flag, and does so only when it fails. -/
theorem Does.flags (does : Does crew floor number deed next) :
    next.flags = floor.flags ∨ ∃ job calls e, floor.jobs[number]? = some job ∧
      deed = .worked calls (.failed e) ∧ next.flags = (floor.cancel job.flag).flags := by
  cases does with
  | looks => exact .inl rfl
  | hands => exact .inl rfl
  | leaves => exact .inl rfl
  | @acts job cancelled here informed other =>
      refine .inl ?_
      have calm : job.program.raises crew.root job.name job.payload cancelled = false := by
        cases program : job.program with
        | serve => exact absurd program other
        | reply text => rfl
        | silent => rfl
      rw [Floor.flags_work, calm]
      rfl
  | @works job cancelled here informed serves =>
      rw [Floor.flags_work, serves, Program.raises]
      cases ending : (Worker.attend crew.root job.name job.payload cancelled).result with
      | returned v => exact .inl rfl
      | lost => exact .inl rfl
      | failed e =>
          exact .inr ⟨job, (Worker.attend crew.root job.name job.payload cancelled).events, e, here,
            congrArg (Deed.worked _) ending, rfl⟩

/-- The calls of a deed are written down. -/
theorem Does.calls (does : Does crew floor number deed next) :
    next.calls = deed.calls.foldl Array.push floor.calls := by
  cases does with
  | looks => rfl
  | hands => rfl
  | leaves => rfl
  | @acts job cancelled here informed other =>
      unfold Floor.work
      cases program : job.program with
      | serve => exact absurd program other
      | reply text => rfl
      | silent => rfl
  | @works job cancelled here informed serves =>
      rw [Floor.work, serves]
      rfl

end Does

/-- What a log tells about a floor that it leads to: every worker that serves has done what
its phase says, the numbers to come have done nothing, flags can be raised only if the policy
lets them, and those that are raised have a reason in the log. -/
structure Chronicle (crew : Crew) (log : List Entry) (floor : Floor) : Prop where
  done : ∀ (number : Nat) (job : Job), floor.jobs[number]? = some job → job.program = .serve →
    Done crew job.name job.payload job.phase (deedsOf number log)
  fresh : ∀ number, floor.jobs.size ≤ number → deedsOf number log = []
  armed : ∀ flag, floor.isArmed flag = true → Cancels crew
  alarmed : ∀ flag, floor.isCancelled flag = true → ∃ entry ∈ log, Alarms floor flag entry

namespace Chronicle

variable {crew : Crew} {log : List Entry} {floor next : Floor}

/-- Reasons in a log stay while it grows and workers stay where they are hired. -/
theorem reason (chronicle : Chronicle crew log floor) {flag : Nat} {more : List Entry}
    (raised : floor.isCancelled flag = true)
    (kept : ∀ (number : Nat) (job : Job), floor.jobs[number]? = some job →
      ∃ job', next.jobs[number]? = some job' ∧ job'.flag = job.flag) :
    ∃ entry ∈ log ++ more, Alarms next flag entry := by
  obtain ⟨entry, member, alarms⟩ := chronicle.alarmed flag raised
  refine ⟨entry, List.mem_append_left _ member, ?_⟩
  cases alarms with
  | dispatch e => exact .dispatch e
  | worker here own =>
      obtain ⟨job', there, same⟩ := kept _ _ here
      exact .worker there (same.trans own)

/-- **A worker's move continues the chronicle.** -/
theorem moves (chronicle : Chronicle crew log floor) {number : Nat} {deed : Deed}
    (does : Does crew floor number deed next) :
    Chronicle crew (log ++ [.moved number deed]) next := by
  obtain ⟨job, phase, here, jobs, comes⟩ := does.comes_further
  have others {other : Nat} (differ : number ≠ other) : next.jobs[other]? = floor.jobs[other]? := by
    rw [jobs, Floor.getElem_setPhase, if_neg differ]
  have own : next.jobs[number]? = some { job with phase := phase } := by
    rw [jobs, Floor.getElem_setPhase, if_pos rfl, here]
    rfl
  have kept : ∀ (other : Nat) (last : Job), floor.jobs[other]? = some last →
      ∃ last', next.jobs[other]? = some last' ∧ last'.flag = last.flag := by
    intro other last there
    by_cases same : number = other
    · subst same
      cases here.symm.trans there
      exact ⟨_, own, rfl⟩
    · exact ⟨last, (others same).trans there, rfl⟩
  constructor
  -- Only the worker that moves comes further; what is told of the others stays as it is.
  · intro other last there serves
    by_cases same : number = other
    · subst same
      cases own.symm.trans there
      rw [deedsOf_moved]
      exact comes (fun raised => chronicle.armed _ (Floor.isArmed_of_isCancelled raised)) serves _
        (chronicle.done number job here serves)
    · rw [deedsOf_moved_ne same]
      exact chronicle.done other last ((others same).symm.trans there) serves
  · intro other beyond
    have size : next.jobs.size = floor.jobs.size := by
      rw [jobs, Floor.jobs_setPhase, Array.size_modify]
    have inside := (Array.getElem?_eq_some_iff.mp here).1
    rw [deedsOf_moved_ne (by omega)]
    exact chronicle.fresh other (by omega)
  · intro flag
    rcases does.flags with same | ⟨_, _, _, _, _, raises⟩
    · rw [Floor.isArmed, same]
      exact chronicle.armed flag
    · rw [Floor.isArmed, raises]
      exact fun armed => chronicle.armed flag (Floor.isArmed_cancel floor _ flag ▸ armed)
  -- A flag that is newly raised has this move as its reason, and the others keep theirs.
  · intro flag raised
    rcases does.flags with same | ⟨job', calls, e, here', rfl, raises⟩
    · rw [Floor.isCancelled, same] at raised
      exact chronicle.reason raised kept
    · by_cases mine : job'.flag = flag
      · obtain ⟨last, there, same⟩ := kept number job' here'
        exact ⟨_, List.mem_append_right _ List.mem_cons_self, .worker there (same.trans mine)⟩
      · rw [Floor.isCancelled, raises] at raised
        exact chronicle.reason ((Floor.isCancelled_cancel_ne floor mine).symm.trans raised) kept

/-- What is told of workers that stay as they are stays as it is. -/
theorem congr (chronicle : Chronicle crew log floor) {log' : List Entry}
    (jobs : next.jobs = floor.jobs)
    (deeds : ∀ number, deedsOf number log' = deedsOf number log)
    (armed : ∀ flag, next.isArmed flag = true → Cancels crew)
    (alarmed : ∀ flag, next.isCancelled flag = true → ∃ entry ∈ log', Alarms next flag entry) :
    Chronicle crew log' next where
  done number job here serves := by
    rw [deeds]
    rw [jobs] at here
    exact chronicle.done number job here serves
  fresh number beyond := by
    rw [deeds]
    rw [jobs] at beyond
    exact chronicle.fresh number beyond
  armed := armed
  alarmed := alarmed

theorem coordinates (chronicle : Chronicle crew log floor) (jobs : next.jobs = floor.jobs)
    (flags : next.flags = floor.flags) : Chronicle crew log next := by
  refine chronicle.congr jobs (fun _ => rfl) ?_ fun flag raised => ?_
  · intro flag
    rw [Floor.isArmed, flags]
    exact chronicle.armed flag
  · rw [Floor.isCancelled, flags] at raised
    rw [← List.append_nil log]
    exact chronicle.reason raised fun number job here => ⟨job, by rw [jobs]; exact here, rfl⟩

/-- Settling an outcome continues the chronicle: a failure is its own reason. -/
theorem settles (chronicle : Chronicle crew log floor) (flag : Nat)
    (outcome : Except Error Json) :
    Chronicle crew (log ++ [.settled flag outcome]) (settle flag outcome floor) := by
  have kept : ∀ (number : Nat) (job : Job), floor.jobs[number]? = some job →
      ∃ job', (settle flag outcome floor).jobs[number]? = some job' ∧ job'.flag = job.flag :=
    fun number job here => ⟨job, by rw [jobs_settle]; exact here, rfl⟩
  refine chronicle.congr (jobs_settle flag outcome floor)
    (fun number => deedsOf_settled flag outcome) ?_ ?_
  · intro other
    cases outcome with
    | ok v => exact chronicle.armed other
    | error e =>
        change (floor.cancel flag).isArmed other = true → _
        rw [Floor.isArmed_cancel]
        exact chronicle.armed other
  · intro other raised
    cases outcome with
    | ok v => exact chronicle.reason raised kept
    | error e =>
        by_cases mine : flag = other
        · subst mine
          exact ⟨_, List.mem_append_right _ List.mem_cons_self, .dispatch e⟩
        · exact chronicle.reason ((Floor.isCancelled_cancel_ne floor mine).symm.trans raised) kept

/-- A new flag is not raised, and can be raised only if the policy lets it. -/
theorem opensFlag (chronicle : Chronicle crew log floor) :
    Chronicle crew log (openFlag crew floor).2 := by
  have flags (flag : Nat) : (openFlag crew floor).2.flags[flag]? =
      if flag = floor.flags.size then some (.ofPolicy crew.config.cancellation)
      else floor.flags[flag]? := Array.getElem?_push
  refine chronicle.congr rfl (fun _ => rfl) ?_ ?_
  · intro flag armed
    rw [Floor.isArmed, flags] at armed
    split at armed
    next => exact eq_of_beq armed
    next => exact chronicle.armed flag armed
  · intro flag raised
    rw [Floor.isCancelled, flags] at raised
    split at raised
    next => cases raised
    next =>
      rw [← List.append_nil log]
      exact chronicle.reason raised fun number job here => ⟨job, here, rfl⟩

/-- A new worker has done nothing yet. -/
theorem hires (chronicle : Chronicle crew log floor) {job : Job}
    (waiting : job.phase = .waiting) : Chronicle crew log (floor.hire job) := by
  constructor
  · intro number other there serves
    rw [Floor.getElem_hire] at there
    split at there
    next last =>
      cases there
      rw [waiting, chronicle.fresh number (Nat.le_of_eq last.symm)]
      exact .waiting
    next => exact chronicle.done number other there serves
  · intro number beyond
    rw [Floor.jobs_hire, Array.size_push] at beyond
    exact chronicle.fresh number (by omega)
  · exact chronicle.armed
  · intro flag raised
    rw [← List.append_nil log]
    refine chronicle.reason raised fun number other here => ⟨other, ?_, rfl⟩
    have inside := (Array.getElem?_eq_some_iff.mp here).1
    rw [Floor.getElem_hire, if_neg (Nat.ne_of_lt inside)]
    exact here

end Chronicle

/-- **A story is a chronicle**, when nobody has been hired and no flag opened before. -/
theorem Story.chronicle {crew : Crew} {opening floor : Floor} {log : List Entry}
    (nobody : opening.jobs = #[]) (calm : opening.flags = #[])
    (story : Story crew opening log floor) : Chronicle crew log floor := by
  induction story with
  | opens =>
      constructor
      · intro number job here
        rw [nobody] at here
        cases here
      · exact fun _ _ => rfl
      · intro flag armed
        rw [Floor.isArmed, calm] at armed
        cases armed
      · intro flag raised
        rw [Floor.isCancelled, calm] at raised
        cases raised
  | moves _ does ih => exact ih.moves does
  | settles _ flag outcome ih => exact ih.settles flag outcome
  | opensFlag _ ih => exact ih.opensFlag
  | hires _ waiting _ _ ih => exact ih.hires waiting
  | coordinates _ jobs flags _ ih => exact ih.coordinates jobs flags

/-- **A raised flag stays raised**, whatever happens. -/
theorem Story.stays_raised {crew : Crew} {opening floor : Floor} {log : List Entry}
    (story : Story crew opening log floor) {flag : Nat}
    (raised : opening.isCancelled flag = true) : floor.isCancelled flag = true := by
  induction story with
  | opens => exact raised
  | @moves log floor next number deed _ does ih =>
      rcases does.flags with same | ⟨job, _, _, _, _, raises⟩
      · rw [Floor.isCancelled, same]
        exact ih
      · rw [Floor.isCancelled, raises]
        exact Floor.isCancelled_of_cancel ih job.flag
  | settles _ other outcome ih =>
      cases outcome with
      | ok v => exact ih
      | error e => exact Floor.isCancelled_of_cancel ih other
  | @opensFlag log floor _ ih =>
      have inside : flag ≠ floor.flags.size := by
        rintro rfl
        simp [Floor.isCancelled] at ih
      rw [Floor.isCancelled, openFlag, Array.getElem?_push, if_neg inside]
      exact ih
  | hires _ _ _ _ ih => exact ih
  | coordinates _ _ flags _ ih =>
      rw [Floor.isCancelled, flags]
      exact ih

end Coordinator

end Conduit
