import Conduit.Proofs.Coordinator.Backlog
import Conduit.Proofs.Coordinator.Outcomes

/-! # Elements that are out

While a stage is carried out, workers and coordinator move in any order. What they keep is
a relation between the floor and the elements that are out with workers
(`Conduit.Coordinator.Custody`): each of them is still worked at, or its reply is posted, and
the reply tells its own outcome. There is one exception. A flag is raised only when some
element fails by itself, and from then on workers may skip their elements.
-/

namespace Conduit.Coordinator

variable {crew : Crew} {path : StagePath} {flag : Nat} {troubled : Prop}

/-- Workers of the crew may skip their elements once another one has failed. -/
def Cancels (crew : Crew) : Prop := crew.config.cancellation = .bestEffort

/-- The outcome is the request's own. If the stage is `troubled`, because some element of it
fails by itself and the policy lets others be skipped, a worker that serves may also have
skipped its element. -/
def Fair (crew : Crew) (troubled : Prop) (request : Request) (outcome : Except Error Json) :
    Prop :=
  outcome = workerOutcome crew request ∨
    troubled ∧ crew.hiring request = .ok (some .serve) ∧
      outcome = .error (Worker.skipped request.name)

theorem Fair.trouble {request : Request} {outcome : Except Error Json} {e : Error}
    (fair : Fair crew troubled request outcome)
    (fails : ∀ e, workerOutcome crew request = .error e → Cancels crew → troubled)
    (failed : outcome = .error e) (cancels : Cancels crew) : troubled := by
  rcases fair with same | ⟨trouble, _⟩
  · exact fails e (same.symm.trans failed) cancels
  · exact trouble

/-- The flag is raised only in trouble, and can be raised only if the policy lets it. -/
def Guarded (crew : Crew) (flag : Nat) (troubled : Prop) (floor : Floor) : Prop :=
  (floor.isCancelled flag = true → troubled) ∧ (floor.isArmed flag = true → Cancels crew)

/-- A flag is raised in trouble. -/
theorem Guarded.cancel {floor : Floor} (guarded : Guarded crew flag troubled floor)
    (trouble : Cancels crew → troubled) : Guarded crew flag troubled (floor.cancel flag) := by
  constructor
  · rw [Floor.isCancelled_cancel]
    exact fun armed => trouble (guarded.2 armed)
  · rw [Floor.isArmed_cancel]
    exact guarded.2

theorem guarded_of_clear {floor : Floor} (clear : floor.Clear crew flag) :
    Guarded crew flag troubled floor := by
  constructor
  · rw [clear.not_cancelled]
    exact nofun
  · rw [Floor.isArmed, clear]
    exact fun armed => eq_of_beq armed

theorem Guarded.of_flags {floor next : Floor} (guarded : Guarded crew flag troubled floor)
    (flags : next.flags = floor.flags) : Guarded crew flag troubled next := by
  rw [Guarded, Floor.isCancelled, Floor.isArmed, flags]
  exact guarded

/-- What a worker has to send, if it finds its stage cancelled at most in trouble. -/
theorem fair_parting {job : Job} (hired : crew.hiring (job.request path) = .ok (some job.program))
    {cancelled : Bool} (informed : cancelled = true → troubled) :
    Fair crew troubled (job.request path) (partingOutcome job.name
      (job.program.parting crew.root job.name job.payload cancelled)) := by
  cases cancelled with
  | false => exact .inl (workerOutcome_hired hired).symm
  | true =>
      have own := workerOutcome_hired hired
      rw [Job.own] at own
      cases program : job.program with
      | serve =>
          rw [program] at hired
          exact .inr ⟨informed rfl, hired, partingOutcome_failed job.name (Worker.skipped job.name)⟩
      | reply text => rw [program] at own; exact .inl own.symm
      | silent => rw [program] at own; exact .inl own.symm

/-- What a worker under way has seen and done is right. -/
def Honest (crew : Crew) (path : StagePath) (troubled : Prop) (job : Job) : Prop :=
  match job.phase with
  | .informed cancelled => cancelled = true → troubled
  | .finished parting => Fair crew troubled (job.request path) (partingOutcome job.name parting)
  | _ => True

/-- The element of a ticket is still worked at, or its reply is posted. -/
inductive Awaits (crew : Crew) (path : StagePath) (troubled : Prop) (floor : Floor)
    (ticket : Ticket) (request : Request) : Prop
  | busy {number : Nat} {job : Job} (here : floor.jobs[number]? = some job)
      (left : job.phase ≠ .gone) (name : job.name = ticket.name)
      (channel : job.channel = ticket.channel) (same : job.request path = request)
  | posted {parting : Option String}
      (there : floor.channels[ticket.channel]? = some (Channel.fresh.parted parting))
      (fair : Fair crew troubled request (partingOutcome ticket.name parting))

/-- The worker under way was hired by the stage at the path, with the flag. Its channel is
unused, and it has the element of a ticket that is out. -/
structure Attends (crew : Crew) (path : StagePath) (flag : Nat) (troubled : Prop)
    (out : Ticket → Request → Prop) (floor : Floor) (job : Job) : Prop where
  hired : crew.hiring (job.request path) = .ok (some job.program)
  flag : job.flag = flag
  honest : Honest crew path troubled job
  unused : floor.channels[job.channel]? = some .fresh
  fails : ∀ e, workerOutcome crew (job.request path) = .error e → Cancels crew → troubled
  known : ∃ ticket request, out ticket request ∧ ticket.channel = job.channel

/-- The floor holds the elements that are out, each with its request, for the stage at the path
with the flag. -/
structure Custody (crew : Crew) (path : StagePath) (flag : Nat) (troubled : Prop)
    (out : Ticket → Request → Prop) (floor : Floor) : Prop where
  guarded : Guarded crew flag troubled floor
  attends : ∀ (number : Nat) (job : Job), floor.jobs[number]? = some job → job.phase ≠ .gone →
    Attends crew path flag troubled out floor job
  apart : ∀ (first second : Nat) (job other : Job), floor.jobs[first]? = some job →
    floor.jobs[second]? = some other → job.phase ≠ .gone → other.phase ≠ .gone →
      job.channel = other.channel → first = second
  awaits : ∀ ticket request, out ticket request →
    Awaits crew path troubled floor ticket request

/-- What is out when one more element is. -/
def Adding (out : Ticket → Request → Prop) (ticket : Ticket) (request : Request) :
    Ticket → Request → Prop :=
  fun other task => out other task ∨ other = ticket ∧ task = request

/-- What is out when the element of a ticket is not any more. -/
structure Drops (out : Ticket → Request → Prop) (ticket : Ticket)
    (rest : Ticket → Request → Prop) : Prop where
  still : ∀ other task, rest other task → out other task ∧ other.channel ≠ ticket.channel
  all : ∀ other task, out other task → other.channel = ticket.channel ∨ rest other task

theorem fresh_ne_parted (parting : Option String) :
    Channel.fresh ≠ Channel.fresh.parted parting := by
  cases parting <;> exact nofun

namespace Custody

variable {out : Ticket → Request → Prop} {floor : Floor}

/-- A channel on which a reply is posted belongs to no worker under way. -/
theorem channel_ne (custody : Custody crew path flag troubled out floor) {number : Nat} {job : Job}
    (here : floor.jobs[number]? = some job) (left : job.phase ≠ .gone) {channel : Nat}
    {parting : Option String}
    (there : floor.channels[channel]? = some (Channel.fresh.parted parting)) :
    job.channel ≠ channel := by
  rintro rfl
  have unused := (custody.attends number job here left).unused
  rw [there] at unused
  exact fresh_ne_parted parting (Option.some.inj unused).symm

/-- Tickets that are out have channels on the floor. -/
theorem channel_lt (custody : Custody crew path flag troubled out floor) {ticket : Ticket}
    {request : Request} (member : out ticket request) :
    ticket.channel < floor.channels.size := by
  cases custody.awaits ticket request member with
  | posted there => exact (Array.getElem?_eq_some_iff.mp there).1
  | @busy number job here left name channel =>
      rw [← channel]
      exact (Array.getElem?_eq_some_iff.mp (custody.attends number job here left).unused).1

/-- Custody is about workers, the stage's flag, and what the channels hold. -/
theorem congr (custody : Custody crew path flag troubled out floor) {next : Floor}
    (jobs : next.jobs = floor.jobs)
    (channels : ∀ (channel : Nat) (held : Channel), floor.channels[channel]? = some held →
      next.channels[channel]? = some held)
    (guarded : Guarded crew flag troubled next) :
    Custody crew path flag troubled out next := by
  constructor
  · exact guarded
  · intro number job here left
    rw [jobs] at here
    obtain ⟨hired, flag, honest, unused, fails, known⟩ := custody.attends number job here left
    exact ⟨hired, flag, honest, channels _ _ unused, fails, known⟩
  · rw [jobs]
    exact custody.apart
  · intro ticket request member
    cases custody.awaits ticket request member with
    | busy here left name channel same =>
        exact .busy (by rw [jobs]; exact here) left name channel same
    | posted there fair => exact .posted (channels _ _ there) fair

/-- A worker moves on in its task, and posts its reply if this was its last move. -/
theorem move (custody : Custody crew path flag troubled out floor) {number : Nat} {job : Job}
    (here : floor.jobs[number]? = some job) (left : job.phase ≠ .gone) {next : Floor}
    {phase : Phase} (jobs : next.jobs = (floor.setPhase number phase).jobs)
    (honest : Honest crew path troubled { job with phase := phase })
    (guarded : Guarded crew flag troubled next)
    (channels : ∀ channel, phase ≠ .gone ∨ job.channel ≠ channel →
      next.channels[channel]? = floor.channels[channel]?)
    (posts : phase = .gone → ∃ parting,
      next.channels[job.channel]? = some (Channel.fresh.parted parting) ∧
        Fair crew troubled (job.request path) (partingOutcome job.name parting)) :
    Custody crew path flag troubled out next := by
  have own : next.jobs[number]? = some { job with phase := phase } := by
    rw [jobs, Floor.getElem_setPhase, if_pos rfl, here]
    rfl
  have others {other : Nat} (differ : number ≠ other) : next.jobs[other]? = floor.jobs[other]? := by
    rw [jobs, Floor.getElem_setPhase, if_neg differ]
  have prior : ∀ (other : Nat) (last : Job), next.jobs[other]? = some last → last.phase ≠ .gone →
      ∃ earlier, floor.jobs[other]? = some earlier ∧ earlier.phase ≠ .gone ∧
        earlier.channel = last.channel := by
    intro other last there still
    by_cases same : number = other
    · subst same
      rw [own] at there
      cases there
      exact ⟨job, here, left, rfl⟩
    · exact ⟨last, (others same).symm.trans there, still, rfl⟩
  constructor
  · exact guarded
  · intro other last there still
    by_cases same : number = other
    -- the worker that moves: it is still under way, so its channel is as it was
    · subst same
      rw [own] at there
      cases there
      obtain ⟨hired, flag, _, unused, fails, known⟩ := custody.attends number job here left
      exact ⟨hired, flag, honest, (channels _ (.inl still)).trans unused, fails, known⟩
    · rw [others same] at there
      obtain ⟨hired, flag, honest, unused, fails, known⟩ := custody.attends other last there still
      have differ : job.channel ≠ last.channel := fun shared =>
        same (custody.apart number other job last here there left still shared)
      exact ⟨hired, flag, honest, (channels _ (.inr differ)).trans unused, fails, known⟩
  · intro first second one two there there' still still' shared
    obtain ⟨earlier, before, under_way, channel⟩ := prior first one there still
    obtain ⟨earlier', before', under_way', channel'⟩ := prior second two there' still'
    exact custody.apart first second earlier earlier' before before' under_way under_way'
      (channel.trans (shared.trans channel'.symm))
  · intro ticket request member
    cases custody.awaits ticket request member with
    | posted there fair =>
        have differ := custody.channel_ne here left there
        exact .posted ((channels _ (.inr differ)).trans there) fair
    | @busy other last there still name channel same =>
        by_cases mine : number = other
        · subst mine
          rw [here] at there
          cases there
          -- the ticket of the worker that moves: its last move posts the reply
          by_cases gone : phase = .gone
          · obtain ⟨parting, there, fair⟩ := posts gone
            rw [channel] at there
            rw [name, same] at fair
            exact .posted there fair
          · exact .busy own gone name channel same
        · exact .busy ((others mine).trans there) still name channel same

/-- **Custody is kept by every move of a worker.** -/
theorem advance (custody : Custody crew path flag troubled out floor) (number : Nat) :
    Custody crew path flag troubled out (floor.advance crew number) := by
  have step := Floor.advance_move crew floor number
  generalize floor.advance crew number = next at step ⊢
  cases step with
  | idle => exact custody
  | @inform job here waiting =>
      have left : job.phase ≠ .gone := by rw [waiting]; rintro ⟨⟩
      have attends := custody.attends number job here left
      refine custody.move here left (Floor.jobs_inform number job) (fun cancelled => ?_)
        custody.guarded (fun _ _ => rfl) fun gone => by cases gone
      rw [attends.flag] at cancelled
      exact custody.guarded.1 cancelled
  | @work job cancelled here informed =>
      have left : job.phase ≠ .gone := by rw [informed]; rintro ⟨⟩
      have attends := custody.attends number job here left
      have honest : cancelled = true → troubled := by
        have honest := attends.honest
        rw [Honest, informed] at honest
        exact honest
      have fair := fair_parting attends.hired honest
      refine custody.move here left (Floor.jobs_work crew number job cancelled) fair ?_
        (fun _ _ => by rw [Floor.channels_work]) fun gone => by cases gone
      cases raises : job.program.raises crew.root job.name job.payload cancelled with
      | true =>
          obtain ⟨e, failed⟩ := partingOutcome_raises raises
          refine (custody.guarded.cancel (fair.trouble attends.fails failed)).of_flags ?_
          rw [Floor.flags_work, raises, attends.flag]
          rfl
      | false =>
          refine custody.guarded.of_flags ?_
          rw [Floor.flags_work, raises]
          rfl
  | @part job parting here finished =>
      have left : job.phase ≠ .gone := by rw [finished]; rintro ⟨⟩
      have attends := custody.attends number job here left
      have fair : Fair crew troubled (job.request path) (partingOutcome job.name parting) := by
        have honest := attends.honest
        rw [Honest, finished] at honest
        exact honest
      have inside := (Array.getElem?_eq_some_iff.mp attends.unused).1
      refine custody.move here left (Floor.jobs_part number job parting) trivial
        custody.guarded (fun channel moved => ?_) fun _ => ⟨parting, ?_, fair⟩
      · rw [Floor.channels_part, Array.getElem?_setIfInBounds_ne
          (moved.resolve_left fun still => still rfl)]
      · rw [Floor.channels_part, Array.getElem?_setIfInBounds_self_of_lt inside, attends.unused]
        rfl

/-- Custody is stable. -/
theorem stable (crew : Crew) (path : StagePath) (flag : Nat) (troubled : Prop)
    (out : Ticket → Request → Prop) :
    Floor.Stable crew (Custody crew path flag troubled out) where
  advance _ number custody := custody.advance number
  schedule _ _ custody := custody.congr rfl (fun _ _ there => there) custody.guarded
  strides _ _ custody := custody.congr rfl (fun _ _ there => there) custody.guarded

/-- One more element is out, for which there is a reply already. -/
theorem adding (custody : Custody crew path flag troubled out floor) {ticket : Ticket}
    {request : Request} (awaits : Awaits crew path troubled floor ticket request) :
    Custody crew path flag troubled (Adding out ticket request) floor := by
  constructor
  · exact custody.guarded
  · intro number job here left
    obtain ⟨hired, flag, honest, unused, fails, other, task, member, channel⟩ :=
      custody.attends number job here left
    exact ⟨hired, flag, honest, unused, fails, other, task, .inl member, channel⟩
  · exact custody.apart
  · rintro other task (member | ⟨rfl, rfl⟩)
    · exact custody.awaits other task member
    · exact awaits

/-- One more worker is hired, and its element is out. -/
theorem hire (custody : Custody crew path flag troubled out floor) {job : Job}
    (hired : crew.hiring (job.request path) = .ok (some job.program))
    (waiting : job.phase = .waiting) (flagged : job.flag = flag)
    (unused : floor.channels[job.channel]? = some .fresh)
    (fails : ∀ e, workerOutcome crew (job.request path) = .error e → Cancels crew → troubled)
    (new : ∀ (number : Nat) (other : Job), floor.jobs[number]? = some other →
      other.phase ≠ .gone → other.channel ≠ job.channel) :
    Custody crew path flag troubled (Adding out ⟨job.name, job.channel⟩ (job.request path))
      (floor.hire job) := by
  have left : job.phase ≠ .gone := by rw [waiting]; exact nofun
  have last : (floor.hire job).jobs[floor.jobs.size]? = some job := by
    rw [Floor.getElem_hire, if_pos rfl]
  have before {number : Nat} {other : Job} (there : (floor.hire job).jobs[number]? = some other) :
      (number = floor.jobs.size ∧ other = job) ∨ floor.jobs[number]? = some other := by
    rw [Floor.getElem_hire] at there
    split at there
    next same => exact .inl ⟨same, (Option.some.inj there).symm⟩
    next => exact .inr there
  constructor
  · exact custody.guarded
  · intro number other there still
    rcases before there with ⟨rfl, rfl⟩ | there
    · refine ⟨hired, flagged, ?_, unused, fails, _, _, .inr ⟨rfl, rfl⟩, rfl⟩
      rw [Honest, waiting]
      trivial
    · obtain ⟨hired, flag, honest, unused, fails, ticket, task, member, channel⟩ :=
        custody.attends number other there still
      exact ⟨hired, flag, honest, unused, fails, ticket, task, .inl member, channel⟩
  · intro first second one two there there' still still' shared
    rcases before there with ⟨rfl, rfl⟩ | earlier
    · rcases before there' with ⟨rfl, rfl⟩ | earlier'
      · rfl
      · exact absurd shared.symm (new second two earlier' still')
    · rcases before there' with ⟨rfl, rfl⟩ | earlier'
      · exact absurd shared (new first one earlier still)
      · exact custody.apart first second one two earlier earlier' still still' shared
  · rintro ticket request (member | ⟨rfl, rfl⟩)
    · cases custody.awaits ticket request member with
      | posted there fair => exact .posted there fair
      | @busy number other there still name channel same =>
          have inside := (Array.getElem?_eq_some_iff.mp there).1
          have there' : (floor.hire job).jobs[number]? = some other := by
            rw [Floor.getElem_hire, if_neg (Nat.ne_of_lt inside)]
            exact there
          exact .busy there' still name channel same
    · exact .busy last left rfl rfl rfl

/-- A posted reply is taken, and its element is out no more. -/
theorem receive (custody : Custody crew path flag troubled out floor) {ticket : Ticket}
    {parting : Option String}
    (there : floor.channels[ticket.channel]? = some (Channel.fresh.parted parting))
    {rest : Ticket → Request → Prop} (drops : Drops out ticket rest) {next : Floor}
    (jobs : next.jobs = floor.jobs)
    (channels : ∀ channel, ticket.channel ≠ channel →
      next.channels[channel]? = floor.channels[channel]?)
    (guarded : Guarded crew flag troubled next) :
    Custody crew path flag troubled rest next := by
  constructor
  · exact guarded
  · intro number job here left
    rw [jobs] at here
    have differ := custody.channel_ne here left there
    obtain ⟨hired, flag, honest, unused, fails, other, task, member, channel⟩ :=
      custody.attends number job here left
    have kept : rest other task :=
      (drops.all other task member).resolve_left fun same => differ (channel.symm.trans same)
    exact ⟨hired, flag, honest, (channels _ differ.symm).trans unused, fails, other, task, kept,
      channel⟩
  · rw [jobs]
    exact custody.apart
  · intro other task kept
    obtain ⟨member, differ⟩ := drops.still other task kept
    cases custody.awaits other task member with
    | busy here left name channel same =>
        exact .busy (by rw [jobs]; exact here) left name channel same
    | posted there' fair => exact .posted ((channels _ differ.symm).trans there') fair

/-- A channel that is there is not the next to be opened. -/
theorem channel_ne_new {channel : Nat} {held : Channel}
    (there : floor.channels[channel]? = some held) : channel ≠ (openChannel floor).1 :=
  Nat.ne_of_lt (Array.getElem?_eq_some_iff.mp there).1

theorem openChannel (custody : Custody crew path flag troubled out floor) :
    Custody crew path flag troubled out (openChannel floor).2 := by
  refine custody.congr rfl (fun channel held there => ?_) custody.guarded
  rw [getElem_openChannel, if_neg (channel_ne_new there)]
  exact there

/-- An element whose worker is forgotten is out, and its silence is posted. -/
theorem drop (custody : Custody crew path flag troubled out floor) {request : Request}
    (forgotten : crew.hiring request = .ok none) :
    let channel := (Coordinator.openChannel floor).1
    let opened := (Coordinator.openChannel floor).2
    Custody crew path flag troubled (Adding out ⟨request.name, channel⟩ request)
      { opened.note (.spawned request.name) with
        channels := opened.channels.modify channel Channel.dropSender } := by
  intro channel opened
  have posted : (opened.channels.modify channel Channel.dropSender)[channel]? =
      some (Channel.fresh.parted none) := by
    rw [Array.getElem?_modify, if_pos rfl, getElem_openChannel, if_pos rfl]
    rfl
  have own : partingOutcome request.name none = workerOutcome crew request := by
    rw [workerOutcome, forgotten]
    rfl
  refine Custody.adding ?_ (.posted posted (.inl own))
  refine custody.congr rfl (fun other held there => ?_) custody.guarded
  have differ := channel_ne_new there
  rw [Array.getElem?_modify, if_neg differ.symm, getElem_openChannel, if_neg differ]
  exact there

end Custody

/-- What is known after asking for an element that is out. -/
inductive Asked (crew : Crew) (path : StagePath) (flag : Nat) (troubled : Prop)
    (out : Ticket → Request → Prop) (ticket : Ticket) (request : Request) :
    Answer Ticket Error Json × Floor → Prop
  | later {floor : Floor} (custody : Custody crew path flag troubled out floor)
      (busy : 0 < floor.busy) :
      Asked crew path flag troubled out ticket request (.later ticket, floor)
  | now {outcome : Except Error Json} {floor : Floor} (fair : Fair crew troubled request outcome)
      (custody : ∀ rest, Drops out ticket rest → Custody crew path flag troubled rest floor) :
      Asked crew path flag troubled out ticket request (.now outcome, floor)

/-- What is known after sending an element with this request. -/
inductive Sent (crew : Crew) (flag : Nat) (troubled : Prop) (out : Ticket → Request → Prop)
    (request : Request) : Answer Ticket Error Json × Floor → Prop
  | later {channel : Nat} {floor : Floor}
      (custody : Custody crew request.path flag troubled
        (Adding out ⟨request.name, channel⟩ request) floor)
      (new : ∀ other task, out other task → other.channel ≠ channel) :
      Sent crew flag troubled out request (.later ⟨request.name, channel⟩, floor)
  | now {outcome : Except Error Json} {floor : Floor} (fair : Fair crew troubled request outcome)
      (custody : Custody crew request.path flag troubled out floor) :
      Sent crew flag troubled out request (.now outcome, floor)

variable {out : Ticket → Request → Prop} {floor : Floor}

/-- Settling an outcome raises the flag only in trouble. -/
theorem Guarded.settle {outcome : Except Error Json}
    (guarded : Guarded crew flag troubled floor)
    (failed : ∀ e, outcome = .error e → Cancels crew → troubled) :
    Guarded crew flag troubled (settle flag outcome floor) := by
  cases outcome with
  | ok v => exact guarded
  | error e => exact guarded.cancel (failed e rfl)

theorem jobs_settle (flag : Nat) (outcome : Except Error Json) (floor : Floor) :
    (settle flag outcome floor).jobs = floor.jobs := by
  cases outcome <;> rfl

theorem channels_settle (flag : Nat) (outcome : Except Error Json) (floor : Floor) :
    (settle flag outcome floor).channels = floor.channels := by
  cases outcome <;> rfl

/-- **Asking keeps custody**, and gives no outcome but a fair one. -/
theorem asked (custody : Custody crew path flag troubled out floor) {ticket : Ticket}
    {request : Request} (member : out ticket request)
    (fails : ∀ e, workerOutcome crew request = .error e → Cancels crew → troubled) :
    Asked crew path flag troubled out ticket request (ask crew flag ticket floor) := by
  have strided := (Custody.stable crew path flag troubled out).stride custody
  unfold ask
  generalize floor.stride crew = next at strided ⊢
  cases strided.awaits ticket request member with
  | @busy number job here left name channel same =>
      have unused := (strided.attends number job here left).unused
      rw [channel] at unused
      rw [listen_fresh unused]
      exact .later strided (Floor.busy_pos here left)
  | @posted parting there fair =>
      obtain ⟨channels, heard, others⟩ := listen_parted next there
      rw [heard]
      refine .now fair fun rest drops => ?_
      refine strided.receive there drops (jobs_settle _ _ _) (fun channel differ => ?_)
        (Guarded.settle (strided.guarded.of_flags rfl) fun e failed => fair.trouble fails failed)
      rw [channels_settle]
      exact others channel differ

/-- An element that was asked for right after it was sent has been sent. -/
theorem Asked.sent {request : Request} {channel : Nat}
    {outcome : Answer Ticket Error Json × Floor}
    (asked : Asked crew request.path flag troubled (Adding out ⟨request.name, channel⟩ request)
      ⟨request.name, channel⟩ request outcome)
    (new : ∀ other task, out other task → other.channel ≠ channel) :
    Sent crew flag troubled out request outcome := by
  cases asked with
  | later custody => exact .later custody new
  | now fair custody =>
      refine .now fair (custody out ⟨fun other task member => ?_, ?_⟩)
      · exact ⟨.inl member, new other task member⟩
      · rintro other task (member | ⟨rfl, rfl⟩)
        · exact .inr member
        · exact .inl rfl

/-- After a request for a worker that is met, the element is out. One that is refused has the
refusal as its outcome. -/
theorem spawned {request : Request} (custody : Custody crew request.path flag troubled out floor)
    (fails : ∀ e, workerOutcome crew request = .error e → Cancels crew → troubled) :
    let channel := (openChannel floor).1
    let spawn := (openChannel floor).2.spawn crew request channel flag
    (∀ e, spawn.1 = .error e →
      workerOutcome crew request = .error e ∧
        Custody crew request.path flag troubled out spawn.2) ∧
    (spawn.1 = .ok () → Custody crew request.path flag troubled
      (Adding out ⟨request.name, channel⟩ request) spawn.2) := by
  intro channel spawn
  have last : (openChannel floor).2.channels[channel]? = some .fresh := by
    rw [getElem_openChannel, if_pos rfl]
  have opened := custody.openChannel
  have meets : Floor.Meets crew request channel flag (openChannel floor).2 spawn :=
    Floor.spawn_meets ..
  generalize spawn = met at meets ⊢
  cases meets with
  | refused hiring =>
      constructor
      · rintro e ⟨⟩
        rw [workerOutcome, hiring]
        exact ⟨rfl, opened.congr rfl (fun _ _ there => there) opened.guarded⟩
      · rintro ⟨⟩
  | forgotten hiring =>
      constructor
      · rintro e ⟨⟩
      · exact fun _ => custody.drop hiring
  | @started program hiring =>
      constructor
      · rintro e ⟨⟩
      refine fun _ => (Custody.stable crew request.path flag troubled _).begin _ ?_
      let job : Job := ⟨request.name, request.payload, channel, flag, program, .waiting⟩
      have task : crew.hiring (job.request request.path) = .ok (some job.program) := hiring
      exact opened.hire task rfl rfl last fails fun number other there still =>
        Custody.channel_ne_new (custody.attends number other there still).unused

/-- **Sending keeps custody.** The element is out afterwards, or has a fair outcome. -/
theorem sent (custody : Custody crew path flag troubled out floor) (position : Nat) (v : Json)
    (fails : ∀ e, treatment crew path position v = .error e → Cancels crew → troubled) :
    Sent crew flag troubled out (crew.request path position v)
      (send crew path flag position v floor) := by
  let request := crew.request path position v
  have strided : Custody crew request.path flag troubled out (floor.stride crew) :=
    (Custody.stable crew path flag troubled out).stride custody
  have new : ∀ other task, out other task → other.channel ≠ (openChannel (floor.stride crew)).1 :=
    fun other task member => Nat.ne_of_lt (strided.channel_lt member)
  obtain ⟨refusal, hired⟩ := spawned strided fails
  have sends := send_sends crew path flag position v floor
  generalize send crew path flag position v floor = sent at sends ⊢
  generalize Floor.spawn crew _ _ _ _ = spawn at refusal hired sends
  cases sends with
  | refused e =>
      obtain ⟨own, kept⟩ := refusal e rfl
      refine .now (.inl own.symm) (kept.congr (jobs_settle _ _ _) (fun channel held there => ?_)
        (kept.guarded.settle fun _ _ => fails e own))
      rw [channels_settle]
      exact there
  | met => exact (asked (hired rfl) (.inr ⟨rfl, rfl⟩) fails).sent new

end Conduit.Coordinator
