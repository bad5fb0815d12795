import Conduit.Proofs.Coordinator.Agreement

/-! # Elements one after the other

Workers that run when they are started go through the elements of a stage one after the other, as
the run's own thread does with functions that answer at once. On both engines the stage fails with
the failure of the first element that fails, and no element behind it is encoded, sent out, given
a worker or called for (`Conduit.Coordinator.fails_in_turn`).
-/

namespace Conduit

/-- How a worker ends that has this text to send, if any, while somebody listens. -/
def JobEnd.ofParting : Option String → JobEnd
  | none => .silent
  | some _ => .replied

namespace Floor

variable {crew : Crew} {floor : Floor} {number : Nat} {job : Job}

theorem events_part {parting : Option String}
    (listens : floor.channels[job.channel]? = some .fresh) :
    (floor.part number job parting).events =
      floor.events.push (.ended job.name (.ofParting parting)) := by
  unfold part
  rw [listens]
  cases parting <;> rfl

theorem calls_part (number : Nat) (job : Job) (parting : Option String) :
    (floor.part number job parting).calls = floor.calls := rfl

theorem events_work (crew : Crew) (number : Nat) (job : Job) (cancelled : Bool) :
    (floor.work crew number job cancelled).events = floor.events := by
  unfold work
  cases job.program <;> rfl

theorem calls_work (serves : job.program = .serve) (cancelled : Bool) :
    (floor.work crew number job cancelled).calls =
      (Worker.attend crew.root job.name job.payload cancelled).events.foldl Array.push
        floor.calls := by
  rw [work, serves]
  rfl

section RunJob

variable (here : floor.jobs[number]? = some job) (waiting : job.phase = .waiting)
include here waiting

/-- A worker that has all its turns at once starts and ends. -/
theorem events_runJob (listens : floor.channels[job.channel]? = some .fresh) :
    (floor.runJob crew number).events =
      (floor.events.push (.started job.name job.payload (floor.isCancelled job.flag))).push
        (.ended job.name (.ofParting (job.program.parting crew.root job.name job.payload
          (floor.isCancelled job.flag)))) := by
  rw [runJob_waiting here waiting, events_part, events_work]
  · rfl
  · rw [channels_work]
    exact listens

/-- A worker that has all its turns at once calls what it has to. -/
theorem calls_runJob (serves : job.program = .serve) :
    (floor.runJob crew number).calls =
      (Worker.attend crew.root job.name job.payload (floor.isCancelled job.flag)).events.foldl
        Array.push floor.calls := by
  rw [runJob_waiting here waiting, calls_part]
  exact calls_work serves _

end RunJob

end Floor

namespace Coordinator

variable {crew : Crew} {floor : Floor}

/-- What is written down about the worker with this task, when somebody listens to it. -/
def employment (crew : Crew) (name payload : String) : List FloorEvent :=
  [.spawned name, .started name payload false, .ended name
    (.ofParting (Worker.replyText? (Worker.attend crew.root name payload false).result))]

theorem ask_notes (crew : Crew) (flag : Nat) (ticket : Ticket) (settled : floor.Settled) :
    (ask crew flag ticket floor).2.events = floor.events ∧
      (ask crew flag ticket floor).2.calls = floor.calls := by
  obtain ⟨strides, strode⟩ := settled.stride crew
  obtain ⟨flags, channels, asked⟩ := ask_frame crew flag ticket floor
  rw [asked, strode]
  exact ⟨rfl, rfl⟩

/-- An element that is sent out has its worker started and ended, which calls what it has to. -/
theorem send_notes (immediate : crew.immediate = true)
    (serves : ∀ request, crew.hiring request = .ok (some .serve)) {flag : Nat}
    (quiet : Quiet flag floor) (path : StagePath) (position : Nat) (v : Json) :
    let name := crew.config.workerName position
    let payload := (WorkerMessage.mk path v).encode
    let next := (send crew path flag position v floor).2
    next.events.toList = floor.events.toList ++ employment crew name payload ∧
      next.calls.toList =
        floor.calls.toList ++ (Worker.attend crew.root name payload false).events := by
  intro name payload next
  obtain ⟨strides, strode⟩ := quiet.settled.stride crew
  let opened := openChannel (floor.stride crew)
  let job : Job := ⟨name, payload, opened.1, flag, .serve, .waiting⟩
  have waiting : job.phase = .waiting := rfl
  have quiet' : Quiet flag opened.2 := by
    change Quiet flag (openChannel (floor.stride crew)).2
    rw [strode]
    exact ⟨quiet.settled, quiet.clear⟩
  have fresh : opened.2.channels[job.channel]? = some .fresh := by
    rw [getElem_openChannel, if_pos rfl]
  have here : (opened.2.hire job).jobs[opened.2.jobs.size]? = some job := by
    rw [Floor.getElem_hire, if_pos rfl]
  have clear : (opened.2.hire job).isCancelled job.flag = false := quiet'.clear
  obtain ⟨settled, -, -⟩ := quiet'.runJob_hire crew waiting rfl fresh
  have sent : next = (ask crew flag ⟨name, opened.1⟩
      ((opened.2.hire job).runJob crew opened.2.jobs.size)).2 := by
    change (send crew path flag position v floor).2 = _
    rw [send]
    dsimp only
    rw [Floor.spawn, serves]
    dsimp only
    rw [if_pos immediate]
    rfl
  obtain ⟨events, calls⟩ := ask_notes crew flag ⟨name, opened.1⟩ settled
  rw [sent, events, calls, Floor.events_runJob here waiting fresh,
    Floor.calls_runJob here waiting rfl, clear]
  have unwritten : opened.2.events = floor.events ∧ opened.2.calls = floor.calls := by
    change (openChannel (floor.stride crew)).2.events = _ ∧
      (openChannel (floor.stride crew)).2.calls = _
    rw [strode]
    exact ⟨rfl, rfl⟩
  constructor
  · change (((opened.2.events.push (.spawned name)).push (.started name payload false)).push
      (.ended name (.ofParting (Worker.replyText?
        (Worker.attend crew.root name payload false).result)))).toList = _
    rw [unwritten.1]
    simp [employment]
  · change ((Worker.attend crew.root name payload false).events.foldl Array.push
      opened.2.calls).toList = _
    rw [unwritten.2]
    simp

section Passage

variable {path : StagePath} {stage : ParallelMap}

/-- Elements and values cross to the workers and back as texts, and failures as descriptions. -/
def passage (crew : Crew) (path : StagePath) : Passage where
  host := crew.config.workerName
  arrive v := (WorkerMessage.decode (WorkerMessage.mk path v).encode).map WorkerMessage.value
  back w := outcomeOf (Reply.success w).encode
  cross e := (ErrorDescription.ofError e).toError
  lost position := silence (crew.config.workerName position)

theorem arrive_eq (crew : Crew) (path : StagePath) (v : Json) : (passage crew path).arrive v =
    (WorkerMessage.decode (WorkerMessage.mk path v).encode).map WorkerMessage.value := by
  rw [passage]

theorem back_eq (crew : Crew) (path : StagePath) (w : Json) :
    (passage crew path).back w = outcomeOf (Reply.success w).encode := by
  rw [passage]

/-- An element that is fit for the wire arrives as it was. -/
theorem arrive_passage {v : Json} (small : ∀ i ∈ path.indices, i < 2 ^ 64)
    (sendable : Sendable v) : (passage crew path).arrive v = .ok v := by
  rw [arrive_eq, WorkerMessage.decode_encode small sendable]
  rfl

/-- A value that is fit for the wire comes back as it was. -/
theorem back_passage {w : Json} (sendable : Sendable w) : (passage crew path).back w = .ok w := by
  rw [back_eq]
  exact outcomeOf_success sendable

/-- The run learns from a worker's reply how the work ended. -/
theorem partingOutcome_home (crew : Crew) (path : StagePath) (position : Nat)
    (ending : Ending Error Json) :
    partingOutcome (crew.config.workerName position) (Worker.replyText? ending) =
      (passage crew path).home position ending := by
  cases ending with
  | returned w => rw [Passage.home, back_eq, Worker.replyText?, partingOutcome, Reply.ofOutcome]
  | failed e => exact partingOutcome_failed _ e
  | lost => rfl

variable (resolves : crew.root.resolve path = .ok stage)
include resolves

/-- What a worker that serves makes of an element is what comes of the element's way. -/
theorem treat_passage (serves : ∀ request, crew.hiring request = .ok (some .serve)) :
    (passage crew path).treat stage = treatment crew path := by
  funext position v
  rw [treatment_served (serves _), partingOutcome_home crew path, Passage.treat, arrive_eq]
  cases decoded : WorkerMessage.decode (WorkerMessage.mk path v).encode with
  | error e =>
      rw [Worker.attend, if_neg Bool.false_ne_true, decoded]
      rfl
  | ok message =>
      rw [Worker.attend_own resolves decoded]
      rfl

/-- What a worker's function reports about an element. -/
theorem events_attend {x : stage.input.Carrier} {v : Json}
    (encodes : stage.input.encode x = .ok v) (position : Nat) :
    (Worker.attend crew.root (crew.config.workerName position)
        (WorkerMessage.mk path v).encode false).events =
      (passage crew path).reports stage (x, position) := by
  cases decoded : WorkerMessage.decode (WorkerMessage.mk path v).encode with
  | error e =>
      have unread : (passage crew path).arrive v = .error e := by
        rw [arrive_eq, decoded]
        rfl
      rw [Passage.reports_of_unread encodes unread, Worker.attend, if_neg Bool.false_ne_true,
        decoded]
      rfl
  | ok message =>
      have arrives : (passage crew path).arrive v = .ok message.value := by
        rw [arrive_eq, decoded]
        rfl
      rw [← Passage.events_callElement encodes arrives position,
        Worker.attend_own resolves decoded]
      exact List.append_nil _

end Passage

/-- What is written down about the worker of an element, if the element is sent out. -/
def employments (crew : Crew) (path : StagePath) (stage : ParallelMap) :
    stage.input.Carrier × Nat → List FloorEvent
  | (x, position) =>
      match stage.input.encode x with
      | .error _ => []
      | .ok v => employment crew (crew.config.workerName position) (WorkerMessage.mk path v).encode

section Start

variable {path : StagePath} {stage : ParallelMap} (immediate : crew.immediate = true)
  (serves : ∀ request, crew.hiring request = .ok (some .serve)) {flag : Nat}
  (quiet : Quiet flag floor) (x : stage.input.Carrier) (position : Nat)
include immediate serves quiet

/-- What an element that is started leaves written down. -/
theorem events_start :
    ((stage.start (dispatch crew path flag) x position).run floor).2.events.toList =
      floor.events.toList ++ employments crew path stage (x, position) := by
  rw [ParallelMap.run_start, employments]
  cases stage.input.encode x with
  | error fault => exact (List.append_nil _).symm
  | ok v => exact (send_notes immediate serves quiet path position v).1

/-- An element that is started leaves the reports of its function. -/
theorem calls_start (resolves : crew.root.resolve path = .ok stage) :
    ((stage.start (dispatch crew path flag) x position).run floor).2.calls.toList =
      floor.calls.toList ++ (passage crew path).reports stage (x, position) := by
  rw [ParallelMap.run_start]
  cases encodes : stage.input.encode x with
  | error fault => rw [Passage.reports_of_unencoded encodes, List.append_nil]
  | ok v =>
      rw [← events_attend resolves encodes position]
      exact (send_notes immediate serves quiet path position v).2

end Start

/-- **Both engines work through the elements in order.** Let the function of an element answer at
once, and let workers run when they are started, on a floor where nobody is under way, as none is
between the steps of a run (`settled_between`). Then a stage comes to the values of all its
elements, or to the failure of the first element that fails at any point of its way. All elements
before that one have been sent out and called for once, in the order of their positions; the last
one has been called for just when its way ended behind the call. No element behind it has been
taken up, sent out, given a worker or called for. -/
theorem fails_in_turn (crew : Crew) (path : StagePath) (stage : ParallelMap)
    (source : (stage.shape.container stage.input).Carrier) (calls : Array Call) (floor : Floor)
    (synchronous : stage.Synchronous) (immediate : crew.immediate = true)
    (serves : ∀ request, crew.hiring request = .ok (some .serve))
    (resolves : crew.root.resolve path = .ok stage) (settled : floor.Settled) :
    (∃ reached outcome record reported calls',
      Local.passage.InTurn stage (stage.shape.elements source) reached outcome record reported ∧
        (Local.fanOut path stage (.ofData source) : Recorder Call _).run calls =
          (outcome.map stage.assemble, calls') ∧
        (stage.runRecorded (Local.dispatch (m := Recorder Call) stage) (.ofData source)).run
            (calls, []) = (outcome.map stage.assemble, calls', record) ∧
        calls'.toList = calls.toList ++ reported) ∧
    ∃ reached outcome record reported floor',
      (passage crew path).InTurn stage (stage.shape.elements source) reached outcome record
          reported ∧
        (fanOut crew path stage (.ofData source)).run floor =
          (outcome.map stage.assemble, floor') ∧
        (stage.runRecorded (dispatch crew path (openFlag crew floor).1) (.ofData source)).run
            ((openFlag crew floor).2, []) = (outcome.map stage.assemble, floor', record) ∧
        floor'.calls.toList = floor.calls.toList ++ reported ∧
        floor'.events.toList = floor.events.toList ++
          ((stage.shape.elements source).zipIdx.take reached).flatMap
            (employments crew path stage) := by
  constructor
  · exact Local.runs_in_turn synchronous source calls
  · have quiet := quiet_openFlag crew settled
    obtain ⟨reached, outcome, floor', ends, records, observes⟩ :=
      ParallelMap.runRecorded_prompt
        (promptDispatch immediate path (openFlag crew floor).1) stage source quiet
    have runs := stage.run_runRecorded (dispatch crew path (openFlag crew floor).1)
      (.ofData source) (openFlag crew floor).2 []
    rw [← treat_passage resolves serves] at ends records
    rw [records] at runs
    exact ⟨reached, outcome, _, _, floor',
      ⟨fun position x _ => Passage.fares _ stage x position, ends, rfl, rfl⟩,
      (fanOut_eq_run crew path stage _ floor).trans runs, records,
      observes (fun floor => floor.calls.toList) _ fun x position _ quiet =>
        calls_start immediate serves quiet x position resolves,
      observes (fun floor => floor.events.toList) _ fun x position _ quiet =>
        events_start immediate serves quiet x position⟩

/-- The path of the only stage of the crew that checks flags. -/
def flagPath : StagePath := ⟨[0]⟩

theorem own_checkFlag {passage : Passage}
    (arrives : ∀ b : Bool, passage.arrive (.bool b) = .ok (.bool b))
    (back : passage.back (.bool true) = .ok (.bool true))
    (cross : ∀ text, passage.cross (.raised text) = .raised text) (position : Nat) :
    checkFlag.elementOutcome (passage.treat checkFlag) (true, position) = .ok true ∧
      checkFlag.elementOutcome (passage.treat checkFlag) (false, position) =
        .error (.raised "The flag is not set") := by
  constructor
  · change (passage.treat checkFlag position (.bool true)).bind _ = _
    rw [Passage.treat, arrives]
    change (passage.back (.bool true)).bind _ = _
    rw [back]
    rfl
  · change (passage.treat checkFlag position (.bool false)).bind _ = _
    rw [Passage.treat, arrives]
    change Except.error (passage.cross (.raised "The flag is not set")) = _
    rw [cross]

/-- The second of three flags is the last one that is taken up. -/
theorem second_flag_last {passage : Passage} {reached : Nat} {outcome : Except Error (List Bool)}
    {record : List Handling} {reported : List Call}
    (inTurn : passage.InTurn checkFlag [true, false, true] reached outcome record reported)
    (arrives : ∀ b : Bool, passage.arrive (.bool b) = .ok (.bool b))
    (back : passage.back (.bool true) = .ok (.bool true))
    (cross : ∀ text, passage.cross (.raised text) = .raised text) :
    reached = 2 ∧ outcome = .error (.raised "The flag is not set") := by
  have own := own_checkFlag arrives back cross
  have here : [true, false, true][1]? = some false := rfl
  refine inTurn.ends.of_first here (own 1).2 fun place z earlier there => ?_
  obtain rfl := Nat.lt_one_iff.mp earlier
  cases there
  exact ⟨true, (own 0).1⟩

/-- Neither engine takes up the flag behind the one that is not set. -/
theorem fails_in_turn_flagCrew :
    (∃ calls record, (checkFlag.runRecorded (Local.dispatch (m := Recorder Call) checkFlag)
        (.ofData (a := .list .bool) [true, false, true])).run (#[], []) =
          (.error (.raised "The flag is not set"), calls, record) ∧
      record = [(true, 0), (false, 1)].flatMap
        (checkFlag.handlings (Local.passage.treat checkFlag))) ∧
    ∃ floor, (fanOut flagCrew flagPath checkFlag
        (.ofData (a := .list .bool) [true, false, true])).run {} =
          (.error (.raised "The flag is not set"), floor) ∧
      floor.events.toList = [(true, 0), (false, 1)].flatMap
        (employments flagCrew flagPath checkFlag) := by
  have small : ∀ i ∈ flagPath.indices, i < 2 ^ 64 := by decide
  obtain ⟨⟨reached, outcome, record, reported, calls, inTurn, -, records, -⟩,
      reached', outcome', record', reported', floor, inTurn', runs, -, -, events⟩ :=
    fails_in_turn flagCrew flagPath checkFlag [true, false, true] #[] {} (fun _ _ => rfl) rfl
      (fun _ => rfl) rfl (fun _ _ => nofun)
  obtain ⟨rfl, rfl⟩ := second_flag_last inTurn (fun _ => rfl) rfl fun _ => rfl
  obtain ⟨rfl, rfl⟩ := second_flag_last inTurn'
    (fun b => arrive_passage small (sendable_bool b)) (back_passage (sendable_bool true))
    fun _ => rfl
  exact ⟨⟨calls, record, records, inTurn.handled⟩, floor, runs, events⟩

end Coordinator

end Conduit
