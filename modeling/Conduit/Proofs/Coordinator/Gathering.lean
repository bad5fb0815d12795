import Conduit.Proofs.Coordinator.Custody
import Conduit.Proofs.Machine.Simulation
import Conduit.Proofs.Traversal.Places
import Conduit.Proofs.Traversal.Stages

/-! # Gathering the elements of a stage

While the coordinator gathers the elements of a stage, its slots account for them: an
element is out with a worker, has come back with its own value, or has failed by itself or
because its worker skipped it (`Conduit.Coordinator.Gathering`). Workers and coordinator keep
this in whatever order they move, and in the end no element is out
(`Conduit.Coordinator.gathered`).
-/

namespace Conduit

namespace Coordinator

section Accounts

variable (crew : Crew) (path : StagePath) (flag : Nat) (stage : ParallelMap)
  (source : (stage.shape.container stage.input).Carrier)

/-- Some element of the collection fails by itself. -/
def Troubled : Prop :=
  ∃ position x e, (stage.shape.elements source)[position]? = some x ∧
    stage.elementOutcome (treatment crew path) (x, position) = .error e

/-- Some element fails by itself, and the policy lets the others be skipped. -/
def Alarmed : Prop := Cancels crew ∧ Troubled crew path stage source

/-- What a slot says about the element of its position. -/
inductive Accounts (position : Nat) : Slot Ticket Error stage.output.Carrier → Prop
  | waiting {x : stage.input.Carrier} {v : Json} {ticket : Ticket}
      (here : (stage.shape.elements source)[position]? = some x)
      (encoded : stage.input.encode x = .ok v) : Accounts position (.waiting ticket)
  | done {x : stage.input.Carrier} {y : stage.output.Carrier}
      (here : (stage.shape.elements source)[position]? = some x)
      (own : stage.elementOutcome (treatment crew path) (x, position) = .ok y) :
      Accounts position (.done y)
  | failed {x : stage.input.Carrier} {e : Error}
      (here : (stage.shape.elements source)[position]? = some x)
      (own : stage.elementOutcome (treatment crew path) (x, position) = .error e) :
      Accounts position (.failed e)
  | skipped {x : stage.input.Carrier} (here : (stage.shape.elements source)[position]? = some x)
      {v : Json} (encoded : stage.input.encode x = .ok v)
      (serves : crew.hiring (crew.request path position v) = .ok (some .serve))
      (alarmed : Alarmed crew path stage source) :
      Accounts position (.failed (Worker.skipped (crew.config.workerName position)))

/-- The elements that are waited for, each with its request. -/
def Out (slots : List (Slot Ticket Error stage.output.Carrier)) (ticket : Ticket)
    (request : Request) : Prop :=
  ∃ (position : Nat) (x : stage.input.Carrier) (v : Json),
    slots[position]? = some (.waiting ticket) ∧
      (stage.shape.elements source)[position]? = some x ∧ stage.input.encode x = .ok v ∧
        request = crew.request path position v

/-- The slots account for their elements, and the floor has those that are waited for. -/
structure Gathering (slots : List (Slot Ticket Error stage.output.Carrier)) (floor : Floor) :
    Prop where
  custody : Custody crew path flag (Alarmed crew path stage source)
    (Out crew path stage source slots) floor
  accounts : ∀ (position : Nat) (slot : Slot Ticket Error stage.output.Carrier),
    slots[position]? = some slot → Accounts crew path stage source position slot
  apart : ∀ (first second : Nat) (one two : Ticket), slots[first]? = some (.waiting one) →
    slots[second]? = some (.waiting two) → one.channel = two.channel → first = second

end Accounts

variable {crew : Crew} {path : StagePath} {flag : Nat} {stage : ParallelMap}
  {source : (stage.shape.container stage.input).Carrier}

section Element

variable {position : Nat} {x : stage.input.Carrier} {v : Json}
  (here : (stage.shape.elements source)[position]? = some x)
  (encoded : stage.input.encode x = .ok v)
include here encoded

/-- An element whose treatment fails gives the alarm. -/
theorem Alarmed.of_treatment {e : Error} (failed : treatment crew path position v = .error e)
    (cancels : Cancels crew) : Alarmed crew path stage source := by
  refine ⟨cancels, position, x, e, here, ?_⟩
  rw [ParallelMap.elementOutcome, encoded]
  dsimp only
  rw [failed]
  rfl

/-- A fair outcome, decoded, accounts for its element. -/
theorem accounts_received {outcome : Except Error Json}
    (fair : Fair crew (Alarmed crew path stage source) (crew.request path position v) outcome) :
    Accounts crew path stage source position (.ofAnswer (stage.answer (.now outcome))) := by
  rcases fair with own | ⟨alarmed, serves, rfl⟩
  · obtain rfl : outcome = treatment crew path position v := own
    have own : stage.elementOutcome (treatment crew path) (x, position) =
        (treatment crew path position v).bind stage.receive := by
      rw [ParallelMap.elementOutcome, encoded]
    change Accounts crew path stage source position
      (.ofAnswer (.now ((treatment crew path position v).bind stage.receive)))
    cases received : (treatment crew path position v).bind stage.receive with
    | ok y => exact .done here (own.trans received)
    | error e => exact .failed here (own.trans received)
  · exact .skipped here encoded serves alarmed

end Element

/-- An answer that is there is not waited for. -/
theorem ofAnswer_now_ne {κ ε β : Type} (outcome : Except ε β) (ticket : κ) :
    Slot.ofAnswer (.now outcome) ≠ .waiting ticket := by
  cases outcome <;> exact nofun

variable {slots before after : List (Slot Ticket Error stage.output.Carrier)} {floor : Floor}

theorem out_append_answered {slot : Slot Ticket Error stage.output.Carrier}
    (answered : ∀ ticket, slot ≠ .waiting ticket) :
    Out crew path stage source (slots ++ [slot]) = Out crew path stage source slots := by
  funext ticket request
  refine propext ⟨?_, ?_⟩
  · rintro ⟨place, x, v, there, rest⟩
    rw [getElem?_concat] at there
    split at there
    next => exact absurd (Option.some.inj there) (answered ticket)
    next => exact ⟨place, x, v, there, rest⟩
  · rintro ⟨place, x, v, there, rest⟩
    have inside := (List.getElem?_eq_some_iff.mp there).1
    refine ⟨place, x, v, ?_, rest⟩
    rw [getElem?_concat, if_neg (Nat.ne_of_lt inside)]
    exact there

theorem out_append_waiting {ticket : Ticket} {x : stage.input.Carrier} {v : Json}
    (here : (stage.shape.elements source)[slots.length]? = some x)
    (encoded : stage.input.encode x = .ok v) :
    Out crew path stage source (slots ++ [.waiting ticket]) =
      Adding (Out crew path stage source slots) ticket (crew.request path slots.length v) := by
  funext other task
  refine propext ⟨?_, ?_⟩
  · rintro ⟨place, x', v', there, here', encoded', rfl⟩
    rw [getElem?_concat] at there
    split at there
    next last =>
      cases there
      rw [last] at here'
      cases here.symm.trans here'
      cases encoded.symm.trans encoded'
      rw [last]
      exact .inr ⟨rfl, rfl⟩
    next => exact .inl ⟨place, x', v', there, here', encoded', rfl⟩
  · rintro (⟨place, x', v', there, rest⟩ | ⟨rfl, rfl⟩)
    · have inside := (List.getElem?_eq_some_iff.mp there).1
      refine ⟨place, x', v', ?_, rest⟩
      rw [getElem?_concat, if_neg (Nat.ne_of_lt inside)]
      exact there
    · refine ⟨slots.length, x, v, ?_, here, encoded, rfl⟩
      rw [getElem?_concat, if_pos rfl]

namespace Gathering

/-- An element that was waited for has its answer. -/
theorem replace {ticket : Ticket}
    (gathering : Gathering crew path flag stage source (before ++ .waiting ticket :: after) floor)
    {slot : Slot Ticket Error stage.output.Carrier} (answered : ∀ other, slot ≠ .waiting other)
    (accounts : Accounts crew path stage source before.length slot) {next : Floor}
    (custody : ∀ rest, Drops (Out crew path stage source (before ++ .waiting ticket :: after))
      ticket rest → Custody crew path flag (Alarmed crew path stage source) rest next) :
    Gathering crew path flag stage source (before ++ slot :: after) next := by
  have mine : (before ++ Slot.waiting ticket :: after)[before.length]? =
      some (.waiting ticket) := by simp
  have kept {place : Nat} {other : Ticket}
      (there : (before ++ slot :: after)[place]? = some (.waiting other)) :
      place ≠ before.length ∧
        (before ++ Slot.waiting ticket :: after)[place]? = some (.waiting other) := by
    rw [getElem?_insert slot (.waiting ticket)] at there
    split at there
    next => exact absurd (Option.some.inj there) (answered other)
    next differ => exact ⟨differ, there⟩
  constructor
  · refine custody _ ⟨?_, ?_⟩
    · rintro other task ⟨place, x, v, there, rest⟩
      obtain ⟨differ, before⟩ := kept there
      exact ⟨⟨place, x, v, before, rest⟩, fun shared =>
        differ (gathering.apart place _ other ticket before mine shared)⟩
    · rintro other task ⟨place, x, v, there, rest⟩
      by_cases same : place = before.length
      · rw [same, mine] at there
        cases there
        exact .inl rfl
      · refine .inr ⟨place, x, v, ?_, rest⟩
        rw [getElem?_insert slot (.waiting ticket), if_neg same]
        exact there
  · intro place other there
    rw [getElem?_insert slot (.waiting ticket)] at there
    split at there
    next same =>
      cases there
      rw [same]
      exact accounts
    next => exact gathering.accounts place other there
  · intro first second one two there there' shared
    exact gathering.apart first second one two (kept there).2 (kept there').2 shared

/-- **Asking keeps the gathering.** -/
theorem ask {ticket : Ticket}
    (gathering : Gathering crew path flag stage source (before ++ .waiting ticket :: after)
      floor) :
    Gathering crew path flag stage source
      (before ++ .ofAnswer (stage.answer (Coordinator.ask crew flag ticket floor).1) :: after)
      (Coordinator.ask crew flag ticket floor).2 := by
  have mine : (before ++ Slot.waiting ticket :: after)[before.length]? =
      some (.waiting ticket) := by simp
  cases gathering.accounts _ _ mine with
  | @waiting x v _ here encoded =>
      have asked := asked gathering.custody ⟨_, x, v, mine, here, encoded, rfl⟩
        fun e => Alarmed.of_treatment here encoded
      generalize Coordinator.ask crew flag ticket floor = result at asked ⊢
      cases asked with
      | later custody => exact ⟨custody, gathering.accounts, gathering.apart⟩
      | @now outcome next fair custody =>
          exact gathering.replace (ofAnswer_now_ne _) (accounts_received here encoded fair) custody

/-- An element more is started, with an answer or without. -/
theorem append (gathering : Gathering crew path flag stage source slots floor)
    {slot : Slot Ticket Error stage.output.Carrier}
    (accounts : Accounts crew path stage source slots.length slot) {next : Floor}
    (custody : Custody crew path flag (Alarmed crew path stage source)
      (Out crew path stage source (slots ++ [slot])) next)
    (new : ∀ ticket other task, slot = .waiting ticket →
      Out crew path stage source slots other task → other.channel ≠ ticket.channel) :
    Gathering crew path flag stage source (slots ++ [slot]) next := by
  have out {place : Nat} {ticket : Ticket} (there : slots[place]? = some (.waiting ticket)) :
      ∃ task, Out crew path stage source slots ticket task := by
    cases gathering.accounts place _ there with
    | waiting here encoded => exact ⟨_, place, _, _, there, here, encoded, rfl⟩
  constructor
  · exact custody
  · intro place other there
    rw [getElem?_concat] at there
    split at there
    next same =>
      cases there
      rw [same]
      exact accounts
    next => exact gathering.accounts place other there
  · intro first second one two there there' shared
    rw [getElem?_concat] at there there'
    split at there
    next last =>
      split at there'
      next last' => exact last.trans last'.symm
      next =>
        obtain ⟨task, member⟩ := out there'
        exact absurd shared.symm (new one two task (Option.some.inj there) member)
    next =>
      split at there'
      next =>
        obtain ⟨task, member⟩ := out there
        exact absurd shared (new two one task (Option.some.inj there') member)
      next => exact gathering.apart first second one two there there' shared

/-- **Starting the next element keeps the gathering.** -/
theorem start (gathering : Gathering crew path flag stage source slots floor)
    {x : stage.input.Carrier} (here : (stage.shape.elements source)[slots.length]? = some x) :
    Gathering crew path flag stage source
      (slots ++ [.ofAnswer ((stage.start (dispatch crew path flag) x slots.length).run floor).1])
      ((stage.start (dispatch crew path flag) x slots.length).run floor).2 := by
  rw [ParallelMap.run_start]
  cases encoded : stage.input.encode x with
  | error fault =>
      have own : stage.elementOutcome (treatment crew path) (x, slots.length) =
          .error (.serialization fault) := by
        rw [ParallelMap.elementOutcome, encoded]
      have answered (ticket : Ticket) : (Slot.failed (.serialization fault) :
          Slot Ticket Error stage.output.Carrier) ≠ .waiting ticket := by
        rintro ⟨⟩
      refine gathering.append (.failed here own) ?_ fun ticket other task waiting =>
        absurd waiting (answered ticket)
      rw [out_append_answered answered]
      exact gathering.custody
  | ok v =>
      have sent := sent gathering.custody slots.length v fun e =>
        Alarmed.of_treatment here encoded
      dsimp only
      change Gathering crew path flag stage source
        (slots ++ [.ofAnswer (stage.answer (send crew path flag slots.length v floor).1)])
        (send crew path flag slots.length v floor).2
      generalize send crew path flag slots.length v floor = result at sent ⊢
      cases sent with
      | @later channel next custody new =>
          refine gathering.append (.waiting here encoded) ?_ ?_
          · rw [out_append_waiting here encoded]
            exact custody
          · rintro ticket other task waiting member
            cases waiting
            exact new other task member
      | @now outcome next fair custody =>
          have answered (ticket : Ticket) :
              Slot.ofAnswer (stage.answer (.now outcome)) ≠ .waiting ticket :=
            ofAnswer_now_ne _ ticket
          refine gathering.append (accounts_received here encoded fair) ?_ ?_
          · rw [out_append_answered answered]
            exact custody
          · exact fun ticket other task waiting => absurd waiting (answered ticket)

end Gathering

/-- Asking leaves no more to wait for. -/
theorem backlog_ask (crew : Crew) (flag : Nat) (ticket : Ticket) (floor : Floor) :
    (ask crew flag ticket floor).2.backlog ≤ floor.backlog := by
  obtain ⟨flags, channels, asked⟩ := ask_frame crew flag ticket floor
  rw [asked]
  exact floor.backlog_stride crew

/-- **Gathering comes to an end**, whatever the order of moves: every wake leaves less to
wait for, and when nothing is left, all elements have their answers. -/
theorem progress (crew : Crew) (path : StagePath) (flag : Nat) (stage : ParallelMap)
    (source : (stage.shape.container stage.input).Carrier) :
    (stage.asking (dispatch crew path flag)).Progress
      (Gathering crew path flag stage source) Floor.backlog where
  ask _ _ _ _ gathering := gathering.ask
  wake _ _ gathering :=
    ⟨(Custody.stable crew path flag _ _).wake gathering.custody, gathering.accounts,
      gathering.apart⟩
  wake_left _ floor _ := floor.backlog_wake crew
  ask_left _ ticket _ floor _ := backlog_ask crew flag ticket floor
  answered before ticket after floor gathering none := by
    have mine : (before ++ Slot.waiting ticket :: after)[before.length]? =
        some (.waiting ticket) := by simp
    have left := backlog_ask crew flag ticket floor
    cases gathering.accounts _ _ mine with
    | @waiting x v _ here encoded =>
        have asked := asked gathering.custody ⟨_, x, v, mine, here, encoded, rfl⟩
          fun e => Alarmed.of_treatment here encoded
        change ∃ outcome, stage.answer (ask crew flag ticket floor).1 = .now outcome
        generalize ask crew flag ticket floor = result at asked left ⊢
        cases asked with
        | now => exact ⟨_, rfl⟩
        | later custody busy =>
            rw [none, Floor.backlog] at left
            dsimp only at left
            omega

/-- When a stage begins, nobody is under way and nothing is out. -/
theorem gathering_nil (settled : floor.Settled) (clear : floor.Clear crew flag) :
    Gathering crew path flag stage source [] floor where
  custody :=
    { guarded := guarded_of_clear clear
      attends := fun number job here left => absurd (settled number job here) left
      apart := fun first second job other here there left =>
        absurd (settled first job here) left
      awaits := by rintro ticket own ⟨place, x, v, there, _⟩; cases there }
  accounts := nofun
  apart := nofun

/-- **In the end no element is out.** Either all have come back with their own values, or
one of them has failed. -/
theorem gathered (crew : Crew) (path : StagePath) (stage : ParallelMap)
    (source : (stage.shape.container stage.input).Carrier) (settled : floor.Settled)
    (clear : floor.Clear crew flag) :
    Ended (Gathering crew path flag stage source) (stage.shape.elements source).zipIdx.length
      Asking.FailedIn
      (((stage.asking (dispatch crew path flag)).gather
        (fun (x, position) => stage.start (dispatch crew path flag) x position)
        (stage.shape.elements source).zipIdx).run floor) := by
  refine (progress crew path flag stage source).gather ?_ ?_ (gathering_nil settled clear)
  · intro before (x, position) floor here gathering
    obtain ⟨element, rfl⟩ := getElem?_of_zipIdx here
    exact gathering.start element
  · intro slots floor gathering
    refine ⟨gathering, ?_⟩
    change floor.schedule.length + floor.busy < floor.schedule.length + floor.jobs.size + 1
    have := floor.busy_le_size
    omega

/-- A stage that has been given its collection fails with a failure among its slots. -/
theorem gathering_of_failed {container : Value} (settled : floor.Settled)
    (clear : floor.Clear crew flag)
    (holds : container.downcast (.data (stage.shape.container stage.input)) = .ok source)
    {cause : Error}
    (failed : ((stage.run (dispatch crew path flag) container).run floor).1 = .error cause) :
    ∃ slots floor', Gathering crew path flag stage source slots floor' ∧ .failed cause ∈ slots := by
  obtain ⟨slots, slot, gathering, member, gives⟩ :=
    (gathered crew path stage source settled clear).failed (stage.gather_failed holds failed)
  rw [gives] at member
  exact ⟨slots, _, gathering, member⟩

namespace Gathering

/-- When no element is waited for, nobody is under way. -/
theorem settled (gathering : Gathering crew path flag stage source slots floor)
    (answered : ∀ ticket, .waiting ticket ∉ slots) : floor.Settled := by
  intro number job here
  by_cases left : job.phase = .gone
  · exact left
  · obtain ⟨ticket, own, ⟨place, x, v, there, _⟩, _⟩ :=
      (gathering.custody.attends number job here left).known
    exact absurd (List.mem_of_getElem? there) (answered ticket)

/-- When all elements have come back, each has come back with its own value. -/
theorem values {ys : List stage.output.Carrier}
    (gathering : Gathering crew path flag stage source (ys.map .done) floor)
    (count : ys.length = (stage.shape.elements source).zipIdx.length) :
    (stage.shape.elements source).zipIdx.mapM (stage.elementOutcome (treatment crew path)) =
      .ok ys := by
  refine ParallelMap.mapM_elementOutcome count fun position x y element there => ?_
  have slot : (ys.map .done : List (Slot Ticket Error stage.output.Carrier))[position]? =
      some (.done y) := by
    rw [List.getElem?_map, there]
    rfl
  cases gathering.accounts position _ slot with
  | done here own =>
      cases element.symm.trans here
      exact own

/-- When an element has failed, some element has failed by itself. -/
theorem troubled (gathering : Gathering crew path flag stage source slots floor) {e : Error}
    (failed : .failed e ∈ slots) : Troubled crew path stage source := by
  obtain ⟨place, there⟩ := List.getElem?_of_mem failed
  cases gathering.accounts place _ there with
  | failed here own => exact ⟨place, _, e, here, own⟩
  | skipped _ _ _ alarmed => exact alarmed.2

end Gathering

theorem Troubled.fails (troubled : Troubled crew path stage source) :
    ∃ e, (stage.shape.elements source).zipIdx.mapM
      (stage.elementOutcome (treatment crew path)) = .error e := by
  obtain ⟨position, x, e, here, own⟩ := troubled
  cases all : (stage.shape.elements source).zipIdx.mapM
      (stage.elementOutcome (treatment crew path)) with
  | error e => exact ⟨e, rfl⟩
  | ok ys =>
      obtain ⟨y, succeeds⟩ := mapM_succeeds_iff.mp ⟨ys, all⟩ (x, position)
        (List.mem_zipIdx_iff_getElem?.mpr here)
      rw [own] at succeeds
      cases succeeds

/-- **A stage comes to its result in every order of moves**, or fails as its result does.
When it succeeds, nobody is left under way. -/
theorem run_stage (crew : Crew) (path : StagePath) (stage : ParallelMap) (container : Value)
    (settled : floor.Settled) (clear : floor.Clear crew flag) :
    Alike (fun _ _ => True) (stage.result (treatment crew path) container)
        ((stage.run (dispatch crew path flag) container).run floor).1 ∧
      ∀ v, ((stage.run (dispatch crew path flag) container).run floor).1 = .ok v →
        ((stage.run (dispatch crew path flag) container).run floor).2.Settled := by
  rw [ParallelMap.run_run, ParallelMap.result]
  cases container.downcast (.data (stage.shape.container stage.input)) with
  | error e => exact ⟨.error trivial, fun _ completes => by cases completes⟩
  | ok source =>
      have ended := gathered crew path stage source settled clear
      dsimp only
      generalize ((stage.asking (dispatch crew path flag)).gather _ _).run floor = ending
        at ended ⊢
      obtain ⟨outcome, next⟩ := ending
      cases outcome with
      | ok ys =>
          obtain ⟨count, gathering⟩ := ended
          rw [gathering.values count]
          refine ⟨.ok _, fun v _ => gathering.settled fun ticket member => ?_⟩
          obtain ⟨y, _, same⟩ := List.mem_map.mp member
          cases same
      | error e =>
          obtain ⟨slots, slot, gathering, member, failed⟩ := ended
          rw [failed] at member
          obtain ⟨e', fails⟩ := (gathering.troubled member).fails
          rw [fails]
          exact ⟨.error trivial, fun _ completes => by cases completes⟩

theorem run_fanOut (crew : Crew) (settled : floor.Settled) (path : StagePath)
    (stage : ParallelMap) (container : Value) :
    Alike (fun _ _ => True) (stage.result (treatment crew path) container)
        ((fanOut crew path stage container).run floor).1 ∧
      ∀ v, ((fanOut crew path stage container).run floor).1 = .ok v →
        ((fanOut crew path stage container).run floor).2.Settled := by
  have opened : (openFlag crew floor).2.Settled := settled
  rw [fanOut_eq_run]
  exact run_stage crew path stage container opened (clear_openFlag crew floor)

/-- A step that leads onward leaves nobody under way. -/
theorem settled_step (settled : floor.Settled)
    {s : ControlState} {next : s.Successor} {floor' : Floor}
    (steps : (s.step (fanOut crew)).run floor = (.ok (.next next), floor')) :
    floor'.Settled := by
  rw [ControlState.run_step] at steps
  have rule := s.move_rule
  generalize s.move = move at rule steps
  cases rule with
  | finish => cases steps
  | resume => cases steps; exact settled
  | enter => cases steps; exact settled
  | @perform work onward performs advances =>
      have worked : ∀ v, ((work.perform (fanOut crew)).run floor).1 = .ok v →
          ((work.perform (fanOut crew)).run floor).2.Settled := by
        intro v gives
        cases performs with
        | transform here => exact settled
        | apply here pending => exact settled
        | @parallelMap stage here =>
            exact (run_fanOut crew settled s.path stage s.current.pointer.value).2 v gives
      dsimp only at steps
      generalize (work.perform (fanOut crew)).run floor = outcome at worked steps
      obtain ⟨result, after⟩ := outcome
      cases result with
      | error e => cases steps
      | ok v => cases steps; exact worked v rfl

/-- Between two steps of a run nobody is under way. -/
theorem settled_between {root : Pipeline} {opening : Floor} (settled : opening.Settled)
    {s : ControlState} (visits : Visits (fanOut crew) root opening s floor) : floor.Settled := by
  induction visits with
  | start => exact settled
  | step _ steps settled => exact settled_step settled steps

end Coordinator

end Conduit
