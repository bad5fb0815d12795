import Conduit.Proofs.Coordinator.Tasks
import Conduit.Proofs.Machine.Typing
import Conduit.Proofs.Traversal.Failures
import Conduit.Proofs.Wire.Crossing

/-! # Both engines keep types

Neither engine brings a mismatch of types into a run: the run's own thread fails an element
only by its code and its conversions, and what a worker replies is never read as a mismatch
of types. So a pipeline that fits together gives a value of its type on both engines, or
fails for another reason (`Conduit.gives_own_type`), as long as the spawner makes up no such
mismatch. Spawners of threads do not (`Conduit.ThreadSpawner.isElemental_of_hiring`).
-/

namespace Conduit

theorem Error.not_isMismatch_of_isElemental {e : Error} (elemental : e.isElemental = true) :
    ¬ e.IsMismatch := by
  rintro ⟨expected, found, cause⟩
  rw [rootCause_of_isBare (isBare_of_isElemental elemental)] at cause
  subst cause
  cases elemental

theorem Value.downcast_of_type {v : Value} {wanted : ValueType} (type : v.type = wanted) :
    ∃ x, v.downcast wanted = .ok x ∧ v = ⟨wanted, x⟩ := by
  obtain ⟨_, x⟩ := v
  subst type
  exact ⟨x, downcast_self _ x, rfl⟩

/-- A value of the wanted type is taken as it is. -/
theorem Yields.typed {out : ValueType} {outcome : Except Error Value}
    (yields : Yields out outcome) :
    Yields out (outcome.bind fun v => (v.downcast out).map fun x => ⟨out, x⟩) := by
  cases yields with
  | error other => exact .error other
  | @ok v type =>
      obtain ⟨x, taken, _⟩ := Value.downcast_of_type type
      change Yields out ((v.downcast out).map fun x => ⟨out, x⟩)
      rw [taken]
      exact .ok rfl

section Stage

variable {σ κ : Type} {dispatch : Dispatch (StateM σ) κ} {fair : κ → Prop}
  {faults : Error → Prop}

/-- A stage keeps types when its elements fail by no mismatch of types. -/
theorem ParallelMap.yields_run (within : dispatch.Within fair faults)
    (tame : ∀ e, faults e → ¬ e.IsMismatch) (stage : ParallelMap) {container : Value}
    (type : container.type = .data (stage.shape.container stage.input)) (s : σ) :
    Yields (.data (stage.shape.container stage.output))
      ((stage.run dispatch container).run s).1 := by
  obtain ⟨source, holds, _⟩ := Value.downcast_of_type type
  cases outcome : ((stage.run dispatch container).run s).1 with
  | error e =>
      refine .error ?_
      cases failsBy_of_run outcome with
      | downcast other => rw [holds] at other; cases other
      | encode => exact nofun
      | element fails => exact tame e (within.fails fails)
      | decode => exact nofun
  | ok v =>
      obtain ⟨_, ys, _, _, rfl⟩ := gather_succeeds outcome
      exact .ok rfl

end Stage

namespace Local

/-- The element fails, if at all, as elements do. -/
def Fair (d : Deferred Error Json) : Prop := ∀ e, d.ending = .failed e → e.isElemental = true

theorem isElemental_outcomeOf {ending : Ending Error Json} {e : Error}
    (fair : ∀ e, ending = .failed e → e.isElemental = true)
    (failed : outcomeOf ending = .error e) : e.isElemental = true := by
  cases ending with
  | returned v => cases failed
  | failed e' => cases failed; exact fair _ rfl
  | lost => cases failed; rfl

theorem within_answerOf {d : Deferred Error Json} (fair : Fair d) :
    (answerOf d).Within Fair fun e => e.isElemental = true := by
  obtain ⟨turns, ending⟩ := d
  cases turns with
  | succ turns => exact fair
  | zero =>
      change (Answer.now (outcomeOf ending)).Within Fair _
      cases outcome : outcomeOf ending with
      | ok v => exact trivial
      | error e => exact isElemental_outcomeOf fair outcome

theorem fair_callElement (stage : ParallelMap) (host : String) (v : Json) :
    Fair (stage.callElement host v).result := by
  intro e failed
  rcases ParallelMap.callElement_failed failed with ⟨fault, rfl⟩ | ⟨message, rfl⟩
  · rfl
  · rfl

/-- In the run's own thread elements fail as elements do. -/
theorem within_dispatch (stage : ParallelMap) :
    (dispatch stage : Dispatch (Recorder Call) _).Within Fair fun e => e.isElemental = true where
  sends _ v _ := within_answerOf (fair_callElement stage host v)
  asks _ _ fair := within_answerOf fair
  abandoned d fair := by
    dsimp only [dispatch, replies]
    cases outcome : outcomeOf d.ending with
    | ok v => rfl
    | error e => exact isElemental_outcomeOf fair outcome

theorem typedFanOut : TypedFanOut (fanOut : FanOut (Recorder Call)) :=
  fun _ stage _ log type => stage.yields_run (within_dispatch stage)
    (fun _ => Error.not_isMismatch_of_isElemental) type log

end Local

/-- A thread that cannot be had fails its element like any other failure of elements. -/
theorem ThreadSpawner.isElemental_of_hiring {spawner : ThreadSpawner} {system : ThreadSystem}
    {request : Request} {e : Error} (refused : spawner.hiring system request = .error e) :
    e.isElemental = true := by
  unfold hiring spawnOn at refused
  cases answer : system request.name spawner.stackSize with
  | ok _ =>
      rw [answer] at refused
      cases refused
  | error why =>
      rw [answer] at refused
      cases refused
      rfl

/-- What elements can fail by when they are sent to workers: as elements do, or by what the
spawner answers. -/
def Crew.Faults (crew : Crew) (e : Error) : Prop :=
  e.isElemental = true ∨ ∃ request, crew.hiring request = .error e

/-- A request for a worker fails by what the spawner answers. -/
theorem Floor.spawn_failed {crew : Crew} {floor : Floor} {request : Request} {channel flag : Nat}
    {e : Error} (failed : (floor.spawn crew request channel flag).1 = .error e) :
    crew.hiring request = .error e := by
  have meets := spawn_meets crew request channel flag floor
  generalize floor.spawn crew request channel flag = spawn at meets failed
  cases meets with
  | refused hiring =>
      cases failed
      exact hiring
  | forgotten => cases failed
  | started => cases failed

namespace Coordinator

variable {crew : Crew} {floor : Floor}

/-- No text is read as a mismatch of types, or as the failure of a stage. -/
theorem isElemental_outcomeOf {text : String} {e : Error}
    (failed : outcomeOf text = .error e) : e.isElemental = true := by
  unfold outcomeOf Reply.decode at failed
  generalize (Reply.record.reader Json.nestingLimit).run text = read at failed
  cases read with
  | error fault => cases failed; rfl
  | ok reply =>
      change reply.toOutcome = .error e at failed
      unfold Reply.toOutcome at failed
      split at failed
      · cases failed
      · cases failed; rfl
      · cases failed; exact ErrorDescription.isElemental_toError _
      · cases failed; rfl

theorem within_ask (crew : Crew) (flag : Nat) (ticket : Ticket) (floor : Floor) :
    (ask crew flag ticket floor).1.Within (fun _ => True) crew.Faults := by
  unfold ask listen
  generalize ((floor.stride crew).channels[ticket.channel]?.getD .fresh).receive = arrival
  obtain ⟨arrival, channel⟩ := arrival
  cases arrival with
  | empty => exact trivial
  | closed => exact .inl (rfl : (silence ticket.name).isElemental = true)
  | received text =>
      change (Answer.now (outcomeOf text)).Within _ _
      cases outcome : outcomeOf text with
      | ok v => exact trivial
      | error e => exact .inl (isElemental_outcomeOf outcome)

/-- Workers bring only failures of elements into a run, and the spawner its own. -/
theorem within_dispatch (crew : Crew) (path : StagePath) (flag : Nat) :
    (dispatch crew path flag).Within (fun _ => True) crew.Faults where
  asks ticket floor _ := within_ask crew flag ticket floor
  abandoned _ _ := .inl rfl
  sends position v floor := by
    change (send crew path flag position v floor).1.Within _ _
    have refusal := @Floor.spawn_failed crew (openChannel (floor.stride crew)).2
      (crew.request path position v) (openChannel (floor.stride crew)).1 flag
    have sends := send_sends crew path flag position v floor
    generalize send crew path flag position v floor = sent at sends ⊢
    generalize Floor.spawn crew _ _ _ _ = spawn at refusal sends
    cases sends with
    | refused e => exact .inr ⟨_, refusal rfl⟩
    | met => exact within_ask ..

theorem typedFanOut (crew : Crew)
    (tame : ∀ request e, crew.hiring request = .error e → ¬ e.IsMismatch) :
    TypedFanOut (fanOut crew) := by
  intro path stage _ floor type
  refine stage.yields_run (within_dispatch crew path (openFlag crew floor).1) ?_ type
    (openFlag crew floor).2
  rintro e (elemental | ⟨request, refused⟩)
  · exact Error.not_isMismatch_of_isElemental elemental
  · exact tame request e refused

/-- Settings that are not valid fail a run before anything happens. -/
theorem yields_executeAs {out : ValueType} {floor : Floor}
    (yields : Yields out ((execute crew).run floor).1) :
    Yields out ((executeAs crew out).run floor).1 := by
  unfold executeAs
  cases crew.config.validate with
  | error fault => exact .error nofun
  | ok _ => exact yields.typed

end Coordinator

theorem WorkerMessage.not_isMismatch_decode {payload : String} {e : Error}
    (unread : decode payload = .error e) : ¬ e.IsMismatch := by
  unfold decode at unread
  cases read : (record.reader Json.nestingLimit).run payload with
  | ok message => rw [read] at unread; cases unread
  | error fault => rw [read] at unread; cases unread; exact nofun

theorem Pipeline.not_isMismatch_resolve {p : Pipeline} {path : StagePath} {e : Error}
    (unresolved : p.resolve path = .error e) : ¬ e.IsMismatch := by
  unfold resolve at unresolved
  cases found : p.find path with
  | ok stage => rw [found] at unresolved; cases unresolved
  | error fault => rw [found] at unresolved; cases unresolved; exact nofun

/-- A worker fails for another reason than a mismatch of types, if at all. -/
theorem Worker.not_isMismatch_attend {p : Pipeline} {name payload : String} {cancelled : Bool}
    {e : Error} (failed : (attend p name payload cancelled).result = .failed e) :
    ¬ e.IsMismatch := by
  unfold attend at failed
  split at failed
  next => cases failed; exact nofun
  next =>
    split at failed
    next fault unread => cases failed; exact WorkerMessage.not_isMismatch_decode unread
    next message _ =>
      unfold executeMessage at failed
      split at failed
      next fault unresolved => cases failed; exact Pipeline.not_isMismatch_resolve unresolved
      next stage _ =>
        exact Error.not_isMismatch_of_isElemental
          (Local.fair_callElement stage name message.value e failed)

/-- **Pipelines that fit together keep their types.** On either engine, whatever its workers
do and whatever else than such a mismatch its spawner answers, such a run gives a value of the
pipeline's own type, or fails for another reason than a mismatch of types. No worker finds such
a mismatch either. -/
theorem gives_own_type {p : Pipeline} {out : ValueType} (gives : p.Gives out) :
    (∀ calls, Yields out ((Local.execute p).run calls).1 ∧
      Yields out ((Local.executeAs out p).run calls).1) ∧
    (∀ crew floor, crew.root = p →
      (∀ request e, crew.hiring request = .error e → ¬ e.IsMismatch) →
      Yields out ((Coordinator.execute crew).run floor).1 ∧
      Yields out ((Coordinator.executeAs crew out).run floor).1) ∧
    ∀ name payload cancelled e, (Worker.attend p name payload cancelled).result = .failed e →
      ¬ e.IsMismatch := by
  refine ⟨fun calls => ?_, ?_, fun _ _ _ _ => Worker.not_isMismatch_attend⟩
  · have yields : Yields out ((Local.execute p).run calls).1 :=
      gives.execute Local.typedFanOut calls
    exact ⟨yields, yields.typed⟩
  · rintro crew floor rfl tame
    have yields : Yields out ((Coordinator.execute crew).run floor).1 :=
      gives.execute (Coordinator.typedFanOut crew tame) floor
    exact ⟨yields, Coordinator.yields_executeAs yields⟩

/-- A sum is made by a function that an inner pipeline gives, two facts about it follow, and
workers refuse the second one. -/
def checkedSum : Pipeline :=
  .andThen (.andThen (.andThen (.of ⟨.data .int64, (1 : Int64)⟩)
    (.apFunction .int64 .int64
      (.of ⟨.function .int64 .int64, fun (n : Int64) => (n + 41 : Int64)⟩)))
    (.map (.data .int64) (.data (.list .bool)) fun (n : Int64) => pure [n == 42, n == 41]))
    (.tryParMap .list .bool .bool fun _ (b : Bool) =>
      pure (if b then .ok b else .error "The fact does not hold"))

theorem gives_checkedSum : checkedSum.Gives (.data (.list .bool)) :=
  .andThen (.andThen (.andThen (.of _ _) (.ap (.of _ _) _ _ _)) (.map _ _ _))
    (.tryParMap _ _ _ _)

/-- The refusal is what both engines come to. -/
theorem gives_own_type_checkedSum :
    ((Local.executeAs (.data (.list .bool)) checkedSum).run #[]).1 =
        .error (.stage .parallelMap 2 (.raised "The fact does not hold")) ∧
      Yields (.data (.list .bool)) ((Local.executeAs (.data (.list .bool)) checkedSum).run #[]).1 ∧
      Yields (.data (.list .bool))
        ((Coordinator.executeAs ⟨checkedSum, {}, ThreadSpawner.hiring {} fun _ _ => .ok (), false⟩
          (.data (.list .bool))).run {}).1 := by
  obtain ⟨locally, remotely, _⟩ := gives_own_type gives_checkedSum
  have tame : ∀ request e, ThreadSpawner.hiring {} (fun _ _ => .ok ()) request = .error e →
      ¬ e.IsMismatch := fun _ _ refused =>
    Error.not_isMismatch_of_isElemental (ThreadSpawner.isElemental_of_hiring refused)
  exact ⟨rfl, (locally #[]).2, (remotely _ {} rfl tame).2⟩

end Conduit
