import Conduit.Proofs.Coordinator.Soundness

/-! # Where a run fails

A run fails when the work of the stage it stands at does, and it stops there. So whatever
pipelines are suspended around this stage, none of them has a part in the failure: it carries
the kind and the index of the stage in its own pipeline, or nothing at all
(`Conduit.Pipeline.fails_in_place`).
-/

namespace Conduit

mutual

/-- The code of the stage, and of the stages inside it, puts no place around its failures. -/
inductive Stage.FailsBare : Stage → Prop
  | transform {run : Value → Outcome}
      (code : ∀ v e, (run v).result = .error e → e.isBare = true) :
      Stage.FailsBare (.transform run)
  | apply {inner : Pipeline} {glue : Value → Value → Outcome} (inside : Pipeline.FailsBare inner)
      (code : ∀ function argument e, (glue function argument).result = .error e →
        e.isBare = true) : Stage.FailsBare (.apply inner glue)
  | parallelMap (stage : ParallelMap) : Stage.FailsBare (.parallelMap stage)

/-- The code of no stage in the pipeline puts a place around its failures. -/
inductive Pipeline.FailsBare : Pipeline → Prop
  | stages {p : Pipeline} (each : ∀ stage ∈ p.stages, Stage.FailsBare stage) :
      Pipeline.FailsBare p

end

section Typed

variable {v : Value} {wanted : ValueType} {e : Error}

theorem Value.isBare_of_downcast (other : v.downcast wanted = .error e) : e.isBare = true := by
  unfold downcast at other
  split at other
  · cases other
  · cases other; rfl

/-- Code that goes on with the datum of a value fails bare when what it goes on with does. -/
theorem Value.isBare_of_downcast_bind {β : Type} {f : wanted.Carrier → Except Error β}
    (bare : ∀ x, f x = .error e → e.isBare = true)
    (failed : (v.downcast wanted).bind f = .error e) : e.isBare = true := by
  cases taken : v.downcast wanted with
  | error other =>
      rw [taken] at failed
      cases failed
      exact isBare_of_downcast taken
  | ok x =>
      rw [taken] at failed
      exact bare x failed

theorem Stage.failsBare_map (a b : ValueType) (f : a.Carrier → Traced Call b.Carrier) :
    (Stage.map a b f).FailsBare := by
  refine .transform fun v e failed => ?_
  cases taken : v.downcast a with
  | ok x => rw [taken] at failed; cases failed
  | error other =>
      rw [taken] at failed
      cases failed
      exact Value.isBare_of_downcast taken

theorem Stage.failsBare_tryMap (a b : ValueType) (f : a.Carrier → Except String b.Carrier) :
    (Stage.tryMap a b f).FailsBare := by
  refine .transform fun v e failed => Value.isBare_of_downcast_bind (fun x raised => ?_) failed
  cases gives : f x with
  | ok y => rw [gives] at raised; cases raised
  | error message => rw [gives] at raised; cases raised; rfl

theorem Stage.failsBare_ap {inner : Pipeline} (inside : inner.FailsBare) (f a b : ValueType)
    (call : f.Carrier → a.Carrier → b.Carrier) : (Stage.ap f a b call inner).FailsBare := by
  refine .apply inside fun function argument e failed => ?_
  refine Value.isBare_of_downcast_bind (fun g other => ?_) failed
  refine Value.isBare_of_downcast_bind (fun x impossible => ?_) other
  cases impossible

theorem Pipeline.FailsBare.andThen {p : Pipeline} {stage : Stage} (earlier : p.FailsBare)
    (last : stage.FailsBare) : (p.andThen stage).FailsBare := by
  obtain ⟨each⟩ := earlier
  refine .stages fun other member => ?_
  rcases List.mem_append.mp member with before | rest
  · exact each other before
  · rwa [List.mem_singleton.mp rest]

mutual

theorem Stage.Takes.failsBare : ∀ {stage : Stage} {a b : ValueType},
    stage.Takes a b → stage.FailsBare
  | _, _, _, .map a b f => Stage.failsBare_map a b f
  | _, _, _, .tryMap a b f => Stage.failsBare_tryMap a b f
  | _, _, _, .ap functions a b call => Stage.failsBare_ap functions.failsBare _ a b call
  | _, _, _, .mapEach _ _ _ _ => Stage.failsBare_map ..
  | _, _, _, .parMap _ _ _ _ => .parallelMap _
  | _, _, _, .tryParMap _ _ _ _ => .parallelMap _
  | _, _, _, .parMapDeferred _ _ _ _ => .parallelMap _

/-- The code of typed stages fails bare, in inner pipelines as well. -/
theorem Pipeline.Gives.failsBare : ∀ {p : Pipeline} {b : ValueType}, p.Gives b → p.FailsBare
  | _, _, .of _ _ => .stages nofun
  | _, _, .andThen gives takes => gives.failsBare.andThen takes.failsBare

end

end Typed

theorem Pipeline.FailsBare.stage {p : Pipeline} (code : p.FailsBare) {index : Nat}
    {stage : Stage} (here : p.stages[index]? = some stage) : stage.FailsBare := by
  obtain ⟨each⟩ := code
  exact each stage (List.mem_of_getElem? here)

/-- What holds of the code of a pipeline holds of that of the pipelines inside it. -/
theorem Encloses.failsBare {root p : Pipeline} {suspended : List Frame}
    (encloses : Encloses root suspended p) (code : root.FailsBare) : p.FailsBare := by
  induction encloses with
  | root => exact code
  | inner around here ih =>
      cases ih.stage here with
      | apply inside glue => exact inside

/-- The stage whose work is done is the one that the state stands at. -/
theorem ControlState.Performs.stage {s : ControlState} {work : Work} (performs : s.Performs work) :
    ∃ stage, s.current.stage? = some stage ∧ stage.kind = work.kind := by
  cases performs with
  | transform here => exact ⟨_, here, rfl⟩
  | parallelMap here => exact ⟨_, here, rfl⟩
  | apply here => exact ⟨_, here, rfl⟩

section Dispatched

variable {σ κ : Type}

/-- The fan-out that treats the elements of each parallel stage by the stage's dispatcher. -/
def fanOutBy (dispatcher : StagePath → ParallelMap → StateM σ (Dispatch (StateM σ) κ)) :
    FanOut (StateM σ) :=
  fun path stage container => do stage.run (← dispatcher path stage) container

namespace Local

/-- The dispatcher of the run's own thread. -/
def dispatcher (_ : StagePath) (stage : ParallelMap) :
    Recorder Call (Dispatch (Recorder Call) (Deferred Error Json)) :=
  pure (dispatch stage)

theorem fanOut_eq : fanOut = fanOutBy dispatcher := rfl

theorem isBare_of_fails (path : StagePath) (stage : ParallelMap) (log : Array Call) (e : Error)
    (fails : ((dispatcher path stage).run log).1.Fails e) : e.isBare = true :=
  Error.isBare_of_isElemental ((within_dispatch stage).fails fails)

end Local

namespace Coordinator

variable (crew : Crew)

/-- The dispatcher that sends elements to workers, under a flag of each stage's own. -/
def dispatcher (path : StagePath) (_ : ParallelMap) : OnFloor (Dispatch OnFloor Ticket) := do
  return dispatch crew path (← openFlag crew)

theorem fanOut_eq : fanOut crew = fanOutBy (dispatcher crew) := rfl

/-- Elements fail bare when the spawner's own failures are bare. -/
theorem isBare_of_fails (refusals : ∀ request e, crew.hiring request = .error e → e.isBare = true)
    (path : StagePath) (stage : ParallelMap) (floor : Floor) (e : Error)
    (fails : ((dispatcher crew path stage).run floor).1.Fails e) : e.isBare = true := by
  rcases (within_dispatch crew path (openFlag crew floor).1).fails fails with
    elemental | ⟨request, refused⟩
  · exact Error.isBare_of_isElemental elemental
  · exact refusals request e refused

end Coordinator

theorem ParallelMap.FailsBy.isBare {stage : ParallelMap} {dispatch : Dispatch (StateM σ) κ}
    {container : Value} {e : Error} (fails : stage.FailsBy dispatch container e)
    (dispatched : ∀ e, dispatch.Fails e → e.isBare = true) : e.isBare = true := by
  cases fails with
  | downcast other => exact Value.isBare_of_downcast other
  | encode => rfl
  | element fails => exact dispatched e fails
  | decode => rfl

variable (dispatcher : StagePath → ParallelMap → StateM σ (Dispatch (StateM σ) κ)) (a : σ)

/-- The reasons for which the work of a stage fails: those of its own code, or those of a
parallel stage with the dispatch it is given. -/
inductive Work.FailsBy : Work → Error → Prop
  | transform {run : Value → Outcome} {v : Value} {e : Error} (code : (run v).result = .error e) :
      Work.FailsBy (.transform run v) e
  | apply {glue : Value → Value → Outcome} {function argument : Value} {e : Error}
      (code : (glue function argument).result = .error e) :
      Work.FailsBy (.apply glue function argument) e
  | parallelMap {path : StagePath} {stage : ParallelMap} {container : Value} {e : Error}
      (fails : stage.FailsBy ((dispatcher path stage).run a).1 container e) :
      Work.FailsBy (.parallelMap path stage container) e

variable {dispatcher a}

theorem Work.FailsBy.isBare {s : ControlState} {work : Work} {e : Error}
    (fails : work.FailsBy dispatcher a e) (performs : s.Performs work)
    (code : s.current.pipeline.FailsBare)
    (dispatched : ∀ path stage e, ((dispatcher path stage).run a).1.Fails e → e.isBare = true) :
    e.isBare = true := by
  cases performs with
  | transform here =>
      cases fails with
      | transform gives =>
          cases code.stage here with
          | transform bare => exact bare _ e gives
  | parallelMap here =>
      cases fails with
      | parallelMap fails => exact fails.isBare (dispatched _ _)
  | apply here =>
      cases fails with
      | apply gives =>
          cases code.stage here with
          | apply _ bare => exact bare _ _ e gives

variable [MonadLiftT (Traced Call) (StateM σ)]

/-- Work that failed did so for one of its reasons. -/
theorem Work.failsBy_of_perform [ReportsOnly σ] {work : Work} {e : Error}
    (failed : ((work.perform (fanOutBy dispatcher)).run a).1 = .error e) :
    work.FailsBy dispatcher a e := by
  cases work with
  | transform run v => exact .transform ((ReportsOnly.result_lift _ a).symm.trans failed)
  | apply glue function argument => exact .apply ((ReportsOnly.result_lift _ a).symm.trans failed)
  | parallelMap path stage container => exact .parallelMap (ParallelMap.failsBy_of_run failed)

end Dispatched

section Run

variable {σ : Type} [MonadLiftT (Traced Call) (StateM σ)] {fanOut : FanOut (StateM σ)}

/-- A step that fails had work to do, and says at which place of the current pipeline. -/
theorem ControlState.perform_of_failed {s : ControlState} {a b : σ} {e : Error}
    (steps : (s.step fanOut).run a = (.error e, b)) :
    ∃ work o, s.Performs work ∧ ((work.perform fanOut).run a).1 = .error o ∧
      e = o.atStage work.kind s.current.pointer.index := by
  rw [run_step] at steps
  have rule := s.move_rule
  generalize s.move = move at rule steps
  cases rule with
  | finish => cases steps
  | resume => cases steps
  | enter => cases steps
  | @perform work onward performs advances =>
      dsimp only at steps
      cases gives : (work.perform fanOut).run a with
      | mk outcome c =>
        rw [gives] at steps
        cases outcome with
        | ok v => cases steps
        | error o => cases steps; exact ⟨work, o, performs, by rw [gives], rfl⟩

/-- **A run fails as one of its steps does.** No step after the failing one changes the
failure, for there is none. -/
theorem Visits.failed {root : Pipeline} {opening a : σ} {s : ControlState} {e : Error}
    (visits : Visits fanOut root opening s a) (failed : ((s.run fanOut).run a).1 = .error e) :
    ∃ t b work o, Visits fanOut root opening t b ∧ t.Performs work ∧
      ((work.perform fanOut).run b).1 = .error o ∧
      e = o.atStage work.kind t.current.pointer.index := by
  induction s using ControlState.successor_induction generalizing a with
  | step s ih =>
      rw [ControlState.run_run] at failed
      cases steps : (s.step fanOut).run a with
      | mk outcome b =>
        rw [steps] at failed
        match outcome, failed with
        | .error _, rfl =>
            obtain ⟨work, o, performs, gives, place⟩ := ControlState.perform_of_failed steps
            exact ⟨s, a, work, o, visits, performs, gives, place⟩
        | .ok (.done _), failed => cases failed
        | .ok (.next t), failed => exact ih t (.step visits steps) failed

end Run

/-- **A failure tells the place of its own stage.** When the code of no stage and no dispatch
puts a place around a failure, and a run fails, then it fails by the work of a stage at which
it stands, in the innermost of the pipelines around it. The failure of this work is the failure
of the run, with the kind of the stage and its index in this pipeline put around it if it is
one of a stage's own code. The pipelines around it add nothing; the category and the innermost
cause are those of the work's failure. -/
theorem Pipeline.fails_in_place {σ κ : Type} [MonadLiftT (Traced Call) (StateM σ)]
    [ReportsOnly σ] {dispatcher : StagePath → ParallelMap → StateM σ (Dispatch (StateM σ) κ)}
    {p : Pipeline} (code : p.FailsBare)
    (dispatched : ∀ path stage b e, ((dispatcher path stage).run b).1.Fails e → e.isBare = true)
    {a : σ} {e : Error} (failed : ((p.execute (fanOutBy dispatcher)).run a).1 = .error e) :
    ∃ s b work o, Visits (fanOutBy dispatcher) p a s b ∧ s.Performs work ∧
      ((work.perform (fanOutBy dispatcher)).run b).1 = .error o ∧
      work.FailsBy dispatcher b o ∧
      Encloses p s.suspended s.current.pipeline ∧
      (∃ stage, s.current.pipeline.stages[s.current.pointer.index]? = some stage ∧
        stage.kind = work.kind) ∧
      o.isBare = true ∧
      (o.isLocated = false → e = o) ∧
      (o.isLocated = true → e = .stage work.kind s.current.pointer.index o) ∧
      e.category = o.category ∧ e.rootCause = o := by
  obtain ⟨s, b, work, o, visits, performs, gives, rfl⟩ := Visits.failed .start failed
  have fails := Work.failsBy_of_perform gives
  have encloses := visits.reachable.encloses
  have bare := fails.isBare performs (encloses.failsBare code) fun path stage =>
    dispatched path stage b
  refine ⟨s, b, work, o, visits, performs, gives, fails, encloses, performs.stage, bare,
    ?_, ?_, ?_, ?_⟩
  · intro other
    simp [Error.atStage, other]
  · intro located
    simp [Error.atStage, located]
  · exact Error.category_atStage ..
  · rw [Error.rootCause_atStage, Error.rootCause_of_isBare bare]

/-- An inner pipeline has a list treated, and one of its elements is refused. -/
def refusedInside : Pipeline :=
  .andThen (.of ⟨.data .int64, (1 : Int64)⟩)
    (.ap (.data (.list .int64)) (.data .int64) (.data (.list .int64))
      (fun (ns : List Int64) (n : Int64) => n :: ns)
      (.andThen (.andThen (.of ⟨.data (.list .int64), ([41, 7] : List Int64)⟩)
        (.map (.data (.list .int64)) (.data (.list .int64)) fun (ns : List Int64) =>
          pure ns.reverse))
        (.tryParMap .list .int64 .int64 fun _ (n : Int64) =>
          pure (if n = 7 then .error "7 is refused" else .ok n))))

theorem gives_refusedInside : refusedInside.Gives (.data (.list .int64)) :=
  .andThen (.of _ _) (.ap (.andThen (.andThen (.of _ _) (.map _ (.data (.list .int64)) _))
    (.tryParMap .list .int64 .int64 _)) _ _ _)

/-- The run's own thread fails at a stage of the inner pipeline, and the apply stage around it
leaves no trace; workers fail the run with no more than one place, if their spawner puts none
around its failures. -/
theorem Pipeline.fails_in_place_refusedInside :
    (∃ s log work, Visits Local.fanOut refusedInside (#[] : Array Call) s log ∧
      s.Performs work ∧ s.suspended ≠ [] ∧ ((Local.execute refusedInside).run #[]).1 =
        .error (.stage work.kind s.current.pointer.index (.raised "7 is refused"))) ∧
    ∀ crew floor e, crew.root = refusedInside →
      (∀ request e, crew.hiring request = .error e → e.isBare = true) →
      ((Coordinator.execute crew).run floor).1 = .error e →
        e.isBare = true ∨ ∃ kind index o, e = .stage kind index o ∧ o.isBare = true := by
  have code : refusedInside.FailsBare := gives_refusedInside.failsBare
  constructor
  · rw [Local.execute, Local.fanOut_eq]
    have failed : ((refusedInside.execute (fanOutBy Local.dispatcher)).run #[]).1 =
        .error (.stage .parallelMap 1 (.raised "7 is refused")) := rfl
    obtain ⟨s, log, work, o, visits, performs, _, _, encloses, ⟨stage, here, _⟩, _, _, located, _,
      cause⟩ := Pipeline.fails_in_place code Local.isBare_of_fails failed
    obtain rfl : .raised "7 is refused" = o := cause
    have place := located rfl
    refine ⟨s, log, work, visits, performs, fun outermost => ?_, failed.trans (by rw [place])⟩
    -- The whole pipeline has no stage of this index.
    rw [outermost] at encloses
    injection place with _ index _
    rw [← index] at here
    generalize s.current.pipeline = current at encloses here
    cases encloses
    cases here
  · intro crew floor e root refusals failed
    rw [Coordinator.execute, root, Coordinator.fanOut_eq] at failed
    obtain ⟨s, _, work, o, _, _, _, _, _, _, bare, passed, located, _⟩ :=
      Pipeline.fails_in_place code (Coordinator.isBare_of_fails crew refusals) failed
    cases own : o.isLocated with
    | false => exact .inl (passed own ▸ bare)
    | true => exact .inr ⟨_, _, o, located own, bare⟩

end Conduit
