import Conduit.Proofs.Machine.Evaluation

/-! # The way of a run through its parallel stages

The routes to the parallel stages of a pipeline are listed in the order in which its
recursive program comes to them (`Conduit.Pipeline.itinerary`): stage after stage, the
parallel stages of an inner pipeline in place of the stage that applies it. A run carries
out its parallel stages along this list, each once, and a run that fails stops on the way
(`Conduit.Pipeline.follows_itinerary`).
-/

namespace Conduit

mutual

/-- The routes from a stage to the parallel stages that it is or has inside. -/
def Stage.routes : Stage → List (List Nat)
  | .transform _ => []
  | .parallelMap _ => [[]]
  | .apply inner _ => inner.routes

/-- The routes from a pipeline to the parallel stages in it. -/
def Pipeline.routes : Pipeline → List (List Nat)
  | ⟨_, stages⟩ => routesOf 0 stages

/-- The routes to the parallel stages among stages of which the first has this index. -/
def routesOf (index : Nat) : List Stage → List (List Nat)
  | [] => []
  | stage :: rest => stage.routes.map (index :: ·) ++ routesOf (index + 1) rest

end

/-- The paths of the parallel stages of a pipeline, in the order of its program. -/
def Pipeline.itinerary (p : Pipeline) : List StagePath := p.routes.map StagePath.mk

section Routes

theorem Pipeline.routes_eq (p : Pipeline) : p.routes = routesOf 0 p.stages := by
  cases p
  rw [Pipeline.routes]

/-- A route among stages goes to one of them, and on inside it. -/
theorem mem_routesOf_iff {route : List Nat} : ∀ {index : Nat} {stages : List Stage},
    route ∈ routesOf index stages ↔
      ∃ place stage inside, stages[place]? = some stage ∧ inside ∈ stage.routes ∧
        route = (index + place) :: inside
  | index, [] => by simp [routesOf]
  | index, first :: rest => by
      rw [routesOf, List.mem_append, List.mem_map, mem_routesOf_iff]
      constructor
      · rintro (⟨inside, member, rfl⟩ | ⟨place, stage, inside, here, member, rfl⟩)
        · exact ⟨0, first, inside, rfl, member, rfl⟩
        · refine ⟨place + 1, stage, inside, here, member, ?_⟩
          rw [Nat.add_right_comm, Nat.add_assoc]
      · rintro ⟨place, stage, inside, here, member, rfl⟩
        cases place with
        | zero =>
            obtain rfl : first = stage := Option.some.inj here
            exact .inl ⟨inside, member, rfl⟩
        | succ place =>
            refine .inr ⟨place, stage, inside, here, member, ?_⟩
            rw [Nat.add_right_comm, Nat.add_assoc]

theorem Pipeline.mem_routes_iff {p : Pipeline} {route : List Nat} :
    route ∈ p.routes ↔ ∃ index stage inside, p.stages[index]? = some stage ∧
      inside ∈ stage.routes ∧ route = index :: inside := by
  rw [Pipeline.routes_eq, mem_routesOf_iff]
  simp only [Nat.zero_add]

/-- **The routes are just those that a walk completes.** -/
theorem Pipeline.mem_routes_iff_walk (route : List Nat) : ∀ (p : Pipeline) (hop : Nat),
    route ∈ p.routes ↔ ∃ stage, p.walk hop route = .ok stage := by
  induction route with
  | nil =>
      intro p hop
      rw [Pipeline.mem_routes_iff]
      constructor
      · rintro ⟨_, _, _, _, _, route⟩
        cases route
      · rintro ⟨_, found⟩
        cases found
  | cons index inside ih =>
      intro p hop
      have first : index :: inside ∈ p.routes ↔
          ∃ stage, p.stages[index]? = some stage ∧ inside ∈ stage.routes := by
        rw [Pipeline.mem_routes_iff]
        constructor
        · rintro ⟨_, stage, _, here, member, route⟩
          cases route
          exact ⟨stage, here, member⟩
        · rintro ⟨stage, here, member⟩
          exact ⟨index, stage, inside, here, member, rfl⟩
      rw [first]
      cases here : p.stages[index]? with
      | none => cases inside <;> simp [Pipeline.walk, here]
      | some stage =>
          -- Only at the last hop a parallel stage is looked for; before it, an apply stage.
          cases inside with
          | nil =>
              cases stage with
              | transform run => simp [Pipeline.walk, here, Stage.routes]
              | parallelMap stage => simp [Pipeline.walk, here, Stage.routes]
              | apply inner glue =>
                  simp only [Pipeline.walk, here, Stage.routes, Option.some.injEq, exists_eq_left']
                  rw [ih inner hop]
                  simp [Pipeline.walk]
          | cons next rest =>
              cases stage with
              | transform run => simp [Pipeline.walk, here, Stage.routes]
              | parallelMap stage => simp [Pipeline.walk, here, Stage.routes]
              | apply inner glue =>
                  simp only [Pipeline.walk, here, Stage.routes, Option.some.injEq, exists_eq_left']
                  exact ih inner (hop + 1)

/-- The itinerary has the path of every parallel stage, and no others. -/
theorem Pipeline.mem_itinerary_iff {p : Pipeline} {path : StagePath} :
    path ∈ p.itinerary ↔ ∃ stage, p.resolve path = .ok stage := by
  have routes := Pipeline.mem_routes_iff_walk path.indices p 0
  rw [itinerary, List.mem_map, resolve, find]
  constructor
  · rintro ⟨route, member, rfl⟩
    obtain ⟨stage, found⟩ := routes.mp member
    exact ⟨stage, by rw [found]; rfl⟩
  · rintro ⟨stage, resolves⟩
    refine ⟨path.indices, routes.mpr ?_, rfl⟩
    cases found : p.walk 0 path.indices with
    | ok other => exact ⟨other, rfl⟩
    | error fault => rw [found] at resolves; cases resolves

mutual

/-- Routes get larger along the list. -/
theorem Stage.routes_sorted : ∀ stage : Stage, stage.routes.Pairwise (· < ·)
  | .transform _ => by simp [Stage.routes]
  | .parallelMap _ => by simp [Stage.routes]
  | .apply inner _ => by
      rw [Stage.routes]
      exact Pipeline.routes_sorted inner

theorem Pipeline.routes_sorted : ∀ p : Pipeline, p.routes.Pairwise (· < ·)
  | ⟨_, stages⟩ => by
      rw [Pipeline.routes]
      exact routesOf_sorted 0 stages

theorem routesOf_sorted (index : Nat) :
    ∀ stages : List Stage, (routesOf index stages).Pairwise (· < ·)
  | [] => by simp [routesOf]
  | stage :: rest => by
      rw [routesOf, List.pairwise_append]
      refine ⟨?_, routesOf_sorted (index + 1) rest, ?_⟩
      · rw [List.pairwise_map]
        exact (Stage.routes_sorted stage).imp fun less => List.cons_lt_cons_self.mpr less
      · intro route member later member'
        obtain ⟨inside, _, rfl⟩ := List.mem_map.mp member
        obtain ⟨place, _, inside', _, _, rfl⟩ := mem_routesOf_iff.mp member'
        exact List.cons_lt_cons_iff.mpr (.inl (by omega))

end

/-- The paths of an itinerary get larger, so that none occurs twice. -/
theorem Pipeline.itinerary_sorted (p : Pipeline) :
    p.itinerary.Pairwise fun path later => path.indices < later.indices := by
  rw [itinerary, List.pairwise_map]
  exact p.routes_sorted

end Routes

section Recorded

variable {σ : Type}

/-- A fan-out that writes down the path of every stage it is to carry out. -/
def recorded (fanOut : FanOut (StateM σ)) : FanOut (StateT (List StagePath) (StateM σ)) :=
  fun path stage container => do
    modify (· ++ [path])
    monadLift (fanOut path stage container)

/-- A computation that writes paths down comes to the end of the plain one. On the way it
writes these paths, all of them if it succeeds. -/
def Follows (paths : List StagePath)
    (recording : ExceptT Error (StateT (List StagePath) (StateM σ)) Value)
    (plain : ExceptT Error (StateM σ) Value) : Prop :=
  ∀ (log : List StagePath) (s : σ), ∃ outcome written t,
    (recording.run.run log).run s = ((outcome, log ++ written), t) ∧
      plain.run.run s = (outcome, t) ∧ written <+: paths ∧
        ∀ v, outcome = .ok v → written = paths

variable {paths others : List StagePath}
  {recording : ExceptT Error (StateT (List StagePath) (StateM σ)) Value}
  {plain : ExceptT Error (StateM σ) Value}

theorem Follows.pure (v : Value) :
    Follows (σ := σ) [] (pure v) (Pure.pure v) :=
  fun log s => ⟨.ok v, [], s, by rw [List.append_nil]; rfl, rfl, List.prefix_rfl, fun _ _ => rfl⟩

/-- One computation after the other follows the paths of both. -/
theorem Follows.bind (first : Follows paths recording plain)
    {recording' : Value → ExceptT Error (StateT (List StagePath) (StateM σ)) Value}
    {plain' : Value → ExceptT Error (StateM σ) Value}
    (second : ∀ v, Follows others (recording' v) (plain' v)) :
    Follows (paths ++ others) (recording >>= recording') (plain >>= plain') := by
  intro log s
  obtain ⟨outcome, written, t, records, runs, along, all⟩ := first log s
  rw [ExceptT.run_bind, ExceptT.run_bind, StateT.run_bind, StateT.run_bind, StateT.run_bind,
    records, runs]
  -- A failure ends both with what is written so far; a value has all of the first paths written.
  cases outcome with
  | error e =>
      refine ⟨.error e, written, t, rfl, rfl, along.trans (List.prefix_append _ _), ?_⟩
      rintro v ⟨⟩
  | ok v =>
      obtain ⟨outcome', written', u, records', runs', along', all'⟩ := second v (log ++ written) t
      obtain rfl := all v rfl
      refine ⟨outcome', written ++ written', u, ?_, runs', ?_, ?_⟩
      · rw [← List.append_assoc]
        exact records'
      · exact (List.prefix_append_right_inj written).mpr along'
      · intro w completes
        rw [all' w completes]

/-- A parallel stage that is carried out has its path written down. -/
theorem follows_fanOut (fanOut : FanOut (StateM σ)) (kind : StageKind) (index : Nat)
    (path : StagePath) (stage : ParallelMap) (container : Value) :
    Follows [path] (located kind index (recorded fanOut path stage container))
      (located kind index (fanOut path stage container)) := fun _ s =>
  ⟨Except.mapError (Error.atStage kind index) ((fanOut path stage container).run s).1, [path],
    ((fanOut path stage container).run s).2, rfl, rfl, List.prefix_rfl, fun _ _ => rfl⟩

variable [MonadLiftT (Traced Call) (StateM σ)]

/-- The code of a stage writes no path down. -/
theorem follows_code (kind : StageKind) (index : Nat) (code : Outcome) :
    Follows (σ := σ) [] (located kind index (monadLift code))
      (located kind index (monadLift code)) := by
  intro log s
  refine ⟨Except.mapError (Error.atStage kind index) ((monadLift code : StateM σ _).run s).1, [],
    ((monadLift code : StateM σ _).run s).2, ?_, rfl, List.prefix_rfl, fun _ _ => rfl⟩
  rw [List.append_nil]
  rfl

variable (fanOut : FanOut (StateM σ))

mutual

/-- Evaluating a stage follows its routes. -/
theorem Stage.follows (outer : List Nat) (index : Nat) : ∀ (stage : Stage) (v : Value),
    Follows (stage.routes.map fun inside => ⟨outer ++ index :: inside⟩)
      (stage.evaluate (recorded fanOut) outer index v) (stage.evaluate fanOut outer index v)
  | .transform run, v => by
      simp only [Stage.evaluate, Stage.routes]
      exact follows_code .transform index (run v)
  | .parallelMap stage, v => by
      simp only [Stage.evaluate, Stage.routes]
      exact follows_fanOut fanOut .parallelMap index ⟨outer ++ [index]⟩ stage v
  | .apply inner glue, v => by
      simp only [Stage.evaluate, Stage.routes]
      have inside := Pipeline.follows (outer ++ [index]) inner
      have joined := inside.bind fun function => follows_code .apply index (glue function v)
      simpa using joined

/-- Evaluating a pipeline follows its routes. -/
theorem Pipeline.follows (outer : List Nat) : ∀ p : Pipeline,
    Follows (p.routes.map fun route => ⟨outer ++ route⟩)
      (p.evaluate (recorded fanOut) outer) (p.evaluate fanOut outer)
  | ⟨initial, stages⟩ => by
      rw [Pipeline.evaluate, Pipeline.evaluate, Pipeline.routes]
      exact follows_stages outer 0 stages initial

/-- Evaluating stages follows their routes, one stage after the other. -/
theorem follows_stages (outer : List Nat) (index : Nat) : ∀ (stages : List Stage) (v : Value),
    Follows ((routesOf index stages).map fun route => ⟨outer ++ route⟩)
      (evaluateStages (recorded fanOut) outer index stages v)
      (evaluateStages fanOut outer index stages v)
  | [], v => by
      simp only [evaluateStages, routesOf]
      exact .pure v
  | stage :: rest, v => by
      simp only [evaluateStages, routesOf, List.map_append, List.map_map]
      exact (Stage.follows outer index stage v).bind fun w =>
        follows_stages outer (index + 1) rest w

end

/-- **A run follows its itinerary.** A run whose parallel stages are written down, as the
fan-out is asked for them, is the run itself. The paths written down are those of the
itinerary if it succeeds, and the first ones of it if it fails. The itinerary has the path of
every parallel stage, and its paths get larger from each to the next, so that no run asks for
a path twice. -/
theorem Pipeline.follows_itinerary (p : Pipeline) (s : σ) :
    ∃ outcome paths t,
      ((p.execute (recorded fanOut)).run []).run s = ((outcome, paths), t) ∧
      (p.execute fanOut).run s = (outcome, t) ∧
      (∀ v, outcome = .ok v → paths = p.itinerary) ∧
      (∀ e, outcome = .error e → paths <+: p.itinerary) ∧
      (∀ path, path ∈ p.itinerary ↔ ∃ stage, p.resolve path = .ok stage) ∧
      (p.itinerary.Pairwise fun path later => path.indices < later.indices) ∧
      (paths.Pairwise fun path later => path.indices < later.indices) ∧ paths.Nodup := by
  obtain ⟨outcome, paths, t, records, runs, along, all⟩ := Pipeline.follows fanOut [] p [] s
  have records : ((p.execute (recorded fanOut)).run []).run s = ((outcome, paths), t) := by
    rw [execute, ControlState.run_eq_remainder _ _ _ rfl, Pipeline.remainder_start]
    exact records
  have runs : (p.execute fanOut).run s = (outcome, t) := by
    rw [execute, ControlState.run_eq_remainder _ _ _ rfl, Pipeline.remainder_start]
    exact runs
  have sorted : paths.Pairwise fun path later => path.indices < later.indices :=
    p.itinerary_sorted.sublist along.sublist
  refine ⟨outcome, paths, t, records, runs, all, fun _ _ => along,
    fun path => Pipeline.mem_itinerary_iff, p.itinerary_sorted, sorted, ?_⟩
  refine sorted.imp fun less same => ?_
  rw [same] at less
  exact List.lt_irrefl _ less

/-- An inner pipeline's parallel stage comes between those around its apply stage. -/
example (v : Value) (stage : ParallelMap) (glue : Value → Value → Outcome) :
    Pipeline.itinerary
        ⟨v, [.parallelMap stage, .apply ⟨v, [.parallelMap stage]⟩ glue, .parallelMap stage]⟩ =
      [⟨[0]⟩, ⟨[1, 0]⟩, ⟨[2]⟩] := rfl

end Recorded

end Conduit
