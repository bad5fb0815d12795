import Conduit.Proofs.Coordinator.Moves

/-! # What is left to wait for

A wake lets workers take the turns that the schedule names next, and after the schedule
the first worker that is not through with its task. Either way there is less to wait for
afterwards (`Conduit.Floor.backlog_wake`), and what workers do while the coordinator is in
the middle of a round adds nothing (`Conduit.Floor.backlog_stride`).
-/

namespace Conduit.Floor

variable {crew : Crew} {floor : Floor}

/-- The number of workers that are not through with their tasks. -/
def busy (floor : Floor) : Nat := floor.jobs.countP fun job => job.phase != .gone

/-- A number of wakes after which all workers are through with their tasks. -/
def backlog (floor : Floor) : Nat := floor.schedule.length + floor.busy

theorem busy_le_size (floor : Floor) : floor.busy ≤ floor.jobs.size := Array.countP_le_size

theorem busy_pos {number : Nat} {job : Job} (here : floor.jobs[number]? = some job)
    (left : job.phase ≠ .gone) : 0 < floor.busy :=
  Array.countP_pos_iff.mpr ⟨job, Array.mem_of_getElem? here, by simpa using left⟩

theorem busy_of_jobs {other : Floor} (jobs : floor.jobs = other.jobs) :
    floor.busy = other.busy := by
  rw [busy, busy, jobs]

/-- A worker's new phase changes the count by this worker alone. -/
theorem busy_setPhase {number : Nat} {job : Job} (here : floor.jobs[number]? = some job)
    (phase : Phase) :
    (floor.setPhase number phase).busy + (if job.phase != .gone then 1 else 0) =
      floor.busy + (if phase != .gone then 1 else 0) := by
  obtain ⟨inside, last⟩ := Array.getElem?_eq_some_iff.mp here
  have set : (floor.setPhase number phase).jobs =
      floor.jobs.set number { job with phase := phase } inside := by
    apply Array.ext_getElem?
    intro other
    rw [getElem_setPhase, Array.getElem?_set]
    split
    next same =>
      rw [← same, here]
      rfl
    next => rfl
  have counted : (if (floor.jobs[number]).phase != .gone then 1 else 0) ≤ floor.busy := by
    split
    next left => exact busy_pos (Array.getElem?_eq_getElem inside) (by simpa using left)
    next => exact Nat.zero_le _
  have count : (floor.setPhase number phase).busy =
      floor.busy - (if (floor.jobs[number]).phase != .gone then 1 else 0) +
        (if phase != .gone then 1 else 0) := by
    rw [busy, set, Array.countP_set]
    rfl
  rw [last] at counted count
  omega

theorem busy_advance_le (crew : Crew) (floor : Floor) (number : Nat) :
    (floor.advance crew number).busy ≤ floor.busy := by
  cases here : floor.jobs[number]? with
  | none =>
      have idle : floor.advance crew number = floor := by rw [advance, here]
      exact Nat.le_of_eq (congrArg busy idle)
  | some job =>
      obtain ⟨phase, jobs, fewer⟩ := jobs_advance crew here
      have count := busy_setPhase here phase
      rw [busy_of_jobs jobs]
      by_cases gone : job.phase = .gone
      · obtain rfl : phase = .gone := by
          rw [← Phase.movesLeft_eq_zero_iff, fewer, gone]
          rfl
        simp [gone] at count
        omega
      · simp [gone] at count
        split at count <;> omega

/-- No move adds to the workers that are not through with their tasks. -/
theorem stable_busy (crew : Crew) (most : Nat) : Stable crew fun floor => floor.busy ≤ most where
  advance floor number kept := Nat.le_trans (busy_advance_le crew floor number) kept
  schedule _ _ kept := kept
  strides _ _ kept := kept

theorem busy_runJob_lt (crew : Crew) {number : Nat} {job : Job}
    (here : floor.jobs[number]? = some job) (left : job.phase ≠ .gone) :
    (floor.runJob crew number).busy < floor.busy := by
  have count := busy_setPhase here .gone
  rw [busy_of_jobs (jobs_runJob crew here)]
  simp [left] at count
  omega

theorem schedule_advance (crew : Crew) (floor : Floor) (number : Nat) :
    (floor.advance crew number).schedule = floor.schedule := by
  have move := advance_move crew floor number
  generalize floor.advance crew number = next at move ⊢
  cases move with
  | idle => rfl
  | inform => rfl
  | @work job cancelled =>
      unfold work
      cases job.program <;> rfl
  | part => rfl

theorem schedule_runJobs (crew : Crew) (numbers : List Nat) (floor : Floor) :
    (floor.runJobs crew numbers).schedule = floor.schedule := by
  induction numbers generalizing floor with
  | nil => rfl
  | cons number rest ih =>
      refine (ih (floor.runJob crew number)).trans ?_
      rw [runJob, schedule_advance, schedule_advance, schedule_advance]

theorem schedule_stride (crew : Crew) (floor : Floor) :
    (floor.stride crew).schedule = floor.schedule := by
  have advances : ∀ (numbers : List Nat) (floor : Floor),
      (numbers.foldl (fun floor number => floor.advance crew number) floor).schedule =
        floor.schedule := by
    intro numbers
    induction numbers with
    | nil => intro floor; rfl
    | cons number rest ih =>
        intro floor
        exact (ih _).trans (schedule_advance crew floor number)
  unfold stride
  split
  · exact advances _ _
  · rfl

/-- Strides leave no more to wait for. -/
theorem backlog_stride (crew : Crew) (floor : Floor) :
    (floor.stride crew).backlog ≤ floor.backlog := by
  have busy := (stable_busy crew floor.busy).stride (Nat.le_refl _)
  rw [backlog, backlog, schedule_stride]
  exact Nat.add_le_add_left busy _

/-- **Every wake leaves less to wait for.** -/
theorem backlog_wake (crew : Crew) (floor : Floor) :
    (floor.wake crew).backlog ≤ floor.backlog - 1 := by
  unfold wake
  split
  next batch rest scheduled =>
    have start : ({ floor with schedule := rest } : Floor).busy ≤ floor.busy := Nat.le_refl _
    have busy := (stable_busy crew floor.busy).runJobs batch start
    simp only [backlog, schedule_runJobs, scheduled, List.length_cons]
    omega
  next scheduled =>
    split
    next number first =>
      obtain ⟨inside, left, _⟩ := Array.findIdx?_eq_some_iff_getElem.mp first
      have fewer := busy_runJob_lt crew (Array.getElem?_eq_getElem inside)
        (by simpa using left)
      have unscheduled := schedule_runJobs crew [number] floor
      change (floor.runJob crew number).schedule = _ at unscheduled
      simp only [backlog, unscheduled]
      omega
    next none =>
      have through : floor.busy = 0 :=
        Array.countP_eq_zero.mpr fun job member => by
          have := Array.findIdx?_eq_none_iff.mp none job member
          simpa using this
      rw [backlog, through, scheduled]
      exact Nat.zero_le _

end Conduit.Floor
