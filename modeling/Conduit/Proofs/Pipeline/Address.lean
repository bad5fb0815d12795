import Conduit.Pipeline.Path

/-! # The addresses of parallel stages

The address of a parallel stage tells the way to it: every index but the last enters an apply
stage of the pipeline reached so far (`Conduit.Pipeline.Enters`), and the last one is the place
of the stage in the pipeline reached then. A path resolves just when it is such an address.
Every other path is refused as a breach of the protocol, for the first index at which the way
goes wrong (`Conduit.Pipeline.resolves_iff_addresses`).
-/

namespace Conduit

namespace Pipeline

/-- The hops lead from a pipeline to one inside it, each of them into the inner pipeline of an
apply stage. -/
inductive Enters : Pipeline → List Nat → Pipeline → Prop
  | here (p : Pipeline) : Enters p [] p
  | hop {p inner q : Pipeline} {glue : Value → Value → Outcome} {index : Nat} {hops : List Nat}
      (applies : p.stages[index]? = some (.apply inner glue)) (further : Enters inner hops q) :
      Enters p (index :: hops) q

/-- The path is the address of this parallel stage. -/
inductive Addresses (p : Pipeline) (path : StagePath) (stage : ParallelMap) : Prop
  | stage {hops : List Nat} {last : Nat} {q : Pipeline} (split : path.indices = hops ++ [last])
      (enters : p.Enters hops q) (there : q.stages[last]? = some (.parallelMap stage)) :
      Addresses p path stage

/-- The path goes wrong with this fault: it is empty, or all hops before some index can be made
but the index cannot be followed. -/
inductive GoesWrong (p : Pipeline) (path : StagePath) : PathFault → Prop
  | empty (none : path.indices = []) : GoesWrong p path .empty
  | outOfRange {hops rest : List Nat} {index : Nat} {q : Pipeline}
      (split : path.indices = hops ++ index :: rest) (enters : p.Enters hops q)
      (beyond : q.length ≤ index) : GoesWrong p path (.outOfRange hops.length index q.length)
  | notEntered {hops rest : List Nat} {index : Nat} {q : Pipeline} {stage : Stage}
      (split : path.indices = hops ++ index :: rest) (more : rest ≠ [])
      (enters : p.Enters hops q) (there : q.stages[index]? = some stage)
      (other : stage.kind ≠ .apply) : GoesWrong p path (.notEntered hops.length stage.kind)
  | notParallel {hops : List Nat} {last : Nat} {q : Pipeline} {stage : Stage}
      (split : path.indices = hops ++ [last]) (enters : p.Enters hops q)
      (there : q.stages[last]? = some stage) (other : stage.kind ≠ .parallelMap) :
      GoesWrong p path (.notParallel stage.kind)

section Walk

variable {p q : Pipeline} {hops : List Nat}

/-- A walk makes its first hops, and goes on from the pipeline that they lead to. -/
theorem walk_of_enters (enters : p.Enters hops q) (hop index : Nat) (rest : List Nat) :
    p.walk hop (hops ++ index :: rest) = q.walk (hop + hops.length) (index :: rest) := by
  induction enters generalizing hop with
  | here p => rfl
  | @hop p inner q glue first hops applies further ih =>
      have onward : p.walk hop (first :: (hops ++ index :: rest)) =
          inner.walk (hop + 1) (hops ++ index :: rest) := by
        cases hops <;> simp [walk, applies]
      rw [List.cons_append, onward, ih, List.length_cons, Nat.add_assoc, Nat.add_comm 1]

/-- Every path goes as far as some index that is the last, or that enters nothing. -/
theorem exists_stop (index : Nat) (rest : List Nat) : ∀ p : Pipeline,
    ∃ hops last after q, index :: rest = hops ++ last :: after ∧ p.Enters hops q ∧
      ∀ inner glue, q.stages[last]? = some (.apply inner glue) → after = [] := by
  induction rest generalizing index with
  | nil => exact fun p => ⟨[], index, [], p, rfl, .here p, fun _ _ _ => rfl⟩
  | cons next rest ih =>
      intro p
      by_cases applies : ∃ inner glue, p.stages[index]? = some (.apply inner glue)
      · obtain ⟨inner, glue, applies⟩ := applies
        obtain ⟨hops, last, after, q, split, enters, stops⟩ := ih next inner
        refine ⟨index :: hops, last, after, q, ?_, .hop applies enters, stops⟩
        rw [split, List.cons_append]
      · exact ⟨[], index, next :: rest, p, rfl, .here p, fun inner glue there =>
          absurd ⟨inner, glue, there⟩ applies⟩

section Find

variable {path : StagePath} {index : Nat} {rest : List Nat}

/-- The way of a path that makes its first hops goes on from the pipeline that they lead to. -/
theorem find_of_enters (split : path.indices = hops ++ index :: rest)
    (enters : p.Enters hops q) : p.find path = q.walk hops.length (index :: rest) := by
  rw [find, split, walk_of_enters enters, Nat.zero_add]

/-- The stage that a path is the address of is the one it resolves to. -/
theorem Addresses.resolves {stage : ParallelMap} (addresses : p.Addresses path stage) :
    p.resolve path = .ok stage := by
  obtain ⟨split, enters, there⟩ := addresses
  rw [resolve, find_of_enters split enters, walk, there]
  rfl

/-- A path that goes wrong is found to do so, with its fault. -/
theorem GoesWrong.found {fault : PathFault} (wrong : p.GoesWrong path fault) :
    p.find path = .error fault := by
  cases wrong with
  | empty none => rw [find, none, walk]
  | @outOfRange hops rest index q split enters beyond =>
      have absent : q.stages[index]? = none := by rwa [List.getElem?_eq_none_iff]
      rw [find_of_enters split enters]
      cases rest <;> simp [walk, absent]
  | @notEntered hops rest index q stage split more enters there other =>
      obtain ⟨next, rest, rfl⟩ := List.exists_cons_of_ne_nil more
      rw [find_of_enters split enters]
      cases stage with
      | apply inner glue => exact absurd rfl other
      | transform run => simp [walk, there]
      | parallelMap stage => simp [walk, there]
  | @notParallel hops last q stage split enters there other =>
      rw [find_of_enters split enters]
      cases stage with
      | parallelMap stage => exact absurd rfl other
      | transform run => simp [walk, there]
      | apply inner glue => simp [walk, there]

/-- A path that goes wrong is refused for its fault. -/
theorem GoesWrong.refused {fault : PathFault} (wrong : p.GoesWrong path fault) :
    p.resolve path = .error (.protocol (fault.message path)) := by
  rw [resolve, wrong.found]
  rfl

/-- A path goes wrong in one way only. -/
theorem GoesWrong.unique {fault other : PathFault} (wrong : p.GoesWrong path fault)
    (also : p.GoesWrong path other) : other = fault :=
  Except.error.inj (also.found.symm.trans wrong.found)

end Find

/-- A path is the address of a stage, or goes wrong. -/
theorem addresses_or_goesWrong (p : Pipeline) (path : StagePath) :
    (∃ stage, p.Addresses path stage) ∨ ∃ fault, p.GoesWrong path fault := by
  cases indices : path.indices with
  | nil => exact .inr ⟨_, .empty indices⟩
  | cons index rest =>
      obtain ⟨hops, last, after, q, split, enters, stops⟩ := exists_stop index rest p
      rw [← indices] at split
      cases there : q.stages[last]? with
      | none => exact .inr ⟨_, .outOfRange split enters (List.getElem?_eq_none_iff.mp there)⟩
      | some stage =>
          cases after with
          | nil =>
              cases stage with
              | parallelMap stage => exact .inl ⟨stage, .stage split enters there⟩
              | transform run => exact .inr ⟨_, .notParallel split enters there nofun⟩
              | apply inner glue => exact .inr ⟨_, .notParallel split enters there nofun⟩
          | cons next after =>
              have more := List.cons_ne_nil next after
              cases stage with
              | parallelMap stage => exact .inr ⟨_, .notEntered split more enters there nofun⟩
              | transform run => exact .inr ⟨_, .notEntered split more enters there nofun⟩
              | apply inner glue => exact absurd (stops inner glue there) more

end Walk

/-- **A path resolves just when it is an address**, and then to the stage that it is the address
of. Otherwise it breaks the protocol, and what is reported is its one fault: the first index at
which it goes wrong, or that it is empty. -/
theorem resolves_iff_addresses (p : Pipeline) (path : StagePath) :
    (∀ stage, p.resolve path = .ok stage ↔ p.Addresses path stage) ∧
      ∀ e, p.resolve path = .error e ↔
        ∃ fault, e = .protocol (fault.message path) ∧ p.GoesWrong path fault ∧
          ∀ other, p.GoesWrong path other → other = fault := by
  rcases addresses_or_goesWrong p path with ⟨stage, addresses⟩ | ⟨fault, wrong⟩
  · have resolves := addresses.resolves
    refine ⟨fun other => ⟨fun same => ?_, Addresses.resolves⟩, fun e => ⟨fun refused => ?_, ?_⟩⟩
    · cases resolves.symm.trans same
      exact addresses
    · cases resolves.symm.trans refused
    · rintro ⟨fault, rfl, wrong, _⟩
      exact wrong.refused
  · have refused := wrong.refused
    refine ⟨fun stage => ⟨fun resolves => ?_, Addresses.resolves⟩, fun e => ⟨fun same => ?_, ?_⟩⟩
    · cases refused.symm.trans resolves
    · cases refused.symm.trans same
      exact ⟨fault, rfl, wrong, fun _ => wrong.unique⟩
    · rintro ⟨other, rfl, wrong, _⟩
      exact wrong.refused

end Pipeline

end Conduit
