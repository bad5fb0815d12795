import Conduit.Proofs.Traversal.Counting
import Conduit.Proofs.Traversal.Prompt
import Mathlib.Data.List.Forall2
import Mathlib.Data.Nat.Find

/-! # When gathering ends

Every element of a collection has a fate: the number of turns for which it is waited for, and
its outcome then. The fates decide how gathering ends, and after how many rounds
(`Conduit.EndsBy`). A small collection ends with the failure that comes soonest. A large one
ends with the failure in the foremost place, once all elements before it have come back, so
that a failure in a later place can be hidden by one that comes after it in time
(`Conduit.Catalogue.Timed.soonest_failure_hidden`); it is not, just when nobody before the
failure that comes soonest takes longer than it (`Conduit.EndsBy.failsSoonest_iff`).
-/

namespace Conduit

/-- What becomes of an element: how often it is asked for in vain, and its outcome then. -/
structure Fate (ε β : Type) where
  turns : Nat
  outcome : Except ε β

section Fates

variable {κ ε β : Type}

/-- The answer of an element with this fate. A ticket has a fate of its own, which is one
turn nearer. -/
inductive Fate.Answers (fateOf : κ → Fate ε β) : Fate ε β → Answer κ ε β → Prop
  | now (outcome : Except ε β) : Answers fateOf ⟨0, outcome⟩ (.now outcome)
  | later (ticket : κ) :
      Answers fateOf ⟨(fateOf ticket).turns + 1, (fateOf ticket).outcome⟩ (.later ticket)

/-- The slot of an element with this fate, after the round of this number. -/
inductive Fate.At (fateOf : κ → Fate ε β) (number : Nat) : Fate ε β → Slot κ ε β → Prop
  | waiting (ticket : κ) :
      At fateOf number ⟨(fateOf ticket).turns + 1 + number, (fateOf ticket).outcome⟩
        (.waiting ticket)
  | done {fate : Fate ε β} {y : β} (past : fate.turns ≤ number) (gives : fate.outcome = .ok y) :
      At fateOf number fate (.done y)
  | failed {fate : Fate ε β} {e : ε} (past : fate.turns ≤ number)
      (fails : fate.outcome = .error e) : At fateOf number fate (.failed e)

variable {fateOf : κ → Fate ε β} {fate : Fate ε β} {fates : List (Fate ε β)} {number : Nat}

theorem Fate.at_of_outcome (past : fate.turns ≤ number) :
    fate.At fateOf number (.ofAnswer (.now fate.outcome)) := by
  cases gives : fate.outcome with
  | ok y => exact .done past gives
  | error e => exact .failed past gives

/-- A first answer fills the slot after the first round. -/
theorem Fate.Answers.at_zero {answer : Answer κ ε β} (answers : fate.Answers fateOf answer) :
    fate.At fateOf 0 (.ofAnswer answer) := by
  cases answers with
  | now outcome => exact Fate.at_of_outcome (Nat.le_refl 0)
  | later ticket => exact .waiting ticket

/-- The answer for a ticket fills the slot after the next round. -/
theorem Fate.Answers.at_succ {ticket : κ} {answer : Answer κ ε β}
    (answers : (fateOf ticket).Answers fateOf answer) :
    Fate.At fateOf (number + 1) ⟨(fateOf ticket).turns + 1 + number, (fateOf ticket).outcome⟩
      (.ofAnswer answer) := by
  generalize fateOf ticket = fate at answers ⊢
  cases answers with
  | now outcome =>
      have past : (⟨0 + 1 + number, outcome⟩ : Fate ε β).turns ≤ number + 1 := by
        dsimp only
        omega
      exact Fate.at_of_outcome past
  | later next =>
      have waiting : Fate.At fateOf (number + 1) _ _ := .waiting next
      have turns : (fateOf next).turns + 1 + (number + 1) =
          (fateOf next).turns + 1 + 1 + number := by omega
      rwa [turns] at waiting

/-- Some element's failure ends the round of this number: none before it has failed yet. If
the gathering is not eager, all before it have come back, and `clear` tells that so have those
that are not listed. -/
def Halts (eager clear : Bool) (number : Nat) (fates : List (Fate ε β)) (e : ε) : Prop :=
  ∃ before fate after, fates = before ++ fate :: after ∧ fate.turns ≤ number ∧
    fate.outcome = .error e ∧
    (∀ other ∈ before, other.turns ≤ number → ∃ y, other.outcome = .ok y) ∧
    (eager = true ∨ clear = true ∧ ∀ other ∈ before, other.turns ≤ number)

variable {eager clear : Bool} {e : ε}

theorem not_halts_nil : ¬ Halts eager clear number ([] : List (Fate ε β)) e := by
  rintro ⟨before, fate, after, split, _⟩
  cases before <;> cases split

/-- An element that has failed ends the round at once, if anything can. -/
theorem halts_failed (past : fate.turns ≤ number) (fails : fate.outcome = .error e)
    (open_ : eager = true ∨ clear = true) : Halts eager clear number (fate :: fates) e :=
  ⟨[], fate, fates, rfl, past, fails, nofun, open_.imp_right fun clear => ⟨clear, nofun⟩⟩

theorem not_halts_shut : ¬ Halts false false number fates e := by
  rintro ⟨_, _, _, _, _, _, _, open_ | ⟨open_, _⟩⟩ <;> cases open_

/-- An element that has come back leaves the end of the round to the others. -/
theorem halts_done {y : β} (past : fate.turns ≤ number) (gives : fate.outcome = .ok y) :
    Halts eager clear number (fate :: fates) e ↔ Halts eager clear number fates e := by
  constructor
  · rintro ⟨before, last, after, split, past', fails, passed, open_⟩
    cases before with
    | nil =>
        cases split
        rw [gives] at fails
        cases fails
    | cons first before =>
        cases split
        refine ⟨before, last, after, rfl, past', fails,
          fun other member => passed other (List.mem_cons_of_mem _ member), ?_⟩
        exact open_.imp_right fun ⟨clear, back⟩ =>
          ⟨clear, fun other member => back other (List.mem_cons_of_mem _ member)⟩
  · rintro ⟨before, last, after, rfl, past', fails, passed, open_⟩
    refine ⟨fate :: before, last, after, rfl, past', fails, ?_, ?_⟩
    · exact List.forall_mem_cons.mpr ⟨fun _ => ⟨y, gives⟩, passed⟩
    · exact open_.imp_right fun ⟨clear, back⟩ => ⟨clear, List.forall_mem_cons.mpr ⟨past, back⟩⟩

/-- Behind an element that is waited for only an eager round can end. -/
theorem halts_waiting (waits : number < fate.turns) :
    Halts eager clear number (fate :: fates) e ↔ Halts eager false number fates e := by
  constructor
  · rintro ⟨before, last, after, split, past, fails, passed, open_⟩
    cases before with
    | nil =>
        cases split
        exact absurd past (Nat.not_le.mpr waits)
    | cons first before =>
        cases split
        refine ⟨before, last, after, rfl, past, fails,
          fun other member => passed other (List.mem_cons_of_mem _ member), .inl ?_⟩
        refine open_.resolve_right fun ⟨_, back⟩ => ?_
        exact absurd (back _ List.mem_cons_self) (Nat.not_le.mpr waits)
  · rintro ⟨before, last, after, rfl, past, fails, passed, open_⟩
    refine ⟨fate :: before, last, after, rfl, past, fails, ?_, ?_⟩
    · exact List.forall_mem_cons.mpr ⟨fun past => absurd past (Nat.not_le.mpr waits), passed⟩
    · exact .inl (open_.resolve_right fun ⟨shut, _⟩ => by cases shut)

/-- How a round over elements with these fates ends. -/
inductive RoundEnds (fateOf : κ → Fate ε β) (eager clear : Bool) (number : Nat)
    (fates : List (Fate ε β)) : Except ε (List (Slot κ ε β)) → Prop
  | halts {e : ε} (halts : Halts eager clear number fates e) :
      RoundEnds fateOf eager clear number fates (.error e)
  | goesOn {slots : List (Slot κ ε β)}
      (stand : List.Forall₂ (Fate.At fateOf number) fates slots)
      (none : ∀ e, ¬ Halts eager clear number fates e) :
      RoundEnds fateOf eager clear number fates (.ok slots)

/-- One more element in front leaves a round with its slot in front, when the element does
not end the round. -/
theorem RoundEnds.cons {clear' : Bool} {slot : Slot κ ε β}
    {outcome : Except ε (List (Slot κ ε β))} (stands : fate.At fateOf number slot)
    (same : ∀ e, Halts eager clear number (fate :: fates) e ↔ Halts eager clear' number fates e)
    (ends : RoundEnds fateOf eager clear' number fates outcome) :
    RoundEnds fateOf eager clear number (fate :: fates) (outcome.map (slot :: ·)) := by
  cases ends with
  | halts halts => exact .halts ((same _).mpr halts)
  | goesOn stand none =>
      exact .goesOn (.cons stands stand) fun e halts => none e ((same e).mp halts)

variable {σ τ : Type}

/-- **A round ends as the fates have it.** -/
theorem round_ends {visit : τ → StateM σ (Slot κ ε β)} {xs : List τ}
    (visits : List.Forall₂ (fun fate x => ∀ s, fate.At fateOf number ((visit x).run s).1)
      fates xs) (eager : Bool) :
    ∀ (clear : Bool) (s : σ),
      RoundEnds fateOf eager clear number fates ((round visit eager clear xs).run s).1 := by
  induction visits with
  | nil => exact fun clear s => .goesOn .nil fun e => not_halts_nil
  | @cons fate x fates rest first _ ih =>
      intro clear s
      have visited := first s
      rw [run_round_cons]
      generalize (visit x).run s = outcome at visited ⊢
      obtain ⟨slot, t⟩ := outcome
      dsimp only at visited ⊢
      -- A value changes nothing, somebody waited for shuts the round behind, and a failure ends
      -- it unless it is shut.
      cases visited with
      | done past gives => exact (ih clear t).cons (.done past gives) fun e => halts_done past gives
      | waiting ticket =>
          exact (ih false t).cons (.waiting ticket) fun e => halts_waiting (by dsimp only; omega)
      | failed past fails =>
          dsimp only
          split
          next open_ => exact .halts (halts_failed past fails (by simpa using open_))
          next shut =>
            obtain ⟨rfl, rfl⟩ : eager = false ∧ clear = false := by simpa using shut
            exact (ih false t).cons (.failed past fails) fun e =>
              iff_of_false not_halts_shut not_halts_shut

/-- How gathering elements with these fates ends, and the number of rounds after the first. -/
inductive Ends (eager : Bool) (fates : List (Fate ε β)) : Except ε (List β) → Nat → Prop
  | halts {e : ε} {rounds : Nat} (halts : Halts eager true rounds fates e)
      (last : ∀ number < rounds, ∀ e, ¬ Halts eager true number fates e) :
      Ends eager fates (.error e) rounds
  | completes {ys : List β} {rounds : Nat} (gives : fates.map Fate.outcome = ys.map .ok)
      (past : ∀ fate ∈ fates, fate.turns ≤ rounds)
      (needed : rounds = 0 ∨ ∃ fate ∈ fates, fate.turns = rounds) :
      Ends eager fates (.ok ys) rounds

/-- When nobody is waited for, and nothing has ended the gathering, all have come back. -/
theorem values_of_stand {slots : List (Slot κ ε β)}
    (stand : List.Forall₂ (Fate.At fateOf number) fates slots)
    (answered : ∀ ticket, .waiting ticket ∉ slots)
    (none : ∀ e, ¬ Halts eager true number fates e) :
    ∃ ys : List β, slots = ys.map .done ∧ fates.map Fate.outcome = ys.map .ok := by
  induction stand with
  | nil => exact ⟨[], rfl, rfl⟩
  | @cons fate slot fates slots stands _ ih =>
      cases stands with
      | waiting ticket => exact absurd List.mem_cons_self (answered ticket)
      | failed past fails => exact absurd (halts_failed past fails (.inr rfl)) (none _)
      | @done _ y past gives =>
          obtain ⟨ys, rfl, others⟩ :=
            ih (fun ticket member => answered ticket (List.mem_cons_of_mem _ member))
              fun e halts => none e ((halts_done past gives).mpr halts)
          exact ⟨y :: ys, rfl, by rw [List.map_cons, List.map_cons, gives, others]⟩

/-- An element that is waited for has turns left. -/
theorem fate_of_waiting {slots : List (Slot κ ε β)}
    (stand : List.Forall₂ (Fate.At fateOf number) fates slots) {ticket : κ}
    (waiting : .waiting ticket ∈ slots) :
    ⟨(fateOf ticket).turns + 1 + number, (fateOf ticket).outcome⟩ ∈ fates := by
  induction stand with
  | nil => cases waiting
  | cons stands _ ih =>
      rcases List.mem_cons.mp waiting with rfl | later
      · cases stands
        exact List.mem_cons_self
      · exact List.mem_cons_of_mem _ (ih later)

/-- Turns are over, up to those that tickets have left. -/
theorem turns_le_of_stand {slots : List (Slot κ ε β)}
    (stand : List.Forall₂ (Fate.At fateOf number) fates slots) {bound : Nat}
    (left : ∀ ticket, .waiting ticket ∈ slots → (fateOf ticket).turns < bound) :
    ∀ fate ∈ fates, fate.turns ≤ number + bound := by
  induction stand with
  | nil => exact nofun
  | cons stands _ ih =>
      refine List.forall_mem_cons.mpr ⟨?_, ih fun ticket member =>
        left ticket (List.mem_cons_of_mem _ member)⟩
      cases stands with
      | waiting ticket =>
          have := left ticket List.mem_cons_self
          dsimp only
          omega
      | done past => exact Nat.le_add_right_of_le past
      | failed past => exact Nat.le_add_right_of_le past

theorem Slot.mem_tickets {slots : List (Slot κ ε β)} {ticket : κ}
    (waiting : .waiting ticket ∈ slots) : ticket ∈ Slot.tickets slots :=
  List.mem_filterMap.mpr ⟨_, waiting, rfl⟩

namespace Asking

/-- Whatever the shared state, tickets are answered as their fates have it, and patience lasts
for them. -/
structure Punctual (asking : Asking (StateM σ) κ ε β) (fateOf : κ → Fate ε β) : Prop where
  asks : ∀ ticket s, (fateOf ticket).Answers fateOf ((asking.ask ticket).run s).1
  patient : ∀ tickets s, ∀ ticket ∈ tickets,
    (fateOf ticket).turns < ((asking.patience tickets).run s).1

variable {asking : Asking (StateM σ) κ ε β}

/-- A visit fills the slot after the next round. -/
theorem Punctual.visit (punctual : asking.Punctual fateOf) {slot : Slot κ ε β}
    (stands : fate.At fateOf number slot) (s : σ) :
    fate.At fateOf (number + 1) ((asking.visit slot).run s).1 := by
  cases stands with
  | waiting ticket => exact (punctual.asks ticket s).at_succ
  | done past gives => exact .done (Nat.le_succ_of_le past) gives
  | failed past fails => exact .failed (Nat.le_succ_of_le past) fails

/-- When nobody is waited for, gathering ends with the values of all. -/
theorem conclude_ends {slots : List (Slot κ ε β)}
    (stand : List.Forall₂ (Fate.At fateOf number) fates slots)
    (answered : ∀ ticket, .waiting ticket ∉ slots)
    (none : ∀ e, ¬ Halts eager true number fates e)
    (needed : number = 0 ∨ ∃ fate ∈ fates, number ≤ fate.turns) :
    Ends eager fates (asking.conclude slots) number := by
  obtain ⟨ys, rfl, gives⟩ := values_of_stand stand answered none
  have past : ∀ fate ∈ fates, fate.turns ≤ number + 0 :=
    turns_le_of_stand stand fun ticket waiting => absurd waiting (answered ticket)
  rw [conclude_done]
  exact .completes gives past (needed.imp_right fun ⟨fate, member, reached⟩ =>
    ⟨fate, member, Nat.le_antisymm (past fate member) reached⟩)

/-- **Waiting ends as the fates have it**, when no round up to this one has ended it. -/
theorem Punctual.wait_ends (punctual : asking.Punctual fateOf) (eager : Bool) :
    ∀ (patience number : Nat) (slots : List (Slot κ ε β)) (s : σ),
      List.Forall₂ (Fate.At fateOf number) fates slots →
      (∀ earlier ≤ number, ∀ e, ¬ Halts eager true earlier fates e) →
      (number = 0 ∨ ∃ fate ∈ fates, number ≤ fate.turns) →
      (∀ fate ∈ fates, fate.turns ≤ number + patience) →
      Ends eager fates ((asking.counted.wait eager patience slots).run (s, number)).1
        ((asking.counted.wait eager patience slots).run (s, number)).2.2 := by
  intro patience
  induction patience with
  | zero =>
      intro number slots s stand none needed enough
      change Ends eager fates (asking.counted.conclude slots) number
      rw [conclude_counted]
      refine conclude_ends stand (fun ticket waiting => ?_) (none number (Nat.le_refl _)) needed
      have := enough _ (fate_of_waiting stand waiting)
      dsimp only at this
      omega
  | succ patience ih =>
      intro number slots s stand none needed enough
      rw [run_wait_succ]
      split
      next answered =>
        rw [conclude_counted]
        exact conclude_ends stand
          (Slot.tickets_eq_nil_iff.mp (List.isEmpty_iff.mp answered))
          (none number (Nat.le_refl _)) needed
      next unanswered =>
        obtain ⟨ticket, waiting⟩ : ∃ ticket, .waiting ticket ∈ slots := by
          by_contra nobody
          exact unanswered (List.isEmpty_iff.mpr (Slot.tickets_eq_nil_iff.mpr fun ticket waiting =>
            nobody ⟨ticket, waiting⟩))
        have reached : ∃ fate ∈ fates, number + 1 ≤ fate.turns :=
          ⟨_, fate_of_waiting stand waiting, by dsimp only; omega⟩
        rw [wake_counted, run_round_counted]
        have visits : List.Forall₂ (fun fate slot => ∀ s,
            fate.At fateOf (number + 1) ((asking.visit slot).run s).1) fates slots :=
          stand.imp fun _ _ stands => punctual.visit stands
        have ends := round_ends visits eager true (asking.wake.run s).2
        generalize (round asking.visit eager true slots).run (asking.wake.run s).2 = ending
          at ends ⊢
        obtain ⟨outcome, t⟩ := ending
        cases ends with
        | halts halts =>
            exact .halts halts fun earlier before => none earlier (Nat.le_of_lt_succ before)
        | @goesOn slots' stand' none' =>
            refine ih (number + 1) slots' t stand' ?_ (.inr reached) fun fate member => ?_
            · intro earlier upTo
              rcases Nat.lt_or_eq_of_le upTo with before | rfl
              · exact none earlier (Nat.le_of_lt_succ before)
              · exact none'
            · have := enough fate member
              omega

variable {α : Type} {start : α → StateM σ (Answer κ ε β)} {xs : List α} {fate : α → Fate ε β}

/-- **Gathering ends as the fates have it.** -/
theorem Punctual.gather_ends (punctual : asking.Punctual fateOf)
    (starts : ∀ x ∈ xs, ∀ s, (fate x).Answers fateOf ((start x).run s).1) (s : σ) :
    Ends (decide (xs.length ≤ eagerLimit)) (xs.map fate)
      ((asking.counted.gather (fun x => counting (start x)) xs).run (s, 0)).1
      ((asking.counted.gather (fun x => counting (start x)) xs).run (s, 0)).2.2 := by
  have visits : List.Forall₂ (fun fate x => ∀ s, fate.At fateOf 0
      (((return Slot.ofAnswer (← start x)) : StateM σ (Slot κ ε β)).run s).1)
      (xs.map fate) xs :=
    List.forall₂_map_left_iff.mpr (List.forall₂_same.mpr fun x member s =>
      (starts x member s).at_zero)
  rw [run_gather]
  dsimp only
  rw [run_round_start]
  have ends := round_ends visits (decide (xs.length ≤ eagerLimit)) true s
  generalize (round (fun x => return Slot.ofAnswer (← start x))
    (decide (xs.length ≤ eagerLimit)) true xs).run s = ending at ends ⊢
  obtain ⟨outcome, t⟩ := ending
  cases ends with
  | halts halts => exact .halts halts nofun
  | @goesOn slots stand none =>
      refine punctual.wait_ends _ _ 0 slots _ stand ?_ (.inl rfl) ?_
      · intro earlier upTo
        obtain rfl := Nat.le_zero.mp upTo
        exact none
      · exact turns_le_of_stand stand fun ticket waiting =>
          punctual.patient _ t ticket (Slot.mem_tickets waiting)

end Asking

/-- The failure in this place comes soonest, and of several at once it is in the earliest
place. -/
structure Soonest (fates : List (Fate ε β)) (position : Nat) (first : Fate ε β) (e : ε) :
    Prop where
  here : fates[position]? = some first
  fails : first.outcome = .error e
  least : ∀ (place : Nat) (other : Fate ε β) (e' : ε), fates[place]? = some other →
    other.outcome = .error e' →
      first.turns < other.turns ∨ first.turns = other.turns ∧ position ≤ place

/-- How gathering elements with these fates ends, and the number of rounds after the first. A
small collection ends with the failure that comes soonest; no round is made after it. A large
one ends with the failure in the foremost place, in the first round after which all up to this
place have their answers. -/
inductive EndsBy (fates : List (Fate ε β)) : Except ε (List β) → Nat → Prop
  | completes {ys : List β} {rounds : Nat} (gives : fates.map Fate.outcome = ys.map .ok)
      (past : ∀ fate ∈ fates, fate.turns ≤ rounds)
      (needed : rounds = 0 ∨ ∃ fate ∈ fates, fate.turns = rounds) :
      EndsBy fates (.ok ys) rounds
  | soonest {position : Nat} {first : Fate ε β} {e : ε} (small : fates.length ≤ eagerLimit)
      (soonest : Soonest fates position first e) : EndsBy fates (.error e) first.turns
  | foremost {position : Nat} {fate : Fate ε β} {e : ε} {rounds : Nat}
      (large : eagerLimit < fates.length) (here : fates[position]? = some fate)
      (fails : fate.outcome = .error e)
      (before : ∀ (place : Nat) (other : Fate ε β), place < position →
        fates[place]? = some other → ∃ y, other.outcome = .ok y)
      (past : ∀ (place : Nat) (other : Fate ε β), place ≤ position →
        fates[place]? = some other → other.turns ≤ rounds)
      (needed : ∃ (place : Nat) (other : Fate ε β), place ≤ position ∧
        fates[place]? = some other ∧ other.turns = rounds) :
      EndsBy fates (.error e) rounds

/-- If there is a failure, the one that comes soonest ends the gathering, in its turn. -/
def FailsSoonest (fates : List (Fate ε β)) (outcome : Except ε (List β)) (rounds : Nat) : Prop :=
  ∀ fate ∈ fates, ∀ e, fate.outcome = .error e → ∃ position first e',
    Soonest fates position first e' ∧ outcome = .error e' ∧ rounds = first.turns

/-- Nobody in a place before the failure that comes soonest takes longer than it. -/
def Unhindered (fates : List (Fate ε β)) : Prop :=
  ∀ position first e, Soonest fates position first e →
    ∀ (place : Nat) (other : Fate ε β), place < position → fates[place]? = some other →
      other.turns ≤ first.turns

/-- A failure whose turns are over ends an eager round. -/
theorem halts_of_failed {fate : Fate ε β} {e : ε} (past : fate.turns ≤ number)
    (fails : fate.outcome = .error e) :
    ∀ (clear : Bool) {fates : List (Fate ε β)}, fate ∈ fates →
      ∃ e', Halts true clear number fates e'
  | clear, first :: fates, member => by
      rcases Nat.lt_or_ge number first.turns with waits | back
      · have later : fate ∈ fates :=
          (List.mem_cons.mp member).resolve_left fun same => by
            subst same
            exact absurd past (Nat.not_le.mpr waits)
        obtain ⟨e', halts⟩ := halts_of_failed past fails false later
        exact ⟨e', (halts_waiting waits).mpr halts⟩
      · cases gives : first.outcome with
        | error e' => exact ⟨e', halts_failed back gives (.inl rfl)⟩
        | ok y =>
            have later : fate ∈ fates :=
              (List.mem_cons.mp member).resolve_left fun same => by
                subst same
                rw [gives] at fails
                cases fails
            obtain ⟨e', halts⟩ := halts_of_failed past fails clear later
            exact ⟨e', (halts_done back gives).mpr halts⟩

theorem place_of_split {before after : List (Fate ε β)} :
    (before ++ fate :: after)[before.length]? = some fate := by
  rw [List.getElem?_append_right (Nat.le_refl _), Nat.sub_self]
  rfl

/-- In a split list, what stands in a place before the split is in the first part. -/
theorem mem_before_of_place {before after : List (Fate ε β)} {fate other : Fate ε β} {place : Nat}
    (earlier : place < before.length)
    (there : (before ++ fate :: after)[place]? = some other) : other ∈ before := by
  rw [List.getElem?_append_left earlier] at there
  exact List.mem_of_getElem? there

/-- The failure that ends the first eager round which one ends comes soonest. -/
theorem soonest_of_halts {rounds : Nat} (halts : Halts true true rounds fates e)
    (last : ∀ number < rounds, ∀ e, ¬ Halts true true number fates e) :
    ∃ position first, Soonest fates position first e ∧ first.turns = rounds := by
  obtain ⟨before, first, after, rfl, past, fails, passed, -⟩ := halts
  -- a failure that is over before the last round would have ended an earlier one
  have soonest : ∀ other ∈ before ++ first :: after, ∀ e', other.outcome = .error e' →
      rounds ≤ other.turns := by
    intro other member e' fails'
    by_contra early
    obtain ⟨e'', halts⟩ := halts_of_failed (Nat.le_refl _) fails' true member
    exact last other.turns (Nat.lt_of_not_le early) e'' halts
  have here : (before ++ first :: after)[before.length]? = some first := place_of_split
  obtain rfl : first.turns = rounds :=
    Nat.le_antisymm past (soonest first (List.mem_of_getElem? here) e fails)
  refine ⟨before.length, first, ⟨here, fails, ?_⟩, rfl⟩
  intro place other e' there fails'
  rcases Nat.lt_or_eq_of_le (soonest other (List.mem_of_getElem? there) e' fails')
    with later | together
  · exact .inl later
  · refine .inr ⟨together, Nat.not_lt.mp fun earlier => ?_⟩
    obtain ⟨y, gives⟩ :=
      passed other (mem_before_of_place earlier there) (Nat.le_of_eq together.symm)
    rw [gives] at fails'
    cases fails'

/-- Where there is a failure, one comes soonest. -/
theorem exists_soonest (member : fate ∈ fates) (fails : fate.outcome = .error e) :
    ∃ position first e', Soonest fates position first e' := by
  classical
  have halting : ∃ number e', Halts true true number fates e' :=
    ⟨fate.turns, halts_of_failed (Nat.le_refl _) fails true member⟩
  obtain ⟨e', halts⟩ := Nat.find_spec halting
  obtain ⟨position, first, soonest, -⟩ := soonest_of_halts halts fun number earlier e'' halts =>
    Nat.find_min halting earlier ⟨e'', halts⟩
  exact ⟨position, first, e', soonest⟩

/-- Only one failure comes soonest. -/
theorem Soonest.unique {position place : Nat} {first other : Fate ε β} {e' : ε}
    (soonest : Soonest fates position first e) (also : Soonest fates place other e') :
    first = other ∧ e = e' := by
  obtain rfl : position = place := by
    have := soonest.least place other e' also.here also.fails
    have := also.least position first e soonest.here soonest.fails
    omega
  obtain rfl : first = other := Option.some.inj (soonest.here.symm.trans also.here)
  exact ⟨rfl, Except.error.inj (soonest.fails.symm.trans also.fails)⟩

/-- A large collection ends with the failure in the foremost place, as soon as all up to it
have come back. -/
theorem endsBy_of_inOrder (large : eagerLimit < fates.length) {rounds : Nat}
    (halts : Halts false true rounds fates e)
    (last : ∀ number < rounds, ∀ e, ¬ Halts false true number fates e) :
    EndsBy fates (.error e) rounds := by
  obtain ⟨before, fate, after, rfl, past, fails, passed, open_⟩ := halts
  obtain ⟨-, back⟩ := open_.resolve_left Bool.false_ne_true
  have here : (before ++ fate :: after)[before.length]? = some fate := place_of_split
  have upTo : ∀ (place : Nat) (other : Fate ε β), place ≤ before.length →
      (before ++ fate :: after)[place]? = some other → other ∈ before ∨ other = fate := by
    intro place other upTo there
    rcases Nat.lt_or_eq_of_le upTo with earlier | rfl
    · exact .inl (mem_before_of_place earlier there)
    · exact .inr (Option.some.inj (there.symm.trans here))
  refine .foremost large here fails ?_ ?_ ?_
  · intro place other earlier there
    have member := mem_before_of_place earlier there
    exact passed other member (back other member)
  · intro place other within there
    rcases upTo place other within there with member | rfl
    · exact back other member
    · exact past
  · by_contra none
    -- with all of them back earlier, an earlier round would have ended the gathering
    have early : ∀ other, other ∈ before ∨ other = fate → other.turns < rounds := by
      intro other among
      refine Nat.lt_of_le_of_ne (among.elim (back other) fun same => same ▸ past) fun turns => ?_
      rcases among with member | rfl
      · obtain ⟨place, earlier, there⟩ := List.getElem_of_mem member
        refine none ⟨place, other, Nat.le_of_lt earlier, ?_, turns⟩
        rw [List.getElem?_append_left earlier, List.getElem?_eq_getElem earlier, there]
      · exact none ⟨before.length, other, Nat.le_refl _, here, turns⟩
    have sooner := early fate (.inr rfl)
    refine last (rounds - 1) (by omega) e ⟨before, fate, after, rfl, by omega, fails, ?_,
      .inr ⟨rfl, ?_⟩⟩
    · exact fun other member _ => passed other member (back other member)
    · intro other member
      have := early other (.inl member)
      omega

/-- The end as the fates have it, told by places and turns. -/
theorem Ends.endsBy {outcome : Except ε (List β)} {rounds : Nat}
    (ends : Ends (decide (fates.length ≤ eagerLimit)) fates outcome rounds) :
    EndsBy fates outcome rounds := by
  cases ends with
  | completes gives past needed => exact .completes gives past needed
  | halts halts last =>
      by_cases small : fates.length ≤ eagerLimit
      · rw [decide_eq_true small] at halts last
        obtain ⟨position, first, soonest, rfl⟩ := soonest_of_halts halts last
        exact .soonest small soonest
      · rw [decide_eq_false small] at halts last
        exact endsBy_of_inOrder (Nat.lt_of_not_le small) halts last

/-- The failure that comes soonest ends a large collection in its turn just when nobody before
it takes longer. -/
theorem EndsBy.soonest_iff {outcome : Except ε (List β)} {rounds position : Nat}
    {first : Fate ε β} (ends : EndsBy fates outcome rounds)
    (soonest : Soonest fates position first e) :
    outcome = .error e ∧ rounds = first.turns ↔ fates.length ≤ eagerLimit ∨
      ∀ (place : Nat) (other : Fate ε β), place < position → fates[place]? = some other →
        other.turns ≤ first.turns := by
  cases ends with
  | @completes ys _ gives =>
      have values : first.outcome ∈ ys.map .ok :=
        gives ▸ List.mem_map_of_mem (List.mem_of_getElem? soonest.here)
      obtain ⟨y, -, gives⟩ := List.mem_map.mp values
      rw [soonest.fails] at gives
      cases gives
  | soonest small other =>
      obtain ⟨rfl, rfl⟩ := other.unique soonest
      exact iff_of_true ⟨rfl, rfl⟩ (.inl small)
  | @foremost place fate e' rounds large here fails before past needed =>
      have least := soonest.least place fate e' here fails
      have within := past place fate (Nat.le_refl _) here
      constructor
      · rintro ⟨-, rfl⟩
        have upTo : position ≤ place := by omega
        exact .inr fun earlier other sooner there =>
          past earlier other (Nat.le_of_lt (Nat.lt_of_lt_of_le sooner upTo)) there
      · intro unhindered
        have quick := unhindered.resolve_left (Nat.not_le.mpr large)
        -- the foremost failure is the soonest one: neither can stand before the other
        obtain rfl : place = position := by
          rcases Nat.lt_trichotomy place position with earlier | same | later
          · have := quick place fate earlier here
            omega
          · exact same
          · obtain ⟨y, gives⟩ := before position first later soonest.here
            rw [soonest.fails] at gives
            cases gives
        obtain rfl : fate = first := Option.some.inj (here.symm.trans soonest.here)
        obtain rfl : e' = e := Except.error.inj (fails.symm.trans soonest.fails)
        refine ⟨rfl, Nat.le_antisymm ?_ within⟩
        obtain ⟨earlier, other, upTo, there, rfl⟩ := needed
        rcases Nat.lt_or_eq_of_le upTo with before | rfl
        · exact quick earlier other before there
        · obtain rfl : fate = other := Option.some.inj (here.symm.trans there)
          exact Nat.le_refl _

/-- **The failure that comes soonest ends the gathering** just when the collection is small, or
when nobody before this failure takes longer. -/
theorem EndsBy.failsSoonest_iff {outcome : Except ε (List β)} {rounds : Nat}
    (ends : EndsBy fates outcome rounds) :
    FailsSoonest fates outcome rounds ↔ fates.length ≤ eagerLimit ∨ Unhindered fates := by
  constructor
  · intro reports
    refine or_iff_not_imp_left.mpr fun large position first e soonest => ?_
    obtain ⟨_, _, _, same, reported⟩ :=
      reports first (List.mem_of_getElem? soonest.here) e soonest.fails
    obtain ⟨rfl, rfl⟩ := same.unique soonest
    exact ((ends.soonest_iff soonest).mp reported).resolve_left large
  · intro meets fate member e fails
    obtain ⟨position, first, e', soonest⟩ := exists_soonest member fails
    exact ⟨position, first, e', soonest,
      (ends.soonest_iff soonest).mpr (meets.imp_right fun quick => quick position first e' soonest)⟩

end Fates

end Conduit
