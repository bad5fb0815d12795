import Conduit.Proofs.Traversal.Rounds

/-! # What is known of each place

Some facts about an element do not depend on the state that all elements share. It is
enough to know them of every single answer, and they are known of all slots when gathering
has ended (`Conduit.Asking.gather_places`).
-/

namespace Conduit

section Lists

variable {α : Type} {before after : List α}

theorem getElem?_insert (a b : α) (place : Nat) :
    (before ++ a :: after)[place]? =
      if place = before.length then some a else (before ++ b :: after)[place]? := by
  grind

theorem getElem?_concat (a : α) (place : Nat) :
    (before ++ [a])[place]? = if place = before.length then some a else before[place]? := by
  grind

end Lists

namespace Asking

variable {σ κ ε α β : Type}

/-- Every slot is as its place has it. -/
def InPlaces (known : Nat → Slot κ ε β → Prop) (slots : List (Slot κ ε β)) : Prop :=
  ∀ (place : Nat) (slot : Slot κ ε β), slots[place]? = some slot → known place slot

variable {known : Nat → Slot κ ε β → Prop} {before after : List (Slot κ ε β)}
  {slot : Slot κ ε β}

theorem InPlaces.replace {old : Slot κ ε β} (places : InPlaces known (before ++ old :: after))
    (here : known before.length slot) : InPlaces known (before ++ slot :: after) := by
  intro place other there
  rw [getElem?_insert slot old] at there
  split at there
  next same =>
    cases there
    rw [same]
    exact here
  next => exact places place other there

theorem InPlaces.concat (places : InPlaces known before) (here : known before.length slot) :
    InPlaces known (before ++ [slot]) := by
  intro place other there
  rw [getElem?_concat] at there
  split at there
  next same =>
    cases there
    rw [same]
    exact here
  next => exact places place other there

variable {asking : Asking (StateM σ) κ ε β} {start : α → StateM σ (Answer κ ε β)} {xs : List α}

/-- What every answer keeps in its place is known of all places in the end. -/
theorem gather_places
    (starts : ∀ (place : Nat) (x : α) (s : σ), xs[place]? = some x →
      known place (.ofAnswer ((start x).run s).1))
    (asks : ∀ (place : Nat) (ticket : κ) (s : σ), known place (.waiting ticket) →
      known place (.ofAnswer ((asking.ask ticket).run s).1)) (s : σ) :
    Ended (fun slots _ => InPlaces known slots) xs.length asking.Faults
      ((asking.gather start xs).run s) := by
  have keeps : asking.Keeps fun slots _ => InPlaces known slots := by
    constructor
    · intro before ticket after t places
      have mine := places before.length (.waiting ticket) (by simp)
      exact places.replace (asks _ ticket t mine)
    · exact fun _ _ places => places
  refine keeps.gather ?_ (fun _ _ places => places) nofun
  intro before x t here places
  exact places.concat (starts _ x t here)

end Asking

end Conduit
