import Conduit.Error

/-! # Innermost failures

The places that stages put around a failure change neither its category nor what is
innermost in it. Elements fail without a place, so that the stage which treats them puts the
first one around their failures.
-/

namespace Conduit.Error

/-- No stage has put its place around the failure. -/
def isBare : Error → Bool
  | stage _ _ _ => false
  | _ => true

/-- The failure is one that elements have: no stage has put its place around it, and it is no
mismatch of types. -/
def isElemental : Error → Bool
  | stage _ _ _ => false
  | typeMismatch _ _ => false
  | _ => true

theorem isBare_of_isElemental {e : Error} (elemental : e.isElemental = true) :
    e.isBare = true := by
  cases e with
  | stage => cases elemental
  | _ => rfl

theorem rootCause_of_isBare {e : Error} (bare : e.isBare = true) : e.rootCause = e := by
  cases e with
  | stage => cases bare
  | _ => rfl

theorem category_rootCause (e : Error) : e.rootCause.category = e.category := by
  induction e with
  | stage kind index cause ih => exact ih
  | _ => rfl

theorem category_of_isLocated {e : Error} (located : e.isLocated = true) :
    e.category = .stage := by
  cases e with
  | raised | typeMismatch | serialization => rfl
  | _ => cases located

theorem rootCause_atStage (kind : StageKind) (index : Nat) (e : Error) :
    (e.atStage kind index).rootCause = e.rootCause := by
  unfold atStage
  split <;> rfl

theorem category_atStage (kind : StageKind) (index : Nat) (e : Error) :
    (e.atStage kind index).category = e.category := by
  unfold atStage
  split <;> rfl

end Conduit.Error
