import Conduit.Inspect

/-! # Cancellation

The elements of one parallel stage share a flag. Under the best-effort policy it is
raised when one of them fails, and workers that find it raised skip their element.
Under the other policy it is never raised. A raised flag stays raised.
-/

namespace Conduit

/-- Whether workers may skip their elements once another one has failed. -/
inductive CancellationPolicy where
  | none
  | bestEffort
  deriving DecidableEq, Repr, Inhabited

namespace CancellationPolicy

/-- The name of a policy. -/
def name : CancellationPolicy → String
  | none => "none"
  | bestEffort => "best_effort"

/-- The policies by their names. -/
def named : List (String × CancellationPolicy) :=
  [CancellationPolicy.none, bestEffort].map fun policy => (policy.name, policy)

/-- A policy in diagnostics. -/
def inspect : CancellationPolicy → String
  | none => "None"
  | bestEffort => "BestEffort"

end CancellationPolicy

/-- The flag that the elements of a stage share. -/
structure CancelFlag where
  raised : Bool
  enabled : Bool
  deriving DecidableEq, Inhabited

namespace CancelFlag

/-- A fresh flag under a policy. -/
def ofPolicy (policy : CancellationPolicy) : CancelFlag := ⟨false, policy == .bestEffort⟩

/-- The flag after it was to be raised. -/
def cancel (flag : CancelFlag) : CancelFlag := { flag with raised := flag.raised || flag.enabled }

/-- A flag in diagnostics. -/
def inspect (flag : CancelFlag) : String :=
  describeFields "CancelFlag"
    [("cancelled", toString flag.raised), ("enabled", toString flag.enabled)] true

end CancelFlag

end Conduit
