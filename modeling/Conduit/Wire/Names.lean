import Conduit.Error
import Conduit.Json.Reader

/-! # Names on the wire

The kinds of stage and the categories of failure, by the names they are read by.
-/

namespace Conduit

/-- The kinds of stage by their names. -/
def StageKind.named : List (String × StageKind) :=
  [StageKind.transform, .apply, .parallelMap].map fun kind => (kind.name, kind)

/-- The categories of failure by their names. -/
def ErrorCategory.named : List (String × ErrorCategory) :=
  [ErrorCategory.stage, .protocol, .transport, .configuration].map fun category =>
    (category.name, category)

/-- The meaning of a text that holds one of several names. -/
def ofNameText {α : Type} (names : List (String × α)) (text : String) : Except Json.Fault α :=
  (Json.Reader.variant names Json.nestingLimit).run text

end Conduit
