import ShapeFlow.Journal.Severity

/-!
# Log records

A record has a severity, the channel that it is written on, and a message (`Record`). The channels
of the library are listed in `Channel`.
-/

set_option autoImplicit false

namespace ShapeFlow

/-- What is written to the log once. -/
structure Record where
  severity : Severity
  channel : String
  message : String
  deriving DecidableEq, Repr, Inhabited

namespace Channel

/-- The channel above all others of the library. -/
def root : String := "jitshape"

/-- The channel of passes. -/
def engine : String := "jitshape.core.engine"

/-- The channel of graph inputs. -/
def inputs : String := "jitshape.core.inputs"

/-- The channel of nodes. -/
def dispatcher : String := "jitshape.core.dispatcher"

/-- The channel of shape rules. -/
def rules : String := "jitshape.core.shape_rules"

end Channel

end ShapeFlow
