import ShapeFlow.Graph
import ShapeFlow.Datum.Conversion
import ShapeFlow.Journal.Record

/-!
# Constants

The declared type of a constant decides what is known of it (`Rule.constant`): a tensor has its
sizes, a whole number or truth value its number, a floating-point number counts as one number that
never matters, and no value has no content. For the other types the policy decides; where it lets
one pass, a warning is due (`Rule.constantNotices`).
-/

set_option autoImplicit false

namespace ShapeFlow.Rule

/-- The sizes of a tensor that a constant holds. -/
def constantSizes (node : Node) : Except Issue (List Int) := do
  match ← node.require "value" with
  | .tensor dims _ | .parameter dims _ | .array dims _ => .ok dims
  | value => .error (.constantContent value.typeName)

/-- Whether a declared type has a rule for constants. -/
def constantRuled : DeclaredType → Bool
  | .intList | .other => false
  | _ => true

/-- The sizes of a constant tensor, or the numbers of any other constant. -/
def constant (policy : ConstantPolicy) (node : Node) (type : DeclaredType) :
    Except Failure (List Int) :=
  match type with
  | .float => .ok [1]
  | .int => do
    let value ← reported (node.require "value")
    let n ← faulted value.toInteger
    return [n]
  | .bool => do
    let value ← reported (node.require "value")
    let b ← faulted value.truth
    return [Datum.bit b]
  | .none => .ok []
  | .tensor => reported (constantSizes node)
  | .intList | .other =>
    match policy with
    | .empty => .ok []
    | .refuse => .error (Issue.constantType type).failure

/-- The warning that a constant without a rule was given no content. -/
def constantNotices (type : DeclaredType) : List Record :=
  if constantRuled type then []
  else [{ severity := .warning, channel := Channel.rules
          message := "prim::Constant of type " ++ type.label ++
            " has no shape rule; using []" }]

/-- The record of a constant. -/
def constantMeta (type : DeclaredType) (content : List Int) : Meta :=
  if type = .tensor then .tensor content else .scalar content

end ShapeFlow.Rule
