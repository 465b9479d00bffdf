import ShapeFlow.DeclaredType

/-!
# Types of scripted graphs

A scripted graph declares richer types than the pass needs. `ScriptType.ofName` reads the name of a
type: the six kinds that the pass knows, the type of a module, and everything else; a tensor type
may list sizes behind its element type. `ScriptType.declared` is the declared type of a value of the
type.
-/

set_option autoImplicit false

namespace ShapeFlow

/-- A type of a scripted graph, as far as the pass can tell types apart. -/
inductive ScriptType where
  | tensor
  | bool
  | int
  | float
  | none
  | intList
  | module
  | other
  deriving DecidableEq, Repr, Inhabited

namespace ScriptType

/-- The type that a name stands for. -/
def ofName (name : String) : ScriptType :=
  if name == "Tensor" || name.startsWith "Float(" then tensor
  else if name == "bool" then bool
  else if name == "int" then int
  else if name == "float" then float
  else if name == "None" then none
  else if name == "List[int]" then intList
  else if name == "class" then module
  else other

/-- The declared type of a value of a scripted type. -/
def declared : ScriptType → DeclaredType
  | tensor => .tensor
  | bool => .bool
  | int => .int
  | float => .float
  | none => .none
  | intList => .intList
  | module => .other
  | other => .other

end ScriptType

end ShapeFlow
