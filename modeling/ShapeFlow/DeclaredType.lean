/-!
# Declared types of graph values

Each value of a graph declares a type (`DeclaredType`). Only constants depend on it: it decides
which shape or payload a constant has.
-/

set_option autoImplicit false

namespace ShapeFlow

/-- The declared type of a graph value. -/
inductive DeclaredType where
  | tensor
  | float
  | int
  | bool
  | none
  | intList
  | other
  deriving DecidableEq, Repr, Inhabited

namespace DeclaredType

/-- Every declared type, in the order in which they are listed. -/
def all : List DeclaredType := [tensor, float, int, bool, none, intList, other]

/-- The word for a declared type. -/
def label : DeclaredType → String
  | tensor => "tensor"
  | float => "float"
  | int => "int"
  | bool => "bool"
  | none => "none"
  | intList => "int_list"
  | other => "other"

/-- The declared type that a word names. -/
def ofLabel? (word : String) : Option DeclaredType := all.find? (·.label == word)

theorem ofLabel?_label (t : DeclaredType) : ofLabel? t.label = some t := by cases t <;> rfl

theorem mem_all (t : DeclaredType) : t ∈ all := by cases t <;> simp [all]

end DeclaredType

end ShapeFlow
