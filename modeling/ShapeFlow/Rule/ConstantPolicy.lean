/-!
# What to do with a constant that no rule covers

A constant of a type without a shape rule is either refused or given an empty value
(`ConstantPolicy`). `ConstantPolicy.le` orders the two by what they let pass.
-/

set_option autoImplicit false

namespace ShapeFlow

/-- The treatment of a constant whose type has no rule. -/
inductive ConstantPolicy where
  | refuse
  | empty
  deriving DecidableEq, Repr, Inhabited

namespace ConstantPolicy

/-- Both policies, the stricter one first. -/
def all : List ConstantPolicy := [refuse, empty]

/-- The word for a policy in settings. -/
def label : ConstantPolicy → String
  | refuse => "error"
  | empty => "empty"

/-- The policy that a word of settings names. -/
def ofLabel? (word : String) : Option ConstantPolicy := all.find? (·.label == word)

theorem ofLabel?_label (p : ConstantPolicy) : ofLabel? p.label = some p := by cases p <;> rfl

theorem mem_all (p : ConstantPolicy) : p ∈ all := by cases p <;> simp [all]

/-- One policy lets pass whatever the other does: they are equal or the second is the lenient one.
-/
def le (p q : ConstantPolicy) : Prop := q = p ∨ q = empty

end ConstantPolicy

end ShapeFlow
