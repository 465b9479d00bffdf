import ShapeFlow.Store

/-!
# Graphs

A graph is a table of values, a list of nodes that run in order, and the ids of its inputs and
outputs (`Graph`). Ids index the table as table looks do: a negative id counts from the end, and an
id that is out of range both ways is a fault (`Graph.value`, `Graph.nameOf`). A node holds its
attributes by name in the order in which they were given (`Node.require`, `Node.requireInt`).
-/

set_option autoImplicit false

namespace ShapeFlow

/-- A row of the value table. -/
structure Value where
  id : ValueId
  name : String
  type : DeclaredType := .tensor
  deriving DecidableEq, Repr, Inhabited

/-- An operator with its operands, results and attributes. -/
structure Node where
  kind : String
  inputs : List ValueId := []
  outputs : List ValueId := []
  attributes : Context := []
  deriving Repr, Inhabited

namespace Node

/-- The category of a node's operator. -/
def operator (n : Node) : Operator := Operator.ofSymbol n.kind

/-- Whether a node has an attribute. -/
def hasAttribute (n : Node) (name : String) : Bool := n.attributes.any (·.1 == name)

/-- An attribute that the operator requires. -/
def require (n : Node) (name : String) : Except Issue Datum :=
  match n.attributes.lookup name with
  | some value => .ok value
  | none => .error (.missingAttribute n.kind name)

/-- A whole number that the operator requires as an attribute; truth values are refused, and so are
the numbers of an array library. -/
def requireInt (n : Node) (name : String) : Except Issue Int := do
  match ← n.require name with
  | .int value => .ok value
  | value => .error (.attributeType n.kind name value.typeName)

end Node

/-- A control-flow-free computation. -/
structure Graph where
  values : List Value := []
  nodes : List Node := []
  inputs : List ValueId := []
  outputs : List ValueId := []
  deriving Repr, Inhabited

namespace Graph

/-- The row that an index means in a table: a negative index counts from the end. -/
def row? {α : Type} (table : List α) (index : Int) : Option α :=
  if 0 ≤ index then table[index.toNat]?
  else if -(table.length : Int) ≤ index then table[(table.length + index).toNat]?
  else none

/-- The row that an index means in a table, which must have it. -/
def row {α : Type} (table : List α) (index : Int) : Except Fault α :=
  match row? table index with
  | some entry => .ok entry
  | none => .error .indexOutOfRange

/-- The value of an id. -/
def value (g : Graph) (id : ValueId) : Except Fault Value := row g.values id

/-- The name of an id. -/
def nameOf (g : Graph) : Naming := fun id => (g.value id).map Value.name

/-- The outputs of nodes, in order. -/
def produced (nodes : List Node) : List ValueId := nodes.flatMap Node.outputs

theorem row?_ofNat {α : Type} (table : List α) (i : Nat) : row? table (i : Int) = table[i]? := by
  simp [row?]

theorem row?_isSome_iff {α : Type} (table : List α) (index : Int) :
    (row? table index).isSome ↔ -(table.length : Int) ≤ index ∧ index < table.length := by
  unfold row?
  split
  · simp only [List.getElem?_eq_some_iff, Option.isSome_iff_exists]
    constructor
    · rintro ⟨_, h, _⟩
      omega
    · intro h
      exact ⟨_, by omega, rfl⟩
  · split
    · simp only [List.getElem?_eq_some_iff, Option.isSome_iff_exists]
      constructor
      · rintro ⟨_, h, _⟩
        omega
      · intro h
        exact ⟨_, by omega, rfl⟩
    · simp only [Option.isSome_none, Bool.false_eq_true, false_iff]
      omega

end Graph

end ShapeFlow
