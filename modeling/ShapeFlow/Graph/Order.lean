import ShapeFlow.Graph

/-!
# The order of a graph

A graph is ordered if each node consumes only graph inputs and results of earlier nodes, and each
graph output is a graph input or a result (`Graph.Ordered`). `Graph.checkOrder` decides this by
walking the nodes once with the list of what is available, and names the first use that offends.
-/

set_option autoImplicit false

namespace ShapeFlow.Graph

/-- Each operand of each node is available when the node's turn comes. -/
def OrderedFrom : List ValueId → List Node → Prop
  | _, [] => True
  | available, node :: rest =>
    (∀ id ∈ node.inputs, id ∈ available) ∧ OrderedFrom (available ++ node.outputs) rest

/-- Every value is produced before it is used. -/
def Ordered (g : Graph) : Prop :=
  OrderedFrom g.inputs g.nodes ∧ ∀ id ∈ g.outputs, id ∈ g.inputs ++ produced g.nodes

/-- The first id of a list that is not available. -/
def firstMissing? (available ids : List ValueId) : Option ValueId :=
  ids.find? fun id => !available.contains id

/-- Walks nodes from number `index` on; gives what is available behind them. -/
def checkNodes (g : Graph) : Nat → List ValueId → List Node → Except Failure (List ValueId)
  | _, available, [] => .ok available
  | index, available, node :: rest =>
    match firstMissing? available node.inputs with
    | some id => do
      let name ← faulted (g.nameOf id)
      .error (Issue.consumedEarly index node.kind name).failure
    | none => g.checkNodes (index + 1) (available ++ node.outputs) rest

/-- Whether every value is produced before it is used; otherwise the first use that offends. -/
def checkOrder (g : Graph) : Except Failure Unit := do
  let available ← g.checkNodes 0 g.inputs g.nodes
  match firstMissing? available g.outputs with
  | some id => do
    let name ← faulted (g.nameOf id)
    .error (Issue.neverProduced name).failure
  | none => .ok ()

end ShapeFlow.Graph
