import ShapeFlow.Pass.Progress
import ShapeFlow.Rule.Constant
import ShapeFlow.Rule.MatrixProduct
import ShapeFlow.Rule.Chunk

/-!
# One node of a pass

`Graph.yield` applies the rule of a node to the records of its operands and gives the records of its
results; it looks at the graph only for the declared type of a constant. `Graph.stepNamed` reads
the operands from the store, applies the rule, and writes the results in order. Nothing is written
before the rule has given all results. A store may name values in a way of its own when it reports a
failure; in a pass it has the names of the graph (`Graph.step`).
-/

set_option autoImplicit false

namespace ShapeFlow

/-- The records of a node's results, and the notices that come before they are written. -/
structure Yield where
  metas : List Meta
  notices : List Record := []

namespace Node

/-- The shapes that the rule of an operator other than the constant gives. -/
def resultShapes (node : Node) (operands : List Shape) : Except Issue (List Shape) :=
  match node.operator with
  | .unary => (Rule.unary operands).map ([·])
  | .binary => (Rule.binary operands).map ([·])
  | .matrixProduct => (Rule.matrixProduct operands).map ([·])
  | .batchProduct => (Rule.batchProduct operands).map ([·])
  | .biasedProduct => (Rule.biasedProduct operands).map ([·])
  | .concat => do
    let dim ← node.requireInt "dim"
    let shape ← Rule.concat operands dim
    return [shape]
  | .chunk => do
    let chunks ← node.requireInt "chunks"
    let dim ← node.requireInt "dim"
    Rule.chunk operands chunks dim
  | .constant | .unsupported => .error (.unsupportedOperator node.kind)

/-- The results of an operator other than the constant: one record for each output. -/
def tensorResults (node : Node) (operands : List Shape) : Except Issue (List Meta) := do
  let shapes ← node.resultShapes operands
  if shapes.length = node.outputs.length then return shapes.map .tensor
  else .error (.outputCount node.kind shapes.length node.outputs.length)

/-- The line that tells of a result. -/
def resultLine (node : Node) (name : String) (m : Meta) : String :=
  if node.operator = .constant then
    "%" ++ name ++ " = prim::Constant -> shape=" ++ intList m.shape ++ " values=" ++
      (match m.payload with
        | some ns => intTuple ns
        | none => "None")
  else "%" ++ name ++ " = " ++ node.kind ++ " -> " ++ intList m.shape

end Node

namespace Graph

/-- What a constant gives; it must have one output. -/
def constantYield (g : Graph) (policy : ConstantPolicy) (node : Node) : Except Failure Yield :=
  match node.outputs with
  | [output] => do
    let value ← faulted (g.value output)
    let content ← Rule.constant policy node value.type
    return { metas := [Rule.constantMeta value.type content]
             notices := Rule.constantNotices value.type }
  | outputs => .error (Issue.constantOutputs node.kind outputs.length).failure

/-- What a node gives for the records of its operands. -/
def yield (g : Graph) (policy : ConstantPolicy) (node : Node) (operands : List Meta) :
    Except Failure Yield :=
  if node.operator = .constant then g.constantYield policy node
  else (reported (node.tensorResults (operands.map Meta.shape))).map fun metas => { metas }

/-- Writes results in order into a store that names values in a way of its own, and tells of each
behind it under the name that the graph has for it. -/
def writeResultsNamed (g : Graph) (names : Naming) (node : Node) :
    List (ValueId × Meta) → Pass Unit
  | [] => pure ()
  | (id, m) :: rest => do
    Pass.write names id m
    let name ← Pass.ofExcept (faulted (g.nameOf id))
    Pass.note [{ severity := .debug, channel := Channel.dispatcher
                 message := node.resultLine name m }]
    g.writeResultsNamed names node rest

/-- Runs one node on a store that names values in a way of its own. -/
def stepNamed (g : Graph) (names : Naming) (policy : ConstantPolicy) (node : Node) :
    Pass Unit := do
  let operands ← Pass.ofStore (Pass.readAll names node.inputs)
  -- the rule gives all results before the first of them is written
  let result ← Pass.ofExcept (g.yield policy node operands)
  Pass.note result.notices
  g.writeResultsNamed names node (node.outputs.zip result.metas)

/-- Writes results in order into a store with the names of the graph. -/
def writeResults (g : Graph) (node : Node) (results : List (ValueId × Meta)) : Pass Unit :=
  g.writeResultsNamed g.nameOf node results

/-- Runs one node on a store with the names of the graph. -/
def step (g : Graph) (policy : ConstantPolicy) (node : Node) : Pass Unit :=
  g.stepNamed g.nameOf policy node

end Graph

end ShapeFlow
