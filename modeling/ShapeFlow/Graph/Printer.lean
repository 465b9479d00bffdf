import ShapeFlow.Graph

/-!
# Graphs as text

A graph is shown as a heading with its inputs, one indented line for each node, and a last line with
its outputs (`Graph.text`). Values stand by name behind a percent sign, attributes behind the
operator between square brackets.
-/

set_option autoImplicit false

namespace ShapeFlow.Graph

/-- The names of values, separated by commas. -/
def nameList (g : Graph) : List ValueId → Except Fault String := fun ids => do
  let names ← ids.mapM g.nameOf
  return commaSeparated (names.map ("%" ++ ·))

/-- Attributes between square brackets, or nothing. -/
def attributeText (attributes : Context) : String :=
  if attributes.isEmpty then ""
  else "[" ++ commaSeparated (attributes.map fun a => a.1 ++ "=" ++ a.2.source) ++ "]"

/-- The line of a node. -/
def nodeText (g : Graph) (n : Node) : Except Fault String := do
  let outputs ← g.nameList n.outputs
  let inputs ← g.nameList n.inputs
  return "  " ++ outputs ++ " = " ++ n.kind ++ attributeText n.attributes ++ "(" ++ inputs ++ ")"

/-- The whole graph as text. -/
def text (g : Graph) : Except Fault String := do
  let inputs ← g.nameList g.inputs
  let nodes ← g.nodes.mapM g.nodeText
  let outputs ← g.nameList g.outputs
  let heading := "graph(" ++ inputs ++ "):"
  return "\n".intercalate (heading :: nodes ++ ["  return (" ++ outputs ++ ")"])

end ShapeFlow.Graph
