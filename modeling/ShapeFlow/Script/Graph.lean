import ShapeFlow.Script.Type
import ShapeFlow.Graph.Builder

/-!
# Scripted graphs

A scripted graph names its values by unique numbers and may define a number again, in which case the
latest definition counts (`ScriptGraph`). `ScriptGraph.toGraph` makes a graph of it: every kept
input and every result becomes a new value, and each use becomes the id of the latest definition
before it (`Handles`). An input for the module itself is dropped if it has no uses and refused
otherwise; uses may also stand in blocks inside of nodes, which are not translated. Of the
attributes only whole numbers, floating-point numbers, texts and tensors are kept.
-/

set_option autoImplicit false

namespace ShapeFlow

/-- A value of a scripted graph where it is defined, with the number of its uses in the script. -/
structure ScriptValue where
  unique : Int
  name : String
  type : ScriptType
  uses : Nat := 0
  deriving DecidableEq, Repr, Inhabited

/-- An attribute of a scripted node, with the letter for its kind. -/
structure ScriptAttribute where
  name : String
  kind : String
  value : Datum
  deriving Repr, Inhabited

/-- A node of a scripted graph. -/
structure ScriptNode where
  kind : String
  inputs : List Int := []
  outputs : List ScriptValue := []
  attributes : List ScriptAttribute := []
  deriving Repr, Inhabited

/-- A scripted graph. -/
structure ScriptGraph where
  inputs : List ScriptValue := []
  nodes : List ScriptNode := []
  outputs : List Int := []
  deriving Repr, Inhabited

/-- The ids of unique numbers, the latest definition first. -/
abbrev Handles := List (Int × ValueId)

namespace Handles

/-- The id of the latest definition of a number. -/
def find (handles : Handles) (unique : Int) : Except Fault ValueId :=
  match handles.lookup unique with
  | some id => .ok id
  | none => .error (.undefinedUnique unique)

/-- The handles with new definitions, the last of them latest. -/
def define (handles : Handles) : List ScriptValue → List ValueId → Handles
  | value :: values, id :: ids => define ((value.unique, id) :: handles) values ids
  | _, _ => handles

end Handles

namespace ScriptNode

/-- Whether attributes of a kind are kept. -/
def keeps (kind : String) : Bool := ["i", "f", "s", "t"].contains kind

/-- The attributes that are kept; the last one of a name decides. -/
def keptAttributes (node : ScriptNode) : Context :=
  Context.ofPairs ((node.attributes.filter fun a => keeps a.kind).map fun a => (a.name, a.value))

end ScriptNode

namespace ScriptGraph

/-- Adds the inputs that are kept. -/
def addInputs : List ScriptValue → Graph × Handles → Except Failure (Graph × Handles)
  | [], built => .ok built
  | value :: rest, (graph, handles) =>
    -- an input for the module itself gets no value
    if value.type = .module then
      if value.uses ≠ 0 then .error (Issue.moduleInput value.name).failure
      else addInputs rest (graph, handles)
    else
      let (graph, id) := graph.addInput (some value.name) value.type.declared
      addInputs rest (graph, (value.unique, id) :: handles)

/-- Adds a node with its results. -/
def addNode (node : ScriptNode) (built : Graph × Handles) : Except Fault (Graph × Handles) := do
  let (graph, handles) := built
  let inputs ← node.inputs.mapM handles.find
  let (result, graph) := graph.addNode node.kind inputs node.outputs.length
    (some (node.outputs.map fun v => v.type.declared))
    (some (node.outputs.map fun v => some v.name)) node.keptAttributes
  let ids ← result
  return (graph, handles.define node.outputs ids)

/-- Adds nodes in order. -/
def addNodes : List ScriptNode → Graph × Handles → Except Fault (Graph × Handles)
  | [], built => .ok built
  | node :: rest, built => do
    let built ← addNode node built
    addNodes rest built

/-- The graph that a scripted graph stands for. -/
def toGraph (g : ScriptGraph) : Except Failure Graph := do
  let built ← addInputs g.inputs ({}, [])
  let (graph, handles) ← faulted (addNodes g.nodes built)
  let outputs ← faulted (g.outputs.mapM handles.find)
  return outputs.foldl Graph.markOutput graph

end ScriptGraph

/-- What a script gives: a function with its graph, or a module with its graph before and after it
is frozen. -/
inductive Scripted where
  | function (graph : ScriptGraph)
  | module (graph frozen : ScriptGraph)

namespace Scripted

/-- Whether a module is frozen before its graph is read; it is, unless told otherwise. -/
def freezes : Scripted → Option Bool → Bool
  | function _, _ => false
  | module _ _, choice => choice.getD true

/-- The graph that is read. -/
def graphFor (s : Scripted) (choice : Option Bool) : ScriptGraph :=
  match s with
  | function graph => graph
  | module graph frozen => if choice.getD true then frozen else graph

/-- The graph that a script stands for. -/
def toGraph (s : Scripted) (choice : Option Bool := none) : Except Failure Graph :=
  (s.graphFor choice).toGraph

end Scripted

end ShapeFlow
