import ShapeFlow.Graph

/-!
# Building graphs

A graph grows by appending: a value (`Graph.addValue`), an input (`Graph.addInput`), a node with new
values for its results (`Graph.addNode`), a constant (`Graph.addConstant`) or an output
(`Graph.markOutput`). Each new value gets the next index as its id, and the id as its name if it has
none. Adding a node fails if the types or names given for its results are not as many as its
results. An addition that can fail gives what it returns together with the graph behind it.
-/

set_option autoImplicit false

namespace ShapeFlow.Graph

/-- The name of a new value: an absent or empty one is replaced by the id. -/
def freshName (id : ValueId) : Option String → String
  | some name => if name.isEmpty then toString id else name
  | none => toString id

/-- Appends a value to the table. -/
def addValue (g : Graph) (name : Option String := none) (type : DeclaredType := .tensor) :
    Graph × ValueId :=
  let id : ValueId := g.values.length
  ({ g with values := g.values ++ [{ id, name := freshName id name, type }] }, id)

/-- Appends a value that is an input. -/
def addInput (g : Graph) (name : Option String := none) (type : DeclaredType := .tensor) :
    Graph × ValueId :=
  let (g, id) := g.addValue name type
  ({ g with inputs := g.inputs ++ [id] }, id)

/-- Appends values in order. -/
def addValues (g : Graph) : List (Option String × DeclaredType) → Graph × List ValueId
  | [] => (g, [])
  | (name, type) :: rest =>
    let (g, id) := g.addValue name type
    let (g, ids) := g.addValues rest
    (g, id :: ids)

/-- What is given for each of `count` results, with a default where nothing is given. -/
def perOutput {α : Type} (count : Int) (default : α) : Option (List α) → List α
  | none | some [] => List.replicate count.toNat default
  | some given => given

/-- Appends a node of `count` results together with their values; returns the ids of these. -/
def addNode (g : Graph) (kind : String) (inputs : List ValueId := []) (count : Int := 1)
    (types : Option (List DeclaredType) := none) (names : Option (List (Option String)) := none)
    (attributes : Context := []) : Except Fault (List ValueId) × Graph :=
  let types := perOutput count .tensor types
  let names := perOutput count none names
  if (types.length : Int) ≠ count ∨ (names.length : Int) ≠ count then (.error .outputCounts, g)
  else
    let (g, outputs) := g.addValues (names.zip types)
    (.ok outputs, { g with nodes := g.nodes ++ [{ kind, inputs, outputs, attributes }] })

/-- Appends a constant; a constant of no value has no content. -/
def addConstant (g : Graph) (value : Datum) (type : DeclaredType) (name : Option String := none) :
    Except Fault (List ValueId) × Graph :=
  g.addNode "prim::Constant" [] 1 (some [type]) (some [name])
    (if type = .none then [] else [("value", value)])

/-- Appends an output. -/
def markOutput (g : Graph) (id : ValueId) : Graph := { g with outputs := g.outputs ++ [id] }

end ShapeFlow.Graph
