import ShapeFlow.Outcome
import ShapeFlow.Graph.Order
import ShapeFlow.Pass.Step
import ShapeFlow.Pass.Binding

/-!
# Sessions

A session is one pass over one graph with one value for each graph input (`Session`). `Session.run`
runs the pass the first time it is called: it checks the inputs' number and, if settings ask for it,
the order of the graph, binds the inputs, runs the nodes in order and gives the shapes of the
outputs. Recoverable failures are answered, all others are raised (`Ending`). Every later call is
answered with a failure and changes nothing. The store and the recorded output shapes can be looked
at in between.
-/

set_option autoImplicit false

namespace ShapeFlow

/-- How a pass treats its graph. -/
structure PassSettings where
  verifyOrder : Bool := false
  unknownConstants : ConstantPolicy := .refuse
  logShapeMap : Bool := false
  deriving DecidableEq, Repr, Inhabited

/-- A pass over a graph, before or after it ran. -/
structure Session where
  graph : Graph
  inputs : List Datum
  settings : PassSettings
  progress : Progress := {}
  outputs : List Shape := []
  started : Bool := false

/-- How a call of the pass ends: with an answer, or with a failure that is raised. -/
inductive Ending where
  | answered (result : Outcome (List Shape))
  | raised (failure : Failure)

/-- A failure of a node, with the node's number and operator among its details if it is
recoverable. -/
def Failure.atNode (index : Nat) (kind : String) : Failure → Failure
  | .report r =>
    if r.isRecoverable then
      .report ((r.provide "node_index" (Issue.count index)).provide "node" (.text kind))
    else .report r
  | .fault f => .fault f

/-- A record on the channel of passes. -/
def passRecord (message : String) : Record :=
  { severity := .info, channel := Channel.engine, message }

/-- A list of shapes in a message. -/
def shapesText (shapes : List Shape) : String :=
  "[" ++ commaSeparated (shapes.map intList) ++ "]"

namespace Graph

/-- Runs nodes in order, from node number `index` on. -/
def runNodes (g : Graph) (policy : ConstantPolicy) : Nat → List Node → Pass Unit
  | _, [] => pure ()
  | index, node :: rest => do
    Pass.mapFailure (.atNode index node.kind) (g.step policy node)
    g.runNodes policy (index + 1) rest

/-- The whole pass up to the shapes of the outputs. -/
def pass (g : Graph) (settings : PassSettings) (inputs : List Datum) : Pass (List Shape) := do
  -- nothing is written or logged before both checks have passed
  if inputs.length ≠ g.inputs.length then
    Pass.ofExcept (.error (Issue.inputCount g.inputs.length inputs.length).failure)
  if settings.verifyOrder then Pass.ofExcept g.checkOrder
  Pass.note [passRecord ("Shape inference over " ++ toString g.nodes.length ++ " nodes, " ++
    toString g.inputs.length ++ " inputs")]
  -- from here on what was written before a failure stays in the store
  let _ ← Pass.bindInputs g.nameOf g.inputs inputs
  g.runNodes settings.unknownConstants 0 g.nodes
  let metas ← Pass.ofStore (Pass.readAll g.nameOf g.outputs)
  return metas.map Meta.shape

end Graph

namespace Session

/-- A pass that has not run. -/
def new (graph : Graph) (inputs : List Datum) (settings : PassSettings) : Session :=
  { graph, inputs, settings }

/-- The store of the pass. -/
def store (s : Session) : Store := s.progress.store

/-- The log of the pass. -/
def journal (s : Session) : List Record := s.progress.journal

/-- The session with a record added to its log. -/
def note (s : Session) (message : String) : Session :=
  { s with progress := { s.progress with journal := s.journal ++ [passRecord message] } }

/-- The store as text. -/
def storeText (s : Session) : Except Fault String := s.store.text s.graph.nameOf

/-- The record of a value. -/
def find (s : Session) (id : ValueId) : Except Failure Meta := s.store.read s.graph.nameOf id

/-- Writes the store to the log. -/
def logStore (s : Session) : Except Fault Session :=
  s.storeText.map fun text => s.note ("Shape map:\n" ++ text)

/-- The end of a pass that gave the shapes of the outputs. -/
def finish (s : Session) (shapes : List Shape) : Ending × Session :=
  let s := { s with outputs := shapes }.note
    ("Shape inference done: outputs " ++ shapesText shapes)
  if s.settings.logShapeMap then
    match s.logStore with
    | .ok s => (.answered (.ok shapes), s)
    | .error f => (.raised (.fault f), s)
  else (.answered (.ok shapes), s)

/-- The end of a pass that failed: what is recoverable is answered, all else is raised. -/
def abort (s : Session) (failure : Failure) : Ending × Session :=
  match failure.recoverable? with
  | some r => (.answered (.err (.report r)), s.note ("Shape inference failed: " ++ r.text))
  | none => (.raised failure, s)

/-- Runs the pass, the first time that it is called. -/
def run (s : Session) : Ending × Session :=
  if s.started then (.answered (.err Issue.alreadyRan.failure), s)
  else
    match (s.graph.pass s.settings s.inputs).runFrom s.progress with
    | (.ok shapes, progress) => { s with progress, started := true }.finish shapes
    | (.error failure, progress) => { s with progress, started := true }.abort failure

/-- The shapes of the outputs, or the failure of the pass. -/
def infer (s : Session) : Except Failure (List Shape) :=
  match s.run.1 with
  | .answered result => result.unwrap
  | .raised failure => .error failure

end Session

end ShapeFlow
