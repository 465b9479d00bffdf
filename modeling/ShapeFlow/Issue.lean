import ShapeFlow.DeclaredType
import ShapeFlow.Operator
import ShapeFlow.Failure.Report

/-!
# Causes of failure

Everything that can be wrong with a graph, its inputs or its attributes is one constructor of
`Issue`. What is reported of a cause is decided here once: its category, its wording and its details
(`Issue.category`, `Issue.message`, `Issue.context`, together `Issue.report`). All causes but two
are recoverable (`Issue.isRecoverable_report`): reading a value that nothing produced and producing
one a second time are broken preconditions.
-/

set_option autoImplicit false

namespace ShapeFlow

/-- A cause of failure. -/
inductive Issue where
  | inputCount (expected actual : Nat)
  | inputType (type : String)
  | operandCount (op : String) (expected actual : Nat)
  | binaryOperands (actual : Nat)
  | biasedProductOperands (actual : Nat)
  | noConcatOperand
  | broadcastSizes (dim : Nat) (a b : Int)
  | productRanks (op : String) (expected a b : Nat)
  | innerSizes (axisA axisB : Nat) (a b : Int)
  | batchSizes (a b : Int)
  | chunkCount (chunks : Int)
  | chunkSplit (size chunks : Int)
  | axisRange (op : String) (dim : Int) (rank : Nat)
  | concatRank (input rank other : Nat)
  | concatSize (input along dim : Nat) (a b : Int)
  | missingAttribute (kind name : String)
  | attributeType (kind name type : String)
  | constantContent (type : String)
  | constantType (type : DeclaredType)
  | constantOutputs (kind : String) (outputs : Nat)
  | outputCount (kind : String) (shapes outputs : Nat)
  | unsupportedOperator (symbol : String)
  | consumedEarly (node : Nat) (kind value : String)
  | neverProduced (value : String)
  | alreadyRan
  | moduleInput (name : String)
  | missingValue (value : String)
  | duplicateValue (value : String)
  deriving DecidableEq, Repr

namespace Issue

/-- What a cause is about. -/
def category : Issue → Category
  | inputCount _ _ | operandCount _ _ _ | binaryOperands _ | biasedProductOperands _
  | noConcatOperand | constantOutputs _ _ | outputCount _ _ _ => .arity
  | inputType _ | constantType _ | moduleInput _ => .inputKind
  | broadcastSizes _ a b | innerSizes _ _ a b | batchSizes a b | concatSize _ _ _ a b => .sizes a b
  | productRanks _ _ _ _ | concatRank _ _ _ => .rank
  | chunkCount _ | chunkSplit _ _ | attributeType _ _ _ | constantContent _ => .badAttribute
  | axisRange _ _ _ => .dimension
  | missingAttribute _ _ => .missingAttribute
  | unsupportedOperator symbol => .operator symbol
  | consumedEarly _ _ _ | neverProduced _ => .order
  | alreadyRan => .state
  | missingValue _ => .missingValue
  | duplicateValue _ => .duplicateValue

/-- The wording of a cause. -/
def message : Issue → String
  | inputCount expected actual =>
    "Number of inputs mismatch between graph (" ++ toString expected ++
      ") and actual inputs (" ++ toString actual ++ ")"
  | inputType type => "Input type " ++ type ++ " isn't supported"
  | operandCount op expected actual =>
    "Expected " ++ toString expected ++ " input shape(s) for " ++ op ++
      ", got " ++ toString actual
  | binaryOperands actual =>
    "Expected two or three input shapes for binary op, got " ++ toString actual
  | biasedProductOperands actual =>
    "Expected at least three input shapes for aten::addmm, got " ++ toString actual
  | noConcatOperand => "Expected at least 1 input for prim::FusedConcat, got 0"
  | broadcastSizes dim a b =>
    "The size of tensor a (" ++ toString a ++ ") must match the size of tensor b (" ++
      toString b ++ ") at non-singleton dimension " ++ toString dim
  | productRanks op expected a b =>
    "Expected " ++ toString expected ++ "-dimensional tensors for " ++ op ++
      ", got ranks " ++ toString a ++ " and " ++ toString b
  | innerSizes axisA axisB a b =>
    "The size of tensor a (" ++ toString a ++ ") at dimension " ++ toString axisA ++
      " must match the size of tensor b (" ++ toString b ++ ") at dimension " ++ toString axisB
  | batchSizes a b =>
    "Expected tensors to have same size at dimension 0, got " ++ toString a ++
      " and " ++ toString b
  | chunkCount chunks => "prim::ConstantChunk needs chunks >= 1, got " ++ toString chunks
  | chunkSplit size chunks =>
    "prim::ConstantChunk cannot split size " ++ toString size ++ " into " ++
      toString chunks ++ " chunks"
  | axisRange op dim rank =>
    "Dim value is out of range for " ++ op ++ ": " ++ toString dim ++ " not in [0, " ++
      toString rank ++ ")"
  | concatRank input rank other =>
    "All inputs must have the same number of dimensions: input 0 has " ++ toString rank ++
      ", input " ++ toString input ++ " has " ++ toString other
  | concatSize input along dim a b =>
    "Sizes of tensors must match except in dimension " ++ toString along ++ ": expected " ++
      toString a ++ " but got " ++ toString b ++ " at dimension " ++ toString dim ++
      " of input " ++ toString input
  | missingAttribute kind name => kind ++ " requires attribute '" ++ name ++ "'"
  | attributeType kind name type =>
    kind ++ " attribute '" ++ name ++ "' must be an int, got " ++ type
  | constantContent type => "Tensor constant holds " ++ type ++ ", expected a tensor"
  | constantType type => "prim::Constant of type " ++ type.label ++ " is not supported"
  | constantOutputs _ outputs =>
    "prim::Constant must have exactly one output, got " ++ toString outputs
  | outputCount kind shapes outputs =>
    kind ++ " produced " ++ toString shapes ++ " shape(s) for " ++ toString outputs ++
      " output(s)"
  | unsupportedOperator symbol => "Node's operator " ++ symbol ++ " is not supported"
  | consumedEarly node kind value =>
    "Node " ++ toString node ++ " (" ++ kind ++ ") consumes %" ++ value ++
      " before it is produced"
  | neverProduced value => "Graph output %" ++ value ++ " is never produced"
  | alreadyRan => "Engine already ran; create a new engine for another pass"
  | moduleInput _ => "Graph reads attributes from its module input; freeze the module first"
  | missingValue value =>
    "No metadata for value %" ++ value ++ "; graph is not topologically ordered"
  | duplicateValue value => "Value %" ++ value ++ " already has metadata"

/-- A count as a detail. -/
def count (n : Nat) : Datum := .int n

/-- The details of a cause, those aside that its category adds. -/
def context : Issue → Context
  | inputCount expected actual => [("expected", count expected), ("actual", count actual)]
  | inputType type => [("input_type", .text type)]
  | operandCount op expected actual =>
    [("op", .text op), ("expected", count expected), ("actual", count actual)]
  | binaryOperands actual => [("op", .text "binary op"), ("actual", count actual)]
  | biasedProductOperands actual => [("op", .text "aten::addmm"), ("actual", count actual)]
  | noConcatOperand => [("op", .text "prim::FusedConcat"), ("actual", count 0)]
  | broadcastSizes dim _ _ => [("dim", count dim)]
  | productRanks _ _ a b => [("rank_a", count a), ("rank_b", count b)]
  | innerSizes _ _ _ _ | batchSizes _ _ | alreadyRan => []
  | chunkCount chunks => [("chunks", .int chunks)]
  | chunkSplit size chunks => [("size", .int size), ("chunks", .int chunks)]
  | axisRange op dim rank => [("op", .text op), ("dim", .int dim), ("rank", count rank)]
  | concatRank input rank other =>
    [("input", count input), ("rank_a", count rank), ("rank_b", count other)]
  | concatSize input _ dim _ _ => [("input", count input), ("dim", count dim)]
  | missingAttribute kind name => [("kind", .text kind), ("attribute", .text name)]
  | attributeType kind name _ => [("kind", .text kind), ("attribute", .text name)]
  | constantContent type => [("value_type", .text type)]
  | constantType type => [("type", .text type.label)]
  | constantOutputs kind outputs => [("op", .text kind), ("outputs", count outputs)]
  | outputCount kind shapes outputs =>
    [("op", .text kind), ("shapes", count shapes), ("outputs", count outputs)]
  | unsupportedOperator _ => [("supported", .tuple (Operator.supported.map .text))]
  | consumedEarly node _ value => [("node_index", count node), ("value", .text value)]
  | neverProduced value => [("value", .text value)]
  | moduleInput name => [("input", .text name)]
  | missingValue value => [("value", .text value)]
  | duplicateValue value => [("value", .text value)]

/-- What is reported of a cause. -/
def report (i : Issue) : Report := Report.of i.category i.message i.context

/-- The failure of a cause. -/
def failure (i : Issue) : Failure := .report i.report

@[simp] theorem category_report (i : Issue) : i.report.category = i.category := by
  simp [report]

/-- Every cause is recoverable but a value read without and a value written twice. -/
theorem isRecoverable_report (i : Issue) :
    i.report.isRecoverable = true ↔ (∀ v, i ≠ missingValue v) ∧ ∀ v, i ≠ duplicateValue v := by
  cases i <;> simp [Report.isRecoverable, category, Category.isRecoverable, Category.kind?]

end Issue

/-- The value of a step that can only fail by a cause, as a step that can fail in any way. -/
def reported {α : Type} : Except Issue α → Except Failure α
  | .ok a => .ok a
  | .error i => .error i.failure

/-- The value of a step that can only fail by a fault, as a step that can fail in any way. -/
def faulted {α : Type} : Except Fault α → Except Failure α
  | .ok a => .ok a
  | .error f => .error (.fault f)

@[simp] theorem reported_ok {α : Type} (a : α) : reported (.ok a) = .ok a := rfl

@[simp] theorem reported_error {α : Type} (i : Issue) :
    reported (.error i : Except Issue α) = .error i.failure := rfl

@[simp] theorem faulted_ok {α : Type} (a : α) : faulted (.ok a) = .ok a := rfl

@[simp] theorem faulted_error {α : Type} (f : Fault) :
    faulted (.error f : Except Fault α) = .error (.fault f) := rfl

end ShapeFlow
