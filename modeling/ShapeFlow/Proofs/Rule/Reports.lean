import ShapeFlow.Pass.Step
import ShapeFlow.Proofs.Failure.Results
import Mathlib.Tactic.SplitIfs

/-!
# What a node may report

The shape rules, the look at attributes and the count of results fail by causes of their own
(`Issue.OfNode`), which are all recoverable. None of them is a cause that the store or the order
check reports: a rule that runs never reports a value that is missing or written twice. What a node
yields may also fail by a fault, when a constant does not convert or its output is not in the value
table (`Graph.failsOnly_yield`).
-/

set_option autoImplicit false

namespace ShapeFlow

/-- The causes that the rule of a node reports, as against those of the inputs, the order check, the
store and the session. -/
def Issue.OfNode : Issue → Prop
  | .inputCount _ _ | .inputType _ | .consumedEarly _ _ _ | .neverProduced _ | .alreadyRan
  | .moduleInput _ | .missingValue _ | .duplicateValue _ => False
  | _ => True

theorem Issue.OfNode.isRecoverable {i : Issue} (h : i.OfNode) : i.report.isRecoverable = true := by
  rw [Issue.isRecoverable_report]
  constructor
  · rintro name rfl
    exact h
  · rintro name rfl
    exact h

/-- A cause of a node leaves the two names free under which a pass adds the node. -/
theorem Issue.OfNode.names_free {i : Issue} (h : i.OfNode) :
    (∀ entry ∈ i.report.context, entry.1 ≠ "node_index") ∧
      ∀ entry ∈ i.report.context, entry.1 ≠ "node" := by
  cases i with
  | inputCount | inputType | consumedEarly | neverProduced | alreadyRan | moduleInput
  | missingValue | duplicateValue => exact absurd h id
  | _ => simp [Issue.report, Issue.category, Issue.context, Report.of, Context.provide]

/-! ## Elementwise rules and products -/

namespace Shape

theorem failsOnly_meet (dim : Nat) (a b : Int) : FailsOnly Issue.OfNode (meet dim a b) := by
  unfold meet
  split_ifs
  · exact failsOnly_ok _
  · exact failsOnly_ok _
  · exact failsOnly_ok _
  · exact failsOnly_error trivial

theorem failsOnly_broadcastReversed (rank : Nat) (a b : List Int) :
    FailsOnly Issue.OfNode (broadcastReversed rank a b) := by
  induction a generalizing rank b with
  | nil => exact failsOnly_ok _
  | cons x xs ih =>
    cases b with
    | nil => exact failsOnly_ok _
    | cons y ys =>
      exact (failsOnly_meet (rank - 1) x y).bind fun _ =>
        (ih (rank - 1) ys).bind fun _ => failsOnly_ok _

end Shape

namespace Rule

theorem failsOnly_unary (shapes : List Shape) : FailsOnly Issue.OfNode (unary shapes) := by
  unfold unary
  split
  · exact failsOnly_ok _
  · exact failsOnly_error trivial

theorem failsOnly_combine (a b : Shape) : FailsOnly Issue.OfNode (combine a b) := by
  unfold combine
  split_ifs
  · exact failsOnly_ok _
  · exact (Shape.failsOnly_broadcastReversed _ _ _).map

theorem failsOnly_binary (shapes : List Shape) : FailsOnly Issue.OfNode (binary shapes) := by
  unfold binary
  split
  · exact failsOnly_combine _ _
  · exact failsOnly_combine _ _
  · exact failsOnly_error trivial

theorem failsOnly_matrixProduct (shapes : List Shape) :
    FailsOnly Issue.OfNode (matrixProduct shapes) := by
  unfold matrixProduct
  split
  · split_ifs
    · exact failsOnly_ok _
    · exact failsOnly_error trivial
  · exact failsOnly_error trivial
  · exact failsOnly_error trivial

theorem failsOnly_batchProduct (shapes : List Shape) :
    FailsOnly Issue.OfNode (batchProduct shapes) := by
  unfold batchProduct
  split
  · split_ifs
    · exact failsOnly_error trivial
    · exact failsOnly_error trivial
    · exact failsOnly_ok _
  · exact failsOnly_error trivial
  · exact failsOnly_error trivial

theorem failsOnly_biasedProduct (shapes : List Shape) :
    FailsOnly Issue.OfNode (biasedProduct shapes) := by
  unfold biasedProduct
  split
  · dsimp only
    split_ifs
    · exact (failsOnly_ok _).bind fun _ => failsOnly_combine _ _
    · exact (failsOnly_matrixProduct _).bind fun _ => failsOnly_combine _ _
  · exact failsOnly_error trivial

/-! ## Chunks and concatenation -/

theorem failsOnly_axis (op : String) (dim : Int) (rank : Nat) :
    FailsOnly Issue.OfNode (axis op dim rank) := by
  unfold axis
  split
  · exact failsOnly_ok _
  · exact failsOnly_error trivial

theorem failsOnly_chunk (shapes : List Shape) (chunks dim : Int) :
    FailsOnly Issue.OfNode (chunk shapes chunks dim) := by
  unfold chunk
  split
  · split_ifs
    · exact failsOnly_error trivial
    · refine (failsOnly_axis _ _ _).bind fun _ => ?_
      dsimp only
      split_ifs
      · exact failsOnly_error trivial
      · exact failsOnly_ok _
  · exact failsOnly_error trivial

theorem failsOnly_joinSizes (input along dim : Nat) (a b : List Int) :
    FailsOnly Issue.OfNode (joinSizes input along dim a b) := by
  induction a generalizing dim b with
  | nil => exact failsOnly_ok _
  | cons x xs ih =>
    cases b with
    | nil => exact failsOnly_ok _
    | cons y ys =>
      unfold joinSizes
      split_ifs
      · exact (ih (dim + 1) ys).bind fun _ => failsOnly_ok _
      · exact (ih (dim + 1) ys).bind fun _ => failsOnly_ok _
      · exact failsOnly_error trivial

theorem failsOnly_joinAll (along input : Nat) (joined : Shape) (shapes : List Shape) :
    FailsOnly Issue.OfNode (joinAll along input joined shapes) := by
  induction shapes generalizing input joined with
  | nil => exact failsOnly_ok _
  | cons other rest ih =>
    refine FailsOnly.bind ?_ fun next => ih (input + 1) next
    unfold join
    split_ifs
    · exact failsOnly_joinSizes _ _ _ _ _
    · exact failsOnly_error trivial

theorem failsOnly_concat (shapes : List Shape) (dim : Int) :
    FailsOnly Issue.OfNode (concat shapes dim) := by
  unfold concat
  split
  · exact failsOnly_error trivial
  · exact failsOnly_ok _
  · exact (failsOnly_axis _ _ _).bind fun _ => failsOnly_joinAll _ _ _ _

end Rule

/-! ## Nodes -/

namespace Node

theorem failsOnly_require (node : Node) (name : String) :
    FailsOnly Issue.OfNode (node.require name) := by
  unfold require
  split
  · exact failsOnly_ok _
  · exact failsOnly_error trivial

theorem failsOnly_requireInt (node : Node) (name : String) :
    FailsOnly Issue.OfNode (node.requireInt name) := by
  unfold requireInt
  refine (node.failsOnly_require name).bind fun value => ?_
  split
  · exact failsOnly_ok _
  · exact failsOnly_error trivial

theorem failsOnly_resultShapes (node : Node) (operands : List Shape) :
    FailsOnly Issue.OfNode (node.resultShapes operands) := by
  unfold resultShapes
  cases node.operator with
  | constant => exact failsOnly_error trivial
  | unary => exact (Rule.failsOnly_unary _).map
  | binary => exact (Rule.failsOnly_binary _).map
  | matrixProduct => exact (Rule.failsOnly_matrixProduct _).map
  | batchProduct => exact (Rule.failsOnly_batchProduct _).map
  | biasedProduct => exact (Rule.failsOnly_biasedProduct _).map
  | concat =>
    exact (node.failsOnly_requireInt "dim").bind fun _ =>
      (Rule.failsOnly_concat _ _).bind fun _ => failsOnly_ok _
  | chunk =>
    exact (node.failsOnly_requireInt "chunks").bind fun _ =>
      (node.failsOnly_requireInt "dim").bind fun _ => Rule.failsOnly_chunk _ _ _
  | unsupported => exact failsOnly_error trivial

theorem failsOnly_tensorResults (node : Node) (operands : List Shape) :
    FailsOnly Issue.OfNode (node.tensorResults operands) := by
  refine (node.failsOnly_resultShapes operands).bind fun shapes => ?_
  split_ifs
  · exact failsOnly_ok _
  · exact failsOnly_error trivial

end Node

/-- The failures of a node before it writes: a cause of its own, or a fault. -/
def Failure.OfNode (f : Failure) : Prop :=
  (∃ i : Issue, i.OfNode ∧ f = i.failure) ∨ ∃ fault, f = .fault fault

theorem Issue.OfNode.failure {i : Issue} (h : i.OfNode) : i.failure.OfNode := Or.inl ⟨i, h, rfl⟩

theorem failsOnly_reported {α : Type} {r : Except Issue α} (h : FailsOnly Issue.OfNode r) :
    FailsOnly Failure.OfNode (reported r) := by
  cases r with
  | ok a => exact failsOnly_ok a
  | error i => exact failsOnly_error (h i rfl).failure

theorem Failure.ofNode_fault (f : Fault) : (Failure.fault f).OfNode := Or.inr ⟨f, rfl⟩

theorem Rule.failsOnly_constant (policy : ConstantPolicy) (node : Node) (type : DeclaredType) :
    FailsOnly Failure.OfNode (constant policy node type) := by
  have hrequire := failsOnly_reported (node.failsOnly_require "value")
  unfold constant
  cases type with
  | float => exact failsOnly_ok _
  | int =>
    exact hrequire.bind fun value =>
      (failsOnly_faulted Failure.ofNode_fault _).bind fun _ => failsOnly_ok _
  | bool =>
    exact hrequire.bind fun value =>
      (failsOnly_faulted Failure.ofNode_fault _).bind fun _ => failsOnly_ok _
  | none => exact failsOnly_ok _
  | tensor =>
    refine failsOnly_reported ((node.failsOnly_require "value").bind fun value => ?_)
    split
    · exact failsOnly_ok _
    · exact failsOnly_ok _
    · exact failsOnly_ok _
    · exact failsOnly_error trivial
  | intList =>
    cases policy with
    | empty => exact failsOnly_ok _
    | refuse => exact failsOnly_error (Issue.OfNode.failure (i := .constantType _) trivial)
  | other =>
    cases policy with
    | empty => exact failsOnly_ok _
    | refuse => exact failsOnly_error (Issue.OfNode.failure (i := .constantType _) trivial)

/-- **What a node yields fails by a cause of its own or by a fault.** -/
theorem Graph.failsOnly_yield (g : Graph) (policy : ConstantPolicy) (node : Node)
    (operands : List Meta) : FailsOnly Failure.OfNode (g.yield policy node operands) := by
  unfold yield
  split_ifs
  · unfold constantYield
    split
    · exact (failsOnly_faulted Failure.ofNode_fault _).bind fun value =>
        (Rule.failsOnly_constant policy node value.type).bind fun _ => failsOnly_ok _
    · exact failsOnly_error (Issue.OfNode.failure (i := .constantOutputs _ _) trivial)
  · exact (failsOnly_reported (node.failsOnly_tensorResults _)).map

/-! ## Faults -/

/-- The faults of converting a value to a whole number or a truth value. -/
def Fault.OfConversion : Fault → Prop
  | .badNumeral _ | .nanToInteger | .infinityToInteger | .notNumeric _ | .refused _ => True
  | _ => False

/-- A failure that is a fault only by way of a conversion. -/
def Failure.Converting : Failure → Prop
  | .report _ => True
  | .fault f => f.OfConversion

theorem Datum.failsOnly_wholePart (x : Floating) :
    FailsOnly Fault.OfConversion (wholePart x) := by
  cases x with
  | nan => exact failsOnly_error trivial
  | infinite negative => exact failsOnly_error trivial
  | finite negative significand exponent => exact failsOnly_ok _

/-- What another library refuses is a fault of a conversion. -/
theorem Datum.failsOnly_granted {α : Type} (r : Except Refusal α) :
    FailsOnly Fault.OfConversion (granted r) := by
  cases r with
  | ok a => exact failsOnly_ok a
  | error refusal => exact failsOnly_error trivial

theorem Datum.failsOnly_toInteger (x : Datum) : FailsOnly Fault.OfConversion x.toInteger := by
  cases x with
  | bool | int | sizedInt | sizedBool => exact failsOnly_ok _
  | float y => exact failsOnly_wholePart y
  | sizedFloat width y => exact failsOnly_wholePart y
  | text s =>
    rw [toInteger]
    split
    · exact failsOnly_ok _
    · exact failsOnly_error trivial
  | bytes bs =>
    rw [toInteger]
    split
    · exact failsOnly_ok _
    · exact failsOnly_error trivial
  | none | list | tuple | set | dict | sizes | severity | policy => exact failsOnly_error trivial
  | tensor _ c | parameter _ c | array _ c | object _ c =>
    -- only here the library of the value has a say
    obtain ⟨number, truth⟩ := c
    cases number with
    | none => exact failsOnly_error trivial
    | some r => exact failsOnly_granted r

theorem Datum.failsOnly_truth (x : Datum) : FailsOnly Fault.OfConversion x.truth := by
  cases x with
  | tensor _ c | parameter _ c | array _ c | object _ c => exact failsOnly_granted c.truth
  | _ => exact failsOnly_ok _

theorem failsOnly_converting_reported {α : Type} (r : Except Issue α) :
    FailsOnly Failure.Converting (reported r) := by
  cases r with
  | ok a => exact failsOnly_ok a
  | error i => exact failsOnly_error trivial

theorem failsOnly_converting_faulted {α : Type} {r : Except Fault α}
    (h : FailsOnly Fault.OfConversion r) : FailsOnly Failure.Converting (faulted r) := by
  cases r with
  | ok a => exact failsOnly_ok a
  | error f => exact failsOnly_error (h f rfl)

theorem Rule.failsOnly_converting_constant (policy : ConstantPolicy) (node : Node)
    (type : DeclaredType) : FailsOnly Failure.Converting (constant policy node type) := by
  have hrequire := failsOnly_converting_reported (node.require "value")
  cases type with
  | float | none => exact failsOnly_ok _
  | int =>
    refine hrequire.bind fun value => ?_
    have hnumber := failsOnly_converting_faulted value.failsOnly_toInteger
    exact hnumber.bind fun _ => failsOnly_ok _
  | bool =>
    refine hrequire.bind fun value => ?_
    have htruth := failsOnly_converting_faulted value.failsOnly_truth
    exact htruth.bind fun _ => failsOnly_ok _
  | tensor => exact failsOnly_converting_reported _
  | intList | other =>
    cases policy with
    | empty => exact failsOnly_ok _
    | refuse => exact failsOnly_error trivial

/-- **A node whose outputs are in the value table has a fault only if its constant does not
convert.** -/
theorem Graph.fault_of_yield {g : Graph} {policy : ConstantPolicy} {node : Node}
    {operands : List Meta} {f : Fault}
    (hrows : ∀ id ∈ node.outputs, ∃ value, g.value id = .ok value)
    (h : g.yield policy node operands = .error (.fault f)) : f.OfConversion := by
  have hfails : FailsOnly Failure.Converting (g.yield policy node operands) := by
    rw [yield]
    split_ifs
    · rw [constantYield]
      split
      · rename_i output hout
        -- the look at the declared type succeeds, so only the content is left to fail
        obtain ⟨value, hvalue⟩ := hrows output (hout ▸ List.mem_singleton_self output)
        rw [hvalue, faulted_ok, except_ok_bind]
        exact (Rule.failsOnly_converting_constant policy node value.type).bind fun _ =>
          failsOnly_ok _
      · exact failsOnly_error trivial
    · exact (failsOnly_converting_reported _).map
  exact hfails (.fault f) h

end ShapeFlow
