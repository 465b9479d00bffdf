import ShapeFlow.Failure.Fault

/-!
# Error reports

A report is what a failed operation hands to its caller: a category, a message, and details by name
in the order in which they were added (`Report`). The category decides whether the caller may go on:
the inference categories are recoverable and carry a kind (`Category.kind?`), the invariant ones are
not. Details are only ever added under names that are free (`Context.provide`), so what a rule
reports is never overwritten by what the pass adds later.
-/

set_option autoImplicit false

namespace ShapeFlow

/-- The tag of a recoverable report. -/
inductive ErrorKind where
  | arityMismatch
  | unsupportedOperator
  | unsupportedInputKind
  | rankMismatch
  | shapeMismatch
  | dimOutOfRange
  | unorderedGraph
  | invalidAttribute
  | engineState
  | unknown
  deriving DecidableEq, Repr, Inhabited

namespace ErrorKind

/-- Every tag, in the order in which they are listed. -/
def all : List ErrorKind :=
  [arityMismatch, unsupportedOperator, unsupportedInputKind, rankMismatch, shapeMismatch,
   dimOutOfRange, unorderedGraph, invalidAttribute, engineState, unknown]

/-- The word for a tag. -/
def label : ErrorKind → String
  | arityMismatch => "arity_mismatch"
  | unsupportedOperator => "unsupported_operator"
  | unsupportedInputKind => "unsupported_input_kind"
  | rankMismatch => "rank_mismatch"
  | shapeMismatch => "shape_mismatch"
  | dimOutOfRange => "dim_out_of_range"
  | unorderedGraph => "unordered_graph"
  | invalidAttribute => "invalid_attribute"
  | engineState => "engine_state"
  | unknown => "unknown"

theorem mem_all (k : ErrorKind) : k ∈ all := by cases k <;> simp [all]

end ErrorKind

/-- What a report is about. An operator category holds the symbol without a rule, a size category
the two sizes that disagree. -/
inductive Category where
  | general
  | inference
  | arity
  | operator (symbol : String)
  | inputKind
  | rank
  | sizes (a b : Int)
  | dimension
  | order
  | missingAttribute
  | badAttribute
  | state
  | invariant
  | missingValue
  | duplicateValue
  | configuration
  deriving DecidableEq, Repr

namespace Category

/-- The tag of a recoverable category; the others have none. -/
def kind? : Category → Option ErrorKind
  | inference => some .unknown
  | arity => some .arityMismatch
  | operator _ => some .unsupportedOperator
  | inputKind => some .unsupportedInputKind
  | rank => some .rankMismatch
  | sizes _ _ => some .shapeMismatch
  | dimension => some .dimOutOfRange
  | order => some .unorderedGraph
  | missingAttribute => some .invalidAttribute
  | badAttribute => some .invalidAttribute
  | state => some .engineState
  | general | invariant | missingValue | duplicateValue | configuration => none

/-- Whether a pass hands the report back to its caller as an answer. -/
def isRecoverable (c : Category) : Bool := c.kind?.isSome

/-- Whether the report says that a precondition of the pass was broken. -/
def isInvariant : Category → Bool
  | invariant | missingValue | duplicateValue => true
  | _ => false

/-- The heading of a report. -/
def label : Category → String
  | general => "JitShapeException"
  | inference => "ShapeInferenceError"
  | arity => "ArityMismatchError"
  | operator _ => "UnsupportedOperatorError"
  | inputKind => "UnsupportedInputKindError"
  | rank => "RankMismatchError"
  | sizes _ _ => "ShapeMismatchError"
  | dimension => "DimOutOfRangeError"
  | order => "UnorderedGraphError"
  | missingAttribute => "MissingAttributeError"
  | badAttribute => "InvalidAttributeError"
  | state => "EngineStateError"
  | invariant => "InternalInvariantError"
  | missingValue => "MissingValueError"
  | duplicateValue => "DuplicateValueError"
  | configuration => "ConfigurationError"

/-- A report of a broken precondition is never an answer. -/
theorem isInvariant_of_isRecoverable {c : Category} (h : c.isRecoverable = true) :
    c.isInvariant = false := by
  cases c <;> simp_all [isRecoverable, kind?, isInvariant]

end Category

/-- Details by name, in the order in which they were added. -/
abbrev Context := List (String × Datum)

namespace Context

/-- Adds a detail behind the others unless its name is taken. -/
def provide (context : Context) (name : String) (value : Datum) : Context :=
  if context.any (·.1 == name) then context else context ++ [(name, value)]

/-- A detail whose name is free goes behind the others. -/
theorem provide_of_free {context : Context} {name : String}
    (h : ∀ entry ∈ context, entry.1 ≠ name) (value : Datum) :
    context.provide name value = context ++ [(name, value)] := by
  have hfree : context.any (·.1 == name) = false := by
    rw [List.any_eq_false]
    intro entry hentry
    simpa using h entry hentry
  simp [provide, hfree]

/-- Sets a detail: a name that is there keeps its place, a new one goes to the end. -/
def set (name : String) (value : Datum) : Context → Context
  | [] => [(name, value)]
  | (n, v) :: rest => if n == name then (n, value) :: rest else (n, v) :: set name value rest

/-- The details that pairs give: the last pair of a name decides. -/
def ofPairs (pairs : List (String × Datum)) : Context :=
  pairs.foldl (fun context pair => set pair.1 pair.2 context) []

/-- The details as text, each as `name=value`. -/
def text (context : Context) : String :=
  commaSeparated (context.map fun entry => entry.1 ++ "=" ++ entry.2.plain)

end Context

/-- What a failed operation hands to its caller. -/
structure Report where
  category : Category
  message : String
  context : Context := []
  deriving Repr

namespace Report

/-- The report of a category. Two categories complete it: an operator without a rule words the
message itself and names the symbol among the details, and two sizes are added to the details. -/
def of (category : Category) (message : String) (context : Context := []) : Report :=
  match category with
  | .operator symbol =>
    { category, message := "Node's operator " ++ symbol ++ " is not supported"
      context := context.provide "kind" (.text symbol) }
  | .sizes a b =>
    { category, message
      context := (context.provide "dim_a" (.int a)).provide "dim_b" (.int b) }
  | _ => { category, message, context }

/-- The tag of a recoverable report. -/
def kind? (r : Report) : Option ErrorKind := r.category.kind?

/-- Whether a pass hands the report back to its caller as an answer. -/
def isRecoverable (r : Report) : Bool := r.category.isRecoverable

/-- Whether the report says that a precondition of the pass was broken. -/
def isInvariant (r : Report) : Bool := r.category.isInvariant

/-- The report with a detail added if its name is free. -/
def provide (r : Report) (name : String) (value : Datum) : Report :=
  { r with context := r.context.provide name value }

/-- The report on one line: heading, message and details. -/
def text (r : Report) : String :=
  let base := r.category.label ++ ": " ++ r.message
  if r.context.isEmpty then base else base ++ " (context: " ++ r.context.text ++ ")"

@[simp] theorem category_of (c : Category) (m : String) (ctx : Context) :
    (of c m ctx).category = c := by
  cases c <;> rfl

@[simp] theorem category_provide (r : Report) (name : String) (value : Datum) :
    (r.provide name value).category = r.category := rfl

end Report

/-- Why an operation did not give a value: a report of the library, or a fault beneath it. -/
inductive Failure where
  | report (r : Report)
  | fault (f : Fault)
  deriving Repr

namespace Failure

/-- The report of a recoverable failure. -/
def recoverable? : Failure → Option Report
  | report r => if r.isRecoverable then some r else none
  | fault _ => none

/-- Whether the failure says that a precondition of the pass was broken. -/
def isInvariant : Failure → Bool
  | report r => r.isInvariant
  | fault _ => false

/-- The tag of a recoverable failure. -/
def kind? : Failure → Option ErrorKind
  | report r => r.kind?
  | fault _ => none

end Failure

end ShapeFlow
