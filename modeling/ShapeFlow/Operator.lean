/-!
# Operators with a shape rule

A node names its operator by a symbol. The symbols that have a shape rule fall into eight
categories, and every other symbol into the ninth (`Operator.ofSymbol`); `symbols` lists the pairs
once and fixes the order in which messages show them.
-/

set_option autoImplicit false

namespace ShapeFlow

/-- The category of an operator: operators of one category share a shape rule. -/
inductive Operator where
  | constant
  | unary
  | binary
  | matrixProduct
  | batchProduct
  | biasedProduct
  | concat
  | chunk
  | unsupported
  deriving DecidableEq, Repr, Inhabited

namespace Operator

/-- Every category, in the order in which they are listed. -/
def all : List Operator :=
  [constant, unary, binary, matrixProduct, batchProduct, biasedProduct, concat, chunk, unsupported]

/-- The word for a category. -/
def label : Operator → String
  | constant => "constant"
  | unary => "unary"
  | binary => "binary"
  | matrixProduct => "mm"
  | batchProduct => "bmm"
  | biasedProduct => "addmm"
  | concat => "concat"
  | chunk => "chunk"
  | unsupported => "unsupported"

/-- The symbols with a shape rule, each with its category. -/
def symbols : List (String × Operator) :=
  [("prim::Constant", constant),
   ("aten::tanh", unary), ("aten::relu", unary), ("aten::sigmoid", unary),
   ("aten::sub", binary), ("aten::pow", binary), ("aten::mul", binary), ("aten::add", binary),
   ("aten::mm", matrixProduct), ("aten::bmm", batchProduct), ("aten::addmm", biasedProduct),
   ("prim::FusedConcat", concat), ("prim::ConstantChunk", chunk)]

/-- The symbols with a shape rule. -/
def supported : List String := symbols.map Prod.fst

/-- The category of a symbol. -/
def ofSymbol (symbol : String) : Operator := (symbols.lookup symbol).getD unsupported

theorem ofSymbol_of_mem {symbol : String} {op : Operator} (h : (symbol, op) ∈ symbols) :
    ofSymbol symbol = op := by
  simp only [symbols, List.mem_cons, Prod.mk.injEq, List.not_mem_nil, or_false] at h
  rcases h with h | h | h | h | h | h | h | h | h | h | h | h | h <;>
    · obtain ⟨rfl, rfl⟩ := h
      rfl

theorem mem_all (op : Operator) : op ∈ all := by cases op <;> simp [all]

end Operator

end ShapeFlow
