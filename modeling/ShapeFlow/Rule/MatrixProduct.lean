import ShapeFlow.Rule.Elementwise

/-!
# Matrix products

The product of two matrices (`Rule.matrixProduct`) and of two batches of matrices
(`Rule.batchProduct`) needs operands of one rank whose inner sizes agree. A product with a bias
(`Rule.biasedProduct`) combines the bias with the product's shape as arithmetic does; a second
factor of rank one counts as a number, and the first factor then stands for the product.
-/

set_option autoImplicit false

namespace ShapeFlow.Rule

/-- The shape of a product of two matrices. -/
def matrixProduct : List Shape → Except Issue Shape
  | [[rows, inner], [inner', columns]] =>
    if inner = inner' then .ok [rows, columns] else .error (.innerSizes 1 0 inner inner')
  | [a, b] => .error (.productRanks "aten::mm" 2 a.length b.length)
  | shapes => .error (.operandCount "aten::mm" 2 shapes.length)

/-- The shape of a product of two batches of matrices. -/
def batchProduct : List Shape → Except Issue Shape
  | [[batch, rows, inner], [batch', inner', columns]] =>
    if batch ≠ batch' then .error (.batchSizes batch batch')
    else if inner ≠ inner' then .error (.innerSizes 2 1 inner inner')
    else .ok [batch, rows, columns]
  | [a, b] => .error (.productRanks "aten::bmm" 3 a.length b.length)
  | shapes => .error (.operandCount "aten::bmm" 2 shapes.length)

/-- The shape of a product of two matrices with a bias; operands behind these have no part in it. -/
def biasedProduct : List Shape → Except Issue Shape
  | bias :: a :: b :: _ => do
    let product ← if b.length = 1 then .ok a else matrixProduct [a, b]
    combine bias product
  | shapes => .error (.biasedProductOperands shapes.length)

end ShapeFlow.Rule
