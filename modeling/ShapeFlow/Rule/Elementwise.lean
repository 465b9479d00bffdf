import ShapeFlow.Shape
import ShapeFlow.Issue

/-!
# Elementwise rules

An activation keeps the shape of its one operand (`Rule.unary`). Arithmetic of two operands, with or
without a third one that scales the second, combines two shapes by broadcasting (`Rule.binary`): the
sizes are compared from the right, a size of one gives way to the other, and all other pairs must be
equal (`Shape.broadcast`). A second operand of rank one counts as a number and leaves the first
shape as it is.
-/

set_option autoImplicit false

namespace ShapeFlow

namespace Shape

/-- The size that two sizes on one axis combine to: a size of one gives way. -/
def meet (dim : Nat) (a b : Int) : Except Issue Int :=
  if a = 1 then .ok b
  else if b = 1 then .ok a
  else if a = b then .ok b
  else .error (.broadcastSizes dim a b)

/-- Combines two shapes that are read from the right. `rank` counts the axes of the result that are
still to come, so the axis at hand is the one before it. -/
def broadcastReversed : Nat → List Int → List Int → Except Issue (List Int)
  | _, [], bs => .ok bs
  | _, a :: as, [] => .ok (a :: as)
  | rank, a :: as, b :: bs => do
    let size ← meet (rank - 1) a b
    let sizes ← broadcastReversed (rank - 1) as bs
    return size :: sizes

/-- Combines two shapes from the right. -/
def broadcast (a b : Shape) : Except Issue Shape :=
  (broadcastReversed (max a.length b.length) a.reverse b.reverse).map List.reverse

end Shape

namespace Rule

/-- The shape of an activation is that of its operand. -/
def unary : List Shape → Except Issue Shape
  | [a] => .ok a
  | shapes => .error (.operandCount "unary op" 1 shapes.length)

/-- The shape of an arithmetic operation on two shapes. -/
def combine (a b : Shape) : Except Issue Shape :=
  if b.length = 1 then .ok a else Shape.broadcast a b

/-- The shape of an arithmetic operation; a third operand has no part in it. -/
def binary : List Shape → Except Issue Shape
  | [a, b] => combine a b
  | [a, b, _] => combine a b
  | shapes => .error (.binaryOperands shapes.length)

end Rule

end ShapeFlow
