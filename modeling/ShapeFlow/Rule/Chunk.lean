import ShapeFlow.Shape
import ShapeFlow.Issue

/-!
# Chunks and concatenation

`Rule.chunk` splits one axis of a shape into a number of pieces that are as long as the first,
except for a last one that may be shorter. `Rule.concat` lays shapes one behind another along an
axis: all other axes must agree, and the sizes on that axis add up.
-/

set_option autoImplicit false

namespace ShapeFlow

namespace Rule

/-- The axis that an index means for an operator. -/
def axis (op : String) (dim : Int) (rank : Nat) : Except Issue Nat :=
  match Shape.axis? dim rank with
  | some axis => .ok axis
  | none => .error (.axisRange op (Shape.fromStart dim rank) rank)

/-- The size of the first pieces: the least that lets `chunks` of them cover `size`. -/
def pieceSize (size chunks : Int) : Int := (size + chunks - 1) / chunks

/-- What is left for the last piece. -/
def lastSize (size chunks : Int) : Int := size - pieceSize size chunks * (chunks - 1)

/-- The pieces of a shape along an axis. -/
def pieces (shape : Shape) (axis : Nat) (size chunks : Int) : List Shape :=
  List.replicate (chunks - 1).toNat (shape.set axis (pieceSize size chunks)) ++
    [shape.set axis (lastSize size chunks)]

/-- The shapes of the pieces of one operand. -/
def chunk (shapes : List Shape) (chunks dim : Int) : Except Issue (List Shape) :=
  match shapes with
  | [shape] =>
    if chunks < 1 then .error (.chunkCount chunks)
    else do
      let axis ← axis "prim::ConstantChunk" dim shape.length
      -- the axis exists, so the default of the look is never taken
      let size := shape.getD axis 0
      if lastSize size chunks < 0 then .error (.chunkSplit size chunks)
      else .ok (pieces shape axis size chunks)
  | _ => .error (.operandCount "prim::ConstantChunk" 1 shapes.length)

/-- Lays one more shape behind those joined so far. The axes up to `dim` are done; on the axis
`along` sizes add up, on the others they must agree. -/
def joinSizes (input along : Nat) : Nat → List Int → List Int → Except Issue (List Int)
  | dim, a :: as, b :: bs =>
    if dim = along then do
      let sizes ← joinSizes input along (dim + 1) as bs
      return (a + b) :: sizes
    else if a = b then do
      let sizes ← joinSizes input along (dim + 1) as bs
      return a :: sizes
    else .error (.concatSize input along dim a b)
  | _, as, _ => .ok as

/-- Lays a shape behind those joined so far, if it has their rank. -/
def join (input along : Nat) (joined other : Shape) : Except Issue Shape :=
  if other.length = joined.length then joinSizes input along 0 joined other
  else .error (.concatRank input joined.length other.length)

/-- Lays shapes behind those joined so far, the first of them being operand number `input`. -/
def joinAll (along : Nat) : Nat → Shape → List Shape → Except Issue Shape
  | _, joined, [] => .ok joined
  | input, joined, other :: rest => do
    let next ← join input along joined other
    joinAll along (input + 1) next rest

/-- The shape of operands laid one behind another. A single operand is left as it is. -/
def concat (shapes : List Shape) (dim : Int) : Except Issue Shape :=
  match shapes with
  | [] => .error .noConcatOperand
  | [shape] => .ok shape
  | first :: rest => do
    let along ← axis "prim::FusedConcat" dim first.length
    joinAll along 1 first rest

end Rule

end ShapeFlow
