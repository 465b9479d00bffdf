import ShapeFlow.Shape

/-!
# What is known of a value

The record of a value is its shape and, for whole numbers, truth values and lists of whole numbers,
the numbers themselves (`Meta`). A scalar has the shape `[1]`, a list of `n` numbers the shape
`[n, 1]`.
-/

set_option autoImplicit false

namespace ShapeFlow

/-- The record of a value: its shape, and its numbers where they are known. -/
structure Meta where
  shape : Shape
  payload : Option (List Int) := none
  deriving DecidableEq, Repr, Inhabited

namespace Meta

/-- The record of a tensor. -/
def tensor (dims : Shape) : Meta := { shape := dims }

/-- The record of a scalar; the payload of a value without content is empty. -/
def scalar (payload : List Int) : Meta := { shape := [1], payload := some payload }

/-- The record of a list of numbers. -/
def intList (ns : List Int) : Meta := { shape := [(ns.length : Int), 1], payload := some ns }

/-- The number of axes. -/
def rank (m : Meta) : Nat := m.shape.length

/-- Whether the numbers are known. -/
def hasPayload (m : Meta) : Bool := m.payload.isSome

end Meta

end ShapeFlow
