/-!
# Shapes

A shape is the list of a tensor's sizes, outermost first. Sizes are whole numbers without bounds,
and nothing here keeps them from being negative. `Shape.axis?` finds the axis that a possibly
negative index means.
-/

set_option autoImplicit false

namespace ShapeFlow

/-- The sizes of a tensor. -/
abbrev Shape := List Int

namespace Shape

/-- An index with the rank added if it counts from the end. -/
def fromStart (dim : Int) (rank : Nat) : Int := if dim < 0 then dim + rank else dim

/-- The axis that an index means in a shape of a rank, if it means one. -/
def axis? (dim : Int) (rank : Nat) : Option Nat :=
  if 0 ≤ fromStart dim rank ∧ fromStart dim rank < rank then some (fromStart dim rank).toNat
  else none

theorem axis?_eq_some_iff {dim : Int} {rank axis : Nat} :
    axis? dim rank = some axis ↔ fromStart dim rank = axis ∧ axis < rank := by
  unfold axis?
  by_cases h : 0 ≤ fromStart dim rank ∧ fromStart dim rank < rank
  · simp only [h, and_self, if_true, Option.some.injEq]
    omega
  · simp only [h, if_false, reduceCtorEq, false_iff]
    omega

theorem axis?_isSome_iff {dim : Int} {rank : Nat} :
    (axis? dim rank).isSome ↔ -(rank : Int) ≤ dim ∧ dim < rank := by
  by_cases h : 0 ≤ fromStart dim rank ∧ fromStart dim rank < rank
  · simp only [axis?, h, and_self, if_true, Option.isSome_some, true_iff]
    unfold fromStart at h
    split at h <;> omega
  · simp only [axis?, h, if_false, Option.isSome_none, Bool.false_eq_true, false_iff]
    unfold fromStart at h
    split at h <;> omega

end Shape

end ShapeFlow
