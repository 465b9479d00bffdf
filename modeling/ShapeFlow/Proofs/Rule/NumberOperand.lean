import ShapeFlow.Proofs.Rule.BroadcastLaws

/-!
# A second operand that counts as a number

Arithmetic takes a second operand of rank one for a number, which leaves the first shape as it is.
The same operand can be read as a shape and be broadcast like any other. Both readings come to the
same unless the broadcast takes its last size from the second operand (`Shape.Widens`): the first
shape has no axis, or its last size is one and the other's is not. Two shapes that fit always have a
result, and away from this case it is what they broadcast to (`Rule.binary_gives_broadcast`).
-/

set_option autoImplicit false

namespace ShapeFlow

namespace Shape

/-- A shape of rank one from which a broadcast with another shape would take the last size. -/
inductive Widens : Shape → Shape → Prop where
  | axis (y : Int) : Widens [y] []
  | size {a : Shape} {y : Int} : a.fromRight? 0 = some 1 → y ≠ 1 → Widens [y] a

theorem Widens.rank {a b : Shape} (h : Widens b a) : b.length = 1 := by
  cases h with
  | axis y => rfl
  | size _ _ => rfl

/-- A shape is what it broadcasts to with a shape of rank one, unless that one widens it. -/
theorem isBroadcast_self_iff {a : Shape} {y : Int} (hfit : Aligned a [y]) :
    IsBroadcast a [y] a ↔ ¬ Widens [y] a := by
  constructor
  · intro h hwidens
    cases hwidens with
    | axis => exact Nat.zero_ne_one h.rank
    | size hone hy =>
      have hsize : some 1 = joint (some 1) (some y) := by
        have hzero := h.sizes 0
        rwa [hone] at hzero
      exact hy (Option.some.inj hsize).symm
  · intro h
    have hsizes : ∀ i, a.fromRight? i = joint (a.fromRight? i) (fromRight? [y] i) := by
      intro i
      cases i with
      | succ i => exact (joint_none_right _).symm
      | zero =>
        cases hx : a.fromRight? 0 with
        | none =>
          -- without a last axis the first shape is empty, and the second gives it one
          obtain rfl := List.eq_nil_of_length_eq_zero (Nat.le_zero.1 (fromRight?_eq_none_iff.1 hx))
          exact absurd (Widens.axis y) h
        | some x =>
          by_cases hone : x = 1
          · subst hone
            have hy : y = 1 := by
              by_contra hy
              exact h (Widens.size hx hy)
            rw [hy]
            rfl
          · exact (congrArg some (if_neg hone)).symm
    exact ⟨hfit, length_of_joint hsizes, hsizes⟩

end Shape

namespace Rule

/-- **Arithmetic on two shapes that fit gives what they broadcast to**, unless the second one counts
as a number but would widen the first. A number leaves the first shape as it is in any case. -/
theorem binary_gives_broadcast {a b : Shape} (hfit : Shape.Aligned a b) :
    ∃ s, binary ([Meta.tensor a, Meta.tensor b].map Meta.shape) = .ok s ∧
      (Shape.IsBroadcast a b s ↔ ¬ Shape.Widens b a) ∧ (b.length = 1 → s = a) := by
  change ∃ s, binary [a, b] = .ok s ∧ _
  by_cases hrank : b.length = 1
  · obtain ⟨y, rfl⟩ := List.length_eq_one_iff.1 hrank
    exact ⟨a, rfl, Shape.isBroadcast_self_iff hfit, fun _ => rfl⟩
  · obtain ⟨s, hs⟩ := Shape.exists_broadcast_iff.2 hfit
    have hbroadcast : Shape.IsBroadcast a b s := Shape.isBroadcast_iff.2 hs
    refine ⟨s, (binary_eq_broadcast hrank).trans hs, ?_, fun h => absurd h hrank⟩
    exact iff_of_true hbroadcast fun hwidens => hrank hwidens.rank

/-- On the middle axis the second shape gives the size, on the last one the first, and on the first
axis it is the only one. -/
theorem binary_gives_stretched :
    Shape.Aligned [5, 1, 0] [4, 1] ∧ binary [[5, 1, 0], [4, 1]] = .ok [5, 4, 0] ∧
      Shape.IsBroadcast [5, 1, 0] [4, 1] [5, 4, 0] := by
  have hfit : Shape.Aligned [5, 1, 0] [4, 1] :=
    Shape.exists_broadcast_iff.1 ⟨[5, 4, 0], by decide⟩
  obtain ⟨s, hs, hbroadcast, -⟩ := binary_gives_broadcast hfit
  obtain rfl : [5, 4, 0] = s := Except.ok.inj hs
  refine ⟨hfit, hs, hbroadcast.2 ?_⟩
  intro hwidens
  cases hwidens

/-- A column and a row of three broadcast to a table, but arithmetic leaves the column as it is. -/
theorem binary_of_column_and_row :
    Shape.Aligned [2, 1] [3] ∧ Shape.IsBroadcast [2, 1] [3] [2, 3] ∧
      binary ([Meta.tensor [2, 1], Meta.tensor [3]].map Meta.shape) = .ok [2, 1] ∧
      ¬ Shape.IsBroadcast [2, 1] [3] [2, 1] := by
  have htable : Shape.IsBroadcast [2, 1] [3] [2, 3] := Shape.isBroadcast_iff.2 (by decide)
  refine ⟨htable.aligned, htable, by decide, ?_⟩
  rw [Shape.isBroadcast_iff]
  decide

end Rule

end ShapeFlow
