import ShapeFlow.Rule.MatrixProduct
import ShapeFlow.Proofs.Rule.BroadcastLaws

/-!
# The bias of a matrix product

A bias is meant to be stretched to the product that it is added to: it has no axis beyond those of
the product, and each of its sizes is the product's size or one (`Shape.StretchesTo`). The rule
broadcasts the two shapes instead, in both directions, and so its result is a shape that the two
broadcast to (`Rule.biasedProduct_eq_ok_iff`). That is the product's shape if the bias stretches to
it. A bias that only fits the product enlarges it (`Shape.Enlarges`), and this is the one case in
which the rule answers where no product should come out (`Rule.biasedProduct_gives_product_iff`).
-/

set_option autoImplicit false

namespace ShapeFlow

namespace Shape

variable {s t : Shape}

/-- A shape can be stretched to another: it has no axis that the other lacks, and each of its sizes,
counted from the right, is the other's size or one. -/
structure StretchesTo (s t : Shape) : Prop where
  rank : s.length ≤ t.length
  sizes : ∀ i x y, s.fromRight? i = some x → t.fromRight? i = some y → x = y ∨ x = 1

/-- A shape fits another but makes it larger, by an axis that the other lacks or on one where the
other has size one. -/
structure Enlarges (s t : Shape) : Prop where
  fits : Aligned s t
  larger : t.length < s.length ∨
    ∃ i x, s.fromRight? i = some x ∧ x ≠ 1 ∧ t.fromRight? i = some 1

/-- A shape stretches to another exactly if the two broadcast to the other one. -/
theorem stretchesTo_iff : StretchesTo s t ↔ IsBroadcast s t t := by
  constructor
  · intro h
    have hfits : Aligned s t := by
      intro i x y hx hy
      rcases h.sizes i x y hx hy with rfl | rfl
      · exact Or.inl rfl
      · exact Or.inr (Or.inl rfl)
    have hsizes : ∀ i, t.fromRight? i = joint (s.fromRight? i) (t.fromRight? i) := by
      intro i
      cases hx : s.fromRight? i with
      | none => rfl
      | some x =>
        have hi : i < t.length := Nat.lt_of_lt_of_le (lt_of_fromRight? hx) h.rank
        cases hy : t.fromRight? i with
        | none => exact absurd (fromRight?_eq_none_iff.1 hy) (Nat.not_le.2 hi)
        | some y =>
          rcases h.sizes i x y hx hy with rfl | rfl
          · exact (joint_self (some x)).symm
          · rfl
    exact ⟨hfits, length_of_joint hsizes, hsizes⟩
  · intro h
    refine ⟨?_, fun i x y hx hy => ?_⟩
    · rw [h.rank]
      exact Nat.le_max_left _ _
    · have hjoint := h.sizes i
      rw [hx, hy] at hjoint
      by_cases hone : x = 1
      · exact Or.inr hone
      · rw [joint, if_neg hone] at hjoint
        exact Or.inl (Option.some.inj hjoint).symm

/-- A shape that fits another either stretches to it or enlarges it. -/
theorem enlarges_iff : Enlarges s t ↔ Aligned s t ∧ ¬ StretchesTo s t := by
  constructor
  · rintro ⟨hfits, hlarger⟩
    refine ⟨hfits, fun hstretch => ?_⟩
    rcases hlarger with hrank | ⟨i, x, hx, hone, ht⟩
    · exact absurd hstretch.rank (Nat.not_le.2 hrank)
    · rcases hstretch.sizes i x 1 hx ht with h | h
      · exact hone h
      · exact hone h
  · rintro ⟨hfits, hstretch⟩
    refine ⟨hfits, ?_⟩
    by_contra hsmaller
    push Not at hsmaller
    obtain ⟨hrank, hsizes⟩ := hsmaller
    refine hstretch ⟨hrank, fun i x y hx hy => ?_⟩
    -- the sizes match, and a size of one is not on the side of the other shape alone
    rcases hfits i x y hx hy with h | h | rfl
    · exact Or.inl h
    · exact Or.inr h
    · by_contra hx1
      exact hsizes i x hx (fun h => hx1 (Or.inr h)) hy

theorem IsBroadcast.unique {a b r r' : Shape} (h : IsBroadcast a b r) (h' : IsBroadcast a b r') :
    r = r' :=
  Except.ok.inj ((isBroadcast_iff.1 h).symm.trans (isBroadcast_iff.1 h'))

end Shape

namespace Rule

/-- The rule has a result exactly if the inner sizes agree and the bias fits the product, and then
the result is what the two broadcast to. -/
theorem biasedProduct_eq_ok_iff {bias s : Shape} {m k k' n : Int} {more : List Shape} :
    biasedProduct (bias :: [m, k] :: [k', n] :: more) = .ok s ↔
      k = k' ∧ Shape.IsBroadcast bias [m, n] s := by
  have hproduct : biasedProduct (bias :: [m, k] :: [k', n] :: more) =
      matrixProduct [[m, k], [k', n]] >>= fun product => combine bias product := rfl
  rw [hproduct, except_bind_eq_ok_iff, Shape.isBroadcast_iff]
  constructor
  · rintro ⟨product, hok, hcombine⟩
    rw [matrixProduct] at hok
    split_ifs at hok with hinner
    cases hok
    exact ⟨hinner, hcombine⟩
  · rintro ⟨rfl, hbroadcast⟩
    exact ⟨[m, n], if_pos rfl, hbroadcast⟩

/-- **A product with a bias has the product's shape, and has a result exactly if the inner sizes
agree and the bias stretches to that shape, unless the bias enlarges the product.** In every case
the result is what the bias and the product broadcast to. -/
theorem biasedProduct_gives_product_iff (bias : Shape) (m k k' n : Int) (more : List Shape) :
    let result := biasedProduct (bias :: [m, k] :: [k', n] :: more)
    (∀ s, result = .ok s ↔ k = k' ∧ Shape.IsBroadcast bias [m, n] s) ∧
      (((∀ s, result = .ok s → s = [m, n]) ∧
          ((∃ s, result = .ok s) ↔ k = k' ∧ Shape.StretchesTo bias [m, n])) ↔
        ¬ (k = k' ∧ Shape.Enlarges bias [m, n])) := by
  refine ⟨fun s => biasedProduct_eq_ok_iff, ?_⟩
  simp only [biasedProduct_eq_ok_iff]
  constructor
  · rintro ⟨-, hresult⟩ ⟨hinner, henlarges⟩
    obtain ⟨hfits, hstretch⟩ := Shape.enlarges_iff.1 henlarges
    obtain ⟨s, hs⟩ := Shape.exists_broadcast_iff.2 hfits
    exact hstretch (hresult.1 ⟨s, hinner, Shape.isBroadcast_iff.2 hs⟩).2
  · intro hsmall
    have hstretch : ∀ s, k = k' → Shape.IsBroadcast bias [m, n] s →
        Shape.StretchesTo bias [m, n] := by
      intro s hinner hs
      by_contra hnot
      exact hsmall ⟨hinner, Shape.enlarges_iff.2 ⟨hs.aligned, hnot⟩⟩
    refine ⟨?_, ?_, ?_⟩
    · rintro s ⟨hinner, hs⟩
      exact hs.unique (Shape.stretchesTo_iff.1 (hstretch s hinner hs))
    · rintro ⟨s, hinner, hs⟩
      exact ⟨hinner, hstretch s hinner hs⟩
    · rintro ⟨hinner, h⟩
      exact ⟨[m, n], hinner, Shape.stretchesTo_iff.1 h⟩

/-- A bias of two rows makes two rows of a product that has one. -/
theorem row_enlarged_by_bias :
    Shape.Enlarges [2, 4] [1, 4] ∧ biasedProduct [[2, 4], [1, 3], [3, 4]] = .ok [2, 4] ∧
      ¬ Shape.StretchesTo [2, 4] [1, 4] := by
  have hresult : biasedProduct [[2, 4], [1, 3], [3, 4]] = .ok [2, 4] := by decide
  obtain ⟨hbroadcast, -⟩ := biasedProduct_gives_product_iff [2, 4] 1 3 3 4 []
  have hfits := ((hbroadcast [2, 4]).1 hresult).2.aligned
  have henlarges : Shape.Enlarges [2, 4] [1, 4] :=
    ⟨hfits, Or.inr ⟨1, 2, rfl, by decide, rfl⟩⟩
  exact ⟨henlarges, hresult, (Shape.enlarges_iff.1 henlarges).2⟩

end Rule

end ShapeFlow
