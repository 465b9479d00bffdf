import ShapeFlow.Meta
import ShapeFlow.Proofs.Rule.Joining
import Mathlib.Algebra.BigOperators.Group.List.Lemmas
import Mathlib.Data.Rat.Floor

/-!
# Pieces of a shape

A chunk cuts one axis of a shape into a number of pieces. A full piece is as long as the quotient of
size and number, rounded up (`Rule.pieceSize_eq_ceil`). All pieces but the last are full, and that
one has what they leave over: never more than a full piece (`Rule.lastSize_le_pieceSize`), but
possibly less than nothing, and then the shape cannot be cut. Otherwise the pieces partition it
(`Shape.Partitions`): they agree with it off the axis, and their sizes on the axis add up to its own
(`Rule.chunk_partitions`). So they can be laid one behind another again, in any order, and give back
the shape (`Rule.concat_of_chunk`).
-/

set_option autoImplicit false

namespace ShapeFlow

/-- Shapes partition a shape along an axis: there are `count` of them, they agree with it off the
axis, all but the last have the size `piece` on the axis and the last one no more than that, and
these sizes add up to the size of the whole. -/
structure Shape.Partitions (shape : Shape) (axis : Nat) (piece count : Int)
    (pieces : List Shape) : Prop where
  number : (pieces.length : Int) = count
  off : ∀ p ∈ pieces, AgreesOff axis shape p
  sizes : ∃ last, 0 ≤ last ∧ last ≤ piece ∧
    sizesOn axis pieces = List.replicate (count - 1).toNat piece ++ [last]
  total : (sizesOn axis pieces).sum = shape.getD axis 0

namespace Rule

variable {size chunks : Int}

/-! ## Sizes of pieces -/

/-- Full pieces cover the size, and pieces shorter by one would not. -/
theorem pieceSize_bounds (size : Int) (h : 1 ≤ chunks) :
    size ≤ pieceSize size chunks * chunks ∧ (pieceSize size chunks - 1) * chunks < size := by
  have hle : (size + chunks - 1) / chunks * chunks ≤ size + chunks - 1 :=
    Int.ediv_mul_le _ (by omega)
  have hlt : size + chunks - 1 < ((size + chunks - 1) / chunks + 1) * chunks :=
    Int.lt_ediv_add_one_mul_self _ (by omega)
  rw [Int.add_mul, Int.one_mul] at hlt
  rw [pieceSize, Int.sub_mul, Int.one_mul]
  omega

/-- A full piece is as long as the quotient of size and number, rounded up. -/
theorem pieceSize_eq_ceil (h : 1 ≤ chunks) : pieceSize size chunks = ⌈(size : ℚ) / chunks⌉ := by
  obtain ⟨hcover, hless⟩ := pieceSize_bounds size h
  have hpos : (0 : ℚ) < chunks := by exact_mod_cast h
  rw [eq_comm, Int.ceil_eq_iff, lt_div_iff₀ hpos, div_le_iff₀ hpos]
  constructor
  · exact_mod_cast hless
  · exact_mod_cast hcover

theorem lastSize_nonneg_iff :
    0 ≤ lastSize size chunks ↔ pieceSize size chunks * (chunks - 1) ≤ size :=
  Int.sub_nonneg

/-- The last piece is never longer than a full one. -/
theorem lastSize_le_pieceSize (h : 1 ≤ chunks) : lastSize size chunks ≤ pieceSize size chunks := by
  obtain ⟨hcover, -⟩ := pieceSize_bounds size h
  rw [lastSize, Int.mul_sub, Int.mul_one]
  omega

/-- A negative size leaves less than nothing for the last piece. -/
theorem size_nonneg_of_lastSize (h : 1 ≤ chunks) (hlast : 0 ≤ lastSize size chunks) : 0 ≤ size := by
  by_contra hneg
  obtain ⟨hcover, -⟩ := pieceSize_bounds size h
  have hrest : pieceSize size chunks * (chunks - 1) ≤ size := lastSize_nonneg_iff.1 hlast
  -- a full piece is negative as well, and one more of them would no longer cover the size
  have hpiece : pieceSize size chunks < 0 := by
    by_contra hpiece
    have hprod : 0 ≤ pieceSize size chunks * (chunks - 1) :=
      Int.mul_nonneg (Int.not_lt.1 hpiece) (Int.sub_nonneg.2 h)
    omega
  rw [Int.mul_sub, Int.mul_one] at hrest
  omega

/-! ## Pieces -/

/-- When a shape can be cut, and into what. -/
theorem chunk_eq_ok_iff {shape : Shape} {dim : Int} {ps : List Shape} :
    chunk [shape] chunks dim = .ok ps ↔
      1 ≤ chunks ∧ ∃ axis, Shape.axis? dim shape.length = some axis ∧
        0 ≤ lastSize (shape.getD axis 0) chunks ∧
        ps = pieces shape axis (shape.getD axis 0) chunks := by
  rw [chunk]
  split_ifs with hcount
  · constructor
    · intro h
      cases h
    · rintro ⟨h, -⟩
      exact absurd hcount (Int.not_lt.2 h)
  · rw [except_bind_eq_ok_iff, and_iff_right (Int.not_lt.1 hcount)]
    refine exists_congr fun axis => ?_
    rw [axis_eq_ok_iff]
    refine and_congr_right fun _ => ?_
    dsimp only
    split_ifs with hlast
    · constructor
      · intro h
        cases h
      · rintro ⟨h, -⟩
        exact absurd hlast (Int.not_lt.2 h)
    · rw [and_iff_right (Int.not_lt.1 hlast), Except.ok.injEq, eq_comm]

theorem sizesOn_pieces {shape : Shape} {axis : Nat} (haxis : axis < shape.length) :
    Shape.sizesOn axis (pieces shape axis size chunks) =
      List.replicate (chunks - 1).toNat (pieceSize size chunks) ++ [lastSize size chunks] := by
  rw [Shape.sizesOn, pieces, List.map_append, List.map_replicate, List.map_singleton,
    Shape.getD_set haxis, Shape.getD_set haxis]

/-- The pieces of a shape partition it, if something or nothing is left for the last one. -/
theorem partitions_pieces {shape : Shape} {axis : Nat} (haxis : axis < shape.length)
    (h : 1 ≤ chunks) (hlast : 0 ≤ lastSize (shape.getD axis 0) chunks) :
    shape.Partitions axis (pieceSize (shape.getD axis 0) chunks) chunks
      (pieces shape axis (shape.getD axis 0) chunks) := by
  have hfull : ((chunks - 1).toNat : Int) = chunks - 1 := Int.toNat_of_nonneg (Int.sub_nonneg.2 h)
  refine ⟨?_, ?_, ⟨_, hlast, lastSize_le_pieceSize h, sizesOn_pieces haxis⟩, ?_⟩
  · rw [pieces, List.length_append, List.length_replicate, List.length_singleton]
    omega
  · intro p hp
    rcases List.mem_append.1 hp with hfirst | hend
    · obtain rfl := List.eq_of_mem_replicate hfirst
      exact Shape.agreesOff_set axis shape _
    · obtain rfl := List.mem_singleton.1 hend
      exact Shape.agreesOff_set axis shape _
  · calc (Shape.sizesOn axis (pieces shape axis (shape.getD axis 0) chunks)).sum
        = (chunks - 1).toNat * pieceSize (shape.getD axis 0) chunks +
            lastSize (shape.getD axis 0) chunks := by
          rw [sizesOn_pieces haxis, List.sum_append, List.sum_replicate, List.sum_singleton,
            nsmul_eq_mul]
      _ = shape.getD axis 0 := by
          rw [hfull, lastSize, Int.mul_comm]
          omega

/-- **A chunk partitions an axis.** It succeeds exactly if at least one piece is asked for, the
index means an axis, and the full pieces before the last one take no more than the size, each of
them as long as the quotient of size and number, rounded up. The size is then not negative, and the
pieces partition the shape. -/
theorem chunk_partitions (shape : Shape) (chunks dim : Int) :
    let axis := (Shape.fromStart dim shape.length).toNat
    let size := shape.getD axis 0
    let piece := ⌈(size : ℚ) / chunks⌉
    let result := chunk ([Meta.tensor shape].map Meta.shape) chunks dim
    ((∃ ps, result = .ok ps) ↔
        1 ≤ chunks ∧ (-(shape.length : Int) ≤ dim ∧ dim < shape.length) ∧
          piece * (chunks - 1) ≤ size) ∧
      ∀ ps, result = .ok ps → 0 ≤ size ∧ shape.Partitions axis piece chunks ps := by
  intro axis size piece result
  have hresult : result = chunk [shape] chunks dim := rfl
  have haxis : ∀ {a}, Shape.axis? dim shape.length = some a → a = axis := by
    intro a ha
    have hstart := (Shape.axis?_eq_some_iff.1 ha).1
    omega
  have hpiece : 1 ≤ chunks → piece = pieceSize size chunks := fun h => (pieceSize_eq_ceil h).symm
  rw [hresult]
  constructor
  · constructor
    · rintro ⟨ps, hps⟩
      obtain ⟨hcount, a, ha, hlast, -⟩ := chunk_eq_ok_iff.1 hps
      obtain rfl := haxis ha
      refine ⟨hcount, Shape.axis?_isSome_iff.1 (Option.isSome_of_mem ha), ?_⟩
      rw [hpiece hcount]
      exact lastSize_nonneg_iff.1 hlast
    · rintro ⟨hcount, hrange, hleft⟩
      obtain ⟨a, ha⟩ := Option.isSome_iff_exists.1 (Shape.axis?_isSome_iff.2 hrange)
      obtain rfl := haxis ha
      rw [hpiece hcount] at hleft
      exact ⟨_, chunk_eq_ok_iff.2 ⟨hcount, axis, ha, lastSize_nonneg_iff.2 hleft, rfl⟩⟩
  · intro ps hps
    obtain ⟨hcount, a, ha, hlast, rfl⟩ := chunk_eq_ok_iff.1 hps
    obtain rfl := haxis ha
    refine ⟨size_nonneg_of_lastSize hcount hlast, ?_⟩
    rw [hpiece hcount]
    exact partitions_pieces (Shape.axis?_eq_some_iff.1 ha).2 hcount hlast

/-- One element does not make three pieces, since two full ones already take more. -/
example : chunk [[1, 4]] 3 0 = .error (.chunkSplit 1 3) := by
  decide

/-! ## Pieces laid one behind another -/

/-- **Concatenation undoes a chunk**: the pieces, in any order, joined along the same axis give back
the shape. -/
theorem concat_of_chunk {shape : Shape} {chunks dim : Int} {ps parts : List Shape}
    (hchunk : chunk ([Meta.tensor shape].map Meta.shape) chunks dim = .ok ps)
    (hparts : parts.Perm ps) : concat ((parts.map Meta.tensor).map Meta.shape) dim = .ok shape := by
  have hshapes : (parts.map Meta.tensor).map Meta.shape = parts := by
    rw [List.map_map]
    exact List.map_id parts
  rw [hshapes]
  have hpieces : chunk [shape] chunks dim = .ok ps := hchunk
  obtain ⟨hcount, axis, haxis, hlast, rfl⟩ := chunk_eq_ok_iff.1 hpieces
  have hpartition := partitions_pieces (Shape.axis?_eq_some_iff.1 haxis).2 hcount hlast
  refine concat_of_agreesOff haxis ?_ ?_ ?_
  · rintro rfl
    -- there is always a last piece
    exact List.append_ne_nil_of_right_ne_nil _ (List.cons_ne_nil _ _) hparts.nil_eq.symm
  · intro p hp
    exact hpartition.off p (hparts.mem_iff.1 hp)
  · rw [← hpartition.total]
    exact (hparts.map _).sum_eq

/-- The empty last piece comes first, and the axis is counted from the end. -/
theorem concat_of_reversed_pieces :
    chunk ([Meta.tensor [2, 4]].map Meta.shape) 3 (-1) = .ok [[2, 2], [2, 2], [2, 0]] ∧
      [[2, 0], [2, 2], [2, 2]].Perm [[2, 2], [2, 2], [2, (0 : Int)]] ∧
      concat (([[2, 0], [2, 2], [2, 2]].map Meta.tensor).map Meta.shape) (-1) = .ok [2, 4] := by
  have hchunk : chunk ([Meta.tensor [2, 4]].map Meta.shape) 3 (-1) =
      .ok [[2, 2], [2, 2], [2, 0]] := by decide
  have hparts : [[2, 0], [2, 2], [2, 2]].Perm [[2, 2], [2, 2], [2, (0 : Int)]] := by decide
  exact ⟨hchunk, hparts, concat_of_chunk hchunk hparts⟩

end Rule

end ShapeFlow
