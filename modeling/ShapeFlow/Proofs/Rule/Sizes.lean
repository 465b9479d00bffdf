import ShapeFlow.Pass.Step
import ShapeFlow.Proofs.Failure.Results

/-!
# The sizes that rules give

No rule makes a size negative where none was before (`Node.nonneg_resultShapes`). For most of them
the sizes of a result are sizes of the operands, or sums of these. A chunk computes its sizes: its
first pieces round a quotient up, so they are not negative for a positive count of pieces
(`Rule.pieceSize_nonneg`), and what is left for the last one is tested by the rule.
-/

set_option autoImplicit false

namespace ShapeFlow

/-- No size is negative. -/
def Shape.Nonneg (s : Shape) : Prop := ∀ d ∈ s, 0 ≤ d

/-- Whether no size is negative can be tested size by size. -/
instance decidableNonneg (s : Shape) : Decidable s.Nonneg :=
  inferInstanceAs (Decidable (∀ d ∈ s, 0 ≤ d))

namespace Shape

theorem nonneg_nil : Nonneg [] := by
  intro d hd
  cases hd

theorem nonneg_cons_iff {d : Int} {s : List Int} : Nonneg (d :: s) ↔ 0 ≤ d ∧ Nonneg s :=
  List.forall_mem_cons

theorem Nonneg.reverse {s : Shape} (h : s.Nonneg) : Nonneg s.reverse := by
  intro d hd
  exact h d (List.mem_reverse.1 hd)

theorem Nonneg.getD {s : Shape} (h : s.Nonneg) (axis : Nat) : 0 ≤ s.getD axis 0 := by
  rw [List.getD_eq_getElem?_getD]
  cases haxis : s[axis]? with
  | none => exact Int.le_refl 0
  | some d => exact h d (List.mem_of_getElem? haxis)

theorem Nonneg.set {s : Shape} (h : s.Nonneg) (axis : Nat) {d : Int} (hd : 0 ≤ d) :
    Nonneg (s.set axis d) := by
  intro e he
  rcases List.mem_or_eq_of_mem_set he with hmem | rfl
  · exact h e hmem
  · exact hd

theorem nonneg_meet (dim : Nat) {a b : Int} (ha : 0 ≤ a) (hb : 0 ≤ b) :
    GivesOnly (0 ≤ ·) (meet dim a b) := by
  unfold meet
  split_ifs
  · exact givesOnly_ok hb
  · exact givesOnly_ok ha
  · exact givesOnly_ok hb
  · exact givesOnly_error _

theorem nonneg_broadcastReversed (rank : Nat) {a b : List Int} (ha : Nonneg a) (hb : Nonneg b) :
    GivesOnly Nonneg (broadcastReversed rank a b) := by
  induction a generalizing rank b with
  | nil => exact givesOnly_ok hb
  | cons x xs ih =>
    cases b with
    | nil => exact givesOnly_ok ha
    | cons y ys =>
      obtain ⟨hx, hxs⟩ := nonneg_cons_iff.1 ha
      obtain ⟨hy, hys⟩ := nonneg_cons_iff.1 hb
      refine (nonneg_meet (rank - 1) hx hy).bind fun size hsize => ?_
      refine (ih (rank - 1) hxs hys).bind fun sizes hsizes => ?_
      exact givesOnly_ok (nonneg_cons_iff.2 ⟨hsize, hsizes⟩)

theorem nonneg_broadcast {a b : Shape} (ha : a.Nonneg) (hb : b.Nonneg) :
    GivesOnly Nonneg (broadcast a b) :=
  (nonneg_broadcastReversed _ ha.reverse hb.reverse).map fun _ h => h.reverse

end Shape

namespace Rule

open Shape (Nonneg nonneg_nil nonneg_cons_iff)

/-! ## Arithmetic and products -/

theorem nonneg_unary {shapes : List Shape} (h : ∀ s ∈ shapes, s.Nonneg) :
    GivesOnly Nonneg (unary shapes) := by
  unfold unary
  split
  · exact givesOnly_ok (h _ List.mem_cons_self)
  · exact givesOnly_error _

theorem nonneg_combine {a b : Shape} (ha : a.Nonneg) (hb : b.Nonneg) :
    GivesOnly Nonneg (combine a b) := by
  unfold combine
  split_ifs
  · exact givesOnly_ok ha
  · exact Shape.nonneg_broadcast ha hb

theorem nonneg_binary {shapes : List Shape} (h : ∀ s ∈ shapes, s.Nonneg) :
    GivesOnly Nonneg (binary shapes) := by
  unfold binary
  split
  · exact nonneg_combine (h _ (by simp)) (h _ (by simp))
  · exact nonneg_combine (h _ (by simp)) (h _ (by simp))
  · exact givesOnly_error _

theorem nonneg_matrixProduct {shapes : List Shape} (h : ∀ s ∈ shapes, s.Nonneg) :
    GivesOnly Nonneg (matrixProduct shapes) := by
  unfold matrixProduct
  split
  · rename_i rows inner inner' columns
    have ha := h [rows, inner] (by simp)
    have hb := h [inner', columns] (by simp)
    split_ifs
    · apply givesOnly_ok
      simp only [nonneg_cons_iff] at ha hb ⊢
      exact ⟨ha.1, hb.2.1, nonneg_nil⟩
    · exact givesOnly_error _
  · exact givesOnly_error _
  · exact givesOnly_error _

theorem nonneg_batchProduct {shapes : List Shape} (h : ∀ s ∈ shapes, s.Nonneg) :
    GivesOnly Nonneg (batchProduct shapes) := by
  unfold batchProduct
  split
  · rename_i batch rows inner batch' inner' columns
    have ha := h [batch, rows, inner] (by simp)
    have hb := h [batch', inner', columns] (by simp)
    split_ifs
    · exact givesOnly_error _
    · exact givesOnly_error _
    · apply givesOnly_ok
      simp only [nonneg_cons_iff] at ha hb ⊢
      exact ⟨ha.1, ha.2.1, hb.2.2.1, nonneg_nil⟩
  · exact givesOnly_error _
  · exact givesOnly_error _

theorem nonneg_biasedProduct {shapes : List Shape} (h : ∀ s ∈ shapes, s.Nonneg) :
    GivesOnly Nonneg (biasedProduct shapes) := by
  unfold biasedProduct
  split
  · rename_i bias a b rest
    have hbias := h bias (by simp)
    have ha := h a (by simp)
    have hb := h b (by simp)
    dsimp only
    split_ifs
    · exact (givesOnly_ok ha).bind fun product hproduct => nonneg_combine hbias hproduct
    · have hfactors : ∀ s ∈ [a, b], s.Nonneg := by
        intro s hs
        rcases List.mem_pair.1 hs with rfl | rfl
        · exact ha
        · exact hb
      exact (nonneg_matrixProduct hfactors).bind fun product hproduct =>
        nonneg_combine hbias hproduct
  · exact givesOnly_error _

/-! ## Chunks and concatenation -/

theorem pieceSize_nonneg {size chunks : Int} (hsize : 0 ≤ size) (hchunks : 1 ≤ chunks) :
    0 ≤ pieceSize size chunks := by
  unfold pieceSize
  apply Int.ediv_nonneg <;> omega

theorem nonneg_pieces {shape : Shape} {axis : Nat} {size chunks : Int} (h : shape.Nonneg)
    (hpiece : 0 ≤ pieceSize size chunks) (hlast : 0 ≤ lastSize size chunks) :
    ∀ s ∈ pieces shape axis size chunks, s.Nonneg := by
  intro s hs
  rcases List.mem_append.1 hs with hfirst | hend
  · obtain rfl := List.eq_of_mem_replicate hfirst
    exact h.set axis hpiece
  · obtain rfl := List.mem_singleton.1 hend
    exact h.set axis hlast

theorem nonneg_chunk {shapes : List Shape} (chunks dim : Int) (h : ∀ s ∈ shapes, s.Nonneg) :
    GivesOnly (fun pieces => ∀ s ∈ pieces, Shape.Nonneg s) (chunk shapes chunks dim) := by
  unfold chunk
  split
  · rename_i shape
    have hshape := h shape List.mem_cons_self
    split_ifs with hcount
    · exact givesOnly_error _
    · have haxis : GivesOnly (fun _ => True) (axis "prim::ConstantChunk" dim shape.length) :=
        fun _ _ => trivial
      refine haxis.bind fun axis _ => ?_
      dsimp only
      split_ifs with hlast
      · exact givesOnly_error _
      · have hpiece := pieceSize_nonneg (hshape.getD axis) (Int.not_lt.1 hcount)
        exact givesOnly_ok (nonneg_pieces hshape hpiece (Int.not_lt.1 hlast))
  · exact givesOnly_error _

theorem nonneg_joinSizes (input along dim : Nat) {a b : List Int} (ha : Nonneg a)
    (hb : Nonneg b) : GivesOnly Nonneg (joinSizes input along dim a b) := by
  induction a generalizing dim b with
  | nil => exact givesOnly_ok ha
  | cons x xs ih =>
    cases b with
    | nil => exact givesOnly_ok ha
    | cons y ys =>
      obtain ⟨hx, hxs⟩ := nonneg_cons_iff.1 ha
      obtain ⟨hy, hys⟩ := nonneg_cons_iff.1 hb
      have hrest := ih (dim + 1) hxs hys
      unfold joinSizes
      split_ifs
      · exact hrest.bind fun sizes hsizes =>
          givesOnly_ok (nonneg_cons_iff.2 ⟨Int.add_nonneg hx hy, hsizes⟩)
      · exact hrest.bind fun sizes hsizes => givesOnly_ok (nonneg_cons_iff.2 ⟨hx, hsizes⟩)
      · exact givesOnly_error _

theorem nonneg_joinAll (along input : Nat) {joined : Shape} {shapes : List Shape}
    (hjoined : joined.Nonneg) (h : ∀ s ∈ shapes, s.Nonneg) :
    GivesOnly Nonneg (joinAll along input joined shapes) := by
  induction shapes generalizing input joined with
  | nil => exact givesOnly_ok hjoined
  | cons other rest ih =>
    obtain ⟨hother, hrest⟩ := List.forall_mem_cons.1 h
    have hjoin : GivesOnly Nonneg (join input along joined other) := by
      unfold join
      split_ifs
      · exact nonneg_joinSizes input along 0 hjoined hother
      · exact givesOnly_error _
    exact hjoin.bind fun next hnext => ih (input + 1) hnext hrest

theorem nonneg_concat {shapes : List Shape} (dim : Int) (h : ∀ s ∈ shapes, s.Nonneg) :
    GivesOnly Nonneg (concat shapes dim) := by
  unfold concat
  split
  · exact givesOnly_error _
  · exact givesOnly_ok (h _ List.mem_cons_self)
  · rename_i first rest _
    obtain ⟨hfirst, hrest⟩ := List.forall_mem_cons.1 h
    have haxis : GivesOnly (fun _ => True) (axis "prim::FusedConcat" dim first.length) :=
      fun _ _ => trivial
    exact haxis.bind fun along _ => nonneg_joinAll along 1 hfirst hrest

end Rule

/-- **No operator gives a negative size where none of its operands has one.** -/
theorem Node.nonneg_resultShapes (node : Node) {operands : List Shape}
    (h : ∀ s ∈ operands, s.Nonneg) :
    GivesOnly (fun shapes => ∀ s ∈ shapes, Shape.Nonneg s) (node.resultShapes operands) := by
  -- a rule with one result gives it as the only member of a list
  have hone : ∀ {r : Except Issue Shape}, GivesOnly Shape.Nonneg r →
      GivesOnly (fun shapes => ∀ s ∈ shapes, Shape.Nonneg s) (r.map ([·])) := by
    intro r hr
    exact hr.map fun s hs => List.forall_mem_singleton.2 hs
  have hattr : ∀ name, GivesOnly (fun _ => True) (node.requireInt name) :=
    fun _ _ _ => trivial
  unfold resultShapes
  cases node.operator with
  | unary => exact hone (Rule.nonneg_unary h)
  | binary => exact hone (Rule.nonneg_binary h)
  | matrixProduct => exact hone (Rule.nonneg_matrixProduct h)
  | batchProduct => exact hone (Rule.nonneg_batchProduct h)
  | biasedProduct => exact hone (Rule.nonneg_biasedProduct h)
  | concat =>
    refine (hattr "dim").bind fun dim _ => ?_
    exact hone (Rule.nonneg_concat dim h)
  | chunk =>
    refine (hattr "chunks").bind fun chunks _ => ?_
    exact (hattr "dim").bind fun dim _ => Rule.nonneg_chunk chunks dim h
  | constant => exact givesOnly_error _
  | unsupported => exact givesOnly_error _

end ShapeFlow
