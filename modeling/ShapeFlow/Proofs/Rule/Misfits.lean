import ShapeFlow.Proofs.Rule.Joining

/-!
# Operands that cannot be joined

Laying shapes one behind another stops at the first operand that does not agree with the first one
off the axis (`Shape.FirstMisfit`). It reports the rank of this operand if that is another
(`Issue.concatRank`), and else the first axis off that of concatenation on which the two differ,
with both sizes there (`Shape.DiffersFirstAt`, `Issue.concatSize`). What is joined on the way has
other sizes than the first operand only on the axis that no comparison looks at, so the report is
the same as if each operand were compared with the first one (`Rule.Misfit.of_agreesOff`).

`Rule.concat_joins_or_reports` says when operands are joined, to what, and otherwise what is
reported of them.
-/

set_option autoImplicit false

namespace ShapeFlow

namespace Shape

/-- The first axis, one axis left out, on which two shapes have different sizes, and these sizes. -/
structure DiffersFirstAt (axis : Nat) (s t : Shape) (i : Nat) (x y : Int) : Prop where
  off : i ≠ axis
  left : s[i]? = some x
  right : t[i]? = some y
  differ : x ≠ y
  first : ∀ j < i, j ≠ axis → t[j]? = s[j]?

/-- Shape number `i` of a list is the first that does not agree with a shape off an axis. -/
structure FirstMisfit (axis : Nat) (s : Shape) (shapes : List Shape) (i : Nat) (t : Shape) :
    Prop where
  here : shapes[i]? = some t
  misfit : ¬ AgreesOff axis s t
  before : ∀ u ∈ shapes.take i, AgreesOff axis s u

variable {axis i : Nat} {s s' t : Shape} {x y : Int}

theorem axis?_eq_some_iff_range {dim : Int} {rank : Nat} :
    axis? dim rank = some axis ↔
      (-(rank : Int) ≤ dim ∧ dim < rank) ∧ axis = (fromStart dim rank).toNat := by
  rw [axis?_eq_some_iff]
  unfold fromStart
  split <;> omega

theorem DiffersFirstAt.not_agreesOff (h : DiffersFirstAt axis s t i x y) :
    ¬ AgreesOff axis s t := by
  intro hoff
  have hsame := hoff.sizes i h.off
  rw [h.left, h.right] at hsame
  exact h.differ (Option.some.inj hsame).symm

/-- Off the axis, a shape may be exchanged for one that agrees with it. -/
theorem DiffersFirstAt.of_agreesOff (hoff : AgreesOff axis s s')
    (h : DiffersFirstAt axis s' t i x y) : DiffersFirstAt axis s t i x y where
  off := h.off
  left := (hoff.sizes i h.off).symm.trans h.left
  right := h.right
  differ := h.differ
  first j hj hne := (h.first j hj hne).trans (hoff.sizes j hne)

end Shape

namespace Rule

open Shape (AgreesOff DiffersFirstAt FirstMisfit sizesOn)

/-- Why a shape cannot be laid behind another along an axis, as operand number `input`. -/
inductive Misfit (input along : Nat) (s t : Shape) : Issue → Prop where
  | rank : t.length ≠ s.length → Misfit input along s t (.concatRank input s.length t.length)
  | sizes {i : Nat} {x y : Int} : t.length = s.length → DiffersFirstAt along s t i x y →
      Misfit input along s t (.concatSize input along i x y)

section Join

variable {input along dim : Nat} {a b : Int} {as bs : List Int} {e : Issue}

/-- On the axis of concatenation, and where two sizes agree, nothing is refused. -/
theorem joinSizes_cons_eq_error_iff (h : dim = along ∨ a = b) :
    joinSizes input along dim (a :: as) (b :: bs) = .error e ↔
      joinSizes input along (dim + 1) as bs = .error e := by
  rw [joinSizes]
  split_ifs with hdim hab
  · exact except_map_eq_error_iff
  · exact except_map_eq_error_iff
  · rcases h with h | h
    · exact absurd h hdim
    · exact absurd h hab

/-- Two lists of sizes, from some axis on, are refused for the first axis on which they differ,
unless it is that of concatenation. -/
theorem joinSizes_eq_error_iff :
    joinSizes input along dim as bs = .error e ↔
      ∃ i x y, dim + i ≠ along ∧ as[i]? = some x ∧ bs[i]? = some y ∧ x ≠ y ∧
        (∀ j < i, dim + j ≠ along → bs[j]? = as[j]?) ∧
          e = .concatSize input along (dim + i) x y := by
  induction as generalizing dim bs with
  | nil => simp [joinSizes]
  | cons a as ih =>
    cases bs with
    | nil => simp [joinSizes]
    | cons b bs =>
      have hshift : ∀ i, dim + 1 + i = dim + (i + 1) := by omega
      by_cases hsame : dim = along ∨ a = b
      · -- the first axis is passed, so the axis at fault lies behind it
        rw [joinSizes_cons_eq_error_iff hsame, ih]
        constructor
        · rintro ⟨i, x, y, hoff, hx, hy, hne, hfirst, rfl⟩
          rw [hshift] at hoff ⊢
          refine ⟨i + 1, x, y, hoff, hx, hy, hne, fun j hj hjoff => ?_, rfl⟩
          cases j with
          | zero => rw [hsame.resolve_left hjoff]; rfl
          | succ j => exact hfirst j (Nat.lt_of_succ_lt_succ hj) (by rwa [hshift])
        · rintro ⟨i, x, y, hoff, hx, hy, hne, hfirst, rfl⟩
          cases i with
          | zero =>
            cases hx
            cases hy
            exact absurd (hsame.resolve_left hoff) hne
          | succ i =>
            refine ⟨i, x, y, by rwa [hshift], hx, hy, hne, fun j hj hjoff => ?_, by rw [hshift]⟩
            exact hfirst (j + 1) (Nat.succ_lt_succ hj) (by rwa [← hshift])
      · obtain ⟨hdim, hab⟩ := not_or.1 hsame
        rw [joinSizes, if_neg hdim, if_neg hab]
        constructor
        · intro h
          cases h
          exact ⟨0, a, b, hdim, rfl, rfl, hab, by simp, rfl⟩
        · rintro ⟨i, x, y, hoff, hx, hy, hne, hfirst, rfl⟩
          cases i with
          | zero =>
            cases hx
            cases hy
            rfl
          | succ i =>
            have hzero : some b = some a := hfirst 0 (Nat.succ_pos i) hdim
            exact absurd (Option.some.inj hzero).symm hab

end Join

variable {input along : Nat} {joined other s s' t first second : Shape}
  {shapes rest : List Shape} {dim : Int} {e : Issue}

theorem Misfit.not_agreesOff (h : Misfit input along s t e) : ¬ AgreesOff along s t := by
  cases h with
  | rank hrank => exact fun hoff => hrank hoff.rank
  | sizes hrank hdiffers => exact hdiffers.not_agreesOff

/-- The report on an operand is the same for all shapes that agree off the axis. -/
theorem Misfit.of_agreesOff (hoff : AgreesOff along s s') (h : Misfit input along s' t e) :
    Misfit input along s t e := by
  cases h with
  | rank hrank =>
    rw [hoff.rank] at hrank ⊢
    exact .rank hrank
  | sizes hrank hdiffers => exact .sizes (hrank.trans hoff.rank) (hdiffers.of_agreesOff hoff)

/-- One more shape is refused exactly for not fitting those joined so far. -/
theorem join_eq_error_iff :
    join input along joined other = .error e ↔ Misfit input along joined other e := by
  unfold join
  split_ifs with hrank
  · rw [joinSizes_eq_error_iff]
    simp only [Nat.zero_add]
    constructor
    · rintro ⟨i, x, y, hoff, hx, hy, hne, hfirst, rfl⟩
      exact .sizes hrank ⟨hoff, hx, hy, hne, hfirst⟩
    · intro h
      cases h with
      | rank hother => exact absurd hrank hother
      | @sizes i x y _ hdiffers =>
        exact ⟨i, x, y, hdiffers.off, hdiffers.left, hdiffers.right, hdiffers.differ,
          hdiffers.first, rfl⟩
  · constructor
    · intro h
      cases h
      exact .rank hrank
    · intro h
      cases h with
      | rank => rfl
      | sizes hother _ => exact absurd hother hrank

/-- Where shapes are refused, a front of them agrees with those joined before, and the next one does
not fit. -/
theorem joinAll_eq_error (h : joinAll along input joined shapes = .error e) :
    ∃ front t back, shapes = front ++ t :: back ∧ (∀ u ∈ front, AgreesOff along joined u) ∧
      Misfit (input + front.length) along joined t e := by
  induction shapes generalizing input joined with
  | nil => cases h
  | cons other rest ih =>
    rcases except_bind_eq_error_iff.1 h with hjoin | ⟨next, hjoin, hrest⟩
    · exact ⟨[], other, rest, rfl, by simp, join_eq_error_iff.1 hjoin⟩
    · -- this one is joined, and what it is joined to differs from before on the axis only
      obtain ⟨hother, rfl⟩ := join_eq_ok_iff.1 hjoin
      have hoff := Shape.agreesOff_set along joined (joined.getD along 0 + other.getD along 0)
      obtain ⟨front, t, back, rfl, hfront, hmisfit⟩ := ih hrest
      refine ⟨other :: front, t, back, rfl, ?_, ?_⟩
      · exact List.forall_mem_cons.2 ⟨hother, fun u hu => hoff.trans (hfront u hu)⟩
      · rw [List.length_cons, Nat.add_comm front.length, ← Nat.add_assoc]
        exact hmisfit.of_agreesOff hoff

/-- Two or more shapes are refused for an index that means no axis, or for an operand that does not
fit the first one behind a front of operands that do. -/
theorem concat_eq_error (h : concat (first :: second :: rest) dim = .error e) :
    (Shape.axis? dim first.length = none ∧
        e = .axisRange "prim::FusedConcat" (Shape.fromStart dim first.length) first.length) ∨
      ∃ along, Shape.axis? dim first.length = some along ∧
        ∃ front t back, second :: rest = front ++ t :: back ∧
          (∀ u ∈ front, AgreesOff along first u) ∧ Misfit (1 + front.length) along first t e := by
  have hconcat : concat (first :: second :: rest) dim =
      axis "prim::FusedConcat" dim first.length >>= fun along =>
        joinAll along 1 first (second :: rest) := rfl
  rw [hconcat] at h
  rcases except_bind_eq_error_iff.1 h with haxis | ⟨along, haxis, hjoin⟩
  · refine Or.inl ?_
    unfold axis at haxis
    cases hnone : Shape.axis? dim first.length with
    | none =>
      rw [hnone] at haxis
      exact ⟨rfl, (Except.error.inj haxis).symm⟩
    | some along =>
      rw [hnone] at haxis
      cases haxis
  · exact Or.inr ⟨along, axis_eq_ok_iff.1 haxis, joinAll_eq_error hjoin⟩

/-- What is reported of operands that cannot be joined: that the index means no axis of the first
one, or else of the first operand that does not agree with the first one off the axis, its number
and either that its rank is another, or the first axis on which the two differ and their sizes
there. -/
inductive Unjoinable (shapes : List Shape) (first : Shape) (dim : Int) (axis : Nat) :
    Report → Prop where
  | range {r : Report} : ¬ (-(first.length : Int) ≤ dim ∧ dim < first.length) →
      r.category = .dimension → Unjoinable shapes first dim axis r
  | rank {r : Report} {i : Nat} {t : Shape} : -(first.length : Int) ≤ dim ∧ dim < first.length →
      FirstMisfit axis first shapes i t → t.length ≠ first.length → r.category = .rank →
        r.context.lookup "input" = some (Issue.count i) → Unjoinable shapes first dim axis r
  | sizes {r : Report} {i k : Nat} {t : Shape} {x y : Int} :
      -(first.length : Int) ≤ dim ∧ dim < first.length → FirstMisfit axis first shapes i t →
        t.length = first.length → DiffersFirstAt axis first t k x y → r.category = .sizes x y →
          r.context.lookup "input" = some (Issue.count i) →
            r.context.lookup "dim" = some (Issue.count k) →
              r.context.lookup "dim_a" = some (.int x) →
                r.context.lookup "dim_b" = some (.int y) → Unjoinable shapes first dim axis r

/-- The first operand fits itself, so that the first misfit is found among the others. -/
theorem firstMisfit_cons {front back : List Shape}
    (hfront : ∀ u ∈ front, AgreesOff along first u) (ht : ¬ AgreesOff along first t) :
    FirstMisfit along first (first :: (front ++ t :: back)) (1 + front.length) t where
  here := by
    rw [Nat.add_comm, List.getElem?_cons_succ]
    simp
  misfit := ht
  before := by
    rw [Nat.add_comm, List.take_succ_cons, List.take_left]
    exact List.forall_mem_cons.2 ⟨AgreesOff.refl along first, hfront⟩

/-- **Two or more shapes are joined exactly if the index means an axis of the first of them and all
agree with it off this axis**, and then to the first shape with the sum of all sizes on the axis.
Otherwise the report is on the index, or on the first operand that does not agree. -/
theorem concat_joins_or_reports (first second : Shape) (rest : List Shape) (dim : Int) :
    let shapes := first :: second :: rest
    let axis := (Shape.fromStart dim first.length).toNat
    let result := concat shapes dim
    (∀ s, result = .ok s ↔
        (-(first.length : Int) ≤ dim ∧ dim < first.length) ∧
          (∀ t ∈ shapes, AgreesOff axis first t) ∧ s = first.set axis (sizesOn axis shapes).sum) ∧
      ∀ e, result = .error e → Unjoinable shapes first dim axis e.report := by
  intro shapes axis result
  constructor
  · intro s
    have hself : (∀ t ∈ shapes, AgreesOff axis first t) ↔
        ∀ t ∈ second :: rest, AgreesOff axis first t := by
      rw [List.forall_mem_cons, and_iff_right (AgreesOff.refl axis first)]
    rw [concat_eq_ok_iff, hself]
    constructor
    · rintro ⟨along, haxis, hoff, rfl⟩
      obtain ⟨hrange, rfl⟩ := Shape.axis?_eq_some_iff_range.1 haxis
      exact ⟨hrange, hoff, rfl⟩
    · rintro ⟨hrange, hoff, rfl⟩
      exact ⟨axis, Shape.axis?_eq_some_iff_range.2 ⟨hrange, rfl⟩, hoff, rfl⟩
  · intro e he
    rcases concat_eq_error he with ⟨hnone, rfl⟩ | ⟨along, haxis, front, t, back, hsplit, hfront, ht⟩
    · refine .range (fun hrange => ?_) rfl
      have hsome := Shape.axis?_isSome_iff.2 hrange
      rw [hnone] at hsome
      cases hsome
    · obtain ⟨hrange, rfl⟩ := Shape.axis?_eq_some_iff_range.1 haxis
      have hfirst : FirstMisfit axis first shapes (1 + front.length) t := by
        have hshapes : shapes = first :: (front ++ t :: back) := congrArg (first :: ·) hsplit
        rw [hshapes]
        exact firstMisfit_cons hfront ht.not_agreesOff
      cases ht with
      | rank hrank => exact .rank hrange hfirst hrank rfl rfl
      | sizes hrank hdiffers => exact .sizes hrange hfirst hrank hdiffers rfl rfl rfl rfl rfl

/-- Rows are added up, so that the columns of the third operand are the first that do not agree. -/
example : concat [[2, 3], [4, 3], [1, 5]] 0 = .error (.concatSize 2 0 1 3 5) := by
  decide

end Rule

end ShapeFlow
