import ShapeFlow.Meta
import ShapeFlow.Rule.Elementwise
import ShapeFlow.Proofs.Failure.Results
import Mathlib.Algebra.Order.Group.Nat
import Mathlib.Tactic.SplitIfs

/-!
# Broadcasting, axis by axis

Two shapes are compared from the right (`Shape.fromRight?`). On one axis two sizes match if they are
equal or one of them is one, and a size that has no partner matches anyway (`Shape.Fits`);
`Shape.joint` is what they then come to. Broadcasting gives the shape of these joint sizes if they
fit on all axes (`Shape.broadcast_eq_ok_iff`), and otherwise reports the first axis from the right
on which they do not (`Shape.broadcast_eq_error_iff`).

The sizes can also be found one by one, by their places in the two shapes
(`Shape.broadcastByPlace`). No place outside of a shape is looked at on the way, since the result is
the same and a look outside would be a fault (`Shape.broadcastByPlace_eq`).
`Rule.binary_broadcasts` puts this together for arithmetic on the records of two values.
-/

set_option autoImplicit false

namespace ShapeFlow

namespace Shape

/-! ## One axis -/

/-- The size on an axis, counted from the right, if the shape has the axis. -/
def fromRight? (s : Shape) (i : Nat) : Option Int := s.reverse[i]?

/-- Two sizes go together on one axis. -/
def Matches (x y : Int) : Prop := x = y ∨ x = 1 ∨ y = 1

/-- What two shapes have on one axis goes together. -/
def Fits (x y : Option Int) : Prop := ∀ u v, x = some u → y = some v → Matches u v

/-- What two sizes on one axis come to: the only one there is, or else the second if the first is
one, and the first otherwise. -/
def joint : Option Int → Option Int → Option Int
  | none, y => y
  | some x, none => some x
  | some x, some y => some (if x = 1 then y else x)

/-- Two shapes fit on all axes. -/
def Aligned (a b : Shape) : Prop := ∀ i, Fits (a.fromRight? i) (b.fromRight? i)

/-- The first axis from the right on which two shapes do not fit, and their sizes there. -/
structure ClashesAt (a b : Shape) (i : Nat) (x y : Int) : Prop where
  left : a.fromRight? i = some x
  right : b.fromRight? i = some y
  clash : ¬ Matches x y
  first : ∀ j < i, Fits (a.fromRight? j) (b.fromRight? j)

theorem fits_none_left (y : Option Int) : Fits none y := by
  intro u v hu
  cases hu

theorem fits_none_right (x : Option Int) : Fits x none := by
  intro u v _ hv
  cases hv

theorem fits_some_iff {x y : Int} : Fits (some x) (some y) ↔ Matches x y := by
  constructor
  · intro h
    exact h x y rfl rfl
  · intro h u v hu hv
    cases hu
    cases hv
    exact h

theorem joint_none_right (x : Option Int) : joint x none = x := by
  cases x <;> rfl

/-- Two sizes meet exactly if they match, and they meet in their joint size. -/
theorem meet_eq_ok_iff {dim : Nat} {x y z : Int} :
    meet dim x y = .ok z ↔ Matches x y ∧ joint (some x) (some y) = some z := by
  unfold meet Matches joint
  split_ifs with hx hy hxy
  · simp [hx]
  · simp [hx, hy]
  · simp [hxy]
  · simp [hx, hy, hxy]

theorem meet_eq_error_iff {dim : Nat} {x y : Int} {e : Issue} :
    meet dim x y = .error e ↔ ¬ Matches x y ∧ e = .broadcastSizes dim x y := by
  unfold meet Matches
  split_ifs with hx hy hxy
  · simp [hx]
  · simp [hy]
  · simp [hxy]
  · simp [hx, hy, hxy, eq_comm]

/-! ## All axes -/

section Reversed

variable {rank : Nat} {as bs cs : List Int} {e : Issue}

theorem broadcastReversed_eq_ok_iff :
    broadcastReversed rank as bs = .ok cs ↔
      ∀ i : Nat, Fits as[i]? bs[i]? ∧ cs[i]? = joint as[i]? bs[i]? := by
  induction as generalizing rank bs cs with
  | nil =>
    simp only [broadcastReversed, Except.ok.injEq, List.getElem?_nil, fits_none_left, true_and,
      joint]
    rw [eq_comm, List.ext_getElem?_iff]
  | cons a as ih =>
    cases bs with
    | nil =>
      simp only [broadcastReversed, Except.ok.injEq, List.getElem?_nil, fits_none_right, true_and,
        joint_none_right]
      rw [eq_comm, List.ext_getElem?_iff]
    | cons b bs =>
      -- the first axis is treated apart from the others
      rw [broadcastReversed, ← Nat.and_forall_add_one]
      simp only [List.getElem?_cons_zero, List.getElem?_cons_succ, fits_some_iff]
      constructor
      · intro h
        obtain ⟨size, hsize, h⟩ := except_bind_eq_ok_iff.1 h
        obtain ⟨sizes, hsizes, h⟩ := except_bind_eq_ok_iff.1 h
        cases h
        obtain ⟨hmatch, hjoint⟩ := meet_eq_ok_iff.1 hsize
        exact ⟨⟨hmatch, hjoint.symm⟩, ih.1 hsizes⟩
      · rintro ⟨⟨hmatch, hjoint⟩, hrest⟩
        cases cs with
        | nil => cases hjoint
        | cons c cs =>
          rw [meet_eq_ok_iff.2 ⟨hmatch, hjoint.symm⟩, except_ok_bind, ih.2 hrest]
          rfl

theorem broadcastReversed_eq_error_iff :
    broadcastReversed rank as bs = .error e ↔
      ∃ (i : Nat) (x y : Int), as[i]? = some x ∧ bs[i]? = some y ∧ ¬ Matches x y ∧
        (∀ j < i, Fits as[j]? bs[j]?) ∧ e = .broadcastSizes (rank - 1 - i) x y := by
  induction as generalizing rank bs with
  | nil => simp [broadcastReversed]
  | cons a as ih =>
    cases bs with
    | nil => simp [broadcastReversed]
    | cons b bs =>
      rw [broadcastReversed]
      constructor
      · intro h
        rcases except_bind_eq_error_iff.1 h with hsize | ⟨size, hsize, h⟩
        · obtain ⟨hclash, rfl⟩ := meet_eq_error_iff.1 hsize
          exact ⟨0, a, b, rfl, rfl, hclash, by simp, rfl⟩
        · rcases except_bind_eq_error_iff.1 h with hsizes | ⟨sizes, -, hpure⟩
          · obtain ⟨i, x, y, hx, hy, hclash, hfirst, rfl⟩ := ih.1 hsizes
            refine ⟨i + 1, x, y, hx, hy, hclash, fun j hj => ?_, ?_⟩
            · cases j with
              | zero => exact fits_some_iff.2 (meet_eq_ok_iff.1 hsize).1
              | succ j => exact hfirst j (Nat.lt_of_succ_lt_succ hj)
            · rw [Nat.sub_sub _ 1 i, Nat.add_comm 1 i]
          · cases hpure
      · rintro ⟨i, x, y, hx, hy, hclash, hfirst, rfl⟩
        cases i with
        | zero =>
          cases hx
          cases hy
          rw [meet_eq_error_iff.2 ⟨hclash, rfl⟩]
          rfl
        | succ i =>
          have hmatch : Matches a b := fits_some_iff.1 (hfirst 0 (Nat.succ_pos i))
          have hrest : broadcastReversed (rank - 1) as bs =
              .error (.broadcastSizes (rank - 1 - (i + 1)) x y) := by
            refine ih.2 ⟨i, x, y, hx, hy, hclash, fun j hj => ?_, ?_⟩
            · exact hfirst (j + 1) (Nat.succ_lt_succ hj)
            · rw [Nat.sub_sub _ 1 i, Nat.add_comm 1 i]
          rw [meet_eq_ok_iff.2 ⟨hmatch, rfl⟩, except_ok_bind, hrest]
          rfl

end Reversed

variable {a b s t : Shape} {e : Issue}

/-- Broadcasting gives the shape of the joint sizes if they fit on all axes. -/
theorem broadcast_eq_ok_iff :
    broadcast a b = .ok s ↔
      Aligned a b ∧ ∀ i, s.fromRight? i = joint (a.fromRight? i) (b.fromRight? i) := by
  rw [broadcast, except_map_eq_ok_iff, Aligned, ← forall_and]
  constructor
  · rintro ⟨cs, hcs, rfl⟩ i
    have hi := broadcastReversed_eq_ok_iff.1 hcs i
    rwa [fromRight?, fromRight?, fromRight?, List.reverse_reverse]
  · intro h
    exact ⟨s.reverse, broadcastReversed_eq_ok_iff.2 h, List.reverse_reverse s⟩

/-- Broadcasting reports the first axis from the right on which two shapes do not fit. -/
theorem broadcast_eq_error_iff :
    broadcast a b = .error e ↔
      ∃ i x y, ClashesAt a b i x y ∧
        e = .broadcastSizes (max a.length b.length - 1 - i) x y := by
  rw [broadcast, except_map_eq_error_iff, broadcastReversed_eq_error_iff]
  constructor
  · rintro ⟨i, x, y, hx, hy, hclash, hfirst, rfl⟩
    exact ⟨i, x, y, ⟨hx, hy, hclash, hfirst⟩, rfl⟩
  · rintro ⟨i, x, y, ⟨hx, hy, hclash, hfirst⟩, rfl⟩
    exact ⟨i, x, y, hx, hy, hclash, hfirst, rfl⟩

/-- Broadcasting gives a shape exactly if the operands fit on all axes. -/
theorem exists_broadcast_iff : (∃ s, broadcast a b = .ok s) ↔ Aligned a b := by
  constructor
  · rintro ⟨s, hs⟩
    exact (broadcast_eq_ok_iff.1 hs).1
  · intro h
    cases hr : broadcast a b with
    | ok s => exact ⟨s, rfl⟩
    | error e =>
      obtain ⟨i, x, y, hclash, -⟩ := broadcast_eq_error_iff.1 hr
      exact absurd (h i x y hclash.left hclash.right) hclash.clash

theorem joint_eq_none_iff {x y : Option Int} : joint x y = none ↔ x = none ∧ y = none := by
  cases x with
  | none => simp [joint]
  | some x => cases y <;> simp [joint]

theorem fromRight?_eq_none_iff {i : Nat} : s.fromRight? i = none ↔ s.length ≤ i := by
  rw [fromRight?, List.getElem?_eq_none_iff, List.length_reverse]

/-- A shape of joint sizes has the greater of the two ranks. -/
theorem length_of_joint (h : ∀ i, s.fromRight? i = joint (a.fromRight? i) (b.fromRight? i)) :
    s.length = max a.length b.length := by
  -- the rank of a shape is the first axis that it does not have
  refine eq_of_forall_ge_iff fun i => ?_
  rw [max_le_iff, ← fromRight?_eq_none_iff, ← fromRight?_eq_none_iff, ← fromRight?_eq_none_iff,
    h i, joint_eq_none_iff]

/-- A shape is what two shapes broadcast to: these fit on all axes, it has the greater of the two
ranks, and on each axis it has the size that is not one, or the only one there is. -/
structure IsBroadcast (a b s : Shape) : Prop where
  aligned : Aligned a b
  rank : s.length = max a.length b.length
  sizes : ∀ i, s.fromRight? i = joint (a.fromRight? i) (b.fromRight? i)

theorem isBroadcast_iff : IsBroadcast a b s ↔ broadcast a b = .ok s := by
  rw [broadcast_eq_ok_iff]
  constructor
  · rintro ⟨haligned, -, hsizes⟩
    exact ⟨haligned, hsizes⟩
  · rintro ⟨haligned, hsizes⟩
    exact ⟨haligned, length_of_joint hsizes, hsizes⟩

/-! ## Place by place -/

/-- The size at a place of a shape, counted from the left. A place outside of the shape is a fault.
-/
def sizeAt (s : Shape) (place : Int) : Except Failure Int :=
  if 0 ≤ place then
    match s[place.toNat]? with
    | some size => .ok size
    | none => .error (.fault .indexOutOfRange)
  else .error (.fault .indexOutOfRange)

/-- The size of a broadcast on an axis that is counted from the right. -/
def jointAt (a b : Shape) (i : Nat) : Except Failure Int :=
  if a.length ≤ i then b.sizeAt (b.length - 1 - i)
  else if b.length ≤ i then a.sizeAt (a.length - 1 - i)
  else do
    let x ← a.sizeAt (a.length - 1 - i)
    let y ← b.sizeAt (b.length - 1 - i)
    reported (meet (max a.length b.length - 1 - i) x y)

/-- A broadcast that finds its sizes by their places, one after another from the right. -/
def broadcastByPlace (a b : Shape) : Except Failure Shape :=
  ((List.range (max a.length b.length)).mapM (jointAt a b)).map List.reverse

theorem sizeAt_of_fromRight? {i : Nat} {x : Int} (h : s.fromRight? i = some x) :
    s.sizeAt (s.length - 1 - i) = .ok x := by
  obtain ⟨hi, -⟩ := List.getElem?_eq_some_iff.1 h
  rw [List.length_reverse] at hi
  rw [fromRight?, List.getElem?_reverse hi] at h
  have hplace : ((s.length : Int) - 1 - i).toNat = s.length - 1 - i := by omega
  rw [sizeAt, if_pos (by omega), hplace, h]

theorem drop_of_fromRight?_none {i : Nat} (h : s.fromRight? i = none) : s.reverse.drop i = [] := by
  rw [List.drop_eq_nil_iff, List.length_reverse]
  exact fromRight?_eq_none_iff.1 h

theorem drop_of_fromRight? {i : Nat} {x : Int} (h : s.fromRight? i = some x) :
    s.reverse.drop i = x :: s.reverse.drop (i + 1) := by
  obtain ⟨hi, rfl⟩ := List.getElem?_eq_some_iff.1 h
  exact List.drop_eq_getElem_cons hi

theorem lt_of_fromRight? {i : Nat} {x : Int} (h : s.fromRight? i = some x) : i < s.length := by
  rw [← Nat.not_le, ← fromRight?_eq_none_iff, h]
  exact Option.some_ne_none x

/-- What is left of a broadcast from one axis on, found place by place. -/
theorem mapM_jointAt {n k : Nat} (hn : k + n = max a.length b.length) :
    (List.range' k n).mapM (jointAt a b) =
      reported (broadcastReversed n (a.reverse.drop k) (b.reverse.drop k)) := by
  induction n generalizing k with
  | zero =>
    have ha : a.reverse.drop k = [] := drop_of_fromRight?_none (fromRight?_eq_none_iff.2 (by omega))
    have hb : b.reverse.drop k = [] := drop_of_fromRight?_none (fromRight?_eq_none_iff.2 (by omega))
    rw [ha, hb]
    rfl
  | succ n ih =>
    have hrest := ih (k := k + 1) (by omega)
    rw [List.range'_succ, List.mapM_cons, hrest, jointAt]
    cases hx : a.fromRight? k with
    | none =>
      have hak := fromRight?_eq_none_iff.1 hx
      obtain ⟨y, hy⟩ : ∃ y, b.fromRight? k = some y := by
        rw [← Option.isSome_iff_exists, Option.isSome_iff_ne_none, ne_eq, fromRight?_eq_none_iff]
        omega
      have hnone := drop_of_fromRight?_none (fromRight?_eq_none_iff.2 (Nat.le_succ_of_le hak))
      rw [if_pos hak, sizeAt_of_fromRight? hy, drop_of_fromRight? hy, drop_of_fromRight?_none hx,
        hnone]
      rfl
    | some x =>
      have hak := lt_of_fromRight? hx
      rw [if_neg (by omega), drop_of_fromRight? hx, sizeAt_of_fromRight? hx]
      cases hy : b.fromRight? k with
      | none =>
        have hbk := fromRight?_eq_none_iff.1 hy
        have hnone := drop_of_fromRight?_none (fromRight?_eq_none_iff.2 (Nat.le_succ_of_le hbk))
        rw [if_pos hbk, drop_of_fromRight?_none hy, hnone]
        cases a.reverse.drop (k + 1) <;> rfl
      | some y =>
        have hbk := lt_of_fromRight? hy
        have hdim : max a.length b.length - 1 - k = n := by omega
        rw [if_neg (by omega), drop_of_fromRight? hy, sizeAt_of_fromRight? hy, broadcastReversed,
          reported_bind, except_ok_bind, except_ok_bind, hdim, Nat.add_sub_cancel]
        simp only [reported_bind]
        rfl

/-- **A broadcast looks at no place outside of its operands**: found place by place it is the same,
with the same failures. -/
theorem broadcastByPlace_eq (a b : Shape) : broadcastByPlace a b = reported (broadcast a b) := by
  have h := mapM_jointAt (a := a) (b := b) (Nat.zero_add _)
  rw [broadcastByPlace, List.range_eq_range', h, broadcast, List.drop_zero, List.drop_zero]
  cases broadcastReversed (max a.length b.length) a.reverse b.reverse with
  | ok sizes => rfl
  | error e => rfl

end Shape

namespace Rule

/-- **Arithmetic broadcasts from the right.** A second operand of rank one leaves the first shape as
it is. Otherwise there is a result exactly if the operands fit on all axes, and it is the shape of
their joint sizes, with the greater of the two ranks. Where they do not fit, the sizes on the first
such axis from the right are reported, with the place of the axis in the result. The result can be
found by looking at the sizes one by one, and none of these looks is outside of a shape. -/
theorem binary_broadcasts (m n : Meta) (scale : Option Meta) :
    let result := binary ((m :: n :: scale.toList).map Meta.shape)
    (n.rank = 1 → result = .ok m.shape) ∧
      (n.rank ≠ 1 →
        ((∃ s, result = .ok s) ↔ Shape.Aligned m.shape n.shape) ∧
        (∀ s, result = .ok s → s.length = max m.rank n.rank ∧
          ∀ i, s.fromRight? i = Shape.joint (m.shape.fromRight? i) (n.shape.fromRight? i)) ∧
        (∀ e, result = .error e → ∃ i x y, Shape.ClashesAt m.shape n.shape i x y ∧
          e.report.category = .sizes x y ∧
          e.report.context = [("dim", .int (max m.rank n.rank - 1 - i : Nat)),
            ("dim_a", .int x), ("dim_b", .int y)]) ∧
        reported result = Shape.broadcastByPlace m.shape n.shape) := by
  have hcombine : binary ((m :: n :: scale.toList).map Meta.shape) = combine m.shape n.shape := by
    cases scale with
    | none => rfl
    | some k => rfl
  dsimp only
  rw [hcombine]
  constructor
  · intro hrank
    exact if_pos hrank
  · intro hrank
    have hbroadcast : combine m.shape n.shape = Shape.broadcast m.shape n.shape := if_neg hrank
    rw [hbroadcast]
    refine ⟨Shape.exists_broadcast_iff, fun s hs => ?_, fun e he => ?_, ?_⟩
    · have hjoint := (Shape.broadcast_eq_ok_iff.1 hs).2
      exact ⟨Shape.length_of_joint hjoint, hjoint⟩
    · obtain ⟨i, x, y, hclash, rfl⟩ := Shape.broadcast_eq_error_iff.1 he
      exact ⟨i, x, y, hclash, rfl, rfl⟩
    · exact (Shape.broadcastByPlace_eq _ _).symm

/-- Two and three disagree on the last axis of the result, although one and seven go together. -/
example : binary [[5, 1, 2], [7, 3]] = .error (.broadcastSizes 2 2 3) := by
  decide

end Rule

end ShapeFlow
