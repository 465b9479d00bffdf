import ShapeFlow.Proofs.Rule.Joining
import ShapeFlow.Proofs.Rule.Reports
import Mathlib.Algebra.BigOperators.Group.List.Lemmas

/-!
# Joins regrouped and reordered

What shapes come to when they are joined does not depend on which of them is first: it is a shape
that agrees with all of them off the axis and has the sum of their sizes on it (`Shape.IsJoin`).
Joining gives exactly this shape (`Rule.concat_eq_ok_iff_isJoin`), although the rule itself compares
with the first operand only, looks for the axis in that operand, and takes a single operand as it
is. So operands may be joined in groups, and in any order (`Rule.concat_regroups_and_reorders`).
-/

set_option autoImplicit false

namespace ShapeFlow

namespace Shape

/-- A shape is what shapes come to when they are joined along an axis. -/
structure IsJoin (axis : Nat) (shapes : List Shape) (s : Shape) : Prop where
  agrees : ∀ t ∈ shapes, AgreesOff axis s t
  total : (sizesOn axis shapes).sum = s.getD axis 0

variable {axis : Nat} {s t : Shape} {shapes parts as bs : List Shape}

theorem sizesOn_append (axis : Nat) (as bs : List Shape) :
    (sizesOn axis (as ++ bs)).sum = (sizesOn axis as).sum + (sizesOn axis bs).sum := by
  rw [sizesOn, List.map_append, List.sum_append, sizesOn, sizesOn]

theorem isJoin_singleton_iff : IsJoin axis [t] s ↔ s = t := by
  have hsum : (sizesOn axis [t]).sum = t.getD axis 0 := Int.add_zero _
  constructor
  · intro h
    have htotal := h.total
    rw [hsum] at htotal
    exact ((h.agrees t List.mem_cons_self).eq htotal).symm
  · rintro rfl
    refine ⟨?_, hsum⟩
    simp [AgreesOff.refl axis s]

theorem IsJoin.perm (h : IsJoin axis shapes s) (hperm : parts.Perm shapes) :
    IsJoin axis parts s where
  agrees t ht := h.agrees t (hperm.mem_iff.1 ht)
  total := (hperm.map _).sum_eq.trans h.total

/-- The part of a join that some of the shapes contribute: its sizes off the axis, and theirs on
it. -/
theorem isJoin_set (haxis : axis < s.length) (h : ∀ t ∈ shapes, AgreesOff axis s t) :
    IsJoin axis shapes (s.set axis (sizesOn axis shapes).sum) where
  agrees t ht := (agreesOff_set axis s _).symm.trans (h t ht)
  total := (getD_set haxis).symm

/-- Shapes can be joined in two groups, and the two results then with each other. -/
theorem exists_isJoin_pair_iff (haxis : axis < s.length) :
    (∃ a b, IsJoin axis as a ∧ IsJoin axis bs b ∧ IsJoin axis [a, b] s) ↔
      IsJoin axis (as ++ bs) s := by
  have hpair : ∀ a b : Shape, (sizesOn axis [a, b]).sum = a.getD axis 0 + b.getD axis 0 := by
    intro a b
    simp [sizesOn]
  constructor
  · rintro ⟨a, b, ha, hb, hs⟩
    have hsa := hs.agrees a List.mem_cons_self
    have hsb := hs.agrees b (List.mem_cons_of_mem a List.mem_cons_self)
    refine ⟨fun t ht => ?_, ?_⟩
    · rcases List.mem_append.1 ht with ht | ht
      · exact hsa.trans (ha.agrees t ht)
      · exact hsb.trans (hb.agrees t ht)
    · rw [sizesOn_append, ha.total, hb.total, ← hs.total, hpair]
  · intro h
    have has := isJoin_set haxis fun t ht => h.agrees t (List.mem_append_left bs ht)
    have hbs := isJoin_set haxis fun t ht => h.agrees t (List.mem_append_right as ht)
    refine ⟨_, _, has, hbs, fun t ht => ?_, ?_⟩
    · rcases List.mem_pair.1 ht with rfl | rfl
      · exact agreesOff_set axis s _
      · exact agreesOff_set axis s _
    · rw [hpair, ← has.total, ← hbs.total, ← sizesOn_append, h.total]

end Shape

namespace Rule

open Shape (AgreesOff IsJoin sizesOn)

variable {axis : Nat} {dim : Int} {s t : Shape} {shapes as bs ps : List Shape}

/-- **Shapes are joined to what they come to**, along an axis that the result has. -/
theorem concat_eq_ok_iff_isJoin (haxis : Shape.axis? dim s.length = some axis)
    (hshapes : shapes ≠ []) : concat shapes dim = .ok s ↔ IsJoin axis shapes s := by
  constructor
  · intro h
    obtain ⟨first, rest, rfl⟩ := List.exists_cons_of_ne_nil hshapes
    cases rest with
    | nil =>
      cases h
      exact Shape.isJoin_singleton_iff.2 rfl
    | cons second rest =>
      obtain ⟨along, halong, hoff, rfl⟩ := concat_eq_ok_iff.1 h
      rw [List.length_set, halong] at haxis
      cases haxis
      refine Shape.isJoin_set (Shape.axis?_eq_some_iff.1 halong).2 ?_
      exact List.forall_mem_cons.2 ⟨AgreesOff.refl axis first, hoff⟩
  · intro h
    exact concat_of_agreesOff haxis hshapes h.agrees h.total

/-- What two or more shapes are joined to has the axis that the index means. -/
theorem exists_axis_of_concat (hmany : 2 ≤ shapes.length) (h : concat shapes dim = .ok s) :
    ∃ axis, Shape.axis? dim s.length = some axis := by
  match shapes with
  | first :: second :: rest =>
    obtain ⟨along, halong, -, rfl⟩ := concat_eq_ok_iff.1 h
    exact ⟨along, by rw [List.length_set, halong]⟩

/-- Two groups are joined, and then their joins, to what the two groups come to. -/
theorem concat_groups_eq_ok_iff_isJoin (haxis : Shape.axis? dim s.length = some axis)
    (has : as ≠ []) (hbs : bs ≠ []) :
    (concat as dim >>= fun a => concat bs dim >>= fun b => concat [a, b] dim) = .ok s ↔
      ∃ a b, IsJoin axis as a ∧ IsJoin axis bs b ∧ IsJoin axis [a, b] s := by
  -- the join of a group has the rank of the result, and so the same axis
  have hgroup : ∀ {a b t : Shape} {ts : List Shape}, IsJoin axis [a, b] s → t ∈ [a, b] → ts ≠ [] →
      (concat ts dim = .ok t ↔ IsJoin axis ts t) := by
    intro a b t ts hjoin ht hts
    refine concat_eq_ok_iff_isJoin ?_ hts
    rwa [(hjoin.agrees t ht).rank]
  simp only [except_bind_eq_ok_iff, concat_eq_ok_iff_isJoin haxis (List.cons_ne_nil _ _)]
  constructor
  · rintro ⟨a, ha, b, hb, hjoin⟩
    exact ⟨a, b, (hgroup hjoin (by simp) has).1 ha, (hgroup hjoin (by simp) hbs).1 hb, hjoin⟩
  · rintro ⟨a, b, ha, hb, hjoin⟩
    exact ⟨a, (hgroup hjoin (by simp) has).2 ha, b, (hgroup hjoin (by simp) hbs).2 hb, hjoin⟩

theorem concat_groups_eq_ok_iff (has : as ≠ []) (hbs : bs ≠ []) :
    (concat as dim >>= fun a => concat bs dim >>= fun b => concat [a, b] dim) = .ok s ↔
      concat (as ++ bs) dim = .ok s := by
  have hne : as ++ bs ≠ [] := List.append_ne_nil_of_left_ne_nil has bs
  have hsame : ∀ axis, Shape.axis? dim s.length = some axis →
      ((concat as dim >>= fun a => concat bs dim >>= fun b => concat [a, b] dim) = .ok s ↔
        concat (as ++ bs) dim = .ok s) := by
    intro axis haxis
    rw [concat_groups_eq_ok_iff_isJoin haxis has hbs, concat_eq_ok_iff_isJoin haxis hne]
    exact Shape.exists_isJoin_pair_iff (Shape.axis?_eq_some_iff.1 haxis).2
  constructor
  · intro h
    obtain ⟨a, -, hrest⟩ := except_bind_eq_ok_iff.1 h
    obtain ⟨b, -, hpair⟩ := except_bind_eq_ok_iff.1 hrest
    have hmany : 2 ≤ [a, b].length := Nat.le_refl 2
    obtain ⟨axis, haxis⟩ := exists_axis_of_concat hmany hpair
    exact (hsame axis haxis).1 h
  · intro h
    have hmany : 2 ≤ (as ++ bs).length := by
      rw [List.length_append]
      exact Nat.add_le_add (List.length_pos_iff.2 has) (List.length_pos_iff.2 hbs)
    obtain ⟨axis, haxis⟩ := exists_axis_of_concat hmany h
    exact (hsame axis haxis).2 h

/-- Operands in another order are joined to the same shape. -/
theorem concat_of_perm (hperm : ps.Perm as) (h : concat as dim = .ok s) :
    concat ps dim = .ok s := by
  match as with
  | [] => cases h
  | [a] => rwa [List.perm_singleton.1 hperm]
  | first :: second :: rest =>
    have hmany : 2 ≤ (first :: second :: rest).length := by simp
    obtain ⟨axis, haxis⟩ := exists_axis_of_concat hmany h
    have hne : ps ≠ [] := fun hnil => by simpa [hnil] using hperm.length_eq
    rw [concat_eq_ok_iff_isJoin haxis (List.cons_ne_nil _ _)] at h
    exact (concat_eq_ok_iff_isJoin haxis hne).2 (h.perm hperm)

/-- Two computations both give the same shape, or both report a cause of the node. -/
abbrev SameOrRefused (r r' : Except Issue Shape) : Prop :=
  Alike (fun e d => e.OfNode ∧ d.OfNode) Eq r r'

/-- **Operands may be joined in groups and in any order.** Joining two groups and then their joins
gives what joining all gives, and another order of the operands changes nothing; where one side
fails, the other fails as well. -/
theorem concat_regroups_and_reorders (dim : Int) (has : as ≠ []) (hbs : bs ≠ [])
    (hperm : ps.Perm as) :
    SameOrRefused
        (do let a ← concat as dim
            let b ← concat bs dim
            concat [a, b] dim)
        (concat (as ++ bs) dim) ∧
      SameOrRefused (concat ps dim) (concat as dim) := by
  constructor
  · refine alike_of_ok_iff (fun s => concat_groups_eq_ok_iff has hbs) ?_ (failsOnly_concat _ dim)
    exact (failsOnly_concat as dim).bind fun a => (failsOnly_concat bs dim).bind fun b =>
      failsOnly_concat [a, b] dim
  · refine alike_of_ok_iff (fun s => ?_) (failsOnly_concat ps dim) (failsOnly_concat as dim)
    exact ⟨concat_of_perm hperm.symm, concat_of_perm hperm⟩

/-- Columns are joined in two groups, and the first two of them in the other order. -/
theorem concat_regroups_and_reorders_of_columns :
    [[2, 3], [2, 1]].Perm [[2, 1], [2, (3 : Int)]] ∧
      SameOrRefused
        (do let a ← concat [[2, 1], [2, 3]] (-1)
            let b ← concat [[2, 4]] (-1)
            concat [a, b] (-1))
        (concat [[2, 1], [2, 3], [2, 4]] (-1)) ∧
      SameOrRefused (concat [[2, 3], [2, 1]] (-1)) (concat [[2, 1], [2, 3]] (-1)) ∧
      concat [[2, 1], [2, 3], [2, 4]] (-1) = .ok [2, 8] := by
  have hperm : [[2, 3], [2, 1]].Perm [[2, 1], [2, (3 : Int)]] := by decide
  have hpair : [[2, 1], [2, (3 : Int)]] ≠ [] := List.cons_ne_nil _ _
  have hlast : [[2, (4 : Int)]] ≠ [] := List.cons_ne_nil _ _
  obtain ⟨hgroups, horder⟩ := concat_regroups_and_reorders (-1) hpair hlast hperm
  exact ⟨hperm, hgroups, horder, by decide⟩

/-- Single operands are taken as they are, so that in groups of one the index is refused by the
outer join only. -/
example : concat [[2, 3]] 5 = .ok [2, 3] ∧
    concat [[2, 3], [4, 3]] 5 = .error (.axisRange "prim::FusedConcat" 5 2) := by
  decide

end Rule

end ShapeFlow
