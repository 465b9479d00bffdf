import ShapeFlow.Rule.Chunk
import ShapeFlow.Proofs.Failure.Results
import Mathlib.Algebra.Ring.Int.Defs
import Mathlib.Tactic.SplitIfs

/-!
# Shapes laid one behind another

Two shapes can be laid one behind the other along an axis if they agree off it (`Shape.AgreesOff`):
they have the same rank, and the same size on every other axis. The sizes on the axis itself are
added up. This is so for one more shape (`Rule.join_eq_ok_iff`), for any number of them
(`Rule.joinAll_eq_ok_iff`), and for the operands of a concatenation (`Rule.concat_eq_ok_iff`).
-/

set_option autoImplicit false

namespace ShapeFlow

namespace Shape

/-- Two shapes have the same rank, and the same sizes on all axes but one. -/
structure AgreesOff (axis : Nat) (s t : Shape) : Prop where
  rank : t.length = s.length
  sizes : ∀ i, i ≠ axis → t[i]? = s[i]?

/-- The sizes of shapes on one axis. -/
def sizesOn (axis : Nat) (shapes : List Shape) : List Int := shapes.map (·.getD axis 0)

variable {axis : Nat} {s t u : Shape}

theorem AgreesOff.refl (axis : Nat) (s : Shape) : AgreesOff axis s s := ⟨rfl, fun _ _ => rfl⟩

theorem AgreesOff.symm (h : AgreesOff axis s t) : AgreesOff axis t s :=
  ⟨h.rank.symm, fun i hi => (h.sizes i hi).symm⟩

theorem AgreesOff.trans (h : AgreesOff axis s t) (h' : AgreesOff axis t u) : AgreesOff axis s u :=
  ⟨h'.rank.trans h.rank, fun i hi => (h'.sizes i hi).trans (h.sizes i hi)⟩

theorem agreesOff_set (axis : Nat) (s : Shape) (d : Int) : AgreesOff axis s (s.set axis d) :=
  ⟨List.length_set, fun _ hi => List.getElem?_set_ne hi.symm⟩

theorem getD_set {d : Int} (h : axis < s.length) : (s.set axis d).getD axis 0 = d := by
  rw [List.getD_eq_getElem?_getD, List.getElem?_set_self h, Option.getD_some]

/-- Shapes that agree off an axis are equal if they have the same size on it as well. -/
theorem AgreesOff.eq (h : AgreesOff axis s t) (hsize : t.getD axis 0 = s.getD axis 0) : t = s := by
  apply List.ext_getElem?
  intro i
  by_cases hi : i = axis
  · subst hi
    by_cases hlt : i < s.length
    · have hlt' : i < t.length := h.rank ▸ hlt
      simp only [List.getD_eq_getElem?_getD, List.getElem?_eq_getElem hlt,
        List.getElem?_eq_getElem hlt', Option.getD_some] at hsize
      rw [List.getElem?_eq_getElem hlt', List.getElem?_eq_getElem hlt, hsize]
    · have hge : s.length ≤ i := Nat.not_lt.1 hlt
      rw [List.getElem?_eq_none hge, List.getElem?_eq_none (h.rank ▸ hge)]
  · exact h.sizes i hi

theorem agreesOff_cons_zero_iff {a b : Int} {as bs : List Int} :
    AgreesOff 0 (a :: as) (b :: bs) ↔ bs = as := by
  constructor
  · intro h
    apply List.ext_getElem?
    intro i
    exact h.sizes (i + 1) (Nat.succ_ne_zero i)
  · rintro rfl
    refine ⟨rfl, fun i hi => ?_⟩
    cases i with
    | zero => exact absurd rfl hi
    | succ i => rfl

theorem agreesOff_cons_succ_iff {a b : Int} {as bs : List Int} :
    AgreesOff (axis + 1) (a :: as) (b :: bs) ↔ a = b ∧ AgreesOff axis as bs := by
  constructor
  · intro h
    have hfirst : some b = some a := h.sizes 0 (Nat.succ_ne_zero axis).symm
    refine ⟨(Option.some.inj hfirst).symm, Nat.succ.inj h.rank, fun i hi => ?_⟩
    exact h.sizes (i + 1) (fun heq => hi (Nat.succ.inj heq))
  · rintro ⟨rfl, hrank, hsizes⟩
    refine ⟨congrArg Nat.succ hrank, fun i hi => ?_⟩
    cases i with
    | zero => rfl
    | succ i => exact hsizes i (fun heq => hi (congrArg Nat.succ heq))

end Shape

namespace Rule

open Shape (AgreesOff sizesOn)

theorem axis_eq_ok_iff {op : String} {dim : Int} {rank a : Nat} :
    axis op dim rank = .ok a ↔ Shape.axis? dim rank = some a := by
  unfold axis
  cases Shape.axis? dim rank with
  | none => simp
  | some b => simp

section Join

variable {input along dim k : Nat} {a b : Int} {as bs cs : List Int}

/-- Off the axis of concatenation two sizes must agree. -/
theorem joinSizes_cons_of_ne (hdim : dim ≠ along) :
    joinSizes input along dim (a :: as) (b :: bs) = .ok cs ↔
      a = b ∧ ∃ sizes, joinSizes input along (dim + 1) as bs = .ok sizes ∧ cs = a :: sizes := by
  rw [joinSizes, if_neg hdim]
  split_ifs with hab
  · rw [except_bind_eq_ok_iff, and_iff_right hab]
    refine exists_congr fun sizes => and_congr_right fun _ => ?_
    exact ⟨fun h => (Except.ok.inj h).symm, fun h => congrArg Except.ok h.symm⟩
  · constructor
    · intro h
      cases h
    · rintro ⟨h, -⟩
      exact absurd h hab

/-- On the axis of concatenation two sizes are added. -/
theorem joinSizes_cons_self :
    joinSizes input along along (a :: as) (b :: bs) = .ok cs ↔
      ∃ sizes, joinSizes input along (along + 1) as bs = .ok sizes ∧ cs = (a + b) :: sizes := by
  rw [joinSizes, if_pos rfl, except_bind_eq_ok_iff]
  refine exists_congr fun sizes => and_congr_right fun _ => ?_
  exact ⟨fun h => (Except.ok.inj h).symm, fun h => congrArg Except.ok h.symm⟩

/-- Behind the axis of concatenation all sizes must agree, and they stay as they are. -/
theorem joinSizes_behind (hlt : along < dim) (hlength : bs.length = as.length) :
    joinSizes input along dim as bs = .ok cs ↔ bs = as ∧ cs = as := by
  induction as generalizing dim bs cs with
  | nil =>
    obtain rfl := List.eq_nil_of_length_eq_zero hlength
    simp [joinSizes, eq_comm]
  | cons a as ih =>
    cases bs with
    | nil => cases hlength
    | cons b bs =>
      have hrest : bs.length = as.length := Nat.succ.inj hlength
      rw [joinSizes_cons_of_ne (Nat.ne_of_gt hlt)]
      constructor
      · rintro ⟨rfl, sizes, hsizes, rfl⟩
        obtain ⟨rfl, rfl⟩ := (ih (Nat.lt_succ_of_lt hlt) hrest).1 hsizes
        exact ⟨rfl, rfl⟩
      · rintro ⟨hbs, rfl⟩
        obtain ⟨rfl, rfl⟩ := List.cons.inj hbs
        exact ⟨rfl, bs, (ih (Nat.lt_succ_of_lt hlt) rfl).2 ⟨rfl, rfl⟩, rfl⟩

/-- Two shapes from some axis on, with `k` axes to go to that of concatenation. -/
theorem joinSizes_eq_ok_iff (hlength : bs.length = as.length) :
    joinSizes input (dim + k) dim as bs = .ok cs ↔
      AgreesOff k as bs ∧ cs = as.set k (as.getD k 0 + bs.getD k 0) := by
  induction as generalizing dim k bs cs with
  | nil =>
    obtain rfl := List.eq_nil_of_length_eq_zero hlength
    have hself : AgreesOff k [] [] := ⟨rfl, fun _ _ => rfl⟩
    simp [joinSizes, hself, eq_comm]
  | cons a as ih =>
    cases bs with
    | nil => cases hlength
    | cons b bs =>
      have hrest : bs.length = as.length := Nat.succ.inj hlength
      cases k with
      | zero =>
        -- the axis is reached, and nothing behind it may differ
        rw [Nat.add_zero, joinSizes_cons_self, Shape.agreesOff_cons_zero_iff]
        constructor
        · rintro ⟨sizes, hsizes, rfl⟩
          obtain ⟨rfl, rfl⟩ := (joinSizes_behind (Nat.lt_succ_self dim) hrest).1 hsizes
          exact ⟨rfl, rfl⟩
        · rintro ⟨rfl, rfl⟩
          exact ⟨bs, (joinSizes_behind (Nat.lt_succ_self dim) rfl).2 ⟨rfl, rfl⟩, rfl⟩
      | succ k =>
        have hdim : dim + (k + 1) = dim + 1 + k := by omega
        rw [joinSizes_cons_of_ne (by omega), Shape.agreesOff_cons_succ_iff, hdim]
        constructor
        · rintro ⟨hab, sizes, hsizes, rfl⟩
          obtain ⟨hoff, rfl⟩ := (ih hrest).1 hsizes
          exact ⟨⟨hab, hoff⟩, rfl⟩
        · rintro ⟨⟨hab, hoff⟩, rfl⟩
          exact ⟨hab, _, (ih hrest).2 ⟨hoff, rfl⟩, rfl⟩

end Join

variable {input along : Nat} {joined other s : Shape} {shapes : List Shape}

/-- One more shape is laid behind the others exactly if it agrees with them off the axis, and its
size there is added. -/
theorem join_eq_ok_iff :
    join input along joined other = .ok s ↔
      AgreesOff along joined other ∧
        s = joined.set along (joined.getD along 0 + other.getD along 0) := by
  unfold join
  split_ifs with hrank
  · have h := @joinSizes_eq_ok_iff input 0 along joined other s hrank
    rwa [Nat.zero_add] at h
  · constructor
    · intro h
      cases h
    · rintro ⟨hoff, -⟩
      exact absurd hoff.rank hrank

/-- Shapes are laid behind those joined so far exactly if all of them agree with these off the axis,
and all their sizes there are added. -/
theorem joinAll_eq_ok_iff (halong : along < joined.length) :
    joinAll along input joined shapes = .ok s ↔
      (∀ t ∈ shapes, AgreesOff along joined t) ∧
        s = joined.set along (joined.getD along 0 + (sizesOn along shapes).sum) := by
  induction shapes generalizing input joined with
  | nil =>
    have hself : joined.set along (joined.getD along 0 + (sizesOn along []).sum) = joined := by
      apply (Shape.agreesOff_set along joined _).eq
      rw [Shape.getD_set halong]
      exact Int.add_zero _
    rw [joinAll, hself]
    simp [eq_comm]
  | cons other rest ih =>
    -- what is joined next agrees with what was joined before, and has one more size added
    let next := joined.set along (joined.getD along 0 + other.getD along 0)
    have hoff : AgreesOff along joined next := Shape.agreesOff_set along joined _
    have hnext : next.getD along 0 = joined.getD along 0 + other.getD along 0 :=
      Shape.getD_set halong
    have hset : ∀ d, next.set along d = joined.set along d := fun _ => List.set_set _
    have hrest := @ih (input + 1) next (by rwa [hoff.rank])
    have hsum : (sizesOn along (other :: rest)).sum =
        other.getD along 0 + (sizesOn along rest).sum := List.sum_cons
    rw [hnext, hset, Int.add_assoc, ← hsum] at hrest
    rw [joinAll, except_bind_eq_ok_iff, List.forall_mem_cons]
    constructor
    · rintro ⟨_, hjoin, hall⟩
      obtain ⟨hother, rfl⟩ := join_eq_ok_iff.1 hjoin
      obtain ⟨hagree, rfl⟩ := hrest.1 hall
      exact ⟨⟨hother, fun t ht => hoff.trans (hagree t ht)⟩, rfl⟩
    · rintro ⟨⟨hother, hagree⟩, rfl⟩
      refine ⟨next, join_eq_ok_iff.2 ⟨hother, rfl⟩, hrest.2 ⟨fun t ht => ?_, rfl⟩⟩
      exact hoff.symm.trans (hagree t ht)

/-- **Two or more shapes are joined exactly if the index means an axis of the first of them and all
agree off it.** The result is the first shape with the sum of all sizes on the axis. -/
theorem concat_eq_ok_iff {first second : Shape} {rest : List Shape} {dim : Int} :
    concat (first :: second :: rest) dim = .ok s ↔
      ∃ along, Shape.axis? dim first.length = some along ∧
        (∀ t ∈ second :: rest, AgreesOff along first t) ∧
        s = first.set along (sizesOn along (first :: second :: rest)).sum := by
  rw [concat, except_bind_eq_ok_iff]
  · refine exists_congr fun along => ?_
    rw [axis_eq_ok_iff]
    refine and_congr_right fun haxis => ?_
    exact joinAll_eq_ok_iff (Shape.axis?_eq_some_iff.1 haxis).2
  · intro h
    cases h

/-- Shapes that agree with a shape off an axis, and whose sizes on the axis add up to its own, give
that shape when they are joined. -/
theorem concat_of_agreesOff {shape : Shape} {dim : Int} {axis : Nat} {parts : List Shape}
    (haxis : Shape.axis? dim shape.length = some axis) (hparts : parts ≠ [])
    (hoff : ∀ p ∈ parts, AgreesOff axis shape p)
    (htotal : (sizesOn axis parts).sum = shape.getD axis 0) :
    concat parts dim = .ok shape := by
  obtain ⟨first, rest, rfl⟩ := List.exists_cons_of_ne_nil hparts
  obtain ⟨hfirst, hrest⟩ := List.forall_mem_cons.1 hoff
  cases rest with
  | nil =>
    -- a single part is given back whatever the index, so it has to be the shape itself
    have hsize : first.getD axis 0 = shape.getD axis 0 := by
      rw [← htotal]
      exact (Int.add_zero _).symm
    exact congrArg Except.ok (hfirst.eq hsize)
  | cons second rest =>
    have hlt : axis < first.length := by
      rw [hfirst.rank]
      exact (Shape.axis?_eq_some_iff.1 haxis).2
    refine concat_eq_ok_iff.2 ⟨axis, ?_, fun t ht => hfirst.symm.trans (hrest t ht), ?_⟩
    · rwa [hfirst.rank]
    · have hjoined := hfirst.trans (Shape.agreesOff_set axis first (shape.getD axis 0))
      rw [htotal]
      exact (hjoined.eq (Shape.getD_set hlt)).symm

end Rule

end ShapeFlow
