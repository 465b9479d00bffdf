import ShapeFlow.Proofs.Rule.Broadcasting

/-!
# Laws of broadcasting

Sizes on one axis, or the lack of one, are put together by `Shape.joint` where they fit. This is
commutative and idempotent, having no size is neutral, and it does not matter which two of three
sizes are put together first: they fit in one order if and only if they fit in the other
(`Shape.fits_assoc`), and then come to the same (`Shape.joint_assoc`). Since broadcasting works axis
by axis, the same laws hold of whole shapes, failures included (`Shape.broadcast_assoc_iff`), and of
arithmetic as long as no second operand has rank one (`Rule.binary_partial_monoid`).
-/

set_option autoImplicit false

namespace ShapeFlow

namespace Shape

/-! ## One axis -/

theorem Matches.symm {x y : Int} (h : Matches x y) : Matches y x := by
  rcases h with rfl | rfl | rfl
  · exact Or.inl rfl
  · exact Or.inr (Or.inr rfl)
  · exact Or.inr (Or.inl rfl)

theorem Fits.symm {x y : Option Int} (h : Fits x y) : Fits y x := by
  intro u v hu hv
  exact (h v u hv hu).symm

theorem joint_comm {x y : Option Int} (h : Fits x y) : joint x y = joint y x := by
  cases x with
  | none => rw [joint_none_right, joint]
  | some x =>
    cases y with
    | none => rfl
    | some y =>
      have hmatch := fits_some_iff.1 h
      simp only [joint, Option.some.injEq]
      unfold Matches at hmatch
      split_ifs <;> omega

theorem fits_self (x : Option Int) : Fits x x := by
  intro u v hu hv
  exact Or.inl (Option.some.inj (hu.symm.trans hv))

theorem joint_self (x : Option Int) : joint x x = x := by
  cases x with
  | none => rfl
  | some x => simp [joint]

/-- If three sizes fit in one order of putting them together, they fit in the other one. -/
theorem fits_assoc {x y z : Option Int} (h : Fits x y) (h' : Fits (joint x y) z) :
    Fits y z ∧ Fits x (joint y z) := by
  cases x with
  | none => exact ⟨h', fits_none_left _⟩
  | some x =>
    cases y with
    | none => exact ⟨fits_none_left z, h'⟩
    | some y =>
      cases z with
      | none => exact ⟨fits_none_right _, h⟩
      | some z =>
        simp only [joint, fits_some_iff, Matches] at h h' ⊢
        split_ifs at h' ⊢ <;> omega

/-- Putting three sizes together gives the same in both orders. -/
theorem joint_assoc {x y z : Option Int} (h : Fits x y) :
    joint (joint x y) z = joint x (joint y z) := by
  cases x with
  | none => rfl
  | some x =>
    cases y with
    | none => rfl
    | some y =>
      cases z with
      | none => rfl
      | some z =>
        have hmatch := fits_some_iff.1 h
        unfold Matches at hmatch
        simp only [joint, Option.some.injEq]
        split_ifs <;> omega

/-! ## All axes -/

variable {a b c s t : Shape}

theorem broadcast_comm_iff : broadcast a b = .ok s ↔ broadcast b a = .ok s := by
  have hswap : ∀ {a b : Shape}, broadcast a b = .ok s → broadcast b a = .ok s := by
    intro a b h
    obtain ⟨hfits, hjoint⟩ := broadcast_eq_ok_iff.1 h
    refine broadcast_eq_ok_iff.2 ⟨fun i => (hfits i).symm, fun i => ?_⟩
    rw [hjoint i, joint_comm (hfits i)]
  exact ⟨hswap, hswap⟩

theorem broadcast_self (a : Shape) : broadcast a a = .ok a :=
  broadcast_eq_ok_iff.2 ⟨fun _ => fits_self _, fun _ => (joint_self _).symm⟩

theorem broadcast_nil_left (a : Shape) : broadcast [] a = .ok a :=
  broadcast_eq_ok_iff.2 ⟨fun _ => fits_none_left _, fun _ => rfl⟩

theorem broadcast_nil_right (a : Shape) : broadcast a [] = .ok a :=
  broadcast_comm_iff.1 (broadcast_nil_left a)

theorem length_of_broadcast (h : broadcast a b = .ok s) : s.length = max a.length b.length :=
  length_of_joint (broadcast_eq_ok_iff.1 h).2

theorem exists_broadcast_of_broadcast (hab : broadcast a b = .ok s) (hsc : broadcast s c = .ok t) :
    ∃ r, broadcast b c = .ok r ∧ broadcast a r = .ok t := by
  obtain ⟨hfits, hs⟩ := broadcast_eq_ok_iff.1 hab
  obtain ⟨hfits', ht⟩ := broadcast_eq_ok_iff.1 hsc
  have hassoc : ∀ i, Fits (b.fromRight? i) (c.fromRight? i) ∧
      Fits (a.fromRight? i) (joint (b.fromRight? i) (c.fromRight? i)) := by
    intro i
    have hsi := hfits' i
    rw [hs i] at hsi
    exact fits_assoc (hfits i) hsi
  -- the second and the third shape fit as well, and axis by axis it is known what they come to
  obtain ⟨r, hr⟩ := exists_broadcast_iff.2 fun i => (hassoc i).1
  have hjoint := (broadcast_eq_ok_iff.1 hr).2
  refine ⟨r, hr, broadcast_eq_ok_iff.2 ⟨fun i => ?_, fun i => ?_⟩⟩
  · rw [hjoint i]
    exact (hassoc i).2
  · rw [ht i, hs i, hjoint i, joint_assoc (hfits i)]

/-- Three shapes broadcast to the same in both groupings, and fail in both or in none. -/
theorem broadcast_assoc_iff :
    (∃ s, broadcast a b = .ok s ∧ broadcast s c = .ok t) ↔
      ∃ s, broadcast b c = .ok s ∧ broadcast a s = .ok t := by
  constructor
  · rintro ⟨s, hab, hsc⟩
    exact exists_broadcast_of_broadcast hab hsc
  · rintro ⟨s, hbc, has⟩
    -- read from the other end, this is the same regrouping
    obtain ⟨r, hba, hcr⟩ :=
      exists_broadcast_of_broadcast (broadcast_comm_iff.1 hbc) (broadcast_comm_iff.1 has)
    exact ⟨r, broadcast_comm_iff.1 hba, broadcast_comm_iff.1 hcr⟩

end Shape

/-- The cause is a pair of sizes that disagree. -/
def Issue.IsSizeClash (i : Issue) : Prop := ∃ x y, i.report.category = .sizes x y

theorem Shape.failsOnly_broadcast (a b : Shape) :
    FailsOnly Issue.IsSizeClash (Shape.broadcast a b) := by
  intro e he
  obtain ⟨i, x, y, -, rfl⟩ := Shape.broadcast_eq_error_iff.1 he
  exact ⟨x, y, rfl⟩

namespace Rule

/-- Two computations both give the same, or they both report sizes that disagree. -/
abbrev SameOrClash (r r' : Except Issue Shape) : Prop :=
  Alike (fun e d => e.IsSizeClash ∧ d.IsSizeClash) Eq r r'

theorem binary_eq_broadcast {a b : Shape} (hb : b.length ≠ 1) :
    binary [a, b] = Shape.broadcast a b := if_neg hb

/-- Two shapes of a rank other than one broadcast to a shape of a rank other than one. -/
theorem bind_binary_of_broadcast {b c : Shape} (hb : b.length ≠ 1) (hc : c.length ≠ 1)
    (a : Shape) :
    (Shape.broadcast b c >>= fun s => binary [a, s]) =
      Shape.broadcast b c >>= fun s => Shape.broadcast a s := by
  cases hs : Shape.broadcast b c with
  | error e => rfl
  | ok s =>
    have hlength := Shape.length_of_broadcast hs
    exact binary_eq_broadcast (by omega)

/-- **Arithmetic on shapes is a partial commutative idempotent monoid away from rank one**: the
operands may be exchanged, a shape with itself gives itself, the empty shape is neutral on both
sides, and of three shapes any two neighbours may be combined first. Where one side fails the other
fails too, each by sizes that disagree. -/
theorem binary_partial_monoid {a b c : Shape} (ha : a.length ≠ 1) (hb : b.length ≠ 1)
    (hc : c.length ≠ 1) :
    SameOrClash (binary [a, b]) (binary [b, a]) ∧
      binary [a, a] = .ok a ∧ binary [[], a] = .ok a ∧ binary [a, []] = .ok a ∧
      SameOrClash (binary [a, b] >>= fun s => binary [s, c])
        (binary [b, c] >>= fun s => binary [a, s]) := by
  have hnil : binary [a, []] = Shape.broadcast a [] := binary_eq_broadcast (by decide)
  simp only [binary_eq_broadcast ha, binary_eq_broadcast hb, binary_eq_broadcast hc, hnil,
    bind_binary_of_broadcast hb hc]
  refine ⟨?_, Shape.broadcast_self a, Shape.broadcast_nil_left a, Shape.broadcast_nil_right a, ?_⟩
  · exact alike_of_ok_iff (fun s => Shape.broadcast_comm_iff) (Shape.failsOnly_broadcast a b)
      (Shape.failsOnly_broadcast b a)
  · refine alike_of_ok_iff (fun t => ?_) ?_ ?_
    · rw [except_bind_eq_ok_iff, except_bind_eq_ok_iff]
      exact Shape.broadcast_assoc_iff
    · exact (Shape.failsOnly_broadcast a b).bind fun s => Shape.failsOnly_broadcast s c
    · exact (Shape.failsOnly_broadcast b c).bind fun s => Shape.failsOnly_broadcast a s

/-- Four and two disagree in the inner combination of one grouping and in the outer one of the
other. -/
theorem binary_partial_monoid_of_clash :
    SameOrClash (binary [[4, 1], [2, 1]] >>= fun s => binary [s, [1, 5]])
        (binary [[2, 1], [1, 5]] >>= fun s => binary [[4, 1], s]) ∧
      binary [[4, 1], [2, 1]] = .error (.broadcastSizes 0 4 2) ∧
      binary [[2, 1], [1, 5]] = .ok [2, 5] := by
  obtain ⟨-, -, -, -, hassoc⟩ :=
    binary_partial_monoid (a := [4, 1]) (b := [2, 1]) (c := [1, 5]) (by decide) (by decide)
      (by decide)
  exact ⟨hassoc, by decide, by decide⟩

end Rule

end ShapeFlow
