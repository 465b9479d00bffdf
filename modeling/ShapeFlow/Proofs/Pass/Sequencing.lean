import ShapeFlow.Pass.Progress
import ShapeFlow.Proofs.Graph.Availability

/-!
# Steps one after another

A composed step gives a value exactly when both of its parts do, and fails exactly when the first
part fails, or gives a value with which the second part fails (`Pass.run_bind_eq_ok_iff`,
`Pass.run_bind_eq_error_iff`). With these two a run of a longer step comes apart into runs of its
parts. Reading records in order fails by the first id without one (`Pass.readAll_eq_error`), which
is the one that the order check looks for.
-/

set_option autoImplicit false

namespace ShapeFlow.Pass

variable {α β : Type} {p q : Progress} {e : Failure}

@[simp] theorem run_ofExcept (r : Except Failure α) (p : Progress) :
    (ofExcept r).runFrom p = (r, p) := rfl

theorem run_bind_eq_ok_iff {step : Pass α} {next : α → Pass β} {b : β} :
    (step >>= next).runFrom p = (.ok b, q) ↔
      ∃ a r, step.runFrom p = (.ok a, r) ∧ (next a).runFrom r = (.ok b, q) := by
  rcases hstep : step.runFrom p with ⟨result, r⟩
  cases result with
  | ok a =>
    rw [run_bind_ok hstep]
    constructor
    · exact fun h => ⟨a, r, rfl, h⟩
    · rintro ⟨a', r', heq, h⟩
      cases heq
      exact h
  | error f =>
    rw [run_bind_error hstep]
    constructor
    · intro h
      cases h
    · rintro ⟨a', r', heq, -⟩
      cases heq

theorem run_bind_eq_error_iff {step : Pass α} {next : α → Pass β} :
    (step >>= next).runFrom p = (.error e, q) ↔
      step.runFrom p = (.error e, q) ∨
        ∃ a r, step.runFrom p = (.ok a, r) ∧ (next a).runFrom r = (.error e, q) := by
  rcases hstep : step.runFrom p with ⟨result, r⟩
  cases result with
  | ok a =>
    rw [run_bind_ok hstep]
    constructor
    · exact fun h => Or.inr ⟨a, r, rfl, h⟩
    · rintro (heq | ⟨a', r', heq, h⟩)
      · cases heq
      · cases heq
        exact h
  | error f =>
    rw [run_bind_error hstep]
    constructor
    · exact fun h => Or.inl (by cases h; rfl)
    · rintro (heq | ⟨a', r', heq, -⟩)
      · cases heq
        rfl
      · cases heq

theorem run_mapFailure_eq_ok_iff {f : Failure → Failure} {step : Pass α} {a : α} :
    (mapFailure f step).runFrom p = (.ok a, q) ↔ step.runFrom p = (.ok a, q) := by
  unfold runFrom mapFailure
  rcases step p with ⟨result, r⟩
  cases result with
  | ok a' => exact Iff.rfl
  | error d => simp

theorem run_mapFailure_eq_error_iff {f : Failure → Failure} {step : Pass α} :
    (mapFailure f step).runFrom p = (.error e, q) ↔
      ∃ d, step.runFrom p = (.error d, q) ∧ e = f d := by
  unfold runFrom mapFailure
  rcases step p with ⟨result, r⟩
  cases result with
  | ok a' => simp
  | error d =>
    constructor
    · intro h
      cases h
      exact ⟨d, rfl, rfl⟩
    · rintro ⟨d', heq, rfl⟩
      cases heq
      rfl

theorem run_write_of_mem {names : Naming} {id : ValueId} (m : Meta) (h : id ∈ p.store.ids) :
    (write names id m).runFrom p = (.error (names.blame id .duplicateValue), p) := by
  unfold runFrom write
  rw [Store.write_of_mem h]

theorem run_write_of_not_mem {names : Naming} {id : ValueId} (m : Meta) (h : id ∉ p.store.ids) :
    (write names id m).runFrom p = (.ok (), { p with store := p.store.insert id m h }) := by
  unfold runFrom write
  rw [Store.write_of_not_mem h]

/-- A write that succeeds adds its record behind the others. -/
theorem run_write_eq_ok {names : Naming} {id : ValueId} {m : Meta}
    (h : (write names id m).runFrom p = (.ok (), q)) :
    id ∉ p.store.ids ∧ q.store.entries = p.store.entries ++ [(id, m)] := by
  by_cases hid : id ∈ p.store.ids
  · rw [run_write_of_mem m hid] at h
    cases h
  · rw [run_write_of_not_mem m hid] at h
    cases h
    exact ⟨hid, rfl⟩

/-- A write that fails changes nothing and blames the id, which has a record already. -/
theorem run_write_eq_error {names : Naming} {id : ValueId} {m : Meta}
    (h : (write names id m).runFrom p = (.error e, q)) :
    id ∈ p.store.ids ∧ q = p ∧ e = names.blame id .duplicateValue := by
  by_cases hid : id ∈ p.store.ids
  · rw [run_write_of_mem m hid] at h
    cases h
    exact ⟨hid, rfl, rfl⟩
  · rw [run_write_of_not_mem m hid] at h
    cases h

/-! ## Reading records in order -/

theorem readAll_of_firstMissing? {names : Naming} {s : Store} {ids : List ValueId} {id : ValueId}
    (h : Graph.firstMissing? s.ids ids = some id) :
    readAll names ids s = .error (names.blame id .missingValue) := by
  induction ids with
  | nil => cases h
  | cons k rest ih =>
    rw [Graph.firstMissing?_cons] at h
    -- an id that has a record is read by the pass and passed over by the check
    by_cases hk : k ∈ s.ids
    · obtain ⟨m, -, hread⟩ := Store.read_of_mem names hk
      rw [if_pos hk] at h
      rw [readAll, hread, ih h]
      rfl
    · rw [if_neg hk] at h
      cases h
      rw [readAll, Store.read_of_not_mem hk]
      rfl

theorem readAll_of_available (names : Naming) {s : Store} {ids : List ValueId}
    (h : ∀ id ∈ ids, id ∈ s.ids) :
    ∃ ms, ids.map s.find? = ms.map some ∧ readAll names ids s = .ok ms := by
  induction ids with
  | nil => exact ⟨[], rfl, rfl⟩
  | cons id rest ih =>
    obtain ⟨m, hfind, hread⟩ := Store.read_of_mem names (h id List.mem_cons_self)
    obtain ⟨ms, hms, hrest⟩ := ih fun k hk => h k (List.mem_cons_of_mem _ hk)
    exact ⟨m :: ms, by simp [hfind, hms], by rw [readAll, hread, hrest]; rfl⟩

/-- Records that are read are those found, and all ids had one. -/
theorem readAll_eq_ok {names : Naming} {s : Store} {ids : List ValueId} {ms : List Meta}
    (h : readAll names ids s = .ok ms) :
    ids.map s.find? = ms.map some ∧ ∀ id ∈ ids, id ∈ s.ids := by
  cases hmiss : Graph.firstMissing? s.ids ids with
  | some id =>
    rw [readAll_of_firstMissing? hmiss] at h
    cases h
  | none =>
    have havail := Graph.firstMissing?_eq_none_iff.1 hmiss
    obtain ⟨ks, hks, hread⟩ := readAll_of_available names havail
    rw [hread] at h
    cases h
    exact ⟨hks, havail⟩

/-- Reading fails by the first id that has no record. -/
theorem readAll_eq_error {names : Naming} {s : Store} {ids : List ValueId}
    (h : readAll names ids s = .error e) :
    ∃ id, Graph.firstMissing? s.ids ids = some id ∧ e = names.blame id .missingValue := by
  cases hmiss : Graph.firstMissing? s.ids ids with
  | some id =>
    rw [readAll_of_firstMissing? hmiss] at h
    cases h
    exact ⟨id, rfl, rfl⟩
  | none =>
    obtain ⟨ks, -, hread⟩ :=
      readAll_of_available names (Graph.firstMissing?_eq_none_iff.1 hmiss)
    rw [hread] at h
    cases h

end ShapeFlow.Pass
