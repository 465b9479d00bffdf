import ShapeFlow.Store

/-!
# Growth of a store

Records are only ever added behind those that a store holds, so a store grows along `<+:` on its
entries, and what is found under an id stays found (`Store.find?_of_growth`). Records that are added
for a list of ids are found under these ids in order (`Store.map_find?_of_zip`).

Reads and writes that fail name the value at fault. `Naming.blame` is the failure that does so, or
the fault of naming it; `Store.read_of_not_mem` and `Store.write_of_mem` give the failures of the
store by it.
-/

set_option autoImplicit false

namespace ShapeFlow

/-- The failure that puts a cause down to a value; if the value has no name, that is the failure. -/
def Naming.blame (names : Naming) (id : ValueId) (cause : String → Issue) : Failure :=
  match names id with
  | .ok name => (cause name).failure
  | .error f => .fault f

/-- Naming a value in order to fail gives the failure that blames it. -/
theorem Naming.fail_eq_blame {α : Type} (names : Naming) (id : ValueId) (cause : String → Issue) :
    (do let name ← faulted (names id)
        .error (cause name).failure : Except Failure α) = .error (names.blame id cause) := by
  unfold blame
  cases names id with
  | ok name => rfl
  | error f => rfl

theorem Naming.blame_eq_report {names : Naming} {id : ValueId} {cause : String → Issue}
    {r : Report} (h : names.blame id cause = .report r) :
    ∃ name, names id = .ok name ∧ r = (cause name).report := by
  unfold blame at h
  cases hname : names id with
  | ok name =>
    rw [hname] at h
    cases h
    exact ⟨name, rfl, rfl⟩
  | error f =>
    rw [hname] at h
    cases h

theorem Naming.blame_of_name {names : Naming} {id : ValueId} {name : String}
    (h : names id = .ok name) (cause : String → Issue) :
    names.blame id cause = (cause name).failure := by
  rw [blame, h]

namespace Store

variable {s t : Store} {names : Naming} {id : ValueId} {m : Meta}

theorem find?_eq_some_iff : s.find? id = some m ↔ (id, m) ∈ s.entries := by
  constructor
  · intro h
    obtain ⟨before, after, he, -⟩ := List.lookup_eq_some_iff.1 h
    rw [he]
    exact List.mem_append_right _ List.mem_cons_self
  · intro h
    obtain ⟨before, after, he⟩ := List.append_of_mem h
    -- no entry before it has its id, so the look-up gets as far as the entry
    refine List.lookup_eq_some_iff.2 ⟨before, after, he, fun e hmem => ?_⟩
    have hnodup := s.nodup
    rw [he, List.map_append, List.map_cons, List.nodup_append] at hnodup
    have hne := hnodup.2.2 e.1 (List.mem_map_of_mem hmem) id List.mem_cons_self
    simpa using Ne.symm hne

theorem find?_of_growth (h : s.entries <+: t.entries) (hs : s.find? id = some m) :
    t.find? id = some m :=
  find?_eq_some_iff.2 (h.subset (find?_eq_some_iff.1 hs))

/-- What is found under a list of ids is found in every later store as well. -/
theorem map_find?_of_growth (h : s.entries <+: t.entries) {ids : List ValueId} {ms : List Meta}
    (hs : ids.map s.find? = ms.map some) : ids.map t.find? = ms.map some := by
  rw [← hs, List.map_inj_left]
  intro id hid
  have hfound : s.find? id ∈ ms.map some := hs ▸ List.mem_map_of_mem hid
  obtain ⟨m, -, hm⟩ := List.mem_map.1 hfound
  rw [← hm, find?_of_growth h hm.symm]

/-- Records added for ids are found under these ids, in order. -/
theorem map_find?_of_zip {ids : List ValueId} {ms : List Meta} (hlen : ids.length = ms.length)
    (h : t.entries = s.entries ++ ids.zip ms) : ids.map t.find? = ms.map some := by
  -- place by place: the id and the record at one place are an entry of the store
  apply List.ext_getElem
  · simpa using hlen
  · intro i hi hj
    rw [List.length_map] at hi hj
    have hmem : (ids[i], ms[i]) ∈ ids.zip ms :=
      List.mem_iff_getElem.2 ⟨i, by rw [List.length_zip]; omega, List.getElem_zip⟩
    rw [List.getElem_map, List.getElem_map, find?_eq_some_iff, h]
    exact List.mem_append_right _ hmem

theorem ids_of_zip {ids : List ValueId} {ms : List Meta} (hlen : ids.length = ms.length)
    (h : t.entries = s.entries ++ ids.zip ms) : t.ids = s.ids ++ ids := by
  rw [Store.ids, h, List.map_append, List.map_fst_zip (Nat.le_of_eq hlen), Store.ids]

theorem find?_eq_none_of_not_mem (h : id ∉ s.ids) : s.find? id = none := by
  rw [← Option.not_isSome_iff_eq_none, find?_isSome_iff]
  exact h

theorem read_of_mem (names : Naming) (h : id ∈ s.ids) :
    ∃ m, s.find? id = some m ∧ s.read names id = .ok m := by
  obtain ⟨m, hm⟩ := Option.isSome_iff_exists.1 ((find?_isSome_iff s id).2 h)
  exact ⟨m, hm, by rw [read, hm]⟩

theorem read_of_not_mem (h : id ∉ s.ids) :
    s.read names id = .error (names.blame id .missingValue) := by
  rw [read, find?_eq_none_of_not_mem h]
  exact names.fail_eq_blame id .missingValue

theorem write_of_mem (h : id ∈ s.ids) :
    s.write names id m = .error (names.blame id .duplicateValue) := by
  rw [write, dif_pos h]
  exact names.fail_eq_blame id .duplicateValue

theorem write_of_not_mem (h : id ∉ s.ids) : s.write names id m = .ok (s.insert id m h) := by
  rw [write, dif_neg h]

end Store

end ShapeFlow
