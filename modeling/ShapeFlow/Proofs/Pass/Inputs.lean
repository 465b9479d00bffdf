import ShapeFlow.Pass.Binding
import ShapeFlow.Proofs.Pass.Sequencing
import ShapeFlow.Proofs.Graph.Equations

/-!
# What binding inputs does

Inputs are bound in order. If all of them are, the store has one more record for each, and this is
the record of its value (`Pass.Binds`). Otherwise those before the first one that is refused, or
whose id has a record already, are bound, and nothing else is written (`Pass.BindFailure`).
-/

set_option autoImplicit false

namespace ShapeFlow

/-- A value that is no input is refused by the word for its kind. -/
theorem Datum.asMeta_eq_error {x : Datum} {i : Issue} (h : x.asMeta = .error i) :
    i = .inputType x.typeName := by
  unfold asMeta at h
  split at h
  · cases h
  · cases h
  · cases h
  · cases h
  · split at h <;> cases h
    rfl
  · split at h <;> cases h
    rfl
  · split at h <;> cases h
    rfl

namespace Pass

variable {names : Naming} {p q : Progress} {e : Failure}

/-- Binding inputs leads from one store to another: each id is new and has the record of its
value. -/
structure Binds (pairs : List (ValueId × Datum)) (s t : Store) : Prop where
  grows : s.entries <+: t.entries
  ids : t.ids = s.ids ++ pairs.map Prod.fst
  finds : ∀ pair ∈ pairs, ∃ m, pair.2.asMeta = .ok m ∧ t.find? pair.1 = some m

/-- How binding inputs fails, with the inputs before the one at fault bound. -/
inductive BindFailure (names : Naming) (position : Nat) (pairs : List (ValueId × Datum))
    (s : Store) : Failure → Store → Prop where
  | refused {front back : List (ValueId × Datum)} {id : ValueId} {x : Datum} {i : Issue}
      {t : Store} : pairs = front ++ (id, x) :: back → Binds front s t → x.asMeta = .error i →
        BindFailure names position pairs s
          (.report (i.report.provide "position" (Issue.count (position + front.length)))) t
  | duplicate {front back : List (ValueId × Datum)} {id : ValueId} {x : Datum} {m : Meta}
      {t : Store} : pairs = front ++ (id, x) :: back → Binds front s t → x.asMeta = .ok m →
        id ∈ t.ids →
          BindFailure names position pairs s (names.blame id .duplicateValue) t

theorem Binds.nil (s : Store) : Binds [] s s where
  grows := List.prefix_rfl
  ids := (List.append_nil _).symm
  finds := by simp

/-- One more input in front of those that are bound. -/
theorem Binds.cons {pairs : List (ValueId × Datum)} {s t u : Store} {id : ValueId} {x : Datum}
    {m : Meta} (hx : x.asMeta = .ok m) (hs : t.entries = s.entries ++ [(id, m)])
    (h : Binds pairs t u) : Binds ((id, x) :: pairs) s u where
  grows := List.IsPrefix.trans ⟨_, hs.symm⟩ h.grows
  ids := by
    rw [h.ids, Store.ids, hs, List.map_append, List.append_assoc]
    rfl
  finds := by
    refine List.forall_mem_cons.2 ⟨⟨m, hx, ?_⟩, h.finds⟩
    apply Store.find?_of_growth h.grows
    rw [Store.find?_eq_some_iff, hs]
    exact List.mem_append_right _ (List.mem_singleton.2 rfl)

theorem BindFailure.cons {pairs : List (ValueId × Datum)} {position : Nat} {s t u : Store}
    {id : ValueId} {x : Datum} {m : Meta} (hx : x.asMeta = .ok m)
    (hs : t.entries = s.entries ++ [(id, m)])
    (h : BindFailure names (position + 1) pairs t e u) :
    BindFailure names position ((id, x) :: pairs) s e u := by
  cases h with
  | @refused front back k y i _ hpairs hfront hy =>
    have hcount : position + 1 + front.length = position + ((id, x) :: front).length := by
      rw [List.length_cons]
      omega
    rw [hcount]
    exact .refused (by rw [hpairs]; rfl) (hfront.cons hx hs) hy
  | duplicate hpairs hfront hy hk =>
    exact .duplicate (by rw [hpairs]; rfl) (hfront.cons hx hs) hy hk

theorem run_bindFrom_eq_ok {position : Nat} {pairs : List (ValueId × Datum)} {metas : List Meta}
    (h : (bindFrom names position pairs).runFrom p = (.ok metas, q)) :
    Binds pairs p.store q.store := by
  induction pairs generalizing position metas p with
  | nil =>
    cases h
    exact .nil _
  | cons pair rest ih =>
    obtain ⟨id, x⟩ := pair
    rw [bindFrom] at h
    cases hx : x.asMeta with
    | error i =>
      rw [hx] at h
      cases h
    | ok m =>
      rw [hx] at h
      obtain ⟨_, r₁, hwrite, h⟩ := run_bind_eq_ok_iff.1 h
      obtain ⟨_, r₂, hnote, h⟩ := run_bind_eq_ok_iff.1 h
      obtain ⟨ms, r₃, hrest, hpure⟩ := run_bind_eq_ok_iff.1 h
      cases hpure
      cases hnote
      obtain ⟨-, hstore⟩ := run_write_eq_ok hwrite
      exact (ih hrest).cons hx hstore

theorem run_bindFrom_eq_error {position : Nat} {pairs : List (ValueId × Datum)}
    (h : (bindFrom names position pairs).runFrom p = (.error e, q)) :
    BindFailure names position pairs p.store e q.store := by
  induction pairs generalizing position p with
  | nil => cases h
  | cons pair rest ih =>
    obtain ⟨id, x⟩ := pair
    rw [bindFrom] at h
    cases hx : x.asMeta with
    | error i =>
      rw [hx] at h
      cases h
      have hfirst : (id, x) :: rest = [] ++ (id, x) :: rest := rfl
      exact .refused hfirst (.nil _) hx
    | ok m =>
      rw [hx] at h
      rcases run_bind_eq_error_iff.1 h with hwrite | ⟨_, r₁, hwrite, h⟩
      · obtain ⟨hid, rfl, rfl⟩ := run_write_eq_error hwrite
        have hfirst : (id, x) :: rest = [] ++ (id, x) :: rest := rfl
        exact .duplicate hfirst (.nil _) hx hid
      -- the first input is bound, so the failure lies behind it
      obtain ⟨-, hstore⟩ := run_write_eq_ok hwrite
      rcases run_bind_eq_error_iff.1 h with hnote | ⟨_, r₂, hnote, h⟩
      · cases hnote
      rcases run_bind_eq_error_iff.1 h with hrest | ⟨ms, r₃, hrest, h⟩
      · cases hnote
        exact (ih hrest).cons hx hstore
      · cases h

end Pass

/-- Inputs that are bound solve the equations of the inputs, in every later store. -/
theorem Graph.bindsInputs_of_binds {g : Graph} {xs : List Datum} {s t u : Store}
    (hlen : g.inputs.length = xs.length) (h : Pass.Binds (g.inputs.zip xs) s t)
    (htu : t.entries <+: u.entries) : g.BindsInputs xs u.find? := by
  refine List.forall₂_iff_zip.2 ⟨hlen, fun {id x} hpair => ?_⟩
  obtain ⟨m, hm, hfind⟩ := h.finds (id, x) hpair
  exact ⟨m, hm, Store.find?_of_growth htu hfind⟩

end ShapeFlow
