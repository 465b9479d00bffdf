import ShapeFlow.Proofs.Pass.Inputs
import ShapeFlow.Proofs.Pass.Writing

/-!
# Which inputs are bound

An input cannot be bound if its value is refused, or if its id has a record already or repeats an
earlier id (`Pass.Unbindable`). Binding gets as far as the first such input: the store has one more
record for each input before it, in order, and nothing else (`Pass.BoundTo`). If the value there is
refused, this is reported, even where the id could not be written either; otherwise a second writing
is reported. `Pass.bindInputs_binds_front` says so for every store that has names for the ids.
-/

set_option autoImplicit false

namespace ShapeFlow.Pass

variable {names : Naming} {ids : List ValueId} {xs : List Datum} {s t : Store}
  {front back pairs : List (ValueId × Datum)} {p q : Progress} {i j : Nat}

/-- The value of input number `i` is refused. -/
def RefusedAt (xs : List Datum) (i : Nat) : Prop :=
  ∃ x issue, xs[i]? = some x ∧ x.asMeta = .error issue

/-- Input number `i` cannot be bound: its value is refused, or its id cannot be written. -/
def Unbindable (s : Store) (ids : List ValueId) (xs : List Datum) (i : Nat) : Prop :=
  RefusedAt xs i ∨ s.Taken ids i

theorem Unbindable.lt (h : Unbindable s ids xs i) (hcount : ids.length = xs.length) :
    i < ids.length := by
  rcases h with ⟨x, issue, hx, -⟩ | ⟨id, hid, -⟩
  · rw [hcount]
    exact (List.getElem?_eq_some_iff.1 hx).1
  · exact (List.getElem?_eq_some_iff.1 hid).1

/-- The first input that cannot be bound. -/
structure FirstUnbindable (s : Store) (ids : List ValueId) (xs : List Datum) (i : Nat) : Prop where
  unbindable : Unbindable s ids xs i
  first : ∀ j < i, ¬ Unbindable s ids xs j

theorem FirstUnbindable.unique (hi : FirstUnbindable s ids xs i)
    (hj : FirstUnbindable s ids xs j) : i = j := by
  apply Nat.le_antisymm
  · apply Nat.le_of_not_lt
    intro hlt
    exact hi.first j hlt hj.unbindable
  · apply Nat.le_of_not_lt
    intro hlt
    exact hj.first i hlt hi.unbindable

/-- The first `n` inputs are bound: behind the records of a store there is one for each of them. -/
structure BoundTo (n : Nat) (ids : List ValueId) (xs : List Datum) (s t : Store)
    (metas : List Meta) : Prop where
  records : (xs.take n).mapM Datum.asMeta = .ok metas
  entries : t.entries = s.entries ++ (ids.take n).zip metas

/-- How binding ends at an input that cannot be bound: the inputs before it are bound, and a value
that is refused is told of rather than a second writing. -/
structure StopsAt (i : Nat) (names : Naming) (ids : List ValueId) (xs : List Datum) (s : Store)
    (result : Except Failure (List Meta)) (t : Store) : Prop where
  bound : ∃ metas, BoundTo i ids xs s t metas
  refused : RefusedAt xs i → ∃ r, result = .error (.report r) ∧ r.category = .inputKind ∧
    r.context.lookup "position" = some (Issue.count i)
  duplicate : ¬ RefusedAt xs i → ∃ id name, ids[i]? = some id ∧ names id = .ok name ∧
    result = .error (Issue.duplicateValue name).failure

/-! ## Inputs that are bound -/

/-- Inputs that are bound have their records behind those of the store, in order. -/
theorem Binds.exists_metas (h : Binds pairs s t) :
    ∃ metas, (pairs.map Prod.snd).mapM Datum.asMeta = .ok metas ∧
      t.entries = s.entries ++ (pairs.map Prod.fst).zip metas := by
  obtain ⟨new, hnew⟩ := h.grows
  have hids : new.map Prod.fst = pairs.map Prod.fst := by
    have hafter := h.ids
    rw [Store.ids, ← hnew, List.map_append] at hafter
    exact List.append_cancel_left hafter
  have hentries : t.entries = s.entries ++ (pairs.map Prod.fst).zip (new.map Prod.snd) := by
    rw [← List.zip_of_prod hids rfl]
    exact hnew.symm
  have hlen : (pairs.map Prod.fst).length = (new.map Prod.snd).length := by
    rw [← hids, List.length_map, List.length_map]
  refine ⟨new.map Prod.snd, ?_, hentries⟩
  -- the record found under an id is the one that was added, and also the one of the value
  have hfound : (pairs.map Prod.fst).map t.find? = (new.map Prod.snd).map some :=
    Store.map_find?_of_zip hlen hentries
  rw [← List.forall₂_eq_eq_eq, List.forall₂_map_left_iff, List.forall₂_map_left_iff,
    List.forall₂_map_right_iff, List.forall₂_iff_zip] at hfound
  rw [except_mapM_eq_ok_iff, List.forall₂_map_left_iff, List.forall₂_iff_zip]
  refine ⟨hfound.1, ?_⟩
  intro pair m hpair
  obtain ⟨m', hrecord, hfind⟩ := h.finds pair (List.of_mem_zip hpair).1
  rw [hfound.2 hpair] at hfind
  cases hfind
  exact hrecord

theorem mapM_asMeta_of_run_bindFrom {position : Nat} {metas : List Meta}
    (h : (bindFrom names position pairs).runFrom p = (.ok metas, q)) :
    (pairs.map Prod.snd).mapM Datum.asMeta = .ok metas := by
  induction pairs generalizing position metas p with
  | nil =>
    cases h
    rfl
  | cons pair rest ih =>
    obtain ⟨id, x⟩ := pair
    rw [bindFrom] at h
    cases hx : x.asMeta with
    | error issue =>
      rw [hx] at h
      cases h
    | ok m =>
      rw [hx] at h
      obtain ⟨_, _, -, h⟩ := run_bind_eq_ok_iff.1 h
      obtain ⟨_, _, -, h⟩ := run_bind_eq_ok_iff.1 h
      obtain ⟨more, _, hrest, hpure⟩ := run_bind_eq_ok_iff.1 h
      cases hpure
      rw [List.map_cons, List.mapM_cons, hx, except_ok_bind, ih hrest]
      rfl

/-- None of the inputs that are bound stood in the way. -/
theorem Binds.not_unbindable (h : Binds front s t) (back : List (ValueId × Datum))
    (hj : j < front.length) :
    ¬ Unbindable s ((front ++ back).map Prod.fst) ((front ++ back).map Prod.snd) j := by
  rintro (⟨x, issue, hx, hissue⟩ | htaken)
  · -- a value that is bound was accepted
    rw [List.getElem?_map, List.getElem?_append_left hj, List.getElem?_eq_getElem hj] at hx
    cases hx
    obtain ⟨m, hm, -⟩ := h.finds _ (List.getElem_mem hj)
    rw [hm] at hissue
    cases hissue
  · -- the ids of the records behind the inputs are all different
    have hnodup : (s.ids ++ front.map Prod.fst).Nodup := by
      rw [← h.ids]
      exact t.nodup
    rw [List.map_append] at htaken
    exact Store.not_taken_of_nodup hnodup _ (by rwa [List.length_map]) htaken

theorem Binds.boundTo (h : Binds front s t) (back : List (ValueId × Datum)) :
    ∃ metas, BoundTo front.length ((front ++ back).map Prod.fst) ((front ++ back).map Prod.snd)
      s t metas := by
  obtain ⟨metas, hmetas, hentries⟩ := h.exists_metas
  have hids : ((front ++ back).map Prod.fst).take front.length = front.map Prod.fst := by
    rw [← List.map_take, List.take_left]
  have hvalues : ((front ++ back).map Prod.snd).take front.length = front.map Prod.snd := by
    rw [← List.map_take, List.take_left]
  exact ⟨metas, by rw [hvalues, hmetas], by rw [hids, hentries]⟩

/-! ## The first input that is not bound -/

/-- Behind inputs that are bound, one that cannot be bound is the first such. -/
theorem Binds.firstUnbindable (h : Binds front s t)
    (hhere : Unbindable s ((front ++ back).map Prod.fst) ((front ++ back).map Prod.snd)
      front.length) :
    FirstUnbindable s ((front ++ back).map Prod.fst) ((front ++ back).map Prod.snd)
      front.length where
  unbindable := hhere
  first _ hj := h.not_unbindable back hj

theorem getElem?_behind {α : Type} (f : ValueId × Datum → α) (front : List (ValueId × Datum))
    (pair : ValueId × Datum) (back : List (ValueId × Datum)) :
    ((front ++ pair :: back).map f)[front.length]? = some (f pair) := by
  rw [List.getElem?_map, List.getElem?_append_right (Nat.le_refl _), Nat.sub_self]
  rfl

/-- **Binding that fails stops at the first input that cannot be bound.** -/
theorem BindFailure.stopsAt {e : Failure} (h : BindFailure names 0 pairs s e t)
    (hnames : ∀ id ∈ pairs.map Prod.fst, ∃ name, names id = .ok name) :
    ∃ i, FirstUnbindable s (pairs.map Prod.fst) (pairs.map Prod.snd) i ∧
      StopsAt i names (pairs.map Prod.fst) (pairs.map Prod.snd) s (.error e) t := by
  cases h with
  | @refused front back id x issue _ hpairs hfront hx =>
    -- the value is looked at before its id, so nothing is said about the id
    subst hpairs
    have hrefused : RefusedAt ((front ++ (id, x) :: back).map Prod.snd) front.length :=
      ⟨x, issue, getElem?_behind Prod.snd front (id, x) back, hx⟩
    refine ⟨front.length, hfront.firstUnbindable (.inl hrefused), hfront.boundTo _, ?_, ?_⟩
    · intro _
      obtain rfl := Datum.asMeta_eq_error hx
      rw [Nat.zero_add]
      exact ⟨_, rfl, rfl, rfl⟩
    · intro hnot
      exact absurd hrefused hnot
  | @duplicate front back id x m _ hpairs hfront hx hid =>
    subst hpairs
    have hhere : ((front ++ (id, x) :: back).map Prod.fst)[front.length]? = some id :=
      getElem?_behind Prod.fst front (id, x) back
    have htaken : s.Taken ((front ++ (id, x) :: back).map Prod.fst) front.length := by
      refine ⟨id, hhere, ?_⟩
      rw [hfront.ids, List.mem_append] at hid
      rwa [← List.map_take, List.take_left]
    refine ⟨front.length, hfront.firstUnbindable (.inr htaken), hfront.boundTo _, ?_, ?_⟩
    · -- the value here was accepted, and only its id stands in the way
      rintro ⟨y, issue, hy, hissue⟩
      rw [getElem?_behind Prod.snd front (id, x) back] at hy
      cases hy
      rw [hx] at hissue
      cases hissue
    · intro _
      obtain ⟨name, hname⟩ := hnames id (List.mem_of_getElem? hhere)
      exact ⟨id, name, hhere, hname, by rw [Naming.blame_of_name hname]⟩

/-- **Binding writes the records of the inputs before the first one that cannot be bound**, in
order, and tells what is wrong with this one. It gives the records of all inputs if there is no such
input, and it writes nothing at all if there are too many or too few values. -/
theorem bindInputs_binds_front (names : Naming) (ids : List ValueId) (xs : List Datum)
    (p : Progress) (hnames : ∀ id ∈ ids, ∃ name, names id = .ok name) :
    let result := ((bindInputs names ids xs).runFrom p).1
    let after := ((bindInputs names ids xs).runFrom p).2.store
    (ids.length ≠ xs.length →
      result = .error (Issue.inputCount ids.length xs.length).failure ∧ after = p.store) ∧
    (ids.length = xs.length →
      ((∀ i, ¬ Unbindable p.store ids xs i) → ∃ metas, xs.mapM Datum.asMeta = .ok metas ∧
        result = .ok metas ∧ after.entries = p.store.entries ++ ids.zip metas) ∧
      ∀ i, FirstUnbindable p.store ids xs i → StopsAt i names ids xs p.store result after) := by
  constructor
  · intro hcount
    rw [bindInputs, if_neg hcount]
    exact ⟨rfl, rfl⟩
  intro hcount
  rw [bindInputs, if_pos hcount]
  have hids : (ids.zip xs).map Prod.fst = ids := List.map_fst_zip (Nat.le_of_eq hcount)
  have hvalues : (ids.zip xs).map Prod.snd = xs := List.map_snd_zip (Nat.le_of_eq hcount.symm)
  rcases hrun : (bindFrom names 0 (ids.zip xs)).runFrom p with ⟨result, q⟩
  dsimp only
  cases result with
  | ok metas =>
    have hbinds := run_bindFrom_eq_ok hrun
    constructor
    · intro _
      obtain ⟨metas', hmetas', hentries⟩ := hbinds.exists_metas
      have hmetas := mapM_asMeta_of_run_bindFrom hrun
      rw [hmetas] at hmetas'
      cases hmetas'
      rw [hvalues] at hmetas
      rw [hids] at hentries
      exact ⟨metas, hmetas, rfl, hentries⟩
    · -- all inputs are bound, so none of them stands in the way
      intro i hi
      have hlt : i < (ids.zip xs).length := by
        rw [List.length_zip, ← hcount, Nat.min_self]
        exact hi.unbindable.lt hcount
      have hfree := hbinds.not_unbindable [] hlt
      rw [List.append_nil, hids, hvalues] at hfree
      exact absurd hi.unbindable hfree
  | error e =>
    obtain ⟨k, hfirst, hstops⟩ :=
      (run_bindFrom_eq_error hrun).stopsAt (by rw [hids]; exact hnames)
    rw [hids, hvalues] at hfirst hstops
    constructor
    · intro hnone
      exact absurd hfirst.unbindable (hnone k)
    · -- there is one first input that cannot be bound
      intro i hi
      rw [hi.unique hfirst]
      exact hstops

/-- Two values under one id, the second of them a text: the text is told of, and the record of the
first value stays. -/
theorem bindInputs_binds_before_text :
    let run := (bindInputs .numbers [7, 7, 8] [.int 4, .text "x", .int 5]).runFrom {}
    FirstUnbindable .empty [7, 7, 8] [.int 4, .text "x", .int 5] 1 ∧
      run.2.store.entries = [(7, .scalar [4])] ∧
      ∃ r, run.1 = .error (.report r) ∧ r.category = .inputKind ∧
        r.context.lookup "position" = some (Issue.count 1) := by
  have hrefused : RefusedAt [.int 4, .text "x", .int 5] 1 := ⟨_, _, rfl, rfl⟩
  have hfirst : FirstUnbindable .empty [7, 7, 8] [.int 4, .text "x", .int 5] 1 := by
    refine ⟨.inl hrefused, fun j hj => ?_⟩
    obtain rfl : j = 0 := by omega
    rintro (⟨x, issue, hx, hissue⟩ | ⟨id, hid, htaken⟩)
    · cases hx
      cases hissue
    · cases hid
      simp [Store.ids] at htaken
  have hbind := bindInputs_binds_front .numbers [7, 7, 8] [.int 4, .text "x", .int 5] {}
    (fun id _ => ⟨toString id, rfl⟩)
  have hstops := (hbind.2 rfl).2 1 hfirst
  obtain ⟨metas, hmetas, hentries⟩ := hstops.bound
  cases hmetas
  exact ⟨hfirst, hentries, hstops.refused hrefused⟩

end ShapeFlow.Pass
