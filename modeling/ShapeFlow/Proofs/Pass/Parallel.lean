import ShapeFlow.Session
import ShapeFlow.Proofs.Pass.Sequencing
import ShapeFlow.Proofs.Rule.Resizing

/-!
# Steps side by side

Two steps of two passes are compared up to a change of sizes: from stores that hold the same ids
with changed shapes they give related values or fail alike, and they leave such stores behind
(`Pass.Parallel`). Payloads and messages have no part in the comparison. Two failures are alike if
they are the same fault, or reports of one category, about changed sizes, that name the same node
(`Failure.ResizesTo`). Reading, writing and binding inputs go side by side as soon as the two passes
have names for the same ids.
-/

set_option autoImplicit false

namespace ShapeFlow

/-! ## Records and failures -/

/-- A record has the shape of another one with its sizes changed. -/
def Meta.ResizesTo (φ : Int → Int) (m n : Meta) : Prop := n.shape = m.shape.resize φ

/-- Two inputs are both accepted, with the sizes changed between their shapes. -/
def Datum.ResizesTo (φ : Int → Int) (x y : Datum) : Prop :=
  ∃ m n, x.asMeta = .ok m ∧ y.asMeta = .ok n ∧ m.ResizesTo φ n

/-- A failure says of changed sizes what another one says of the sizes as they were, about the same
node. The wording is free. -/
inductive Failure.ResizesTo (φ : Int → Int) : Failure → Failure → Prop where
  | report {r r' : Report} : r'.category = r.category.resize φ →
      r'.context.lookup "node_index" = r.context.lookup "node_index" →
        ResizesTo φ (.report r) (.report r')
  | fault (f : Fault) : ResizesTo φ (.fault f) (.fault f)

/-- A detail that was provided is found, and those that were there before it stay. -/
theorem Context.lookup_provide (context : Context) (name other : String) (value : Datum) :
    (context.provide name value).lookup other =
      if other = name then some ((context.lookup name).getD value) else context.lookup other := by
  unfold provide
  by_cases htaken : context.lookup name = none
  · -- the name is free, and the new detail goes to the end
    have hfree : context.any (·.1 == name) = false := by
      rw [List.lookup_eq_none_iff] at htaken
      rw [List.any_eq_false]
      intro entry hentry
      have hne : name ≠ entry.1 := by simpa using htaken entry hentry
      simpa using Ne.symm hne
    rw [hfree, if_neg Bool.false_ne_true, List.lookup_append]
    split_ifs with hother
    · rw [hother, htaken]
      simp
    · have hb : (other == name) = false := by simpa using hother
      simp [List.lookup_cons, hb]
  · -- the name is taken, and nothing changes
    obtain ⟨found, hfound⟩ := Option.ne_none_iff_exists'.1 htaken
    have hany : context.any (·.1 == name) = true := by
      obtain ⟨before, after, rfl, -⟩ := List.lookup_eq_some_iff.1 hfound
      simp
    rw [if_pos hany]
    split_ifs with hother
    · rw [hother, hfound]
      rfl
    · rfl

/-- The shapes of records whose sizes were changed are the changed shapes. -/
theorem map_shape_of_resizesTo {φ : Int → Int} {ms ns : List Meta}
    (h : List.Forall₂ (Meta.ResizesTo φ) ms ns) :
    ns.map Meta.shape = (ms.map Meta.shape).map (Shape.resize φ) := by
  induction h with
  | nil => rfl
  | cons hm _ ih => rw [List.map_cons, List.map_cons, List.map_cons, ih, hm]

variable {φ : Int → Int} {e d : Failure} {names twin : Naming} {s t : Store} {id : ValueId}

/-- A cause about changed sizes is reported alike. -/
theorem Issue.resizesTo (φ : Int → Int) (i : Issue) :
    Failure.ResizesTo φ i.failure (i.resize φ).failure := by
  apply Failure.ResizesTo.report
  · rw [category_report, category_report, category_resize]
  · cases i <;> rfl

/-- The pass adds the same node to failures that are alike. -/
theorem Failure.ResizesTo.atNode (h : e.ResizesTo φ d) (k : Nat) (kind : String) :
    (e.atNode k kind).ResizesTo φ (d.atNode k kind) := by
  cases h with
  | fault f => exact .fault f
  | @report r r' hcategory hindex =>
    have hrec : r'.isRecoverable = r.isRecoverable := by
      rw [Report.isRecoverable, hcategory, Category.isRecoverable_resize]
      rfl
    rw [Failure.atNode, Failure.atNode, hrec]
    split_ifs
    · refine .report hcategory ?_
      simp [Report.provide, Context.lookup_provide, hindex]
    · exact .report hcategory hindex

/-- What a rule gives and what it gives with changed sizes are alike. -/
theorem alike_resized {α : Type} {R : α → α → Prop} {change : α → α} (h : ∀ a, R a (change a))
    (r : Except Issue α) :
    Alike (Failure.ResizesTo φ) R (reported r) (reported (Rule.resized φ change r)) := by
  cases r with
  | ok a => exact .ok (h a)
  | error i => exact .error (i.resizesTo φ)

/-- What has the same faults has the same failures. -/
theorem alike_faulted {α β : Type} {R : α → β → Prop} {r : Except Fault α} {r' : Except Fault β}
    (h : Alike (fun f f' => f' = f) R r r') :
    Alike (Failure.ResizesTo φ) R (faulted r) (faulted r') := by
  cases h with
  | ok hab => exact .ok hab
  | error hf =>
    subst hf
    exact .error (.fault _)

/-! ## Names -/

/-- Two namings have names for the same ids, and the same fault for each other id. -/
def Naming.Covers (names twin : Naming) : Prop :=
  ∀ id, Alike (fun f f' => f' = f) (fun _ _ => True) (names id) (twin id)

theorem Naming.Covers.alike (h : names.Covers twin) (id : ValueId) :
    Alike (Failure.ResizesTo φ) (fun _ _ => True) (faulted (names id)) (faulted (twin id)) :=
  alike_faulted (h id)

/-- Values of one id are blamed alike for causes that tell names apart only in their wording. -/
theorem Naming.Covers.blame (h : names.Covers twin) (id : ValueId) {cause : String → Issue}
    (hcause : ∀ a b, (cause a).failure.ResizesTo φ (cause b).failure) :
    (names.blame id cause).ResizesTo φ (twin.blame id cause) := by
  have hid := h id
  unfold Naming.blame
  generalize names id = name, twin id = name' at hid
  cases hid with
  | ok _ => exact hcause _ _
  | error hf =>
    subst hf
    exact .fault _

/-! ## Stores -/

/-- Members of one place in two lists stay at one place behind the same ids. -/
theorem forall₂_zip {α β : Type} {R : α → β → Prop} {as : List α} {bs : List β}
    (h : List.Forall₂ R as bs) (ids : List ValueId) :
    List.Forall₂ (fun a b => b.1 = a.1 ∧ R a.2 b.2) (ids.zip as) (ids.zip bs) := by
  induction h generalizing ids with
  | nil =>
    rw [List.zip_nil_right, List.zip_nil_right]
    exact .nil
  | cons hab _ ih =>
    cases ids with
    | nil => exact .nil
    | cons id rest => exact .cons ⟨rfl, hab⟩ (ih rest)

/-- Two stores hold the same ids in the same order, with the sizes changed between their shapes. -/
def Store.ResizesTo (φ : Int → Int) (s t : Store) : Prop :=
  List.Forall₂ (fun a b => b.1 = a.1 ∧ a.2.ResizesTo φ b.2) s.entries t.entries

namespace Store

theorem resizesTo_empty (φ : Int → Int) : empty.ResizesTo φ empty := List.Forall₂.nil

theorem ResizesTo.ids (h : s.ResizesTo φ t) : t.ids = s.ids := by
  unfold ResizesTo at h
  unfold Store.ids
  generalize s.entries = old, t.entries = new at h ⊢
  induction h with
  | nil => rfl
  | cons hab _ ih => rw [List.map_cons, List.map_cons, ih, hab.1]

theorem ResizesTo.shapes (h : s.ResizesTo φ t) :
    t.shapes = s.shapes.map fun entry => (entry.1, entry.2.resize φ) := by
  unfold ResizesTo at h
  unfold Store.shapes
  generalize s.entries = old, t.entries = new at h ⊢
  induction h with
  | nil => rfl
  | cons hab _ ih =>
    obtain ⟨hid, hshape⟩ := hab
    rw [List.map_cons, List.map_cons, List.map_cons, ih, hid, hshape]

theorem ResizesTo.find? (h : s.ResizesTo φ t) (id : ValueId) :
    Option.Rel (Meta.ResizesTo φ) (s.find? id) (t.find? id) := by
  unfold ResizesTo at h
  unfold Store.find?
  generalize s.entries = old, t.entries = new at h ⊢
  induction h with
  | nil => exact .none
  | @cons a b _ _ hab _ ih =>
    obtain ⟨hid, hshape⟩ := hab
    rw [List.lookup_cons, List.lookup_cons, hid]
    cases id == a.1 with
    | true => exact .some hshape
    | false => exact ih

theorem ResizesTo.insert (h : s.ResizesTo φ t) {m n : Meta} (hm : m.ResizesTo φ n)
    (hs : id ∉ s.ids) (ht : id ∉ t.ids) : (s.insert id m hs).ResizesTo φ (t.insert id n ht) :=
  List.rel_append h (.cons ⟨rfl, hm⟩ .nil)

theorem ResizesTo.read (h : s.ResizesTo φ t) (hnames : names.Covers twin) (id : ValueId) :
    Alike (Failure.ResizesTo φ) (Meta.ResizesTo φ) (s.read names id) (t.read twin id) := by
  have hfound := h.find? id
  unfold Store.read
  generalize s.find? id = found, t.find? id = found' at hfound
  cases hfound with
  | some hm => exact .ok hm
  | none =>
    refine (hnames.alike id).bind fun a b _ => ?_
    exact .error (.report rfl rfl)

end Store

/-! ## Steps -/

namespace Pass

variable {α β α' β' : Type} {R : α → α' → Prop} {Q : β → β' → Prop}

/-- Two steps go side by side: from stores with changed sizes they end alike, and they leave such
stores behind. -/
def Parallel (φ : Int → Int) (R : α → α' → Prop) (step : Pass α) (step' : Pass α') : Prop :=
  ∀ p p', p.store.ResizesTo φ p'.store →
    Alike (Failure.ResizesTo φ) R (step.runFrom p).1 (step'.runFrom p').1 ∧
      (step.runFrom p).2.store.ResizesTo φ (step'.runFrom p').2.store

theorem parallel_pure {a : α} {a' : α'} (h : R a a') : Parallel φ R (pure a) (pure a') :=
  fun _ _ hstore => ⟨.ok h, hstore⟩

theorem parallel_ofExcept {r : Except Failure α} {r' : Except Failure α'}
    (h : Alike (Failure.ResizesTo φ) R r r') : Parallel φ R (ofExcept r) (ofExcept r') :=
  fun _ _ hstore => ⟨h, hstore⟩

theorem parallel_ofStore {f : Store → Except Failure α} {f' : Store → Except Failure α'}
    (h : ∀ s t, s.ResizesTo φ t → Alike (Failure.ResizesTo φ) R (f s) (f' t)) :
    Parallel φ R (ofStore f) (ofStore f') :=
  fun p p' hstore => ⟨h p.store p'.store hstore, hstore⟩

/-- The journals have no part in the comparison. -/
theorem parallel_note (records records' : List Record) :
    Parallel φ (fun _ _ => True) (note records) (note records') :=
  fun _ _ hstore => ⟨.ok trivial, hstore⟩

theorem Parallel.bind {step : Pass α} {step' : Pass α'} {next : α → Pass β} {next' : α' → Pass β'}
    (h : Parallel φ R step step') (hnext : ∀ a a', R a a' → Parallel φ Q (next a) (next' a')) :
    Parallel φ Q (step >>= next) (step' >>= next') := by
  intro p p' hstore
  obtain ⟨hends, hleft⟩ := h p p' hstore
  rcases hrun : step.runFrom p with ⟨result, q⟩
  rcases hrun' : step'.runFrom p' with ⟨result', q'⟩
  rw [hrun, hrun'] at hends hleft
  cases hends with
  | ok ha =>
    rw [run_bind_ok hrun, run_bind_ok hrun']
    exact hnext _ _ ha q q' hleft
  | error he =>
    rw [run_bind_error hrun, run_bind_error hrun']
    exact ⟨.error he, hleft⟩

theorem Parallel.mapFailure {step : Pass α} {step' : Pass α'} {f f' : Failure → Failure}
    (h : Parallel φ R step step') (hf : ∀ e d, e.ResizesTo φ d → (f e).ResizesTo φ (f' d)) :
    Parallel φ R (mapFailure f step) (mapFailure f' step') := by
  intro p p' hstore
  obtain ⟨hends, hleft⟩ := h p p' hstore
  unfold runFrom at hends hleft ⊢
  unfold Pass.mapFailure
  generalize step p = result, step' p' = result' at hends hleft ⊢
  obtain ⟨result, q⟩ := result
  obtain ⟨result', q'⟩ := result'
  cases hends with
  | ok ha => exact ⟨.ok ha, hleft⟩
  | error he => exact ⟨.error (hf _ _ he), hleft⟩

theorem parallel_write (hnames : names.Covers twin) (id : ValueId) {m n : Meta}
    (hm : m.ResizesTo φ n) :
    Parallel φ (fun _ _ => True) (write names id m) (write twin id n) := by
  intro p p' hstore
  -- the stores hold the same ids, so both have one for this id or neither has
  by_cases hid : id ∈ p.store.ids
  · have hid' : id ∈ p'.store.ids := hstore.ids ▸ hid
    rw [run_write_of_mem m hid, run_write_of_mem n hid']
    exact ⟨.error (hnames.blame id fun _ _ => .report rfl rfl), hstore⟩
  · have hid' : id ∉ p'.store.ids := hstore.ids ▸ hid
    rw [run_write_of_not_mem m hid, run_write_of_not_mem n hid']
    exact ⟨.ok trivial, hstore.insert hm hid hid'⟩

theorem alike_readAll (hnames : names.Covers twin) (hstore : s.ResizesTo φ t)
    (ids : List ValueId) :
    Alike (Failure.ResizesTo φ) (List.Forall₂ (Meta.ResizesTo φ)) (readAll names ids s)
      (readAll twin ids t) := by
  induction ids with
  | nil => exact .ok .nil
  | cons id rest ih =>
    refine (hstore.read hnames id).bind fun m n hm => ?_
    exact ih.bind fun ms ns hms => .ok (.cons hm hms)

theorem parallel_bindFrom (hnames : names.Covers twin) (position : Nat)
    {pairs pairs' : List (ValueId × Datum)}
    (h : List.Forall₂ (fun a b => b.1 = a.1 ∧ a.2.ResizesTo φ b.2) pairs pairs') :
    Parallel φ (fun _ _ => True) (bindFrom names position pairs)
      (bindFrom twin position pairs') := by
  induction h generalizing position with
  | nil => exact parallel_pure trivial
  | @cons a b _ _ hab _ ih =>
    obtain ⟨id, x⟩ := a
    obtain ⟨id', y⟩ := b
    obtain ⟨rfl, m, n, hx, hy, hm⟩ := hab
    -- both inputs are accepted, so a pass can only stop where it writes
    rw [bindFrom, bindFrom, hx, hy]
    refine (parallel_write hnames _ hm).bind fun _ _ _ => ?_
    refine (parallel_note _ _).bind fun _ _ _ => ?_
    exact (ih (position + 1)).bind fun _ _ _ => parallel_pure trivial

theorem parallel_bindInputs (hnames : names.Covers twin) (ids : List ValueId) {xs ys : List Datum}
    (h : List.Forall₂ (Datum.ResizesTo φ) xs ys) :
    Parallel φ (fun _ _ => True) (bindInputs names ids xs) (bindInputs twin ids ys) := by
  unfold bindInputs
  rw [h.length_eq]
  split_ifs
  · exact parallel_bindFrom hnames 0 (forall₂_zip h ids)
  · exact parallel_ofExcept (.error (.report rfl rfl))

end Pass

end ShapeFlow
