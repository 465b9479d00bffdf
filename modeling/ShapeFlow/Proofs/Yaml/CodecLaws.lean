import ShapeFlow.Yaml.Codec
import ShapeFlow.Proofs.Settings.Documents
import ShapeFlow.Proofs.Yaml.RoundTrip

/-!
# The laws of documents in block style

The two laws that settings ask of a codec hold of `Yaml.codec`. A node becomes a scalar, a list or a
mapping, and so do the nodes in it (`Datum.IsPlain`, `isPlain_of_valueOf`); a merge only moves
entries from one mapping into another. So a document and its entries are settled to count as true or
as false (`codec_readsSettled`). The names of settings and of their sections are written plainly, so
that sections of settings are read from what is written for them (`codec_roundTrips`).
-/

set_option autoImplicit false

namespace ShapeFlow

/-- Plain data: scalars that are settled to count as true or as false, and lists and mappings of
plain data. -/
inductive Datum.IsPlain : Datum → Prop where
  | scalar {d : Datum} : d.IsSettled → Yaml.isKey d = true → IsPlain d
  | list {xs : List Datum} : (∀ x ∈ xs, IsPlain x) → IsPlain (.list xs)
  | dict {entries : List (Datum × Datum)} : (∀ e ∈ entries, IsPlain e.2) → IsPlain (.dict entries)

namespace Datum

variable {d : Datum} {xs : List Datum} {entries : List (Datum × Datum)} {name : String}

theorem isPlain_list_iff : (list xs).IsPlain ↔ ∀ x ∈ xs, x.IsPlain := by
  constructor
  · intro h
    cases h with
    | list hxs => exact hxs
    | scalar _ hkey => cases hkey
  · exact .list

theorem isPlain_dict_iff : (dict entries).IsPlain ↔ ∀ e ∈ entries, e.2.IsPlain := by
  constructor
  · intro h
    cases h with
    | dict hentries => exact hentries
    | scalar _ hkey => cases hkey
  · exact .dict

theorem IsPlain.isSettled (h : d.IsPlain) : d.IsSettled := by
  cases h with
  | scalar hd _ => exact hd
  | list _ => exact ⟨_, rfl⟩
  | dict _ => exact ⟨_, rfl⟩

theorem exists_of_lookupText (h : lookupText name entries = some d) : ∃ e ∈ entries, e.2 = d := by
  induction entries with
  | nil => cases h
  | cons e rest ih =>
    obtain ⟨key, value⟩ := e
    have hrest : lookupText name rest = some d → ∃ e ∈ (key, value) :: rest, e.2 = d := by
      intro h
      obtain ⟨e, he, hd⟩ := ih h
      exact ⟨e, List.mem_cons_of_mem _ he, hd⟩
    cases key with
    | text k =>
      rw [lookupText] at h
      split_ifs at h with hk
      · exact ⟨_, List.mem_cons_self, Option.some.inj h⟩
      · exact hrest h
    | _ => exact hrest h

/-- The entries of plain data are plain. -/
theorem IsPlain.field (h : d.IsPlain) {v : Datum} (hv : d.field? name = some v) : v.IsPlain := by
  cases d with
  | dict entries =>
    obtain ⟨e, he, rfl⟩ := exists_of_lookupText hv
    exact isPlain_dict_iff.1 h e he
  | _ => cases hv

theorem forall_mem_setKey {p : Datum → Prop} {key value : Datum} (hvalue : p value)
    (h : ∀ e ∈ entries, p e.2) : ∀ e ∈ setKey key value entries, p e.2 := by
  induction entries with
  | nil => simpa [setKey] using hvalue
  | cons e rest ih =>
    obtain ⟨k, v⟩ := e
    obtain ⟨hv, hrest⟩ := List.forall_mem_cons.1 h
    rw [setKey]
    split_ifs
    · exact List.forall_mem_cons.2 ⟨hvalue, hrest⟩
    · exact List.forall_mem_cons.2 ⟨hv, ih hrest⟩

theorem forall_mem_foldl_setKey {p : Datum → Prop} {pairs : List (Datum × Datum)}
    (hpairs : ∀ e ∈ pairs, p e.2) (h : ∀ e ∈ entries, p e.2) :
    ∀ e ∈ pairs.foldl (fun entries pair => setKey pair.1 pair.2 entries) entries, p e.2 := by
  induction pairs generalizing entries with
  | nil => exact h
  | cons pair rest ih =>
    obtain ⟨hpair, hrest⟩ := List.forall_mem_cons.1 hpairs
    exact ih hrest (forall_mem_setKey hpair h)

/-- A mapping of pairs has no other values than the pairs. -/
theorem isPlain_dictOf {pairs : List (Datum × Datum)} (h : ∀ e ∈ pairs, e.2.IsPlain) :
    (dictOf pairs).IsPlain :=
  isPlain_dict_iff.2 (forall_mem_foldl_setKey h (by simp))

end Datum

namespace Yaml

variable {d : Datum} {tag : Option String} {text : String} {plain : Bool}

/-! ## Scalars -/

theorem isPlain_of_scalarOfKind {kind : Kind} (h : scalarOfKind text kind = some d) :
    d.IsPlain := by
  cases kind with
  | nothing | flag | date | text =>
    cases h
    exact .scalar ⟨_, rfl⟩ rfl
  | whole | floating =>
    obtain ⟨_, -, rfl⟩ := Option.map_eq_some_iff.1 h
    exact .scalar ⟨_, rfl⟩ rfl
  | merge | default => cases h

theorem isPlain_of_taggedScalar {tag : String} (h : taggedScalar tag text = some d) :
    d.IsPlain := by
  unfold taggedScalar at h
  dsimp only at h
  -- one case for each tag, and two for the two words of a flag
  split_ifs at h
  case pos | pos | pos | pos =>
    cases h
    exact .scalar ⟨_, rfl⟩ rfl
  case pos =>
    obtain ⟨_, -, rfl⟩ := Option.map_eq_some_iff.1 h
    exact .scalar ⟨_, rfl⟩ rfl
  case pos =>
    split at h
    · cases h
      exact .scalar ⟨_, rfl⟩ rfl
    · obtain ⟨_, -, rfl⟩ := Option.map_eq_some_iff.1 h
      exact .scalar ⟨_, rfl⟩ rfl

theorem isPlain_of_scalarValue (h : scalarValue tag text plain = some d) : d.IsPlain := by
  unfold scalarValue at h
  split at h
  · split_ifs at h with hplain
    · exact isPlain_of_scalarOfKind h
    · cases h
      exact .scalar ⟨_, rfl⟩ rfl
  · exact isPlain_of_scalarOfKind h
  · exact isPlain_of_taggedScalar h

/-! ## Collections -/

/-- The entries of plain mappings, one mapping after the other, are plain. -/
theorem forall_mem_flatten {xs : List Datum} {merged : List (List (Datum × Datum))}
    (hxs : ∀ x ∈ xs, x.IsPlain)
    (h : (xs.mapM fun
      | .dict entries => some entries
      | _ => none) = some merged) : ∀ e ∈ merged.flatten, e.2.IsPlain := by
  induction xs generalizing merged with
  | nil =>
    cases h
    simp
  | cons x rest ih =>
    obtain ⟨hx, hrest⟩ := List.forall_mem_cons.1 hxs
    rw [List.mapM_cons] at h
    obtain ⟨entries, hentries, h⟩ := Option.bind_eq_some_iff.1 h
    obtain ⟨others, hothers, h⟩ := Option.bind_eq_some_iff.1 h
    cases h
    rw [List.flatten_cons, List.forall_mem_append]
    refine ⟨?_, ih hrest hothers⟩
    cases x with
    | dict own =>
      cases hentries
      exact Datum.isPlain_dict_iff.1 hx
    | _ => cases hentries

mutual

/-- **The value of a node is plain data.** -/
theorem isPlain_of_valueOf : ∀ {node : Node} {d : Datum}, valueOf node = some d → d.IsPlain
  | .scalar _ _ _, _, h => isPlain_of_scalarValue h
  | .sequence tag items, _, h => by
    rw [valueOf] at h
    obtain ⟨xs, hxs, h⟩ := Option.bind_eq_some_iff.1 h
    split_ifs at h
    cases h
    exact Datum.isPlain_list_iff.2 (isPlain_of_valuesOf hxs)
  | .mapping tag entries, _, h => by
    rw [valueOf] at h
    obtain ⟨⟨merged, own⟩, hentries, h⟩ := Option.bind_eq_some_iff.1 h
    dsimp only at h
    split_ifs at h
    cases h
    exact Datum.isPlain_dictOf (isPlain_of_entriesOf hentries)

theorem isPlain_of_valuesOf : ∀ {nodes : List Node} {xs : List Datum},
    valuesOf nodes = some xs → ∀ x ∈ xs, x.IsPlain
  | [], _, h => by
    cases h
    simp
  | node :: rest, _, h => by
    rw [valuesOf] at h
    obtain ⟨x, hx, h⟩ := Option.bind_eq_some_iff.1 h
    obtain ⟨xs, hxs, h⟩ := Option.bind_eq_some_iff.1 h
    cases h
    exact List.forall_mem_cons.2 ⟨isPlain_of_valueOf hx, isPlain_of_valuesOf hxs⟩

theorem isPlain_of_entriesOf : ∀ {nodes : List (Node × Node)}
    {merged own : List (Datum × Datum)}, entriesOf nodes = some (merged, own) →
      ∀ e ∈ merged ++ own, e.2.IsPlain
  | [], _, _, h => by
    cases h
    simp
  | (key, value) :: rest, merged', own', h => by
    rw [entriesOf] at h
    obtain ⟨x, hx, h⟩ := Option.bind_eq_some_iff.1 h
    obtain ⟨⟨merged, own⟩, hrest, h⟩ := Option.bind_eq_some_iff.1 h
    have hx := isPlain_of_valueOf hx
    have hrest := isPlain_of_entriesOf hrest
    dsimp only at h
    split_ifs at h with hmerge
    · -- what is merged in are entries of a mapping in the node
      cases x with
      | dict entries =>
        cases h
        rw [List.append_assoc, List.forall_mem_append]
        exact ⟨Datum.isPlain_dict_iff.1 hx, hrest⟩
      | list xs =>
        obtain ⟨entries, hentries, h⟩ := Option.bind_eq_some_iff.1 h
        cases h
        rw [List.append_assoc, List.forall_mem_append]
        have hxs : ∀ x ∈ xs.reverse, x.IsPlain := by simpa using Datum.isPlain_list_iff.1 hx
        exact ⟨forall_mem_flatten hxs hentries, hrest⟩
      | _ => cases h
    · have hentry : ∃ k, (merged, (k, x) :: own) = (merged', own') := by
        split at h
        all_goals
          obtain ⟨k, -, h⟩ := Option.bind_eq_some_iff.1 h
          split_ifs at h
          exact ⟨k, Option.some.inj h⟩
      obtain ⟨k, ⟨⟩⟩ := hentry
      rw [List.forall_mem_append] at hrest ⊢
      exact ⟨hrest.1, List.forall_mem_cons.2 ⟨hx, hrest.2⟩⟩

end

theorem isPlain_of_read? (h : read? text = some d) : d.IsPlain := by
  obtain ⟨tokens, -, h⟩ := Option.bind_eq_some_iff.1 h
  obtain ⟨node?, -, h⟩ := Option.bind_eq_some_iff.1 h
  cases node? with
  | some node => exact isPlain_of_valueOf h
  | none =>
    cases h
    exact .scalar ⟨_, rfl⟩ rfl

theorem readDocument_eq_ok_iff : codec.read text = .ok d ↔ read? text = some d := by
  change readDocument text = _ ↔ _
  unfold readDocument
  cases read? text <;> simp

/-- **What is read is settled to count as true or as false**, for it is plain data. -/
theorem codec_readsSettled : codec.ReadsSettled := by
  intro text content hread
  have hplain := isPlain_of_read? (readDocument_eq_ok_iff.1 hread)
  exact ⟨hplain.isSettled, fun name d hd => (hplain.field hd).isSettled⟩

/-! ## Sections that were written -/

/-- Arguments under names make a mapping by names. -/
theorem named_of_arguments {arguments : Context} (hne : arguments ≠ [])
    (hdistinct : (arguments.map Prod.fst).Nodup)
    (hnames : ∀ a ∈ arguments, IsName a.1.toList ∧ isPlain a.1 = true) :
    Named (arguments.map fun a => (.text a.1, a.2)) := by
  refine named_of_names (arguments.map Prod.fst) (by simp) (by simpa using hne) ?_ hdistinct
  simpa using hnames

/-- The names of settings are written plainly. -/
theorem isName_of_mem_names {group : SettingsGroup} {name : String} (h : name ∈ group.names) :
    IsName name.toList ∧ isPlain name = true := by
  have hall : ∀ name ∈ group.names, IsName name.toList ∧ isPlain name = true := by
    cases group <;> decide
  exact hall name h

/-- A section can be written behind a name. -/
theorem writable_section {group : SettingsGroup}
    (h : d.IsMappingOf fun name value => name ∈ group.names ∧ value.IsFlagOrText) :
    Writable 0 d := by
  obtain ⟨arguments, rfl, hne, hdistinct, hentries⟩ := h
  refine .mapping (named_of_arguments hne hdistinct fun a ha =>
    isName_of_mem_names (hentries a ha).1) ?_
  intro e he
  obtain ⟨a, ha, rfl⟩ := List.mem_map.1 he
  obtain ⟨-, ⟨b, hb⟩ | ⟨s, hs⟩⟩ := hentries a ha
  · rw [hb]
    exact .flag b
  · rw [hs]
    exact .text s (by decide)

/-- **Sections that were written are read as the same ones**, whatever their texts are. -/
theorem codec_roundTrips : codec.RoundTrips := by
  rintro d ⟨arguments, rfl, hne, hdistinct, hsections⟩
  rw [readDocument_eq_ok_iff]
  refine read?_write (named_of_arguments hne hdistinct fun a ha => ?_) fun e he => ?_
  · obtain ⟨group, hpart, -⟩ := hsections a ha
    rw [hpart]
    cases group <;> decide
  · obtain ⟨a, ha, rfl⟩ := List.mem_map.1 he
    obtain ⟨group, -, hsection⟩ := hsections a ha
    exact writable_section hsection

end Yaml

end ShapeFlow
