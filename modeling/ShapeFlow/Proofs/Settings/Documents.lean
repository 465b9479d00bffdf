import ShapeFlow.Settings.Files
import ShapeFlow.Proofs.Settings.Reading

/-!
# Settings in a document

The entry of a setting stands in the section of its group (`Loaded.setting?`). A document that
counts as false has no entries, and neither has a section that does; what counts as true must be a
mapping, and a section must have known keys only (`Loaded.WellFormed`). So a document gives settings
exactly if it is well formed in this sense and each setting is read from its entry
(`Settings.base_eq_ok_iff`). Where it gives none, the failure is a report about settings, provided
that the document and its sections are settled to count as true or as false (`Loaded.Settled`).
-/

set_option autoImplicit false

namespace ShapeFlow

/-! ## The entries of a document -/

/-- The value of an entry, if the value is a mapping that has it. -/
def Datum.field? (d : Datum) (name : String) : Option Datum :=
  match d with
  | .dict entries => lookupText name entries
  | _ => Option.none

/-- Whether a value counts as true or as false is settled: no library refuses to say so. -/
def Datum.IsSettled (d : Datum) : Prop := ∃ b, d.truth = .ok b

/-- A mapping that has none but the given texts as its keys. -/
def Datum.HasOnlyKeys (names : List String) (d : Datum) : Prop :=
  ∃ arguments : Context, d = .dict (arguments.map fun a => (.text a.1, a.2)) ∧
    ∀ a ∈ arguments, a.1 ∈ names

/-- The section of a group of settings in a document. -/
def SettingsGroup.sectionName : SettingsGroup → String
  | engine => "engine"
  | logging => "logging"

/-- A mapping with entries of a kind: it has texts as its keys, each of them once, and at least one.
-/
def Datum.IsMappingOf (entry : String → Datum → Prop) (d : Datum) : Prop :=
  ∃ arguments : Context, d = .dict (arguments.map fun a => (.text a.1, a.2)) ∧ arguments ≠ [] ∧
    (arguments.map Prod.fst).Nodup ∧ ∀ a ∈ arguments, entry a.1 a.2

/-- A truth value or a text. -/
def Datum.IsFlagOrText (d : Datum) : Prop := (∃ b, d = .bool b) ∨ ∃ s, d = .text s

/-- Sections with settings of their groups in them, each of which is a truth value or a text. -/
def Datum.IsSections : Datum → Prop :=
  IsMappingOf fun part d => ∃ group : SettingsGroup, part = group.sectionName ∧
    d.IsMappingOf fun name value => name ∈ group.names ∧ value.IsFlagOrText

/-! ## Laws of a codec -/

namespace DocumentCodec

/-- What a codec reads is settled to count as true or as false, and so is each entry of a mapping
that it reads: a document consists of plain data. -/
def ReadsSettled (codec : DocumentCodec) : Prop :=
  ∀ text content, codec.read text = .ok content →
    content.IsSettled ∧ ∀ name d, content.field? name = some d → d.IsSettled

/-- What was written is read again: for sections of truth values and texts the reader undoes the
writer. -/
def RoundTrips (codec : DocumentCodec) : Prop :=
  ∀ d : Datum, d.IsSections → codec.read (codec.write d) = .ok d

end DocumentCodec

/-! ## What is found -/

namespace Loaded

/-- The path that was given. -/
def path? : Loaded → Option String
  | absent => none
  | missing path => some path
  | document path _ => some path

/-- The document that was found. -/
def content? : Loaded → Option Datum
  | document _ content => some content
  | _ => none

/-- The entries of the document that was found, if it is a mapping. -/
def entries (found : Loaded) : List (Datum × Datum) :=
  match found.content? with
  | some (.dict entries) => entries
  | _ => []

/-- The entry of a setting in the section of its group. -/
def setting? (found : Loaded) (group : SettingsGroup) (name : String) : Option Datum := do
  let content ← found.content?
  let sectionData ← content.field? group.sectionName
  sectionData.field? name

end Loaded

variable {found : Loaded} {s : Settings} {group : SettingsGroup} {d : Datum} {arguments : Context}
  {entries : List (Datum × Datum)}

/-! ## Sections -/

theorem Datum.isMappingOf_singleton {entry : String → Datum → Prop} {name : String}
    (h : entry name d) : (Datum.dict [(.text name, d)]).IsMappingOf entry :=
  ⟨[(name, d)], rfl, by simp, by simp, by simpa using h⟩

theorem Datum.lookupText_map (name : String) (arguments : Context) :
    lookupText name (arguments.map fun a => (.text a.1, a.2)) = arguments.lookup name := by
  induction arguments with
  | nil => rfl
  | cons a rest ih =>
    rw [List.map_cons, lookupText, List.lookup_cons, ih]
    by_cases h : a.1 = name
    · simp [h]
    · have hb : (name == a.1) = false := by simpa using Ne.symm h
      simp [h, hb]

/-- The key and the value of an entry whose key is a text. -/
def Datum.asArgument? : Datum × Datum → Option (String × Datum)
  | (.text key, value) => some (key, value)
  | _ => Option.none

theorem Datum.mapM_asArgument?_eq_some_iff :
    entries.mapM asArgument? = some arguments ↔
      entries = arguments.map fun a => (.text a.1, a.2) := by
  induction entries generalizing arguments with
  | nil => cases arguments <;> simp
  | cons entry rest ih =>
    obtain ⟨key, value⟩ := entry
    rw [List.mapM_cons]
    cases key with
    | text key =>
      cases arguments with
      | nil => simp [asArgument?, Option.bind_eq_some_iff]
      | cons a more =>
        simp only [asArgument?, Option.pure_def, Option.bind_eq_bind, Option.bind_some,
          Option.bind_eq_some_iff, ih, Option.some.injEq, List.cons.injEq, exists_eq_right_right,
          List.map_cons, Prod.ext_iff, Datum.text.injEq]
        exact and_comm
    | _ => cases arguments <;> simp [asArgument?]

/-- A section gives arguments exactly if it is a mapping that has texts as its keys. -/
theorem SettingsGroup.arguments_eq_ok_iff :
    group.arguments d = .ok arguments ↔
      d = .dict (arguments.map fun a => (.text a.1, a.2)) := by
  cases d with
  | dict entries =>
    -- the section reads its entries by a function of its own that is the same as `asArgument?`
    rw [Datum.dict.injEq, ← Datum.mapM_asArgument?_eq_some_iff, SettingsGroup.arguments]
    split
    · rename_i given hgiven
      have hread : entries.mapM Datum.asArgument? = some given := hgiven
      rw [hread, Option.some.injEq, Except.ok.injEq]
    · rename_i hnone
      have hread : entries.mapM Datum.asArgument? = none := hnone
      rw [hread]
      simp
  | _ => simp [SettingsGroup.arguments]

/-- A mapping counts as true unless it has no entries. -/
theorem Datum.truth_dict (entries : List (Datum × Datum)) :
    (Datum.dict entries).truth = .ok (!entries.isEmpty) := rfl

theorem Datum.field?_of_not_truth (h : d.truth = .ok false) (name : String) :
    d.field? name = Option.none := by
  cases d with
  | dict entries =>
    cases entries with
    | nil => rfl
    | cons entry rest => cases h
  | _ => rfl

/-- The section that is looked at: an empty mapping in the place of one that is absent or counts as
false. -/
def sectionOf (entries : List (Datum × Datum)) (name : String) : Datum :=
  match Datum.lookupText name entries with
  | some d => if d.truth = .ok false then .dict [] else d
  | none => .dict []

/-- A section that is absent or counts as false has no entries. -/
theorem field?_sectionOf (entries : List (Datum × Datum)) (part name : String) :
    (sectionOf entries part).field? name =
      (Datum.lookupText part entries).bind fun d => d.field? name := by
  unfold sectionOf
  cases Datum.lookupText part entries with
  | none => rfl
  | some d =>
    by_cases htruth : d.truth = .ok false
    · simp only [htruth, if_true, Option.bind_some, Datum.field?_of_not_truth htruth]
      rfl
    · simp [htruth]

theorem hasOnlyKeys_sectionOf_iff {part : String} {names : List String} :
    (sectionOf entries part).HasOnlyKeys names ↔
      ∀ d, Datum.lookupText part entries = some d → d.truth ≠ .ok false →
        d.HasOnlyKeys names := by
  have hempty : (Datum.dict []).HasOnlyKeys names := ⟨[], rfl, by simp⟩
  unfold sectionOf
  cases Datum.lookupText part entries with
  | none => simpa using hempty
  | some d =>
    by_cases htruth : d.truth = .ok false
    · simpa [htruth] using hempty
    · simp [htruth]

/-- A section is the one that is looked at, unless its truth is refused. -/
theorem sectionIn_eq_ok_iff {part : String} :
    sectionIn entries part = .ok d ↔
      (∀ e f, Datum.lookupText part entries = some e → e.truth ≠ .error f) ∧
        sectionOf entries part = d := by
  unfold sectionIn sectionOf
  cases Datum.lookupText part entries with
  | none => simp
  | some e =>
    dsimp only
    cases htruth : e.truth with
    | error f =>
      constructor
      · intro h
        cases h
      · rintro ⟨hnone, -⟩
        exact absurd htruth (hnone e f rfl)
    | ok b =>
      have hsettled : ∀ e' f, some e = some e' → e'.truth ≠ .error f := by
        rintro _ f ⟨⟩ hf
        cases htruth.symm.trans hf
      rw [except_ok_bind]
      cases b with
      | true =>
        exact ⟨fun h => ⟨hsettled, Except.ok.inj h⟩, fun h => congrArg Except.ok h.2⟩
      | false =>
        exact ⟨fun h => ⟨hsettled, Except.ok.inj h⟩, fun h => congrArg Except.ok h.2⟩

/-- A mapping with known keys only is settled to count as true or as false. -/
theorem sectionIn_of_hasOnlyKeys {part : String} {names : List String}
    (h : (sectionOf entries part).HasOnlyKeys names) :
    sectionIn entries part = .ok (sectionOf entries part) := by
  refine sectionIn_eq_ok_iff.2 ⟨fun e f he hf => ?_, rfl⟩
  obtain ⟨arguments, rfl, -⟩ := hasOnlyKeys_sectionOf_iff.1 h e he (by simp [hf])
  cases hf

/-! ## The document -/

theorem asUnknownKey_eq_ok_iff {α : Type} {r : Except Failure α} {a : α} :
    asUnknownKey r = .ok a ↔ r = .ok a := by
  rcases r with (_ | _) | _ <;> simp [asUnknownKey]

theorem failsOnly_asUnknownKey {α : Type} {r : Except Failure α}
    (h : FailsOnly Failure.ReportsConfiguration r) :
    FailsOnly Failure.IsConfiguration (asUnknownKey r) := by
  intro e he
  rcases r with (r | f) | a
  · cases he
    exact ⟨r, rfl, h _ rfl r rfl⟩
  · cases he
    exact SettingIssue.isConfiguration _
  · cases he

namespace Settings

/-- A mapping gives settings exactly if its two sections have known keys only and each setting is
read from its entry. -/
theorem ofEntries_eq_ok_iff :
    ofEntries entries = .ok s ↔
      (∀ group : SettingsGroup,
        (sectionOf entries group.sectionName).HasOnlyKeys group.names) ∧
      s.engine.ReadFrom (sectionOf entries "engine").field? ∧
      s.logging.ReadFrom (sectionOf entries "logging").field? ∧ s.file = none := by
  have hlookup : ∀ arguments : Context,
      (Datum.dict (arguments.map fun a => (.text a.1, a.2))).field? =
        fun name => arguments.lookup name := fun arguments =>
    funext fun name => Datum.lookupText_map name arguments
  unfold ofEntries
  -- the order of the steps decides only which of several failures is reported
  constructor
  · intro h
    obtain ⟨engineSection, hengineSection, h⟩ := except_bind_eq_ok_iff.1 h
    obtain ⟨loggingSection, hloggingSection, h⟩ := except_bind_eq_ok_iff.1 h
    obtain ⟨-, rfl⟩ := sectionIn_eq_ok_iff.1 (faulted_eq_ok_iff.1 hengineSection)
    obtain ⟨-, rfl⟩ := sectionIn_eq_ok_iff.1 (faulted_eq_ok_iff.1 hloggingSection)
    rw [asUnknownKey_eq_ok_iff] at h
    obtain ⟨engineArguments, hengine, h⟩ := except_bind_eq_ok_iff.1 h
    obtain ⟨engine, hengineRead, h⟩ := except_bind_eq_ok_iff.1 h
    obtain ⟨loggingArguments, hlogging, h⟩ := except_bind_eq_ok_iff.1 h
    obtain ⟨logging, hloggingRead, h⟩ := except_bind_eq_ok_iff.1 h
    cases h
    have hengine := SettingsGroup.arguments_eq_ok_iff.1 (faulted_eq_ok_iff.1 hengine)
    have hlogging := SettingsGroup.arguments_eq_ok_iff.1 (faulted_eq_ok_iff.1 hlogging)
    obtain ⟨hengineNames, hengineRead⟩ := PassSettings.ofArguments_eq_ok_iff.1 hengineRead
    obtain ⟨hloggingNames, hloggingRead⟩ := LogSettings.ofArguments_eq_ok_iff.1 hloggingRead
    refine ⟨fun group => ?_, ?_, ?_, rfl⟩
    · cases group with
      | engine => exact ⟨engineArguments, hengine, hengineNames⟩
      | logging => exact ⟨loggingArguments, hlogging, hloggingNames⟩
    · rw [hengine, hlookup]
      exact hengineRead
    · rw [hlogging, hlookup]
      exact hloggingRead
  · rintro ⟨hsections, hengineRead, hloggingRead, hfile⟩
    have hengineSection : sectionIn entries "engine" = _ :=
      sectionIn_of_hasOnlyKeys (hsections .engine)
    have hloggingSection : sectionIn entries "logging" = _ :=
      sectionIn_of_hasOnlyKeys (hsections .logging)
    obtain ⟨engineArguments, hengine, hengineNames⟩ :
      (sectionOf entries "engine").HasOnlyKeys _ := hsections .engine
    obtain ⟨loggingArguments, hlogging, hloggingNames⟩ :
      (sectionOf entries "logging").HasOnlyKeys _ := hsections .logging
    rw [hengine, hlookup] at hengineRead
    rw [hlogging, hlookup] at hloggingRead
    have hengineMade := PassSettings.ofArguments_eq_ok_iff.2 ⟨hengineNames, hengineRead⟩
    have hloggingMade := LogSettings.ofArguments_eq_ok_iff.2 ⟨hloggingNames, hloggingRead⟩
    rw [hengineSection, hloggingSection, faulted_ok, faulted_ok, except_ok_bind, except_ok_bind,
      asUnknownKey_eq_ok_iff, SettingsGroup.arguments_eq_ok_iff.2 hengine,
      SettingsGroup.arguments_eq_ok_iff.2 hlogging]
    simp only [faulted_ok, except_ok_bind, hengineMade, hloggingMade]
    cases s
    cases hfile
    rfl

/-- A mapping whose sections are settled to count as true or as false fails by reports about
settings only. -/
theorem failsOnly_ofEntries (h : ∀ (group : SettingsGroup) e,
    Datum.lookupText group.sectionName entries = some e → e.IsSettled) :
    FailsOnly Failure.IsConfiguration (ofEntries entries) := by
  have hsection : ∀ group : SettingsGroup,
      sectionIn entries group.sectionName = .ok (sectionOf entries group.sectionName) := by
    refine fun group => sectionIn_eq_ok_iff.2 ⟨fun e f he hf => ?_, rfl⟩
    obtain ⟨b, hb⟩ := h group e he
    cases hb.symm.trans hf
  have hengine : sectionIn entries "engine" = _ := hsection .engine
  have hlogging : sectionIn entries "logging" = _ := hsection .logging
  rw [ofEntries, hengine, hlogging, faulted_ok, faulted_ok, except_ok_bind, except_ok_bind]
  apply failsOnly_asUnknownKey
  refine (failsOnly_faulted Failure.reportsConfiguration_fault _).bind fun _ => ?_
  refine PassSettings.failsOnly_ofArguments.bind fun _ => ?_
  refine (failsOnly_faulted Failure.reportsConfiguration_fault _).bind fun _ => ?_
  refine LogSettings.failsOnly_ofArguments.bind fun _ => ?_
  exact failsOnly_ok _

end Settings

theorem Loaded.lookupText_entries (found : Loaded) (name : String) :
    Datum.lookupText name found.entries = found.content?.bind fun d => d.field? name := by
  unfold entries
  cases found.content? with
  | none => rfl
  | some content => cases content <;> rfl

theorem Loaded.setting?_eq (found : Loaded) (group : SettingsGroup) :
    found.setting? group = (sectionOf found.entries group.sectionName).field? := by
  funext name
  rw [field?_sectionOf, lookupText_entries]
  unfold setting?
  cases found.content? with
  | none => rfl
  | some content => rfl

/-- What is found is no file that is missing, and a document that does not count as false is a
mapping in which each section that does not count as false has known keys only. -/
structure Loaded.WellFormed (found : Loaded) : Prop where
  present : ∀ path, found ≠ .missing path
  mapping : ∀ content, found.content? = some content → content.truth ≠ .ok false →
    ∃ entries, content = .dict entries
  sections : ∀ content (group : SettingsGroup) sectionData, found.content? = some content →
    content.field? group.sectionName = some sectionData → sectionData.truth ≠ .ok false →
      sectionData.HasOnlyKeys group.names

/-- A document and its sections are settled to count as true or as false. -/
structure Loaded.Settled (found : Loaded) : Prop where
  content : ∀ content, found.content? = some content → content.IsSettled
  sections : ∀ content (group : SettingsGroup) sectionData, found.content? = some content →
    content.field? group.sectionName = some sectionData → sectionData.IsSettled

/-- Without a document there is nothing to settle. -/
theorem Loaded.settled_of_content? (h : found.content? = none) : found.Settled where
  content := fun content hcontent => absurd (h.symm.trans hcontent) (by simp)
  sections := fun content _ _ hcontent => absurd (h.symm.trans hcontent) (by simp)

/-- A value that is a mapping unless it counts as false is settled. -/
theorem Datum.isSettled_of_mapping (h : d.truth ≠ .ok false → ∃ entries, d = .dict entries) :
    d.IsSettled := by
  by_cases htruth : d.truth = .ok false
  · exact ⟨false, htruth⟩
  · obtain ⟨entries, rfl⟩ := h htruth
    exact ⟨_, truth_dict entries⟩

theorem Loaded.WellFormed.settled (h : found.WellFormed) : found.Settled where
  content := fun content hcontent => Datum.isSettled_of_mapping (h.mapping content hcontent)
  sections := by
    intro content group sectionData hcontent hsection
    refine Datum.isSettled_of_mapping fun htruth => ?_
    obtain ⟨arguments, hkeys, -⟩ := h.sections content group sectionData hcontent hsection htruth
    exact ⟨_, hkeys⟩

namespace Settings

theorem ofDocument_of_mapping (path : String) (entries : List (Datum × Datum)) :
    ofDocument path (.dict entries) =
      (ofEntries entries).map fun s => { s with file := some path } := by
  cases entries with
  | nil => rfl
  | cons entry rest =>
    change (ofEntries (entry :: rest) >>= fun s => Except.ok { s with file := some path }) = _
    cases ofEntries (entry :: rest) with
    | ok s => rfl
    | error e => rfl

theorem ofDocument_of_not_truth (path : String) (h : d.truth = .ok false) :
    ofDocument path d = .ok { file := some path } := by
  unfold ofDocument
  rw [h]
  rfl

theorem ofDocument_of_not_mapping (path : String) (htruth : d.truth = .ok true)
    (h : ∀ entries, d ≠ .dict entries) :
    ofDocument path d = .error (SettingIssue.notMapping path).failure := by
  unfold ofDocument
  rw [htruth, faulted_ok, except_ok_bind, if_pos rfl]
  cases d with
  | dict entries => exact absurd rfl (h entries)
  | _ => rfl

/-- A document that gives settings is a mapping unless it counts as false. -/
theorem mapping_of_ofDocument {path : String} (h : ofDocument path d = .ok s)
    (htruth : d.truth ≠ .ok false) : ∃ entries, d = .dict entries := by
  by_contra hnone
  cases hd : d.truth with
  | error f =>
    unfold ofDocument at h
    rw [hd] at h
    cases h
  | ok b =>
    cases b with
    | false => exact htruth hd
    | true =>
      -- any other document that counts as true is refused
      have hrefused := ofDocument_of_not_mapping path hd fun entries he => hnone ⟨entries, he⟩
      cases hrefused.symm.trans h

/-- What is found gives the settings of its entries; without a document these are none. -/
theorem base_of_mapping (hpresent : ∀ path, found ≠ .missing path)
    (hmapping : ∀ content, found.content? = some content → content.truth ≠ .ok false →
      ∃ entries, content = .dict entries) :
    base found = (ofEntries found.entries).map fun s => { s with file := found.path? } := by
  cases found with
  | absent => rfl
  | missing path => exact absurd rfl (hpresent path)
  | document path content =>
    by_cases htruth : content.truth = .ok false
    · -- a mapping that counts as false is empty
      have hnone : (Loaded.document path content).entries = [] := by
        cases content with
        | dict entries =>
          cases entries with
          | nil => rfl
          | cons entry rest => cases htruth
        | _ => rfl
      rw [hnone]
      exact ofDocument_of_not_truth path htruth
    · obtain ⟨entries, rfl⟩ := hmapping content rfl htruth
      exact ofDocument_of_mapping path entries

/-- A file gives settings exactly if what is found is well formed and each setting is read from its
entry. -/
theorem base_eq_ok_iff :
    base found = .ok s ↔ found.WellFormed ∧ s.engine.ReadFrom (found.setting? .engine) ∧
      s.logging.ReadFrom (found.setting? .logging) ∧ s.file = found.path? := by
  rw [Loaded.setting?_eq, Loaded.setting?_eq]
  constructor
  · intro h
    have hpresent : ∀ path, found ≠ .missing path := by
      rintro path rfl
      cases h
    have hmapping : ∀ content, found.content? = some content → content.truth ≠ .ok false →
        ∃ entries, content = .dict entries := by
      intro content hcontent htruth
      cases found with
      | absent => cases hcontent
      | missing path => cases hcontent
      | document path content' =>
        cases hcontent
        exact mapping_of_ofDocument h htruth
    rw [base_of_mapping hpresent hmapping] at h
    obtain ⟨s', hmade, rfl⟩ := except_map_eq_ok_iff.1 h
    obtain ⟨hsections, hengine, hlogging, -⟩ := ofEntries_eq_ok_iff.1 hmade
    refine ⟨⟨hpresent, hmapping, ?_⟩, hengine, hlogging, rfl⟩
    intro content group sectionData hcontent hsection
    refine hasOnlyKeys_sectionOf_iff.1 (hsections group) sectionData ?_
    rw [found.lookupText_entries, hcontent]
    exact hsection
  · rintro ⟨hwell, hengine, hlogging, hfile⟩
    rw [base_of_mapping hwell.present hwell.mapping]
    refine except_map_eq_ok_iff.2 ⟨{ s with file := none }, ?_, by rw [← hfile]⟩
    refine ofEntries_eq_ok_iff.2 ⟨fun group => ?_, hengine, hlogging, rfl⟩
    refine hasOnlyKeys_sectionOf_iff.2 fun sectionData hsection => ?_
    rw [found.lookupText_entries] at hsection
    obtain ⟨content, hcontent, hsection⟩ := Option.bind_eq_some_iff.1 hsection
    exact hwell.sections content group sectionData hcontent hsection

/-- What is found gives settings if it is well formed and each entry that is read stands for a value
of its setting. -/
theorem exists_base (hwell : found.WellFormed)
    (hflag : ∀ name, name = "verify_topological_order" ∨ name = "log_shape_map" →
      ∀ d, found.setting? .engine name = some d → ∃ b, ReadsFlag d b)
    (hpolicy : ∀ d, found.setting? .engine "unknown_constant_policy" = some d →
      ∃ p, ReadsPolicy d p)
    (hlevel : ∀ d, found.setting? .logging "level" = some d → ∃ l, ReadsSeverity d l) :
    ∃ s, base found = .ok s := by
  obtain ⟨verifyOrder, hverify⟩ := exists_fromEntry false (hflag _ (.inl rfl))
  obtain ⟨logShapeMap, hlog⟩ := exists_fromEntry false (hflag _ (.inr rfl))
  obtain ⟨unknownConstants, hunknown⟩ := exists_fromEntry .refuse hpolicy
  obtain ⟨level, hread⟩ := exists_fromEntry .warning hlevel
  -- a format is taken as it is
  let format := (found.setting? .logging "format").getD ({} : LogSettings).format
  exact ⟨⟨⟨verifyOrder, unknownConstants, logShapeMap⟩, ⟨level, format⟩, found.path?⟩,
    base_eq_ok_iff.2 ⟨hwell, ⟨hverify, hunknown, hlog⟩, ⟨hread, fromEntry_eq_iff.2 rfl⟩, rfl⟩⟩

/-- What is found fails by reports about settings only, if it is settled to count as true or as
false. -/
theorem failsOnly_base (hfound : found.Settled) :
    FailsOnly Failure.IsConfiguration (base found) := by
  cases found with
  | absent => exact failsOnly_ok _
  | missing path => exact failsOnly_error (SettingIssue.isConfiguration _)
  | document path content =>
    by_cases hmapping : ∃ entries, content = .dict entries
    · obtain ⟨entries, rfl⟩ := hmapping
      rw [base, ofDocument_of_mapping]
      exact (failsOnly_ofEntries fun group e => hfound.sections _ group e rfl).map
    · obtain ⟨b, htruth⟩ := hfound.content content rfl
      cases b with
      | true =>
        rw [base, ofDocument_of_not_mapping path htruth fun entries h => hmapping ⟨entries, h⟩]
        exact failsOnly_error (SettingIssue.isConfiguration _)
      | false =>
        rw [base, ofDocument_of_not_truth path htruth]
        exact failsOnly_ok _

end Settings

end ShapeFlow
