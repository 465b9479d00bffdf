import ShapeFlow.Proofs.Settings.OneByOne
import ShapeFlow.Proofs.Yaml.CodecLaws

/-!
# Saving and loading again

The document of settings has an entry for each of them that reads as its value
(`exists_entry_document`), so what is loaded of it are the settings again, those aside that the
environment overrides (`each_of_load_document`). The document consists of names, flags and texts
only (`isSections_document`), and a codec that reads these again as they were written
(`DocumentCodec.RoundTrips`) reads the text of settings as their document. `reload_saved` puts the
two together for a file that the settings were saved in.
-/

set_option autoImplicit false

namespace ShapeFlow

namespace Settings

variable {c s t : Settings} {env : Environment} {path text : String}

/-- The document of settings has an entry for each of them, which reads as its value. -/
theorem exists_entry_document (c : Settings) (path : String) (x : Setting) :
    ∃ d, x.entry? (.document path c.document) = some d ∧ x.readEntry d = .ok (x.of c) := by
  obtain ⟨⟨verifyOrder, unknownConstants, logShapeMap⟩, ⟨level, format⟩, file⟩ := c
  cases x with
  | verifyOrder => exact ⟨.bool verifyOrder, rfl, rfl⟩
  | unknownConstants =>
    refine ⟨.text unknownConstants.label, rfl, ?_⟩
    cases unknownConstants <;> rfl
  | logShapeMap => exact ⟨.bool logShapeMap, rfl, rfl⟩
  | level =>
    refine ⟨.text level.label, rfl, ?_⟩
    cases level <;> rfl
  | format => exact ⟨format, rfl, rfl⟩

/-- The document of settings is a mapping of two sections with known keys only. -/
theorem wellFormed_document (c : Settings) (path : String) :
    (Loaded.document path c.document).WellFormed where
  present := by
    rintro path ⟨⟩
  mapping := by
    rintro content ⟨⟩ -
    exact ⟨_, rfl⟩
  sections := by
    rintro content group sectionData ⟨⟩ hsection -
    cases group with
    | engine =>
      cases hsection
      exact ⟨[("verify_topological_order", .bool c.engine.verifyOrder),
        ("unknown_constant_policy", .text c.engine.unknownConstants.label),
        ("log_shape_map", .bool c.engine.logShapeMap)], rfl, by simp [SettingsGroup.names]⟩
    | logging =>
      cases hsection
      exact ⟨[("level", .text c.logging.level.label), ("format", c.logging.format)], rfl,
        by simp [SettingsGroup.names]⟩

/-- The document of settings can be read with the same variables as no document at all. -/
theorem readable_document_iff (c : Settings) (path : String) :
    Readable env (.document path c.document) ↔ Readable env .absent := by
  constructor
  · intro h
    refine ⟨⟨?_, ?_, ?_⟩, ?_, h.words⟩
    · rintro path ⟨⟩
    · rintro content ⟨⟩
    · rintro content group sectionData ⟨⟩
    · rintro x d ⟨⟩
  · intro h
    refine ⟨wellFormed_document c path, fun x d hd => ?_, h.words⟩
    obtain ⟨d', hentry, hread⟩ := exists_entry_document c path x
    obtain rfl : d' = d := Option.some.inj (hentry.symm.trans hd)
    exact ⟨_, hread⟩

theorem document_of_each (h : ∀ x : Setting, x.of t = x.of c) : t.document = c.document := by
  obtain ⟨⟨verifyOrder, unknownConstants, logShapeMap⟩, ⟨level, format⟩, file⟩ := t
  obtain ⟨⟨verifyOrder', unknownConstants', logShapeMap'⟩, ⟨level', format'⟩, file'⟩ := c
  obtain rfl : verifyOrder = verifyOrder' := Datum.bool.inj (h .verifyOrder)
  obtain rfl : unknownConstants = unknownConstants' := Datum.policy.inj (h .unknownConstants)
  obtain rfl : logShapeMap = logShapeMap' := Datum.bool.inj (h .logShapeMap)
  obtain rfl : level = level' := Datum.severity.inj (h .level)
  obtain rfl : format = format' := h .format
  rfl

/-- What is loaded of the document of settings are these settings, those aside whose variable is
set. -/
theorem each_of_load_document {t₀ : Settings} (ht : load env (.document path c.document) = .ok t)
    (ht₀ : load env .absent = .ok t₀) (x : Setting) :
    x.of t = if (env.get? x.source).isSome then x.of t₀ else x.of c := by
  obtain ⟨-, heach, -⟩ := load_eq_ok_iff_each.1 ht
  obtain ⟨-, heach₀, -⟩ := load_eq_ok_iff_each.1 ht₀
  have hx := heach x
  have hx₀ := heach₀ x
  unfold Setting.merged at hx hx₀
  cases hw : env.get? x.source with
  | some w =>
    rw [hw] at hx hx₀
    exact Except.ok.inj (hx.symm.trans hx₀)
  | none =>
    obtain ⟨d, hentry, hread⟩ := exists_entry_document c path x
    simp only [hw, hentry, hread] at hx
    exact (Except.ok.inj hx).symm

/-- Nothing has to be read if no variable is set and there is no document. -/
theorem readable_absent (hnone : ∀ x : Setting, env.get? x.source = none) :
    Readable env .absent where
  wellFormed := ⟨by rintro path ⟨⟩, by rintro content ⟨⟩, by rintro content group sectionData ⟨⟩⟩
  entries := by rintro x d ⟨⟩
  words := fun x w hw => absurd hw (by simp [hnone x])

/-- Without variables the document of settings is loaded as these settings. -/
theorem exists_load_document (path : String) (hnone : ∀ x : Setting, env.get? x.source = none) :
    ∃ t, load env (.document path c.document) = .ok t ∧ t.document = c.document := by
  obtain ⟨t₀, ht₀⟩ := exists_load_iff.2 (readable_absent hnone)
  obtain ⟨t, ht⟩ := exists_load_iff.2 ((readable_document_iff c path).2 (readable_absent hnone))
  refine ⟨t, ht, document_of_each fun x => ?_⟩
  rw [each_of_load_document ht ht₀ x, hnone x]
  simp

/-- The document of settings with a text as format consists of sections of flags and texts. -/
theorem isSections_document {c : Settings} (hformat : c.logging.format = .text text) :
    c.document.IsSections := by
  have hengine : (Datum.dict
      [(.text "verify_topological_order", .bool c.engine.verifyOrder),
       (.text "unknown_constant_policy", .text c.engine.unknownConstants.label),
       (.text "log_shape_map", .bool c.engine.logShapeMap)]).IsMappingOf
        fun name value => name ∈ SettingsGroup.engine.names ∧ value.IsFlagOrText := by
    refine ⟨[("verify_topological_order", _), ("unknown_constant_policy", _),
      ("log_shape_map", _)], rfl, by simp, by simp, ?_⟩
    simp [SettingsGroup.names, Datum.IsFlagOrText]
  have hlogging : (Datum.dict
      [(.text "level", .text c.logging.level.label),
       (.text "format", c.logging.format)]).IsMappingOf
        fun name value => name ∈ SettingsGroup.logging.names ∧ value.IsFlagOrText := by
    refine ⟨[("level", _), ("format", _)], rfl, by simp, by simp, ?_⟩
    simp [SettingsGroup.names, Datum.IsFlagOrText, hformat]
  refine ⟨[("engine", _), ("logging", _)], rfl, by simp, by simp, ?_⟩
  rw [List.forall_mem_cons, List.forall_mem_singleton]
  exact ⟨⟨.engine, rfl, hengine⟩, .logging, rfl, hlogging⟩

/-- **Settings that were saved are loaded again**, with those overridden whose variable is set. Of
the codec it is asked that it reads sections of truth values and texts again as they were written.
-/
theorem reload_saved {codec : DocumentCodec} {c : Settings} {path text : String}
    (hcodec : codec.RoundTrips) (hformat : c.logging.format = .text text) (hpath : path ≠ "")
    (files : Files) (env : Environment) :
    let reloaded := loadFile (files.write path (c.text codec)) codec env (some path)
    ((∃ t, reloaded = .ok t) ↔ ∃ t₀, load env .absent = .ok t₀) ∧
      (∀ t t₀, reloaded = .ok t → load env .absent = .ok t₀ →
        t.file = some path ∧
          ∀ x : Setting, x.of t = if (env.get? x.source).isSome then x.of t₀ else x.of c) ∧
      ((∀ x : Setting, env.get? x.source = none) →
        ∃ t, reloaded = .ok t ∧ t.document = c.document ∧ t.text codec = c.text codec) := by
  have hread : codec.read (c.text codec) = .ok c.document :=
    hcodec _ (isSections_document hformat)
  have hfound : (files.write path (c.text codec)).Leads codec (some path)
      (.document path c.document) := .document hpath (by simp [Files.write]) hread
  dsimp only
  rw [loadFile_of_leads hfound]
  refine ⟨?_, fun t t₀ ht ht₀ => ⟨?_, each_of_load_document ht ht₀⟩, fun hnone => ?_⟩
  · rw [exists_load_iff, exists_load_iff, readable_document_iff]
  · exact (load_eq_ok_iff_each.1 ht).2.2
  · obtain ⟨t, ht, hdocument⟩ := exists_load_document path hnone
    exact ⟨t, ht, hdocument, congrArg codec.write hdocument⟩

/-- Settings whose format is a word for true. -/
def affirmedFormat : Settings where
  engine := { verifyOrder := true, unknownConstants := .empty }
  logging := { level := .debug, format := .text "yes" }

/-- A format that is a word for true stays a text, and the level is that of the environment. -/
theorem affirmedFormat_reloaded :
    ∃ t, loadFile (Files.write [] "run.yaml" (affirmedFormat.text Yaml.codec)) Yaml.codec
        [("JITSHAPE_LOG_LEVEL", "Error")] (some "run.yaml") = .ok t ∧
      t.file = some "run.yaml" ∧ t.engine.verifyOrder = true ∧ t.logging.level = .error ∧
        t.logging.format = .text "yes" := by
  have hformat : affirmedFormat.logging.format = .text "yes" := rfl
  obtain ⟨hloads, heach, -⟩ := reload_saved Yaml.codec_roundTrips hformat
    (show "run.yaml" ≠ "" by decide) [] [("JITSHAPE_LOG_LEVEL", "Error")]
  have hplain : load [("JITSHAPE_LOG_LEVEL", "Error")] .absent =
      .ok { logging := { level := .error } } := rfl
  obtain ⟨t, ht⟩ := hloads.2 ⟨_, hplain⟩
  obtain ⟨hfile, hsettings⟩ := heach t _ ht hplain
  exact ⟨t, ht, hfile, Datum.bool.inj (hsettings .verifyOrder),
    Datum.severity.inj (hsettings .level), hsettings .format⟩

end Settings

end ShapeFlow
