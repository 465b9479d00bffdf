import ShapeFlow.Proofs.Settings.Merging

/-!
# Settings one by one

The five settings have a name each (`Setting`), with a variable, a place in a document, and a value
in what was loaded (`Setting.of`). Two readers belong to a setting: one for the text of its variable
(`Setting.readWord`), and one for its entry (`Setting.readEntry`). They are the same for a text,
except for the flags. Settings are loaded exactly if what is found is well formed and all that is
given can be read, and then each setting is what its own sources say, whatever the others are
(`Settings.load_eq_ok_iff_each`).
-/

set_option autoImplicit false

namespace ShapeFlow

/-- The settings by name. -/
inductive Setting where
  | verifyOrder
  | unknownConstants
  | logShapeMap
  | level
  | format
  deriving DecidableEq

namespace Setting

/-- The variable of a setting. -/
def source : Setting → String
  | verifyOrder => Environment.verifyOrder
  | unknownConstants => Environment.unknownConstants
  | logShapeMap => Environment.logShapeMap
  | level => Environment.logLevel
  | format => Environment.logFormat

/-- The group of a setting. -/
def group : Setting → SettingsGroup
  | verifyOrder | unknownConstants | logShapeMap => .engine
  | level | format => .logging

/-- The name of a setting in its group. -/
def name : Setting → String
  | verifyOrder => "verify_topological_order"
  | unknownConstants => "unknown_constant_policy"
  | logShapeMap => "log_shape_map"
  | level => "level"
  | format => "format"

/-- The value of a setting. -/
def of (s : Settings) : Setting → Datum
  | verifyOrder => .bool s.engine.verifyOrder
  | unknownConstants => .policy s.engine.unknownConstants
  | logShapeMap => .bool s.engine.logShapeMap
  | level => .severity s.logging.level
  | format => s.logging.format

/-- The settings that are on or off. -/
def IsFlag : Setting → Prop
  | verifyOrder | logShapeMap => True
  | unknownConstants | level | format => False

/-- The value that an entry gives to a setting. -/
def readEntry (d : Datum) : Setting → Except Failure Datum
  | verifyOrder => (readFlag "verify_topological_order" d).map .bool
  | unknownConstants => (readPolicy "unknown_constant_policy" d).map .policy
  | logShapeMap => (readFlag "log_shape_map" d).map .bool
  | level => (readSeverity "logging.level" d).map .severity
  | format => .ok d

/-- The value that the text of its variable gives to a setting. -/
def readWord (w : String) : Setting → Except Failure Datum
  | verifyOrder | logShapeMap => .ok (.bool (lower w == "true"))
  | unknownConstants => (readPolicy "unknown_constant_policy" (.text w)).map .policy
  | level => (readSeverity "logging.level" (.text w)).map .severity
  | format => .ok (.text w)

/-- The entry of a setting in what is found. -/
def entry? (found : Loaded) (x : Setting) : Option Datum := found.setting? x.group x.name

/-- The value that the sources of a setting give to it. -/
def merged (env : Environment) (found : Loaded) (x : Setting) : Except Failure Datum :=
  match env.get? x.source with
  | some w => x.readWord w
  | none =>
    match x.entry? found with
    | some d => x.readEntry d
    | none => .ok (x.of {})

end Setting

variable {env : Environment} {found : Loaded} {s : Settings}

theorem map_eq_ok_iff_of_injective {ε α β : Type} {r : Except ε α} {f : α → β} {a : α}
    (hf : Function.Injective f) : r.map f = .ok (f a) ↔ r = .ok a := by
  rw [except_map_eq_ok_iff]
  constructor
  · rintro ⟨b, hb, heq⟩
    rwa [← hf heq]
  · intro h
    exact ⟨a, h, rfl⟩

namespace Setting

variable {x : Setting}

/-- Merging as a relation and merging by the readers of a setting are the same, if the readers read
what the relation admits. -/
theorem merged_iff {α : Type} {readsWord : String → α → Prop} {reads : Datum → α → Prop}
    {default a : α} {value : α → Datum} (hvalue : Function.Injective value)
    (hdefault : x.of {} = value default)
    (hword : ∀ w a, x.readWord w = .ok (value a) ↔ readsWord w a)
    (hentry : ∀ d a, x.readEntry d = .ok (value a) ↔ reads d a) :
    Merged readsWord reads default (env.get? x.source) (x.entry? found) a ↔
      x.merged env found = .ok (value a) := by
  unfold merged
  cases env.get? x.source with
  | some w =>
    rw [hword]
    constructor
    · rintro ⟨h⟩
      exact h
    · exact .word
  | none =>
    cases x.entry? found with
    | some d =>
      rw [hentry]
      constructor
      · intro h
        cases h with
        | entry h => exact h
      · exact .entry
    | none =>
      rw [hdefault, Except.ok.injEq, hvalue.eq_iff]
      constructor
      · rintro ⟨⟩
        rfl
      · rintro rfl
        exact .default

theorem merged_flag_iff {b : Bool} (hx : x.IsFlag) :
    Merged (fun w b => b = (lower w == "true")) ReadsFlag false (env.get? x.source)
      (x.entry? found) b ↔ x.merged env found = .ok (.bool b) := by
  have hbool : Function.Injective Datum.bool := fun _ _ h => Datum.bool.inj h
  have hword : ∀ (w : String) (b : Bool),
      (Except.ok (Datum.bool (lower w == "true")) : Except Failure Datum) = .ok (.bool b) ↔
        b = (lower w == "true") := fun w b => by
    rw [Except.ok.injEq, hbool.eq_iff, eq_comm]
  have hentry : ∀ setting d b,
      (readFlag setting d).map Datum.bool = .ok (.bool b) ↔ ReadsFlag d b := fun _ _ _ =>
    (map_eq_ok_iff_of_injective hbool).trans readFlag_eq_ok_iff
  cases x with
  | verifyOrder => exact merged_iff hbool rfl hword (hentry _)
  | logShapeMap => exact merged_iff hbool rfl hword (hentry _)
  | unknownConstants | level | format => exact hx.elim

theorem merged_policy_iff {p : ConstantPolicy} :
    Merged (fun w p => lower w = p.label) ReadsPolicy .refuse
      (env.get? unknownConstants.source) (unknownConstants.entry? found) p ↔
        unknownConstants.merged env found = .ok (.policy p) := by
  have hpolicy : Function.Injective Datum.policy := fun _ _ h => Datum.policy.inj h
  refine merged_iff hpolicy rfl (fun w p => ?_) fun d p => ?_
  · exact (map_eq_ok_iff_of_injective hpolicy).trans readPolicy_text_eq_ok_iff
  · exact (map_eq_ok_iff_of_injective hpolicy).trans readPolicy_eq_ok_iff

theorem merged_level_iff {l : Severity} :
    Merged (fun w l => lower w = l.label) ReadsSeverity .warning
      (env.get? level.source) (level.entry? found) l ↔
        level.merged env found = .ok (.severity l) := by
  have hseverity : Function.Injective Datum.severity := fun _ _ h => Datum.severity.inj h
  refine merged_iff hseverity rfl (fun w l => ?_) fun d l => ?_
  · exact (map_eq_ok_iff_of_injective hseverity).trans readSeverity_text_eq_ok_iff
  · exact (map_eq_ok_iff_of_injective hseverity).trans readSeverity_eq_ok_iff

theorem merged_format_iff {d : Datum} :
    Merged (fun w d => d = .text w) Eq ({} : LogSettings).format
      (env.get? format.source) (format.entry? found) d ↔ format.merged env found = .ok d := by
  have hid : Function.Injective (id : Datum → Datum) := Function.injective_id
  refine merged_iff hid rfl (fun w d => ?_) fun d d' => ?_
  · rw [readWord, Except.ok.injEq, id, eq_comm]
  · rw [readEntry, Except.ok.injEq, id]

end Setting

namespace Settings

/-- Settings are merged from their sources exactly if each of them is. -/
theorem mergedFrom_iff_each :
    s.MergedFrom env found ↔
      (∀ x : Setting, x.merged env found = .ok (x.of s)) ∧ s.file = found.path? := by
  constructor
  · intro h
    refine ⟨fun x => ?_, h.file⟩
    cases x with
    | verifyOrder => exact (Setting.merged_flag_iff (x := .verifyOrder) trivial).1 h.verifyOrder
    | unknownConstants => exact Setting.merged_policy_iff.1 h.unknownConstants
    | logShapeMap => exact (Setting.merged_flag_iff (x := .logShapeMap) trivial).1 h.logShapeMap
    | level => exact Setting.merged_level_iff.1 h.level
    | format => exact Setting.merged_format_iff.1 h.format
  · rintro ⟨h, hfile⟩
    exact
      { verifyOrder := (Setting.merged_flag_iff (x := .verifyOrder) trivial).2 (h .verifyOrder)
        unknownConstants := Setting.merged_policy_iff.2 (h .unknownConstants)
        logShapeMap := (Setting.merged_flag_iff (x := .logShapeMap) trivial).2 (h .logShapeMap)
        level := Setting.merged_level_iff.2 (h .level)
        format := Setting.merged_format_iff.2 (h .format)
        file := hfile }

/-- What is found is well formed, and all that it or a variable gives can be read. -/
structure Readable (env : Environment) (found : Loaded) : Prop where
  wellFormed : found.WellFormed
  entries : ∀ (x : Setting) d, x.entry? found = some d → ∃ v, x.readEntry d = .ok v
  words : ∀ (x : Setting) w, env.get? x.source = some w → ∃ v, x.readWord w = .ok v

theorem exists_map_eq_ok_iff {ε α β : Type} {r : Except ε α} {f : α → β} :
    (∃ b, r.map f = .ok b) ↔ ∃ a, r = .ok a := by
  cases r with
  | ok a => simp [Except.map]
  | error e => simp [Except.map]

section Readers

variable {d : Datum} {w setting : String}

theorem exists_map_readFlag_iff :
    (∃ v, (readFlag setting d).map Datum.bool = .ok v) ↔ ∃ b, ReadsFlag d b :=
  exists_map_eq_ok_iff.trans (exists_congr fun _ => readFlag_eq_ok_iff)

theorem exists_map_readPolicy_iff :
    (∃ v, (readPolicy setting d).map Datum.policy = .ok v) ↔ ∃ p, ReadsPolicy d p :=
  exists_map_eq_ok_iff.trans (exists_congr fun _ => readPolicy_eq_ok_iff)

theorem exists_map_readSeverity_iff :
    (∃ v, (readSeverity setting d).map Datum.severity = .ok v) ↔ ∃ l, ReadsSeverity d l :=
  exists_map_eq_ok_iff.trans (exists_congr fun _ => readSeverity_eq_ok_iff)

end Readers

theorem readable_of_not_refused (h : ¬ Refused env found) : Readable env found where
  wellFormed := wellFormed_of_not_refused h
  entries := by
    intro x d hentry
    by_contra hnone
    cases x with
    | verifyOrder =>
      exact h (.badFlag _ (.inl rfl) hentry fun b hb => hnone (exists_map_readFlag_iff.2 ⟨b, hb⟩))
    | unknownConstants =>
      exact h (.badPolicy hentry fun p hp => hnone (exists_map_readPolicy_iff.2 ⟨p, hp⟩))
    | logShapeMap =>
      exact h (.badFlag _ (.inr rfl) hentry fun b hb => hnone (exists_map_readFlag_iff.2 ⟨b, hb⟩))
    | level =>
      exact h (.badLevel hentry fun l hl => hnone (exists_map_readSeverity_iff.2 ⟨l, hl⟩))
    | format => exact hnone ⟨d, rfl⟩
  words := by
    intro x w hw
    by_contra hnone
    cases x with
    | verifyOrder | logShapeMap | format => exact hnone ⟨_, rfl⟩
    | unknownConstants =>
      exact h (.badPolicyVariable hw fun p hp =>
        hnone (exists_map_readPolicy_iff.2 ⟨p, .word hp⟩))
    | level =>
      exact h (.badLevelVariable hw fun l hl =>
        hnone (exists_map_readSeverity_iff.2 ⟨l, .word hl⟩))

theorem not_refused_of_readable (h : Readable env found) : ¬ Refused env found := by
  intro hrefused
  cases hrefused with
  | missing hmissing => exact h.wellFormed.present _ hmissing
  | notMapping hcontent htruth hnone =>
    obtain ⟨entries, hentries⟩ := h.wellFormed.mapping _ hcontent htruth
    exact hnone entries hentries
  | badSection group hcontent hsection htruth hkeys =>
    exact hkeys (h.wellFormed.sections _ group _ hcontent hsection htruth)
  | badFlag name hname hentry hnone =>
    rcases hname with rfl | rfl
    · obtain ⟨b, hb⟩ := exists_map_readFlag_iff.1 (h.entries .verifyOrder _ hentry)
      exact hnone b hb
    · obtain ⟨b, hb⟩ := exists_map_readFlag_iff.1 (h.entries .logShapeMap _ hentry)
      exact hnone b hb
  | badPolicy hentry hnone =>
    obtain ⟨p, hp⟩ := exists_map_readPolicy_iff.1 (h.entries .unknownConstants _ hentry)
    exact hnone p hp
  | badLevel hentry hnone =>
    obtain ⟨l, hl⟩ := exists_map_readSeverity_iff.1 (h.entries .level _ hentry)
    exact hnone l hl
  | badPolicyVariable hw hnone =>
    obtain ⟨p, hp⟩ := exists_map_readPolicy_iff.1 (h.words .unknownConstants _ hw)
    exact hnone p ((reads_text_iff (by simp)).1 hp)
  | badLevelVariable hw hnone =>
    obtain ⟨l, hl⟩ := exists_map_readSeverity_iff.1 (h.words .level _ hw)
    exact hnone l ((reads_text_iff (by simp)).1 hl)

/-- Settings are loaded exactly if all that is given can be read. -/
theorem exists_load_iff : (∃ s, load env found = .ok s) ↔ Readable env found := by
  constructor
  · rintro ⟨s, hs⟩
    exact readable_of_not_refused (not_refused_of_load hs)
  · intro h
    exact exists_load_of_not_refused (not_refused_of_readable h)

/-- **Settings are loaded one by one**: if all that is given can be read, each setting is what its
own sources say. -/
theorem load_eq_ok_iff_each :
    load env found = .ok s ↔ Readable env found ∧
      (∀ x : Setting, x.merged env found = .ok (x.of s)) ∧ s.file = found.path? := by
  rw [load_eq_ok_iff, mergedFrom_iff_each]
  constructor
  · rintro ⟨hrefused, hmerged⟩
    exact ⟨readable_of_not_refused hrefused, hmerged⟩
  · rintro ⟨hreadable, hmerged⟩
    exact ⟨not_refused_of_readable hreadable, hmerged⟩

end Settings

end ShapeFlow
