import ShapeFlow.Settings.Files
import ShapeFlow.Proofs.Yaml.CodecLaws

/-!
# Where settings come from

Each setting has three sources, and the first that is there decides: the variable of the setting,
its entry in the document of a file, and its default (`Merged`). The sources of one setting have no
part in another one. What is loaded is merged in this way setting by setting
(`Settings.MergedFrom`), unless one of the reasons to refuse holds (`Settings.Refused`), and these
are the only ones (`Settings.load_eq_ok_iff`). What is found is decided by the path and the files
(`Files.Leads`): nothing without a path, no file, or the document that the codec reads in the text
of the file. `Settings.load_merges` says what is loaded with a path in these terms.
-/

set_option autoImplicit false

namespace ShapeFlow

/-! ## Sources of settings -/

/-- A setting is what its variable stands for if the variable is set, else what its entry stands for
if there is one, else its default. -/
inductive Merged {α : Type} (readsWord : String → α → Prop) (reads : Datum → α → Prop)
    (default : α) : Option String → Option Datum → α → Prop where
  | word {w : String} {entry : Option Datum} {a : α} :
      readsWord w a → Merged readsWord reads default (some w) entry a
  | entry {d : Datum} {a : α} : reads d a → Merged readsWord reads default none (some d) a
  | default : Merged readsWord reads default none none default

/-- The settings that variables and what is found at a path give together, each by itself. -/
structure Settings.MergedFrom (env : Environment) (found : Loaded) (s : Settings) : Prop where
  verifyOrder : Merged (fun w b => b = (lower w == "true")) ReadsFlag false
    (env.get? "JITSHAPE_VERIFY_ORDER") (found.setting? .engine "verify_topological_order")
    s.engine.verifyOrder
  unknownConstants : Merged (fun w p => lower w = p.label) ReadsPolicy .refuse
    (env.get? "JITSHAPE_UNKNOWN_CONSTANTS") (found.setting? .engine "unknown_constant_policy")
    s.engine.unknownConstants
  logShapeMap : Merged (fun w b => b = (lower w == "true")) ReadsFlag false
    (env.get? "JITSHAPE_LOG_SHAPE_MAP") (found.setting? .engine "log_shape_map")
    s.engine.logShapeMap
  level : Merged (fun w l => lower w = l.label) ReadsSeverity .warning
    (env.get? "JITSHAPE_LOG_LEVEL") (found.setting? .logging "level") s.logging.level
  format : Merged (fun w d => d = .text w) Eq ({} : LogSettings).format
    (env.get? "JITSHAPE_LOG_FORMAT") (found.setting? .logging "format") s.logging.format
  file : s.file = found.path?

/-- The reasons to refuse: no file is there; the document does not count as false and is no mapping;
one of its sections does not count as false and is no mapping with known keys only; an entry stands
for no value of its setting, also where a variable is set; a variable that is set stands for no
member of its choice. -/
inductive Settings.Refused (env : Environment) (found : Loaded) : Prop where
  | missing {path : String} : found = .missing path → Refused env found
  | notMapping {content : Datum} : found.content? = some content → content.truth ≠ .ok false →
      (∀ entries, content ≠ .dict entries) → Refused env found
  | badSection {content sectionData : Datum} (group : SettingsGroup) :
      found.content? = some content → content.field? group.sectionName = some sectionData →
        sectionData.truth ≠ .ok false → ¬ sectionData.HasOnlyKeys group.names → Refused env found
  | badFlag {d : Datum} (name : String) :
      name = "verify_topological_order" ∨ name = "log_shape_map" →
        found.setting? .engine name = some d → (∀ b, ¬ ReadsFlag d b) → Refused env found
  | badPolicy {d : Datum} : found.setting? .engine "unknown_constant_policy" = some d →
      (∀ p, ¬ ReadsPolicy d p) → Refused env found
  | badLevel {d : Datum} : found.setting? .logging "level" = some d →
      (∀ l, ¬ ReadsSeverity d l) → Refused env found
  | badPolicyVariable {w : String} : env.get? "JITSHAPE_UNKNOWN_CONSTANTS" = some w →
      (∀ p : ConstantPolicy, lower w ≠ p.label) → Refused env found
  | badLevelVariable {w : String} : env.get? "JITSHAPE_LOG_LEVEL" = some w →
      (∀ l : Severity, lower w ≠ l.label) → Refused env found

variable {env : Environment} {found : Loaded} {s t : Settings}

/-! ## The environment -/

namespace Environment

theorem flag_of_get? {source w : String} (h : env.get? source = some w) :
    env.flag source = (lower w == "true") := by
  rw [flag, h]
  rfl

/-- The environment alone gives settings of the pass exactly if the variable of the choice, where it
is set, stands for a member. -/
theorem engine_eq_ok_iff {e : PassSettings} :
    env.engine = .ok e ↔
      e.verifyOrder = env.flag verifyOrder ∧ e.logShapeMap = env.flag logShapeMap ∧
      lower ((env.get? unknownConstants).getD ConstantPolicy.refuse.label) =
        e.unknownConstants.label := by
  constructor
  · intro h
    obtain ⟨p, hp, h⟩ := except_bind_eq_ok_iff.1 h
    cases h
    exact ⟨rfl, rfl, readPolicy_text_eq_ok_iff.1 hp⟩
  · rintro ⟨hverify, hlog, hword⟩
    rw [engine, readPolicy_text_eq_ok_iff.2 hword, except_ok_bind, ← hverify, ← hlog]
    rfl

theorem logging_eq_ok_iff {l : LogSettings} :
    env.logging = .ok l ↔
      lower ((env.get? logLevel).getD Severity.warning.label) = l.level.label ∧
      l.format = ((env.get? logFormat).map Datum.text).getD ({} : LogSettings).format := by
  constructor
  · intro h
    obtain ⟨level, hlevel, h⟩ := except_bind_eq_ok_iff.1 h
    cases h
    exact ⟨readSeverity_text_eq_ok_iff.1 hlevel, rfl⟩
  · rintro ⟨hword, hformat⟩
    rw [logging, readSeverity_text_eq_ok_iff.2 hword, except_ok_bind, ← hformat]
    rfl

/-- The environment alone gives settings unless a variable that is set stands for no member of its
choice. -/
theorem exists_engine
    (h : ∀ w, env.get? unknownConstants = some w → ∃ p : ConstantPolicy, lower w = p.label) :
    ∃ e, env.engine = .ok e := by
  have hword : ∃ p : ConstantPolicy,
      lower ((env.get? unknownConstants).getD ConstantPolicy.refuse.label) = p.label := by
    cases hw : env.get? unknownConstants with
    | none => exact ⟨.refuse, rfl⟩
    | some w => exact h w hw
  obtain ⟨p, hp⟩ := hword
  exact ⟨⟨env.flag verifyOrder, p, env.flag logShapeMap⟩, engine_eq_ok_iff.2 ⟨rfl, rfl, hp⟩⟩

theorem exists_logging
    (h : ∀ w, env.get? logLevel = some w → ∃ l : Severity, lower w = l.label) :
    ∃ l, env.logging = .ok l := by
  have hword : ∃ l : Severity,
      lower ((env.get? logLevel).getD Severity.warning.label) = l.label := by
    cases hw : env.get? logLevel with
    | none => exact ⟨.warning, rfl⟩
    | some w => exact h w hw
  obtain ⟨l, hl⟩ := hword
  exact ⟨⟨l, _⟩, logging_eq_ok_iff.2 ⟨hl, rfl⟩⟩

theorem failsOnly_override : FailsOnly Failure.IsConfiguration (env.override s) := by
  have hengine : FailsOnly Failure.IsConfiguration env.engine :=
    failsOnly_readChoice.bind fun _ => failsOnly_ok _
  have hlogging : FailsOnly Failure.IsConfiguration env.logging :=
    failsOnly_readChoice.bind fun _ => failsOnly_ok _
  exact hengine.bind fun _ => hlogging.bind fun _ => failsOnly_ok _

/-- The choice between a variable and what the entry or the default gave is a merge. -/
theorem merged_choose {α : Type} {readsWord : String → α → Prop} {reads : Datum → α → Prop}
    {default base given : α} {entry : Option Datum} {source : String}
    (hword : ∀ w, env.get? source = some w → readsWord w given)
    (hbase : FromEntry reads default entry base) :
    Merged readsWord reads default (env.get? source) entry (env.choose source base given) := by
  unfold choose
  cases hw : env.get? source with
  | none =>
    cases hbase with
    | entry hd => exact .entry hd
    | default => exact .default
  | some w => exact .word (hword w hw)

end Environment

/-! ## Loading -/

theorem Merged.unique {α : Type} {readsWord : String → α → Prop} {reads : Datum → α → Prop}
    {default a b : α} {word : Option String} {entry : Option Datum}
    (ha : Merged readsWord reads default word entry a)
    (hb : Merged readsWord reads default word entry b) (hword : Relator.RightUnique readsWord)
    (hreads : Relator.RightUnique reads) : a = b := by
  cases ha with
  | word ha =>
    cases hb with
    | word hb => exact hword ha hb
  | entry ha =>
    cases hb with
    | entry hb => exact hreads ha hb
  | default =>
    cases hb with
    | default => rfl

namespace Settings

/-- The sources determine the settings. -/
theorem MergedFrom.unique (hs : s.MergedFrom env found) (ht : t.MergedFrom env found) : s = t := by
  have hpolicy : Relator.RightUnique fun (w : String) (p : ConstantPolicy) => lower w = p.label :=
    fun _ _ _ hp hq => ConstantPolicy.label_injective (hp.symm.trans hq)
  have hlevel : Relator.RightUnique fun (w : String) (l : Severity) => lower w = l.label :=
    fun _ _ _ hl hm => Severity.label_injective (hl.symm.trans hm)
  have hflag : Relator.RightUnique fun (w : String) (b : Bool) => b = (lower w == "true") :=
    fun _ _ _ ha hb => ha.trans hb.symm
  have hformat : Relator.RightUnique fun (w : String) (d : Datum) => d = .text w :=
    fun _ _ _ ha hb => ha.trans hb.symm
  have hsame : Relator.RightUnique (Eq : Datum → Datum → Prop) :=
    fun _ _ _ ha hb => ha.symm.trans hb
  obtain ⟨⟨verifyOrder, unknownConstants, logShapeMap⟩, ⟨level, format⟩, file⟩ := s
  obtain ⟨⟨verifyOrder', unknownConstants', logShapeMap'⟩, ⟨level', format'⟩, file'⟩ := t
  obtain rfl : verifyOrder = verifyOrder' :=
    hs.verifyOrder.unique ht.verifyOrder hflag rightUnique_readsFlag
  obtain rfl : unknownConstants = unknownConstants' :=
    hs.unknownConstants.unique ht.unknownConstants hpolicy rightUnique_readsPolicy
  obtain rfl : logShapeMap = logShapeMap' :=
    hs.logShapeMap.unique ht.logShapeMap hflag rightUnique_readsFlag
  obtain rfl : level = level' := hs.level.unique ht.level hlevel rightUnique_readsSeverity
  obtain rfl : format = format' := hs.format.unique ht.format hformat hsame
  obtain rfl : file = file' := hs.file.trans ht.file.symm
  rfl

/-- What is loaded is merged from its sources. -/
theorem mergedFrom_of_load (h : load env found = .ok t) : t.MergedFrom env found := by
  obtain ⟨s, hbase, h⟩ := except_bind_eq_ok_iff.1 h
  obtain ⟨e, he, h⟩ := except_bind_eq_ok_iff.1 h
  obtain ⟨l, hl, h⟩ := except_bind_eq_ok_iff.1 h
  cases h
  obtain ⟨-, hengine, hlogging, hfile⟩ := base_eq_ok_iff.1 hbase
  obtain ⟨hverify, hlog, hpolicy⟩ := Environment.engine_eq_ok_iff.1 he
  obtain ⟨hlevel, hformat⟩ := Environment.logging_eq_ok_iff.1 hl
  exact
    { verifyOrder := Environment.merged_choose
        (fun w hw => hverify.trans (Environment.flag_of_get? hw)) hengine.verifyOrder
      unknownConstants := Environment.merged_choose
        (fun w hw => by rwa [Environment.unknownConstants, hw] at hpolicy) hengine.unknownConstants
      logShapeMap := Environment.merged_choose
        (fun w hw => hlog.trans (Environment.flag_of_get? hw)) hengine.logShapeMap
      level := Environment.merged_choose
        (fun w hw => by rwa [Environment.logLevel, hw] at hlevel) hlogging.level
      format := Environment.merged_choose
        (fun w hw => by rw [hformat, Environment.logFormat, hw]; rfl) hlogging.format
      file := hfile }

/-- Where a reason to refuse holds, nothing is loaded. -/
theorem not_refused_of_load (h : load env found = .ok t) : ¬ Refused env found := by
  obtain ⟨s, hbase, h⟩ := except_bind_eq_ok_iff.1 h
  obtain ⟨e, he, h⟩ := except_bind_eq_ok_iff.1 h
  obtain ⟨l, hl, -⟩ := except_bind_eq_ok_iff.1 h
  obtain ⟨hwell, hengine, hlogging, -⟩ := base_eq_ok_iff.1 hbase
  obtain ⟨-, -, hpolicy⟩ := Environment.engine_eq_ok_iff.1 he
  obtain ⟨hlevel, -⟩ := Environment.logging_eq_ok_iff.1 hl
  intro hrefused
  cases hrefused with
  | missing hmissing => exact hwell.present _ hmissing
  | notMapping hcontent htruth hnone =>
    obtain ⟨entries, hentries⟩ := hwell.mapping _ hcontent htruth
    exact hnone entries hentries
  | badSection group hcontent hsection htruth hkeys =>
    exact hkeys (hwell.sections _ group _ hcontent hsection htruth)
  | badFlag name hname hentry hnone =>
    rcases hname with rfl | rfl
    · exact hnone _ (hengine.verifyOrder.reads_of_eq hentry)
    · exact hnone _ (hengine.logShapeMap.reads_of_eq hentry)
  | badPolicy hentry hnone => exact hnone _ (hengine.unknownConstants.reads_of_eq hentry)
  | badLevel hentry hnone => exact hnone _ (hlogging.level.reads_of_eq hentry)
  | badPolicyVariable hw hnone =>
    rw [Environment.unknownConstants, hw] at hpolicy
    exact hnone _ hpolicy
  | badLevelVariable hw hnone =>
    rw [Environment.logLevel, hw] at hlevel
    exact hnone _ hlevel

theorem wellFormed_of_not_refused (h : ¬ Refused env found) : found.WellFormed where
  present := fun path hpath => h (.missing hpath)
  mapping := by
    intro content hcontent htruth
    by_contra hnone
    exact h (.notMapping hcontent htruth fun entries hentries => hnone ⟨entries, hentries⟩)
  sections := by
    intro content group sectionData hcontent hsection htruth
    by_contra hkeys
    exact h (.badSection group hcontent hsection htruth hkeys)

/-- Where no reason to refuse holds, settings are loaded. -/
theorem exists_load_of_not_refused (h : ¬ Refused env found) : ∃ t, load env found = .ok t := by
  obtain ⟨s, hbase⟩ : ∃ s, base found = .ok s := by
    refine exists_base (wellFormed_of_not_refused h) ?_ ?_ ?_
    · intro name hname d hentry
      by_contra hnone
      exact h (.badFlag name hname hentry fun b hb => hnone ⟨b, hb⟩)
    · intro d hentry
      by_contra hnone
      exact h (.badPolicy hentry fun p hp => hnone ⟨p, hp⟩)
    · intro d hentry
      by_contra hnone
      exact h (.badLevel hentry fun l hl => hnone ⟨l, hl⟩)
  obtain ⟨e, he⟩ : ∃ e, env.engine = .ok e := by
    refine Environment.exists_engine fun w hw => ?_
    by_contra hnone
    exact h (.badPolicyVariable hw fun p hp => hnone ⟨p, hp⟩)
  obtain ⟨l, hl⟩ : ∃ l, env.logging = .ok l := by
    refine Environment.exists_logging fun w hw => ?_
    by_contra hnone
    exact h (.badLevelVariable hw fun l hl => hnone ⟨l, hl⟩)
  rw [load, hbase, except_ok_bind, Environment.override, he, hl]
  exact ⟨_, rfl⟩

/-- **Loading merges the sources of each setting or is refused.** -/
theorem load_eq_ok_iff :
    load env found = .ok s ↔ ¬ Refused env found ∧ s.MergedFrom env found := by
  constructor
  · intro h
    exact ⟨not_refused_of_load h, mergedFrom_of_load h⟩
  · rintro ⟨hrefused, hmerged⟩
    -- some settings are loaded, and the sources leave no choice which
    obtain ⟨t, ht⟩ := exists_load_of_not_refused hrefused
    rwa [hmerged.unique (mergedFrom_of_load ht)]

theorem failsOnly_load (hfound : found.Settled) :
    FailsOnly Failure.IsConfiguration (load env found) :=
  (failsOnly_base hfound).bind fun _ => Environment.failsOnly_override

theorem load_eq_error_iff : (∃ e, load env found = .error e) ↔ Refused env found := by
  constructor
  · rintro ⟨e, he⟩
    by_contra hrefused
    obtain ⟨t, ht⟩ := exists_load_of_not_refused hrefused
    cases he.symm.trans ht
  · intro hrefused
    cases hload : load env found with
    | ok t => exact absurd hrefused (not_refused_of_load hload)
    | error e => exact ⟨e, rfl⟩

end Settings

/-! ## Files -/

/-- What a path leads to: nothing without a path or with an empty one, no file, or the document that
the text of a file is read as. -/
inductive Files.Leads (files : Files) (codec : DocumentCodec) : Option String → Loaded → Prop where
  | none : Leads files codec none .absent
  | empty : Leads files codec (some "") .absent
  | missing {path : String} : path ≠ "" → files.lookup path = none →
      Leads files codec (some path) (.missing path)
  | document {path text : String} {content : Datum} : path ≠ "" →
      files.lookup path = some text → codec.read text = .ok content →
        Leads files codec (some path) (.document path content)

namespace Files

variable {files : Files} {codec : DocumentCodec} {path : Option String}

theorem find_of_ne_empty {p : String} (hp : p ≠ "") :
    files.find codec (some p) =
      match files.lookup p with
      | none => .ok (.missing p)
      | some text => (do
        let content ← faulted (codec.read text)
        return .document p content) := by
  have hnonempty : p.isEmpty = false := by simpa using hp
  rw [find, hnonempty]
  rfl

/-- What is found is what the path leads to. -/
theorem find_eq_ok_iff : files.find codec path = .ok found ↔ files.Leads codec path found := by
  constructor
  · intro h
    cases path with
    | none =>
      cases h
      exact .none
    | some p =>
      by_cases hp : p = ""
      · subst hp
        cases h
        exact .empty
      · rw [find_of_ne_empty hp] at h
        cases hfile : files.lookup p with
        | none =>
          rw [hfile] at h
          cases h
          exact .missing hp hfile
        | some text =>
          rw [hfile] at h
          obtain ⟨content, hread, h⟩ := except_bind_eq_ok_iff.1 h
          cases h
          exact .document hp hfile (faulted_eq_ok_iff.1 hread)
  · intro h
    cases h with
    | none => rfl
    | empty => rfl
    | missing hp hfile => rw [find_of_ne_empty hp, hfile]
    | document hp hfile hread =>
      rw [find_of_ne_empty hp, hfile]
      dsimp only
      rw [hread]
      rfl

/-- A path leads somewhere, unless the text of its file is no document. -/
theorem exists_leads (hreads : ∀ p text, path = some p → p ≠ "" → files.lookup p = some text →
    ∃ content, codec.read text = .ok content) : ∃ found, files.Leads codec path found := by
  cases path with
  | none => exact ⟨_, .none⟩
  | some p =>
    by_cases hp : p = ""
    · subst hp
      exact ⟨_, .empty⟩
    · cases hfile : files.lookup p with
      | none => exact ⟨_, .missing hp hfile⟩
      | some text =>
        obtain ⟨content, hread⟩ := hreads p text rfl hp hfile
        exact ⟨_, .document hp hfile hread⟩

/-- A path is kept, unless it is empty. -/
theorem Leads.path?_eq (h : files.Leads codec path found) :
    found.path? = path.filter fun p => !p.isEmpty := by
  cases h with
  | none => rfl
  | empty => rfl
  | missing hp => simp [Loaded.path?, Option.filter_some, hp]
  | document hp => simp [Loaded.path?, Option.filter_some, hp]

/-- The documents that a codec reads are settled, if it reads plain data only. -/
theorem Leads.settled (hcodec : codec.ReadsSettled) (h : files.Leads codec path found) :
    found.Settled := by
  cases h with
  | none | empty | missing => exact Loaded.settled_of_content? rfl
  | document _ _ hread =>
    obtain ⟨hcontent, hfields⟩ := hcodec _ _ hread
    constructor
    · rintro content ⟨⟩
      exact hcontent
    · rintro content group d ⟨⟩ hsection
      exact hfields _ d hsection

end Files

namespace Settings

variable {files : Files} {codec : DocumentCodec} {path : Option String}

theorem loadFile_of_leads (h : files.Leads codec path found) :
    loadFile files codec env path = load env found := by
  rw [loadFile, Files.find_eq_ok_iff.2 h]
  rfl

/-- **Each setting comes from its own sources.** Unless the text of its file is no document, a path
leads to something that is found there. What is loaded with a path is merged from the variables and
from what is found, setting by setting, and the path is kept unless it is empty; every failure is a
report about settings, and there is one exactly where a reason to refuse holds. Of the codec only
this is asked: what it reads is settled to count as true or as false. -/
theorem load_merges (hcodec : codec.ReadsSettled) (env : Environment)
    (hreads : ∀ p text, path = some p → p ≠ "" → files.lookup p = some text →
      ∃ content, codec.read text = .ok content) :
    (∃ found, files.Leads codec path found) ∧
      ∀ found, files.Leads codec path found →
        (∀ s, loadFile files codec env path = .ok s ↔
            ¬ Refused env found ∧ s.MergedFrom env found) ∧
          (∀ s, loadFile files codec env path = .ok s →
            s.file = path.filter fun p => !p.isEmpty) ∧
          (∀ e, loadFile files codec env path = .error e → e.IsConfiguration) ∧
          ((∃ e, loadFile files codec env path = .error e) ↔ Refused env found) := by
  refine ⟨Files.exists_leads hreads, fun found hfound => ?_⟩
  rw [loadFile_of_leads hfound]
  refine ⟨fun _ => load_eq_ok_iff, fun s hs => ?_, failsOnly_load (hfound.settled hcodec),
    load_eq_error_iff⟩
  obtain ⟨-, hmerged⟩ := load_eq_ok_iff.1 hs
  exact hmerged.file.trans hfound.path?_eq

/-- A file that asks for the shape map, and for a log of everything. -/
def tracedRun : String := "engine:\n  log_shape_map: 'True'\nlogging:\n  level: debug\n"

/-- What the file is read as. -/
def tracedRunDocument : Datum :=
  .dict
    [(.text "engine", .dict [(.text "log_shape_map", .text "True")]),
     (.text "logging", .dict [(.text "level", .text "debug")])]

/-- The file is what is written for what it is read as. -/
theorem write_tracedRunDocument : Yaml.write tracedRunDocument = tracedRun := by
  decide +kernel

theorem read_tracedRun : Yaml.codec.read tracedRun = .ok tracedRunDocument := by
  rw [← write_tracedRunDocument]
  refine Yaml.codec_roundTrips _ ⟨[("engine", _), ("logging", _)], rfl, by simp, by decide, ?_⟩
  rw [List.forall_mem_cons, List.forall_mem_singleton]
  exact ⟨⟨.engine, rfl, Datum.isMappingOf_singleton ⟨by decide, .inr ⟨_, rfl⟩⟩⟩,
    .logging, rfl, Datum.isMappingOf_singleton ⟨by decide, .inr ⟨_, rfl⟩⟩⟩

/-- The settings of the run where the variable of the level is set. -/
def tracedRunSettings : Settings where
  engine := { logShapeMap := true }
  logging := { level := .error }
  file := some "run.yaml"

/-- The files of the run. -/
def tracedRunFiles : Files := [("run.yaml", tracedRun)]

/-- Every file of the run holds a document. -/
theorem exists_read_of_lookup_tracedRunFiles {p text : String}
    (h : tracedRunFiles.lookup p = some text) : ∃ content, Yaml.codec.read text = .ok content := by
  rw [tracedRunFiles, List.lookup_cons, List.lookup_nil] at h
  split at h
  · cases h
    exact ⟨_, read_tracedRun⟩
  · cases h

/-- The variable decides over the file, and the file over the default; a file that is missing gives
no settings. -/
theorem tracedRun_merged :
    loadFile tracedRunFiles Yaml.codec [("JITSHAPE_LOG_LEVEL", "ERROR")] (some "run.yaml") =
        .ok tracedRunSettings ∧
      ∃ e, loadFile tracedRunFiles Yaml.codec [("JITSHAPE_LOG_LEVEL", "ERROR")] (some "gone.yaml") =
          .error e ∧ e.IsConfiguration := by
  constructor
  · have hfound : tracedRunFiles.Leads Yaml.codec (some "run.yaml")
        (.document "run.yaml" tracedRunDocument) := .document (by decide) rfl read_tracedRun
    have hloads : load [("JITSHAPE_LOG_LEVEL", "ERROR")]
        (.document "run.yaml" tracedRunDocument) = .ok tracedRunSettings := rfl
    obtain ⟨-, hmerges⟩ := load_merges Yaml.codec_readsSettled [("JITSHAPE_LOG_LEVEL", "ERROR")]
      fun p text (_ : some "run.yaml" = some p) _ => exists_read_of_lookup_tracedRunFiles
    refine ((hmerges _ hfound).1 _).2 ⟨not_refused_of_load hloads, ?_⟩
    exact
      { verifyOrder := .default
        unknownConstants := .default
        logShapeMap := .entry (.word (by decide))
        level := .word (by decide)
        format := .default
        file := rfl }
  · have hfound : tracedRunFiles.Leads Yaml.codec (some "gone.yaml") (.missing "gone.yaml") :=
      .missing (by decide) rfl
    obtain ⟨-, hmerges⟩ := load_merges Yaml.codec_readsSettled [("JITSHAPE_LOG_LEVEL", "ERROR")]
      fun p text (_ : some "gone.yaml" = some p) _ => exists_read_of_lookup_tracedRunFiles
    obtain ⟨-, -, hfailures, hrefused⟩ := hmerges _ hfound
    obtain ⟨e, he⟩ := hrefused.2 (.missing rfl)
    exact ⟨e, he, hfailures e he⟩

end Settings

end ShapeFlow
