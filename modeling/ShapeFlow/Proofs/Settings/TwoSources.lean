import ShapeFlow.Proofs.Settings.OneByOne
import ShapeFlow.Proofs.Yaml.CodecLaws

/-!
# One text from two sources

A text can be given to a setting by its variable or by an entry of a file, and it is meant to make
no difference which. A choice or a format is read in the same way from both. A flag is not: its
entry must be one of two words, whereas its variable may hold any text, and every text but one of
the words means that the flag is off. `Settings.same_outcome_iff` says that this is the only
difference: the two sources agree on a text unless it is given to a flag and is no word for a truth
value, and then the file is refused and the variable turns the flag off.
-/

set_option autoImplicit false

namespace ShapeFlow

/-- Of the variables of the settings, the one of a given setting holds a text and no other is set.
-/
def Environment.SetsOnly (env : Environment) (x : Setting) (w : String) : Prop :=
  ∀ y : Setting, env.get? y.source = if y = x then some w else none

/-- No variable of a setting is set. -/
def Environment.SetsNone (env : Environment) : Prop := ∀ y : Setting, env.get? y.source = none

/-- What is found is well formed, and it gives a text to one setting and nothing to the others. -/
structure Loaded.GivesOnly (found : Loaded) (x : Setting) (w : String) : Prop where
  wellFormed : found.WellFormed
  entries : ∀ y : Setting, y.entry? found = if y = x then some (.text w) else none

/-- Two computations end alike as far as a setting goes: both give settings with the same value of
it, or both fail with a report about settings. -/
def Setting.SameOutcome (x : Setting) (r r' : Except Failure Settings) : Prop :=
  Alike (fun e d => e.IsConfiguration ∧ d.IsConfiguration) (fun s t => x.of s = x.of t) r r'

/-- A computation of settings ends as the reading of one of them does. -/
def Setting.Decides (x : Setting) (r : Except Failure Settings) (v : Except Failure Datum) : Prop :=
  Alike (fun e d => e.IsConfiguration ∧ d.IsConfiguration) (fun s d => x.of s = d) r v

variable {env env' : Environment} {found : Loaded} {x : Setting} {w : String}

namespace Setting

theorem failsOnly_readEntry (x : Setting) (d : Datum) :
    FailsOnly Failure.IsConfiguration (x.readEntry d) := by
  cases x with
  | verifyOrder | logShapeMap => exact failsOnly_readFlag.map
  | unknownConstants | level => exact failsOnly_readChoice.map
  | format => exact failsOnly_ok _

/-- A text is read alike from both sources unless it is given to a flag. -/
theorem readWord_eq_readEntry (hx : ¬ x.IsFlag) : x.readWord w = x.readEntry (.text w) := by
  cases x with
  | verifyOrder | logShapeMap => exact absurd trivial hx
  | unknownConstants | level | format => rfl

theorem readWord_of_flag (hx : x.IsFlag) : x.readWord w = .ok (.bool (lower w == "true")) := by
  cases x with
  | verifyOrder | logShapeMap => rfl
  | unknownConstants | level | format => exact hx.elim

theorem failsOnly_readWord (x : Setting) (w : String) :
    FailsOnly Failure.IsConfiguration (x.readWord w) := by
  by_cases hx : x.IsFlag
  · rw [readWord_of_flag hx]
    exact failsOnly_ok _
  · rw [readWord_eq_readEntry hx]
    exact x.failsOnly_readEntry _

/-- The entry of a flag must be one of the two words. -/
theorem readEntry_of_flag (hx : x.IsFlag) :
    (lower w = "true" ∧ x.readEntry (.text w) = .ok (.bool true)) ∨
      (lower w = "false" ∧ x.readEntry (.text w) = .ok (.bool false)) ∨
      (lower w ≠ "true" ∧ lower w ≠ "false" ∧ ∃ e, x.readEntry (.text w) = .error e) := by
  have hread : ∃ setting, x.readEntry (.text w) = (readFlag setting (.text w)).map .bool := by
    cases x with
    | verifyOrder | logShapeMap => exact ⟨_, rfl⟩
    | unknownConstants | level | format => exact hx.elim
  obtain ⟨setting, hread⟩ := hread
  rw [hread, readFlag]
  by_cases htrue : lower w = "true"
  · exact .inl ⟨htrue, by simp [htrue, Except.map]⟩
  · by_cases hfalse : lower w = "false"
    · exact .inr (.inl ⟨hfalse, by simp [hfalse, Except.map]⟩)
    · exact .inr (.inr ⟨htrue, hfalse, by simp [htrue, hfalse, Except.map]⟩)

/-- The readings of a text from both sources end alike unless it is given to a flag and is no word
for a truth value. -/
theorem alike_readings_iff :
    Alike (fun e d => Failure.IsConfiguration e ∧ d.IsConfiguration) Eq (x.readWord w)
      (x.readEntry (.text w)) ↔ (x.IsFlag → lower w = "true" ∨ lower w = "false") := by
  by_cases hx : x.IsFlag
  · rw [readWord_of_flag hx]
    rcases readEntry_of_flag (w := w) hx with ⟨hw, hread⟩ | ⟨hw, hread⟩ | ⟨htrue, hfalse, e, hread⟩
    · rw [hread, hw]
      exact ⟨fun _ _ => .inl rfl, fun _ => .ok rfl⟩
    · rw [hread, hw]
      exact ⟨fun _ _ => .inr rfl, fun _ => .ok rfl⟩
    · rw [hread]
      constructor
      · intro h
        cases h
      · intro h
        rcases h hx with hw | hw
        · exact absurd hw htrue
        · exact absurd hw hfalse
  · rw [readWord_eq_readEntry hx]
    have hfails := x.failsOnly_readEntry (.text w)
    exact ⟨fun _ h => absurd h hx, fun _ => alike_of_ok_iff (fun _ => Iff.rfl) hfails hfails⟩

/-- Two computations that end as two readings of a setting do end alike exactly if the readings do.
-/
theorem sameOutcome_iff {r r' : Except Failure Settings} {v v' : Except Failure Datum}
    (h : x.Decides r v) (h' : x.Decides r' v') :
    x.SameOutcome r r' ↔
      Alike (fun e d => Failure.IsConfiguration e ∧ d.IsConfiguration) Eq v v' := by
  cases h with
  | ok hs =>
    cases h' with
    | ok ht =>
      cases hs
      cases ht
      constructor
      · rintro ⟨h⟩
        exact .ok h
      · rintro ⟨h⟩
        exact .ok h
    | error => exact ⟨fun h => (nomatch h), fun h => (nomatch h)⟩
  | error he =>
    cases h' with
    | ok => exact ⟨fun h => (nomatch h), fun h => (nomatch h)⟩
    | error he' => exact ⟨fun _ => .error ⟨he.2, he'.2⟩, fun _ => .error ⟨he.1, he'.1⟩⟩

end Setting

namespace Settings

/-- Where a reading decides whether what is given can be read, it decides how loading ends. -/
theorem decides_of_merged {v : Except Failure Datum} (hfound : found.Settled)
    (hmerged : x.merged env found = v)
    (hreadable : Readable env found ↔ ∃ d, v = .ok d)
    (hfails : FailsOnly Failure.IsConfiguration v) : x.Decides (load env found) v := by
  cases hload : load env found with
  | ok s =>
    obtain ⟨-, heach, -⟩ := load_eq_ok_iff_each.1 hload
    rw [← hmerged, heach x]
    exact .ok rfl
  | error e =>
    cases hv : v with
    | ok d =>
      obtain ⟨s, hs⟩ := exists_load_iff.2 (hreadable.2 ⟨d, hv⟩)
      cases hs.symm.trans hload
    | error d => exact .error ⟨failsOnly_load hfound e hload, hfails d hv⟩

/-- A variable that is set alone decides by the reading of its text. -/
theorem decides_of_variable (henv : env.SetsOnly x w) :
    x.Decides (load env .absent) (x.readWord w) := by
  have hsource := henv x
  rw [if_pos rfl] at hsource
  refine decides_of_merged (Loaded.settled_of_content? rfl) ?_ ?_ (x.failsOnly_readWord w)
  · rw [Setting.merged, hsource]
  · constructor
    · intro h
      exact h.words x w hsource
    · intro h
      refine ⟨⟨?_, ?_, ?_⟩, ?_, fun y w' hw' => ?_⟩
      · rintro path ⟨⟩
      · rintro content ⟨⟩
      · rintro content group sectionData ⟨⟩
      · rintro y d ⟨⟩
      · rw [henv y] at hw'
        split_ifs at hw' with hy
        · cases hw'
          rwa [hy]

/-- An entry that is given alone decides by the reading of it. -/
theorem decides_of_entry (henv : env.SetsNone) (hfound : found.GivesOnly x w) :
    x.Decides (load env found) (x.readEntry (.text w)) := by
  have hentry := hfound.entries x
  rw [if_pos rfl] at hentry
  refine decides_of_merged hfound.wellFormed.settled ?_ ?_ (x.failsOnly_readEntry _)
  · rw [Setting.merged, henv x, hentry]
  · constructor
    · intro h
      exact h.entries x _ hentry
    · intro h
      refine ⟨hfound.wellFormed, fun y d hd => ?_, fun y w' hw' => ?_⟩
      · rw [hfound.entries y] at hd
        split_ifs at hd with hy
        · cases hd
          rwa [hy]
      · rw [henv y] at hw'
        cases hw'

/-- **A text means the same from a variable and from a file, flags aside.** A variable that holds
the text, without a file, and a file that gives it, without variables, lead to the same value of the
setting or are both refused, unless the text is given to a flag and is no word for a truth value.
Such a text is refused in a file, and from a variable it turns the flag off. -/
theorem same_outcome_iff {files : Files} {codec : DocumentCodec} {path : String}
    (henv : env.SetsOnly x w) (henv' : env'.SetsNone)
    (hfind : files.find codec (some path) = .ok found) (hfound : found.GivesOnly x w) :
    (x.SameOutcome (loadFile files codec env none) (loadFile files codec env' (some path)) ↔
      (x.IsFlag → lower w = "true" ∨ lower w = "false")) ∧
    (x.IsFlag → lower w ≠ "true" → lower w ≠ "false" →
      (∃ s, loadFile files codec env none = .ok s ∧ x.of s = .bool false) ∧
        ∃ e, loadFile files codec env' (some path) = .error e ∧ e.IsConfiguration) := by
  have hvariable := decides_of_variable henv
  have hentry := decides_of_entry henv' hfound
  rw [loadFile_of_leads .none, loadFile_of_leads (Files.find_eq_ok_iff.1 hfind)]
  refine ⟨(Setting.sameOutcome_iff hvariable hentry).trans Setting.alike_readings_iff, ?_⟩
  intro hx htrue hfalse
  have hoff : (lower w == "true") = false := by simpa using htrue
  rw [Setting.readWord_of_flag hx, hoff] at hvariable
  constructor
  · generalize load env .absent = r at hvariable
    cases hvariable with
    | ok hs => exact ⟨_, rfl, hs⟩
  · rcases Setting.readEntry_of_flag (w := w) hx with ⟨hw, -⟩ | ⟨hw, -⟩ | ⟨-, -, e, hread⟩
    · exact absurd hw htrue
    · exact absurd hw hfalse
    · rw [hread] at hentry
      generalize load env' found = r at hentry
      cases hentry with
      | error he => exact ⟨_, rfl, he.1⟩

/-- A file that asks for the order check by another word than `true`. -/
def affirmed : String := "engine:\n  verify_topological_order: 'yes'\n"

/-- What is found in the file. -/
def affirmedDocument : Datum :=
  .dict [(.text "engine", .dict [(.text "verify_topological_order", .text "yes")])]

/-- The file is what is written for what is found in it. -/
theorem write_affirmedDocument : Yaml.write affirmedDocument = affirmed := by
  decide +kernel

theorem read_affirmed : Yaml.codec.read affirmed = .ok affirmedDocument := by
  rw [← write_affirmedDocument]
  exact Yaml.codec_roundTrips _ (Datum.isMappingOf_singleton
    ⟨.engine, rfl, Datum.isMappingOf_singleton ⟨by decide, .inr ⟨_, rfl⟩⟩⟩)

theorem affirmedDocument_gives :
    (Loaded.document "run.yaml" affirmedDocument).GivesOnly .verifyOrder "yes" where
  wellFormed :=
    { present := by
        rintro path ⟨⟩
      mapping := by
        rintro content ⟨⟩ -
        exact ⟨_, rfl⟩
      sections := by
        rintro content group sectionData ⟨⟩ hsection -
        cases group with
        | engine =>
          cases hsection
          exact ⟨[("verify_topological_order", .text "yes")], rfl, by simp [SettingsGroup.names]⟩
        | logging => cases hsection }
  entries := by
    intro y
    cases y <;> rfl

/-- The variable turns the order check off without a sign, and the file is refused. -/
theorem affirmed_differs :
    (∃ s, loadFile [("run.yaml", affirmed)] Yaml.codec [("JITSHAPE_VERIFY_ORDER", "yes")] none =
        .ok s ∧ s.engine.verifyOrder = false) ∧
      ∃ e, loadFile [("run.yaml", affirmed)] Yaml.codec [] (some "run.yaml") = .error e ∧
        e.IsConfiguration := by
  have henv : Environment.SetsOnly [("JITSHAPE_VERIFY_ORDER", "yes")] .verifyOrder "yes" := by
    intro y
    cases y <;> rfl
  have hnone : Environment.SetsNone [] := fun _ => rfl
  have hfind : Files.find [("run.yaml", affirmed)] Yaml.codec (some "run.yaml") =
      .ok (.document "run.yaml" affirmedDocument) :=
    Files.find_eq_ok_iff.2 (.document (by decide) rfl read_affirmed)
  obtain ⟨-, hdiffer⟩ := same_outcome_iff henv hnone hfind affirmedDocument_gives
  obtain ⟨⟨s, hs, hoff⟩, hrefused⟩ := hdiffer trivial (by decide) (by decide)
  exact ⟨⟨s, hs, Datum.bool.inj hoff⟩, hrefused⟩

end Settings

end ShapeFlow
