import ShapeFlow.Settings.Basic
import ShapeFlow.Proofs.Failure.Results
import Mathlib.Logic.Relator

/-!
# What settings are read from

`Reads` says which values stand for a member of a choice: the member itself, and a text that is the
word for it, in small or capital letters. The readers give what is read in this sense and nothing
else (`readFlag_eq_ok_iff`, `readChoice_eq_ok_iff`). So a group of settings is made from arguments
exactly if all their names are known and each setting is read from its argument or has its default
(`PassSettings.ofArguments_eq_ok_iff`, `LogSettings.ofArguments_eq_ok_iff`).
-/

set_option autoImplicit false

namespace ShapeFlow

/-- A value stands for a member of a choice: it is the member, or the word for it in letters of any
case. -/
inductive Reads {α : Type} (value : α → Datum) (label : α → String) : Datum → α → Prop where
  | member (a : α) : Reads value label (value a) a
  | word {s : String} {a : α} : lower s = label a → Reads value label (.text s) a

/-- The word for a truth value. -/
def flagLabel (b : Bool) : String := if b then "true" else "false"

/-- A value stands for a truth value. -/
abbrev ReadsFlag : Datum → Bool → Prop := Reads .bool flagLabel

/-- A value stands for a treatment of constants without a rule. -/
abbrev ReadsPolicy : Datum → ConstantPolicy → Prop := Reads .policy ConstantPolicy.label

/-- A value stands for a severity. -/
abbrev ReadsSeverity : Datum → Severity → Prop := Reads .severity Severity.label

/-- A setting is read from the entry for it, or has its default where there is none. -/
inductive FromEntry {α : Type} (reads : Datum → α → Prop) (default : α) :
    Option Datum → α → Prop where
  | entry {d : Datum} {a : α} : reads d a → FromEntry reads default (some d) a
  | default : FromEntry reads default none default

/-- The failure is a report about settings. -/
def Failure.IsConfiguration (e : Failure) : Prop :=
  ∃ r, e = .report r ∧ r.category = .configuration

/-- If the failure is a report at all, it is one about settings. -/
def Failure.ReportsConfiguration (e : Failure) : Prop :=
  ∀ r, e = .report r → r.category = .configuration

variable {setting : String} {raw : Datum}

/-! ## Words -/

section Words

variable {α : Type} {value : α → Datum} {label : α → String}

/-- A word is looked up among the words of all members. -/
theorem find?_label_eq_some_iff {all : List α} {word : String} {a : α}
    (h : ∀ a, (all.find? fun b => label b == label a) = some a) :
    (all.find? fun b => label b == word) = some a ↔ word = label a := by
  constructor
  · intro hfound
    have hlabel := List.find?_some hfound
    exact (beq_iff_eq.1 hlabel).symm
  · rintro rfl
    exact h a

theorem ConstantPolicy.ofLabel?_eq_some_iff (word : String) (p : ConstantPolicy) :
    ofLabel? word = some p ↔ word = p.label := find?_label_eq_some_iff ofLabel?_label

theorem Severity.ofLabel?_eq_some_iff (word : String) (s : Severity) :
    ofLabel? word = some s ↔ word = s.label := find?_label_eq_some_iff ofLabel?_label

/-- Members that are found by their words have words of their own. -/
theorem injective_of_ofLabel? {ofLabel? : String → Option α}
    (h : ∀ word a, ofLabel? word = some a ↔ word = label a) : Function.Injective label := by
  intro a b hab
  have ha := (h (label a) a).2 rfl
  have hb := (h (label a) b).2 hab
  exact Option.some.inj (ha.symm.trans hb)

theorem flagLabel_injective : Function.Injective flagLabel := by
  intro a b
  cases a <;> cases b <;> simp [flagLabel]

theorem ConstantPolicy.label_injective : Function.Injective ConstantPolicy.label :=
  injective_of_ofLabel? ofLabel?_eq_some_iff

theorem Severity.label_injective : Function.Injective Severity.label :=
  injective_of_ofLabel? ofLabel?_eq_some_iff

/-! ## What a value stands for -/

theorem reads_text_iff (htext : ∀ a s, value a ≠ .text s) {w : String} {a : α} :
    Reads value label (.text w) a ↔ lower w = label a := by
  constructor
  · intro h
    generalize hraw : Datum.text w = d at h
    cases h with
    | member a => exact absurd hraw.symm (htext a w)
    | word hs =>
      cases hraw
      exact hs
  · exact .word

/-- A value that is no text stands for a member only if it is the member. -/
theorem reads_iff_of_ne_text (hraw : ∀ s, raw ≠ .text s) {a : α} :
    Reads value label raw a ↔ raw = value a := by
  constructor
  · intro h
    cases h with
    | member => rfl
    | word => exact absurd rfl (hraw _)
  · rintro rfl
    exact .member a

/-- A value stands for one member at most, if members are no texts and have words of their own. -/
theorem rightUnique_reads (htext : ∀ a s, value a ≠ .text s) (hvalue : Function.Injective value)
    (hlabel : Function.Injective label) : Relator.RightUnique (Reads value label) := by
  intro d a b ha hb
  by_cases hd : ∃ s, d = .text s
  · obtain ⟨s, rfl⟩ := hd
    rw [reads_text_iff htext] at ha hb
    exact hlabel (ha.symm.trans hb)
  · rw [reads_iff_of_ne_text fun s hs => hd ⟨s, hs⟩] at ha hb
    exact hvalue (ha.symm.trans hb)

theorem rightUnique_readsFlag : Relator.RightUnique ReadsFlag :=
  rightUnique_reads (by simp) (fun _ _ h => Datum.bool.inj h) flagLabel_injective

theorem rightUnique_readsPolicy : Relator.RightUnique ReadsPolicy :=
  rightUnique_reads (by simp) (fun _ _ h => Datum.policy.inj h)
    ConstantPolicy.label_injective

theorem rightUnique_readsSeverity : Relator.RightUnique ReadsSeverity :=
  rightUnique_reads (by simp) (fun _ _ h => Datum.severity.inj h)
    Severity.label_injective

end Words

/-! ## Readers -/

theorem readFlag_eq_ok_iff {b : Bool} : readFlag setting raw = .ok b ↔ ReadsFlag raw b := by
  constructor
  · intro h
    unfold readFlag at h
    split at h
    · cases h
      exact .member _
    · split_ifs at h with htrue hfalse
      · cases h
        exact .word (beq_iff_eq.1 htrue)
      · cases h
        exact .word (beq_iff_eq.1 hfalse)
    · cases h
  · intro h
    cases h with
    | member => rfl
    | word hs =>
      rw [readFlag, hs]
      cases b with
      | true => rfl
      | false => rfl

/-- The reader of a choice gives what a value stands for, if it knows the members by themselves and
by their words. -/
theorem readChoice_eq_ok_iff {α : Type} {value : α → Datum} {label : α → String}
    {member? : Datum → Option α} {ofLabel? : String → Option α} {labels : List String} {a : α}
    (htext : ∀ a s, value a ≠ .text s) (hmember : ∀ d a, member? d = some a ↔ d = value a)
    (hlabel : ∀ word a, ofLabel? word = some a ↔ word = label a) :
    readChoice member? ofLabel? labels setting raw = .ok a ↔ Reads value label raw a := by
  -- a text is looked up as a word only, since no member is a text
  have hchoice : choiceOf? member? ofLabel? raw = some a ↔ Reads value label raw a := by
    cases raw with
    | text w => exact (hlabel _ _).trans (reads_text_iff htext).symm
    | _ => exact (hmember _ _).trans (reads_iff_of_ne_text (by simp)).symm
  rw [← hchoice, readChoice]
  cases choiceOf? member? ofLabel? raw with
  | some b => simp
  | none => simp

theorem readPolicy_eq_ok_iff {p : ConstantPolicy} :
    readPolicy setting raw = .ok p ↔ ReadsPolicy raw p := by
  refine readChoice_eq_ok_iff (by simp) (fun d p => ?_)
    ConstantPolicy.ofLabel?_eq_some_iff
  cases d <;> simp [Datum.policy?]

theorem readSeverity_eq_ok_iff {s : Severity} :
    readSeverity setting raw = .ok s ↔ ReadsSeverity raw s := by
  refine readChoice_eq_ok_iff (by simp) (fun d s => ?_)
    Severity.ofLabel?_eq_some_iff
  cases d <;> simp [Datum.severity?]

theorem readPolicy_text_eq_ok_iff {w : String} {p : ConstantPolicy} :
    readPolicy setting (.text w) = .ok p ↔ lower w = p.label :=
  readPolicy_eq_ok_iff.trans (reads_text_iff (by simp))

theorem readSeverity_text_eq_ok_iff {w : String} {s : Severity} :
    readSeverity setting (.text w) = .ok s ↔ lower w = s.label :=
  readSeverity_eq_ok_iff.trans (reads_text_iff (by simp))

/-! ## Failures of readers -/

theorem SettingIssue.isConfiguration (i : SettingIssue) : i.failure.IsConfiguration :=
  ⟨_, rfl, Report.category_of _ _ _⟩

theorem FailsOnly.reports {α : Type} {r : Except Failure α}
    (h : FailsOnly Failure.IsConfiguration r) : FailsOnly Failure.ReportsConfiguration r := by
  intro e he r hr
  obtain ⟨r', hr', hcategory⟩ := h e he
  cases hr.symm.trans hr'
  exact hcategory

theorem Failure.reportsConfiguration_fault (f : Fault) :
    (Failure.fault f).ReportsConfiguration := by
  intro r h
  cases h

theorem failsOnly_readFlag : FailsOnly Failure.IsConfiguration (readFlag setting raw) := by
  unfold readFlag
  split
  · exact failsOnly_ok _
  · split_ifs
    · exact failsOnly_ok _
    · exact failsOnly_ok _
    · exact failsOnly_error (SettingIssue.isConfiguration _)
  · exact failsOnly_error (SettingIssue.isConfiguration _)

theorem failsOnly_readChoice {α : Type} {member? : Datum → Option α}
    {ofLabel? : String → Option α} {labels : List String} :
    FailsOnly Failure.IsConfiguration (readChoice member? ofLabel? labels setting raw) := by
  unfold readChoice
  split
  · exact failsOnly_ok _
  · exact failsOnly_error (SettingIssue.isConfiguration _)

/-! ## Groups of settings -/

variable {arguments : Context} {name : String} {group : SettingsGroup}

theorem given_eq_ok_iff {α : Type} {default a : α} {parse : Datum → Except Failure α}
    {reads : Datum → α → Prop} (hparse : ∀ d a, parse d = .ok a ↔ reads d a) :
    given arguments name default parse = .ok a ↔
      FromEntry reads default (arguments.lookup name) a := by
  unfold given
  cases arguments.lookup name with
  | none =>
    constructor
    · rintro ⟨⟩
      exact .default
    · rintro ⟨⟩
      rfl
  | some d =>
    rw [hparse]
    constructor
    · exact .entry
    · rintro ⟨h⟩
      exact h

theorem FromEntry.reads_of_eq {α : Type} {reads : Datum → α → Prop} {default a : α}
    {entry : Option Datum} {d : Datum} (h : FromEntry reads default entry a)
    (hentry : entry = some d) : reads d a := by
  cases h with
  | entry hd =>
    cases hentry
    exact hd
  | default => cases hentry

theorem exists_fromEntry {α : Type} {reads : Datum → α → Prop} {entry : Option Datum} (default : α)
    (h : ∀ d, entry = some d → ∃ a, reads d a) : ∃ a, FromEntry reads default entry a := by
  cases entry with
  | none => exact ⟨default, .default⟩
  | some d =>
    obtain ⟨a, ha⟩ := h d rfl
    exact ⟨a, .entry ha⟩

theorem fromEntry_eq_iff {default d : Datum} {entry : Option Datum} :
    FromEntry Eq default entry d ↔ entry.getD default = d := by
  constructor
  · rintro (h | _)
    · exact h
    · rfl
  · intro h
    cases entry with
    | none =>
      cases h
      exact .default
    | some found => exact .entry h

theorem failsOnly_given {α : Type} {P : Failure → Prop} {default : α}
    {parse : Datum → Except Failure α} (h : ∀ d, FailsOnly P (parse d)) :
    FailsOnly P (given arguments name default parse) := by
  unfold given
  cases arguments.lookup name with
  | none => exact failsOnly_ok _
  | some d => exact h d

theorem SettingsGroup.check_eq_ok_iff :
    group.check arguments = .ok () ↔ ∀ a ∈ arguments, a.1 ∈ group.names := by
  unfold check
  cases hfound : arguments.find? fun a => !group.names.contains a.1 with
  | none =>
    rw [List.find?_eq_none] at hfound
    simpa using hfound
  | some a =>
    have hmem := List.mem_of_find?_eq_some hfound
    have hunknown : a.1 ∉ group.names := by simpa using List.find?_some hfound
    constructor
    · intro h
      cases h
    · intro h
      exact absurd (h a hmem) hunknown

/-- Settings of the pass are read from entries by name. -/
structure PassSettings.ReadFrom (entry : String → Option Datum) (s : PassSettings) : Prop where
  verifyOrder : FromEntry ReadsFlag false (entry "verify_topological_order") s.verifyOrder
  unknownConstants :
    FromEntry ReadsPolicy .refuse (entry "unknown_constant_policy") s.unknownConstants
  logShapeMap : FromEntry ReadsFlag false (entry "log_shape_map") s.logShapeMap

/-- Settings of the log are read from entries by name; a format is what its entry is. -/
structure LogSettings.ReadFrom (entry : String → Option Datum) (s : LogSettings) : Prop where
  level : FromEntry ReadsSeverity .warning (entry "level") s.level
  format : FromEntry Eq ({} : LogSettings).format (entry "format") s.format

theorem PassSettings.ofArguments_eq_ok_iff {s : PassSettings} :
    ofArguments arguments = .ok s ↔
      (∀ a ∈ arguments, a.1 ∈ SettingsGroup.engine.names) ∧
        s.ReadFrom fun name => arguments.lookup name := by
  have hflag : ∀ setting d b, readFlag setting d = .ok b ↔ ReadsFlag d b :=
    fun _ _ _ => readFlag_eq_ok_iff
  have hpolicy : ∀ setting d p, readPolicy setting d = .ok p ↔ ReadsPolicy d p :=
    fun _ _ _ => readPolicy_eq_ok_iff
  rw [← SettingsGroup.check_eq_ok_iff]
  constructor
  · intro h
    obtain ⟨_, hcheck, h⟩ := except_bind_eq_ok_iff.1 h
    obtain ⟨verifyOrder, hverify, h⟩ := except_bind_eq_ok_iff.1 h
    obtain ⟨logShapeMap, hlog, h⟩ := except_bind_eq_ok_iff.1 h
    obtain ⟨unknownConstants, hunknown, h⟩ := except_bind_eq_ok_iff.1 h
    cases h
    exact ⟨faulted_eq_ok_iff.1 hcheck,
      { verifyOrder := (given_eq_ok_iff (hflag _)).1 hverify
        unknownConstants := (given_eq_ok_iff (hpolicy _)).1 hunknown
        logShapeMap := (given_eq_ok_iff (hflag _)).1 hlog }⟩
  · rintro ⟨hcheck, hread⟩
    rw [ofArguments, hcheck, (given_eq_ok_iff (hflag _)).2 hread.verifyOrder,
      (given_eq_ok_iff (hflag _)).2 hread.logShapeMap,
      (given_eq_ok_iff (hpolicy _)).2 hread.unknownConstants]
    rfl

theorem LogSettings.ofArguments_eq_ok_iff {s : LogSettings} :
    ofArguments arguments = .ok s ↔
      (∀ a ∈ arguments, a.1 ∈ SettingsGroup.logging.names) ∧
        s.ReadFrom fun name => arguments.lookup name := by
  have hlevel : ∀ setting d s, readSeverity setting d = .ok s ↔ ReadsSeverity d s :=
    fun _ _ _ => readSeverity_eq_ok_iff
  rw [← SettingsGroup.check_eq_ok_iff]
  constructor
  · intro h
    obtain ⟨_, hcheck, h⟩ := except_bind_eq_ok_iff.1 h
    obtain ⟨level, hread, h⟩ := except_bind_eq_ok_iff.1 h
    cases h
    exact ⟨faulted_eq_ok_iff.1 hcheck, (given_eq_ok_iff (hlevel _)).1 hread,
      fromEntry_eq_iff.2 rfl⟩
  · rintro ⟨hcheck, hread⟩
    rw [ofArguments, hcheck, (given_eq_ok_iff (hlevel _)).2 hread.level,
      fromEntry_eq_iff.1 hread.format]
    rfl

/-! ## Failures of groups -/

/-- Where a group is not made from its arguments, the failure is a fault or a report about settings.
-/
theorem PassSettings.failsOnly_ofArguments :
    FailsOnly Failure.ReportsConfiguration (ofArguments arguments) := by
  refine (failsOnly_faulted Failure.reportsConfiguration_fault _).bind fun _ => ?_
  refine (failsOnly_given fun d => failsOnly_readFlag.reports).bind fun _ => ?_
  refine (failsOnly_given fun d => failsOnly_readFlag.reports).bind fun _ => ?_
  refine (failsOnly_given fun d => failsOnly_readChoice.reports).bind fun _ => ?_
  exact failsOnly_ok _

theorem LogSettings.failsOnly_ofArguments :
    FailsOnly Failure.ReportsConfiguration (ofArguments arguments) := by
  refine (failsOnly_faulted Failure.reportsConfiguration_fault _).bind fun _ => ?_
  refine (failsOnly_given fun d => failsOnly_readChoice.reports).bind fun _ => ?_
  exact failsOnly_ok _

end ShapeFlow
