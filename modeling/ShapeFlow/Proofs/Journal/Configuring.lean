import ShapeFlow.Journal.Target
import ShapeFlow.Proofs.Failure.Results

/-!
# What a refused format leaves behind

Settings are put into force in three steps, and only the last one looks at the format: the level is
in force already, and a log without a handler has got one (`Target.prepared`), when a format is
refused (`LineFormat.Refused`). So a failure does not leave the log as it was. It does exactly if
there was nothing to do in the first two steps, because the log had this level before and a handler
as well (`Target.configure_keeps_iff`). The formats of the handlers that were there are kept
in any case.
-/

set_option autoImplicit false

namespace ShapeFlow

namespace LineFormat

/-- A field begins somewhere in a text. -/
def FieldIn (cs : List Char) : Prop :=
  ∃ front back, cs = front ++ '%' :: '(' :: back ∧ beginsField back = true

/-- A format is refused: it does not count as false, and it is no text with a field. A value whose
library refuses to say whether it counts as false is one of these. -/
def Refused (format : Datum) : Prop :=
  format.truth ≠ .ok false ∧ ∀ s, format = .text s → ¬ FieldIn s.toList

theorem FieldIn.cons {cs : List Char} (c : Char) (h : FieldIn cs) : FieldIn (c :: cs) := by
  obtain ⟨front, back, rfl, hback⟩ := h
  exact ⟨c :: front, back, rfl, hback⟩

/-- A field of a text begins with its first character or in the rest. -/
theorem fieldIn_cons_iff {c : Char} {cs : List Char} :
    FieldIn (c :: cs) ↔
      (∃ back, c :: cs = '%' :: '(' :: back ∧ beginsField back = true) ∨ FieldIn cs := by
  constructor
  · rintro ⟨front, back, hsplit, hback⟩
    cases front with
    | nil => exact .inl ⟨back, hsplit, hback⟩
    | cons d front =>
      cases hsplit
      exact .inr ⟨front, back, rfl, hback⟩
  · rintro (⟨back, hsplit, hback⟩ | h)
    · exact ⟨[], back, hsplit, hback⟩
    · exact h.cons c

theorem hasField_iff {cs : List Char} : hasField cs = true ↔ FieldIn cs := by
  fun_induction hasField cs with
  | case1 rest ih =>
    -- the bracket is passed over together with the sign, and no field begins with it
    rw [Bool.or_eq_true, ih, fieldIn_cons_iff, fieldIn_cons_iff]
    simp
  | case2 c rest hno ih =>
    rw [ih, fieldIn_cons_iff]
    constructor
    · exact .inr
    · rintro (⟨back, hsplit, -⟩ | h)
      · cases hsplit
        exact absurd rfl (hno back rfl)
      · exact h
  | case3 =>
    constructor
    · intro h
      cases h
    · rintro ⟨front, back, hsplit, -⟩
      simp at hsplit

/-- A format is refused exactly if there is a fault where it is taken. -/
theorem exists_ofDatum_eq_error_iff {format : Datum} :
    (∃ f, ofDatum format = .error f) ↔ Refused format := by
  cases htruth : format.truth with
  | error f =>
    have hfault : ofDatum format = .error f := by
      unfold ofDatum
      rw [htruth]
      rfl
    have htext : ∀ s, format ≠ .text s := by
      rintro s rfl
      cases htruth
    exact ⟨fun _ => ⟨by simp [htruth], fun s hs => absurd hs (htext s)⟩, fun _ => ⟨f, hfault⟩⟩
  | ok b =>
    cases b with
    | false =>
      have hplain : ofDatum format = .ok messageOnly := by
        unfold ofDatum
        rw [htruth]
        rfl
      simp [hplain, Refused, htruth]
    | true =>
      unfold ofDatum
      rw [htruth, except_ok_bind, if_pos rfl]
      cases format with
      | text s =>
        cases hfield : hasField s.toList with
        | true =>
          refine ⟨fun ⟨f, hf⟩ => ?_, fun ⟨_, hnone⟩ => absurd (hasField_iff.1 hfield) (hnone s rfl)⟩
          simp only [hfield, if_true] at hf
          cases hf
        | false =>
          have hnone : ∀ t, Datum.text s = .text t → ¬ FieldIn t.toList := by
            rintro t ⟨⟩
            simp [← hasField_iff, hfield]
          refine ⟨fun _ => ⟨by simp [htruth], hnone⟩, fun _ => ⟨.formatWithoutField s, ?_⟩⟩
          simp only [hfield]
          rfl
      | _ => exact ⟨fun _ => ⟨by simp [htruth], by simp⟩, fun _ => ⟨_, rfl⟩⟩

end LineFormat

namespace Target

variable {t : Target} {s : LogSettings}

/-- The log when a format is looked at: the level of a severity is in force, and there is a handler.
-/
def prepared (t : Target) (level : Severity) : Target :=
  { level := level.rank, handlers := if t.handlers = [] then [none] else t.handlers }

theorem handlers_prepared_ne_nil (t : Target) (level : Severity) :
    (t.prepared level).handlers ≠ [] := by
  unfold prepared
  by_cases hnone : t.handlers = []
  · rw [if_pos hnone]
    exact List.cons_ne_nil _ _
  · rw [if_neg hnone]
    exact hnone

/-- The first two steps change nothing exactly if both have nothing to do. -/
theorem prepared_eq_iff {level : Severity} :
    t.prepared level = t ↔ t.level = level.rank ∧ t.handlers ≠ [] := by
  constructor
  · intro h
    constructor
    · exact (congrArg Target.level h).symm
    · rw [← h]
      exact handlers_prepared_ne_nil t level
  · rintro ⟨hlevel, hsome⟩
    rw [prepared, if_neg hsome, ← hlevel]

/-- The first two steps are done whatever the format is. -/
theorem configure_eq (t : Target) (s : LogSettings) :
    t.configure s =
      match LineFormat.ofDatum s.format with
      | .ok format =>
        (.ok (), { t.prepared s.level with
          handlers := (t.prepared s.level).handlers.map fun _ => some format })
      | .error f => (.error (.fault f), t.prepared s.level) := by
  have hempty : (if t.handlers.isEmpty then [none] else t.handlers) =
      if t.handlers = [] then [none] else t.handlers := by
    simp only [List.isEmpty_iff]
  rw [configure, hempty]
  rfl

theorem configure_eq_error_iff :
    (∃ e, (t.configure s).1 = .error e) ↔ LineFormat.Refused s.format := by
  rw [configure_eq, ← LineFormat.exists_ofDatum_eq_error_iff]
  cases LineFormat.ofDatum s.format with
  | ok format => simp
  | error f => simp

theorem configure_of_error {e : Failure} (h : (t.configure s).1 = .error e) :
    (t.configure s).2 = t.prepared s.level := by
  rw [configure_eq] at h ⊢
  cases hformat : LineFormat.ofDatum s.format with
  | ok format =>
    rw [hformat] at h
    cases h
  | error f => rfl

/-- **Settings with a format that is refused leave the log as it was exactly if it had the level of
their severity and a handler before.** Only such a format makes a failure. The level is in force in
any case, the handlers that were there keep their formats, and where there was none there is one
without a format. -/
theorem configure_keeps_iff (t : Target) (s : LogSettings) :
    ((∃ e, (t.configure s).1 = .error e) ↔ LineFormat.Refused s.format) ∧
      ∀ e, (t.configure s).1 = .error e →
        ((t.configure s).2 = t ↔ t.level = s.level.rank ∧ t.handlers ≠ []) ∧
          (t.configure s).2.level = s.level.rank ∧
            (t.configure s).2.handlers = if t.handlers = [] then [none] else t.handlers := by
  constructor
  · exact configure_eq_error_iff
  · intro e he
    rw [configure_of_error he]
    exact ⟨prepared_eq_iff, rfl, rfl⟩

/-- A log that shows errors alone is to show everything, in a format without a field. The format is
refused, and from then on the log shows everything. -/
theorem configure_debug_without_field :
    let t : Target := { level := Severity.error.rank, handlers := [some LineFormat.messageOnly] }
    let s : LogSettings := { level := .debug, format := .text "levelname: message" }
    let r : Record := { severity := .info, channel := Channel.engine, message := "run" }
    (t.configure s).1 = .error (.fault (.formatWithoutField "levelname: message")) ∧
      (t.configure s).2 ≠ t ∧ (t.configure s).2.level = Severity.debug.rank ∧
      t.emit r = "" ∧ (t.configure s).2.emit r = "run\n" := by
  intro t s r
  have hrefused : (t.configure s).1 = .error (.fault (.formatWithoutField "levelname: message")) :=
    rfl
  obtain ⟨hkept, hlevel, -, -⟩ := (configure_keeps_iff t s).2 _ hrefused
  refine ⟨hrefused, ?_, hlevel, ?_, ?_⟩
  · intro hsame
    exact absurd (hkept.1 hsame).1 (by decide)
  · decide +kernel
  · rw [configure_of_error hrefused]
    decide +kernel

end Target

end ShapeFlow
