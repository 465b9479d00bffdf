import ShapeFlow.Proofs.Pass.Phases
import ShapeFlow.Proofs.Rule.Reports

/-!
# How a session ends

The first run of a session is its pass, and it ends in one of four ways (`Session.ends_run`). The
shapes that a pass gives are answered, unless settings ask for the store in the log and some id in
it has no name (`Session.answered_of_pass`, `Session.pass_of_answered`). A report that a pass fails
with is answered if it is recoverable and raised otherwise (`Session.answered_of_error`,
`Session.error_of_answered`, `Session.failure_of_raised`).
-/

set_option autoImplicit false

namespace ShapeFlow

/-- Whether shapes are the answer can be seen by running the session. -/
instance decidableAnswered (e : Ending) (shapes : List Shape) :
    Decidable (e = .answered (.ok shapes)) :=
  match e with
  | .answered (.ok found) =>
    decidable_of_iff (found = shapes) ⟨fun h => h ▸ rfl, fun h => by cases h; rfl⟩
  | .answered (.err _) => .isFalse fun h => by cases h
  | .raised _ => .isFalse fun h => by cases h

theorem Failure.recoverable?_eq_some_iff {e : Failure} {r : Report} :
    e.recoverable? = some r ↔ e = .report r ∧ r.isRecoverable = true := by
  cases e with
  | fault f => simp [recoverable?]
  | report d =>
    rw [recoverable?]
    by_cases hd : d.isRecoverable = true
    · rw [if_pos hd, Option.some.injEq, report.injEq]
      constructor
      · rintro rfl
        exact ⟨rfl, hd⟩
      · exact fun h => h.1
    · rw [if_neg hd]
      constructor
      · intro h
        cases h
      · rintro ⟨heq, hr⟩
        cases heq
        exact absurd hr hd

namespace Session

/-- The store that the first run of a session leaves behind. -/
def storeAfter (s : Session) : Store := s.run.2.store

/-! ## The two ends of a pass -/

/-- The end of a pass that gave shapes keeps the store and records the shapes. -/
theorem finish_leaves (s : Session) (shapes : List Shape) :
    (s.finish shapes).2.store = s.store ∧ (s.finish shapes).2.outputs = shapes := by
  unfold finish
  dsimp only
  split_ifs
  · unfold logStore
    cases hnoted : storeText _ with
    | ok text => exact ⟨rfl, rfl⟩
    | error f => exact ⟨rfl, rfl⟩
  · exact ⟨rfl, rfl⟩

/-- A pass that gave shapes answers them if the store can be shown where it is to be logged. -/
theorem finish_of_storeText (s : Session) (shapes : List Shape)
    (h : s.settings.logShapeMap = true → ∃ text, s.storeText = .ok text) :
    (s.finish shapes).1 = .answered (.ok shapes) := by
  unfold finish
  dsimp only
  split_ifs with hlog
  · obtain ⟨text, htext⟩ := h hlog
    have hnoted : ∀ message, ({ s with outputs := shapes }.note message).storeText = .ok text :=
      fun _ => htext
    unfold logStore
    rw [hnoted]
    rfl
  · rfl

/-- A pass that gave shapes answers them, unless the store is to be logged and cannot be shown. -/
theorem finish_cases (s : Session) (shapes : List Shape) :
    ((s.finish shapes).1 = .answered (.ok shapes) ∧
        (s.settings.logShapeMap = true → ∃ text, s.storeText = .ok text)) ∨
      ∃ f, (s.finish shapes).1 = .raised (.fault f) ∧ s.storeText = .error f := by
  cases hlog : s.settings.logShapeMap with
  | false => exact Or.inl ⟨s.finish_of_storeText shapes (by simp [hlog]), by simp⟩
  | true =>
    cases hshown : s.storeText with
    | ok text =>
      have hanswer := s.finish_of_storeText shapes fun _ => ⟨text, hshown⟩
      exact Or.inl ⟨hanswer, fun _ => ⟨text, rfl⟩⟩
    | error f =>
      have hnoted : ∀ message,
          ({ s with outputs := shapes }.note message).storeText = .error f := fun _ => hshown
      refine Or.inr ⟨f, ?_, rfl⟩
      rw [finish, if_pos (by exact hlog), logStore, hnoted]
      rfl

/-! ## The first run -/

variable {g : Graph} {xs : List Datum} {settings : PassSettings} {q : Progress}

theorem run_new_of_ok {shapes : List Shape}
    (h : (g.pass settings xs).runFrom {} = (.ok shapes, q)) :
    (new g xs settings).run =
      { new g xs settings with progress := q, started := true }.finish shapes := by
  have hnew : ((new g xs settings).graph.pass settings xs).runFrom (new g xs settings).progress =
      (.ok shapes, q) := h
  rw [run, if_neg (by simp [new])]
  simp only [new] at hnew ⊢
  rw [hnew]

theorem run_new_of_error {e : Failure} (h : (g.pass settings xs).runFrom {} = (.error e, q)) :
    (new g xs settings).run =
      { new g xs settings with progress := q, started := true }.abort e := by
  have hnew : ((new g xs settings).graph.pass settings xs).runFrom (new g xs settings).progress =
      (.error e, q) := h
  rw [run, if_neg (by simp [new])]
  simp only [new] at hnew ⊢
  rw [hnew]

/-- The ends of a first run, each with the store and the output shapes that it leaves behind: the
shapes that the pass gave, the fault of showing the store, a recoverable failure of the pass, and
any other failure of it. -/
inductive Ends (g : Graph) (xs : List Datum) (settings : PassSettings) :
    Ending → Store → List Shape → Prop where
  | shapes {shapes : List Shape} {q : Progress} :
      (g.pass settings xs).runFrom {} = (.ok shapes, q) →
        (settings.logShapeMap = true → ∃ text, q.store.text g.nameOf = .ok text) →
          Ends g xs settings (.answered (.ok shapes)) q.store shapes
  | unshown {shapes : List Shape} {q : Progress} {f : Fault} :
      (g.pass settings xs).runFrom {} = (.ok shapes, q) → q.store.text g.nameOf = .error f →
        Ends g xs settings (.raised (.fault f)) q.store shapes
  | refused {r : Report} {q : Progress} :
      (g.pass settings xs).runFrom {} = (.error (.report r), q) → r.isRecoverable = true →
        Ends g xs settings (.answered (.err (.report r))) q.store []
  | failed {e : Failure} {q : Progress} :
      (g.pass settings xs).runFrom {} = (.error e, q) → e.recoverable? = none →
        Ends g xs settings (.raised e) q.store []

/-- **A first run ends in one of these ways.** -/
theorem ends_run (g : Graph) (xs : List Datum) (settings : PassSettings) :
    Ends g xs settings (new g xs settings).run.1 (new g xs settings).storeAfter
      (new g xs settings).run.2.outputs := by
  rcases hpass : (g.pass settings xs).runFrom {} with ⟨result, q⟩
  cases result with
  | ok found =>
    obtain ⟨hstore, houtputs⟩ :=
      finish_leaves { new g xs settings with progress := q, started := true } found
    rw [storeAfter, run_new_of_ok hpass, hstore, houtputs]
    rcases finish_cases { new g xs settings with progress := q, started := true } found with
      ⟨hok, hshown⟩ | ⟨f, hraised, hshown⟩
    · rw [hok]
      exact .shapes hpass hshown
    · rw [hraised]
      exact .unshown hpass hshown
  | error e =>
    rw [storeAfter, run_new_of_error hpass, abort]
    cases hrec : e.recoverable? with
    | some r =>
      obtain ⟨rfl, hr⟩ := Failure.recoverable?_eq_some_iff.1 hrec
      exact .refused (q := q) hpass hr
    | none => exact .failed (q := q) hpass hrec

/-- Shapes that a pass gives are answered, and the store is the one that it leaves behind. -/
theorem answered_of_pass {shapes : List Shape}
    (h : (g.pass settings xs).runFrom {} = (.ok shapes, q))
    (hlog : settings.logShapeMap = true → ∃ text, q.store.text g.nameOf = .ok text) :
    (new g xs settings).run.1 = .answered (.ok shapes) ∧
      (new g xs settings).storeAfter = q.store := by
  rw [storeAfter, run_new_of_ok h]
  exact ⟨finish_of_storeText _ shapes hlog, (finish_leaves _ shapes).1⟩

/-- Shapes that are answered were given by the pass, and the store can be shown where it is to be
logged. -/
theorem shown_pass_of_answered {shapes : List Shape}
    (h : (new g xs settings).run.1 = .answered (.ok shapes)) :
    ∃ q, (g.pass settings xs).runFrom {} = (.ok shapes, q) ∧
      (new g xs settings).storeAfter = q.store ∧
      (settings.logShapeMap = true → ∃ text, q.store.text g.nameOf = .ok text) := by
  have hends := ends_run g xs settings
  rw [h] at hends
  generalize (new g xs settings).storeAfter = t at hends ⊢
  cases hends with
  | shapes hpass hshown => exact ⟨_, hpass, rfl, hshown⟩

/-- Shapes that are answered were given by the pass. -/
theorem pass_of_answered {shapes : List Shape}
    (h : (new g xs settings).run.1 = .answered (.ok shapes)) :
    ∃ q, (g.pass settings xs).runFrom {} = (.ok shapes, q) ∧
      (new g xs settings).storeAfter = q.store := by
  obtain ⟨q, hpass, hstore, -⟩ := shown_pass_of_answered h
  exact ⟨q, hpass, hstore⟩

/-- A recoverable report that a pass fails with is answered. -/
theorem answered_of_error {r : Report}
    (h : (g.pass settings xs).runFrom {} = (.error (.report r), q))
    (hr : r.isRecoverable = true) :
    (new g xs settings).run.1 = .answered (.err (.report r)) := by
  rw [run_new_of_error h, abort, Failure.recoverable?, if_pos hr]

/-- A failure that is answered is a recoverable report that the pass fails with. The store is the
one that the pass leaves behind, and no shapes are recorded. -/
theorem error_of_answered {e : Failure} (h : (new g xs settings).run.1 = .answered (.err e)) :
    ∃ r q, e = .report r ∧ (g.pass settings xs).runFrom {} = (.error (.report r), q) ∧
      r.isRecoverable = true ∧ (new g xs settings).storeAfter = q.store ∧
      (new g xs settings).run.2.outputs = [] := by
  have hends := ends_run g xs settings
  rw [h] at hends
  generalize (new g xs settings).storeAfter = t at hends ⊢
  generalize (new g xs settings).run.2.outputs = outputs at hends ⊢
  cases hends with
  | refused hpass hr => exact ⟨_, _, rfl, hpass, hr, rfl, rfl⟩

/-- A failure that is raised is one that the pass fails with and that is not recoverable, or the
fault of showing the store. -/
theorem failure_of_raised {e : Failure} (h : (new g xs settings).run.1 = .raised e) :
    (∃ q, (g.pass settings xs).runFrom {} = (.error e, q) ∧ e.recoverable? = none) ∨
      ∃ shapes q f, (g.pass settings xs).runFrom {} = (.ok shapes, q) ∧ e = .fault f ∧
        q.store.text g.nameOf = .error f := by
  have hends := ends_run g xs settings
  rw [h] at hends
  generalize (new g xs settings).storeAfter = t at hends
  generalize (new g xs settings).run.2.outputs = outputs at hends
  cases hends with
  | unshown hpass hshown => exact Or.inr ⟨_, _, _, hpass, rfl, hshown⟩
  | failed hpass hrec => exact Or.inl ⟨_, hpass, hrec⟩

/-- A report that is raised is one that the pass fails with, and it is not recoverable. -/
theorem error_of_raised {r : Report} (h : (new g xs settings).run.1 = .raised (.report r)) :
    ∃ q, (g.pass settings xs).runFrom {} = (.error (.report r), q) ∧ r.isRecoverable = false := by
  rcases failure_of_raised h with ⟨q, hpass, hrec⟩ | ⟨shapes, q, f, -, hfault, -⟩
  · refine ⟨q, hpass, ?_⟩
    rw [Failure.recoverable?] at hrec
    simpa using hrec
  · cases hfault

end Session

end ShapeFlow
