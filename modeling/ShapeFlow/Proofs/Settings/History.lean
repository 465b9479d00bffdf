import ShapeFlow.Proofs.Settings.Merging
import Mathlib.Data.List.Induction

/-!
# The history of the global settings

The global settings are set, reset and asked for, and the environment changes in between
(`GlobalSettings.Event`). What is kept depends on the history only: what was last set, if it was not
reset since; otherwise what was loaded when the settings were asked for the first time since the
last reset and could be loaded (`GlobalSettings.Keeps`). Such a snapshot stays whatever becomes of
the environment, while an attempt that fails leaves nothing behind, so that the next one loads
again.
-/

set_option autoImplicit false

namespace ShapeFlow.GlobalSettings

/-- What happens to the global settings and to the environment they are loaded from. -/
inductive Event where
  | environment (next : Environment)
  | set (s : Option Settings)
  | get

/-- Settings are set or reset by an event. -/
def Event.Sets : Event → Prop
  | .set _ => True
  | .environment _ | .get => False

/-- The environment and the global settings. -/
structure Scene where
  env : Environment
  shared : GlobalSettings := {}

namespace Scene

/-- What asking for the settings gives. -/
def answer (w : Scene) : Except Failure Settings := (w.shared.get w.env).1

/-- The scene behind an event. -/
def next (w : Scene) : Event → Scene
  | .environment env => { w with env }
  | .set s => { w with shared := w.shared.set s }
  | .get => { w with shared := (w.shared.get w.env).2 }

/-- The scene behind a history. -/
def after (w : Scene) : List Event → Scene
  | [] => w
  | event :: rest => (w.next event).after rest

end Scene

/-- The environment behind a history, whatever else happens in it. -/
def environmentAfter (env : Environment) : List Event → Environment
  | [] => env
  | .environment next :: rest => environmentAfter next rest
  | .set _ :: rest | .get :: rest => environmentAfter env rest

/-- The settings that an environment gives alone. -/
def loaded (env : Environment) : Except Failure Settings := Settings.load env .absent

/-- Nothing is set in a history, and wherever the settings are asked for in it, they cannot be
loaded. -/
structure NothingLoaded (env : Environment) (history : List Event) : Prop where
  unset : ∀ event ∈ history, ¬ event.Sets
  fails : ∀ before later, history = before ++ .get :: later →
    ∃ f, loaded (environmentAfter env before) = .error f

/-- A history is empty or ends with a reset. -/
def EndsReset (history : List Event) : Prop :=
  history = [] ∨ ∃ earlier, history = earlier ++ [.set none]

/-- What is kept behind a history: the settings that were last set; those that could be loaded first
since the last reset; or none. -/
inductive Keeps (env : Environment) : List Event → Option Settings → Prop where
  | set {front back : List Event} {s : Settings} : (∀ event ∈ back, ¬ event.Sets) →
      Keeps env (front ++ .set (some s) :: back) (some s)
  | snapshot {front early late : List Event} {s : Settings} : EndsReset front →
      NothingLoaded (environmentAfter env front) early →
      loaded (environmentAfter env (front ++ early)) = .ok s →
      (∀ event ∈ late, ¬ event.Sets) →
      Keeps env (front ++ early ++ .get :: late) (some s)
  | nothing {front back : List Event} : EndsReset front →
      NothingLoaded (environmentAfter env front) back → Keeps env (front ++ back) none

/-- What asking gives behind a history: what is kept, or what can be loaded at the time. -/
inductive Answers (env : Environment) (history : List Event) : Except Failure Settings → Prop where
  | kept {s : Settings} : Keeps env history (some s) → Answers env history (.ok s)
  | loaded : Keeps env history none →
      Answers env history (loaded (environmentAfter env history))

variable {env : Environment} {w : Scene} {history front back : List Event} {s : Settings}
  {f : Failure}

/-! ## One event -/

theorem get_of_current (h : w.shared.current = some s) :
    w.shared.get w.env = (.ok s, w.shared) := by
  rw [get, h]

theorem get_of_loaded (hnone : w.shared.current = none) (h : loaded w.env = .ok s) :
    w.shared.get w.env = (.ok s, ⟨some s⟩) := by
  rw [loaded] at h
  rw [get, hnone]
  dsimp only
  rw [h]

theorem get_of_error (hnone : w.shared.current = none) (h : loaded w.env = .error f) :
    w.shared.get w.env = (.error f, w.shared) := by
  rw [loaded] at h
  rw [get, hnone]
  dsimp only
  rw [h]

theorem answer_of_current (h : w.shared.current = some s) : w.answer = .ok s := by
  rw [Scene.answer, get_of_current h]

theorem answer_of_unset (h : w.shared.current = none) : w.answer = loaded w.env := by
  rw [Scene.answer]
  cases hload : loaded w.env with
  | ok s => rw [get_of_loaded h hload]
  | error f => rw [get_of_error h hload]

/-- Asking in vain changes nothing, and the settings were unset and stay so. -/
theorem unset_of_answer_eq_error (h : w.answer = .error f) :
    loaded w.env = .error f ∧ w.next .get = w ∧ w.shared.current = none := by
  cases hcurrent : w.shared.current with
  | some s =>
    rw [answer_of_current hcurrent] at h
    cases h
  | none =>
    rw [answer_of_unset hcurrent] at h
    refine ⟨h, ?_, rfl⟩
    rw [Scene.next, get_of_error hcurrent h]

/-- Settings that are kept stay through an event that sets none. -/
theorem current_next (h : w.shared.current = some s) {event : Event} (hevent : ¬ event.Sets) :
    (w.next event).shared.current = some s := by
  cases event with
  | environment next => exact h
  | set other => exact absurd trivial hevent
  | get =>
    rw [Scene.next, get_of_current h]
    exact h

theorem env_next (w : Scene) (event : Event) :
    (w.next event).env = environmentAfter w.env [event] := by
  cases event with
  | environment next => rfl
  | set other => rfl
  | get => rfl

/-! ## Histories -/

theorem after_append (w : Scene) (front back : List Event) :
    w.after (front ++ back) = (w.after front).after back := by
  induction front generalizing w with
  | nil => rfl
  | cons event rest ih => exact ih (w.next event)

theorem environmentAfter_append (env : Environment) (front back : List Event) :
    environmentAfter env (front ++ back) = environmentAfter (environmentAfter env front) back := by
  induction front generalizing env with
  | nil => rfl
  | cons event rest ih =>
    cases event with
    | environment next => exact ih next
    | set other => exact ih env
    | get => exact ih env

theorem env_after (w : Scene) (history : List Event) :
    (w.after history).env = environmentAfter w.env history := by
  induction history generalizing w with
  | nil => rfl
  | cons event rest ih =>
    rw [Scene.after, ih, env_next, ← environmentAfter_append]
    rfl

/-- Settings that are kept stay through a history that sets none. -/
theorem current_after (h : w.shared.current = some s)
    (hhistory : ∀ event ∈ history, ¬ event.Sets) : (w.after history).shared.current = some s := by
  induction history generalizing w with
  | nil => exact h
  | cons event rest ih =>
    obtain ⟨hevent, hrest⟩ := List.forall_mem_cons.1 hhistory
    exact ih (current_next h hevent) hrest

theorem NothingLoaded.tail {event : Event} (h : NothingLoaded env (event :: history)) :
    NothingLoaded (environmentAfter env [event]) history where
  unset other hother := h.unset other (List.mem_cons_of_mem event hother)
  fails before later hsplit := by
    rw [← environmentAfter_append]
    exact h.fails (event :: before) later (by rw [hsplit]; rfl)

/-- Settings that are unset stay so through a history in which nothing can be loaded. -/
theorem current_after_nothingLoaded (h : w.shared.current = none)
    (hhistory : NothingLoaded w.env history) : (w.after history).shared.current = none := by
  -- the environment moves along the history, so the scene is not fixed in the induction
  induction history generalizing w with
  | nil => exact h
  | cons event rest ih =>
    have hrest := hhistory.tail
    rw [← env_next] at hrest
    refine ih ?_ hrest
    cases event with
    | environment next => exact h
    | set other => exact absurd trivial (hhistory.unset _ List.mem_cons_self)
    | get =>
      obtain ⟨f, hf⟩ := hhistory.fails [] rest rfl
      rw [Scene.next, get_of_error h hf]
      exact h

/-- Nothing is kept behind a reset, nor behind what follows it as long as nothing can be loaded. -/
theorem current_after_reset (hfront : EndsReset front)
    (hback : NothingLoaded (environmentAfter env front) back) :
    ((Scene.mk env {}).after (front ++ back)).shared.current = none := by
  have hreset : ((Scene.mk env {}).after front).shared.current = none := by
    rcases hfront with rfl | ⟨earlier, rfl⟩
    · rfl
    · rw [after_append]
      rfl
  rw [after_append]
  apply current_after_nothingLoaded hreset
  rw [env_after]
  exact hback

/-- What is kept behind a history is what the scene has there. -/
theorem Keeps.current {current : Option Settings} (h : Keeps env history current) :
    ((Scene.mk env {}).after history).shared.current = current := by
  cases h with
  | @set front back s hback =>
    rw [after_append, Scene.after]
    exact current_after rfl hback
  | @snapshot front early late s hfront hearly hload hlate =>
    -- nothing is kept before the settings are loaded, and nothing is set behind that
    have hunset := current_after_reset hfront hearly
    have hloaded : loaded ((Scene.mk env {}).after (front ++ early)).env = .ok s := by
      rw [env_after]
      exact hload
    rw [after_append, Scene.after]
    apply current_after _ hlate
    rw [Scene.next, get_of_loaded hunset hloaded]
  | nothing hfront hback => exact current_after_reset hfront hback

/-! ## One more event behind a history -/

theorem NothingLoaded.nil (env : Environment) : NothingLoaded env [] where
  unset := by simp
  fails before later hsplit := by simp at hsplit

/-- One more event that sets nothing, and that loads nothing if it asks for the settings. -/
theorem NothingLoaded.concat {event : Event} (h : NothingLoaded env back) (hevent : ¬ event.Sets)
    (hget : event = .get → ∃ f, loaded (environmentAfter env back) = .error f) :
    NothingLoaded env (back ++ [event]) where
  unset := List.forall_mem_append.2 ⟨h.unset, List.forall_mem_singleton.2 hevent⟩
  fails := by
    intro before later hsplit
    -- the settings are asked for by the last event or before it
    rcases List.eq_nil_or_concat' later with rfl | ⟨more, last, rfl⟩
    · obtain ⟨rfl, hlast⟩ := List.append_inj' hsplit rfl
      cases hlast
      exact hget rfl
    · rw [← List.cons_append, ← List.append_assoc] at hsplit
      obtain ⟨rfl, -⟩ := List.append_inj' hsplit rfl
      exact h.fails before more rfl

/-- Settings that are kept are kept behind one more event that sets none. -/
theorem Keeps.concat_of_some {event : Event} (h : Keeps env history (some s))
    (hevent : ¬ event.Sets) : Keeps env (history ++ [event]) (some s) := by
  have hlast : ∀ other ∈ [event], ¬ other.Sets := List.forall_mem_singleton.2 hevent
  cases h with
  | set hback =>
    rw [List.append_assoc, List.cons_append]
    exact .set (List.forall_mem_append.2 ⟨hback, hlast⟩)
  | snapshot hfront hearly hload hlate =>
    rw [List.append_assoc, List.cons_append]
    exact .snapshot hfront hearly hload (List.forall_mem_append.2 ⟨hlate, hlast⟩)

/-- Where nothing is kept, nothing is kept behind one more event that sets and loads nothing. -/
theorem Keeps.concat_of_none {event : Event} (h : Keeps env history none) (hevent : ¬ event.Sets)
    (hget : event = .get → ∃ f, loaded (environmentAfter env history) = .error f) :
    Keeps env (history ++ [event]) none := by
  cases h with
  | nothing hfront hback =>
    rw [environmentAfter_append] at hget
    rw [List.append_assoc]
    exact .nothing hfront (hback.concat hevent hget)

/-- Where nothing is kept, the settings that can be loaded are kept once they are asked for. -/
theorem Keeps.concat_of_loaded (h : Keeps env history none)
    (hload : loaded (environmentAfter env history) = .ok s) :
    Keeps env (history ++ [.get]) (some s) := by
  cases h with
  | nothing hfront hback => exact .snapshot hfront hback hload (by simp)

/-- **Every history keeps something or nothing**: one more event changes what is kept in one of the
ways that are told of. -/
theorem exists_keeps (env : Environment) (history : List Event) :
    ∃ current, Keeps env history current := by
  -- the last event decides, from what was kept before it
  induction history using List.reverseRecOn with
  | nil =>
    have hnothing : Keeps env ([] ++ []) none := .nothing (.inl rfl) (.nil env)
    exact ⟨none, hnothing⟩
  | append_singleton history event ih =>
    obtain ⟨current, hkeeps⟩ := ih
    cases event with
    | set s =>
      cases s with
      | none =>
        have hnothing : Keeps env ((history ++ [.set none]) ++ []) none :=
          .nothing (.inr ⟨history, rfl⟩) (.nil _)
        rw [List.append_nil] at hnothing
        exact ⟨none, hnothing⟩
      | some s => exact ⟨some s, .set (by simp)⟩
    | environment next =>
      cases current with
      | none =>
        refine ⟨none, hkeeps.concat_of_none id ?_⟩
        intro hget
        cases hget
      | some s => exact ⟨some s, hkeeps.concat_of_some id⟩
    | get =>
      cases current with
      | none =>
        cases hload : loaded (environmentAfter env history) with
        | ok s => exact ⟨some s, hkeeps.concat_of_loaded hload⟩
        | error f => exact ⟨none, hkeeps.concat_of_none id fun _ => ⟨f, hload⟩⟩
      | some s => exact ⟨some s, hkeeps.concat_of_some id⟩

/-! ## What is answered -/

/-- What the scene answers behind a history is what the history says. -/
theorem Answers.answer {r : Except Failure Settings} (h : Answers env history r) :
    ((Scene.mk env {}).after history).answer = r := by
  cases h with
  | kept hkeeps => exact answer_of_current hkeeps.current
  | loaded hkeeps => rw [answer_of_unset hkeeps.current, env_after]

theorem exists_answers (env : Environment) (history : List Event) :
    ∃ r, Answers env history r := by
  obtain ⟨current, hkeeps⟩ := exists_keeps env history
  cases current with
  | none => exact ⟨_, .loaded hkeeps⟩
  | some s => exact ⟨_, .kept hkeeps⟩

/-- **The global settings are a snapshot that is taken when it is first asked for.** Behind every
history, asking gives what was last set, or what was first loaded since the last reset, or what can
be loaded now; and asking in vain gives a report about settings and leaves them unset, with all else
as it was. -/
theorem answers_snapshot (env : Environment) (history : List Event) :
    let scene := (Scene.mk env {}).after history
    (∀ r, scene.answer = r ↔ Answers env history r) ∧
      ∀ f, scene.answer = .error f →
        f.IsConfiguration ∧ scene.next .get = scene ∧ scene.shared.current = none := by
  intro scene
  constructor
  · intro r
    constructor
    · intro hanswer
      -- the history says something, and the scene answers nothing else
      obtain ⟨r', hr'⟩ := exists_answers env history
      rwa [← hanswer, hr'.answer]
    · exact Answers.answer
  · intro f hanswer
    obtain ⟨hload, hnext, hunset⟩ := unset_of_answer_eq_error hanswer
    have hreport := Settings.failsOnly_load (Loaded.settled_of_content? rfl) f hload
    exact ⟨hreport, hnext, hunset⟩

/-- The environment names a severity that there is not. -/
def unreadableLevel : List Event := [.environment [("JITSHAPE_LOG_LEVEL", "loud")]]

/-- The settings are asked for in vain, asked for again when the severity can be read, and then the
environment changes once more. -/
def readableLevel : List Event :=
  unreadableLevel ++ [.get, .environment [("JITSHAPE_LOG_LEVEL", "error")], .get,
    .environment [("JITSHAPE_LOG_LEVEL", "debug")]]

/-- A severity that cannot be read leaves nothing behind, and the next one that can be read stays.
-/
theorem snapshot_behind_unreadable_level :
    (∃ f, ((Scene.mk [] {}).after unreadableLevel).answer = .error f ∧ f.IsConfiguration ∧
      (((Scene.mk [] {}).after unreadableLevel).next .get).shared.current = none) ∧
    ∃ s : Settings, Answers [] readableLevel (.ok s) ∧ s.logging.level = .error := by
  have hrefused : ((Scene.mk [] {}).after unreadableLevel).answer =
      .error (SettingIssue.badChoice (.text "loud") "logging.level"
        (Severity.all.map Severity.label)).failure := rfl
  have hkept : ((Scene.mk [] {}).after readableLevel).answer =
      .ok { logging := { level := .error } } := rfl
  obtain ⟨hreport, hnext, hunset⟩ := (answers_snapshot [] unreadableLevel).2 _ hrefused
  refine ⟨⟨_, hrefused, hreport, ?_⟩, _, ((answers_snapshot [] readableLevel).1 _).1 hkept, rfl⟩
  rw [hnext]
  exact hunset

end ShapeFlow.GlobalSettings
