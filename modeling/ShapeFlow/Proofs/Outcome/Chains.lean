import ShapeFlow.Outcome
import ShapeFlow.Issue

/-!
# Chains of calls over outcomes

An outcome is changed step by step: its value is mapped, or handed on to a callback with an outcome
of its own, or replaced by an attempt (`Outcome.Call`). The report of a broken precondition is meant
to be raised and never to be held by an outcome. An attempt keeps to this
(`Outcome.attempt_eq_error_iff`), but the other two calls catch whatever their callback raises.

`Outcome.holds_invariant_iff` says which broken preconditions the outcome behind a chain holds:
those that a call of these two kinds caught, as long as no later attempt put another outcome in the
place.
-/

set_option autoImplicit false

namespace ShapeFlow.Outcome

variable {α : Type}

/-- A call that changes an outcome. -/
inductive Call (α : Type) where
  | map (f : α → Except Failure α)
  | andThen (f : α → Except Failure (Outcome α))
  | attempt (f : α → Except Failure α) (a : α)

/-- What a call makes of an outcome, or the failure that it raises. -/
def Call.apply (r : Outcome α) : Call α → Except Failure (Outcome α)
  | map f => .ok (r.map f)
  | andThen f => .ok (r.andThen f)
  | attempt f a => Outcome.attempt f a

/-- The outcome behind a call: a call that raises a failure leaves it as it was. -/
def next (r : Outcome α) (call : Call α) : Outcome α :=
  match call.apply r with
  | .ok s => s
  | .error _ => r

/-- The outcome behind a chain of calls. -/
def after (r : Outcome α) : List (Call α) → Outcome α
  | [] => r
  | call :: rest => (r.next call).after rest

/-- An outcome holds the report of a broken precondition. -/
def HoldsInvariant (r : Outcome α) : Prop := ∃ e, r.failure? = some e ∧ e.isInvariant = true

/-- The outcomes that a callback returns hold no broken precondition. -/
def Call.ReturnsSound : Call α → Prop
  | map _ | attempt _ _ => True
  | andThen f => ∀ a r, f a = .ok r → ¬ r.HoldsInvariant

/-- A call catches a failure: it maps or hands on a value, and its callback raises the failure on
it. The outcome behind the call holds what was caught. -/
def Call.Catches (r : Outcome α) (e : Failure) : Call α → Prop
  | map f => ∃ a, r = .ok a ∧ f a = .error e
  | andThen f => ∃ a, r = .ok a ∧ f a = .error e
  | attempt _ _ => False

/-- A call leaves an outcome with a failure as it is: all calls do but the attempts that give an
outcome. -/
def Call.Passes : Call α → Prop
  | map _ | andThen _ => True
  | attempt f a => ∃ e, Outcome.attempt f a = .error e

/-! ## One call -/

section Attempts

variable {β : Type} {f : α → Except Failure β} {a : α} {e : Failure}

theorem attempt_of_ok {b : β} (h : f a = .ok b) : attempt f a = .ok (ok b) := by
  rw [attempt, h]

theorem attempt_of_recoverable {r : Report} (h : f a = .error e) (he : e.recoverable? = some r) :
    attempt f a = .ok (err (.report r)) := by
  simp only [attempt, h, he]

theorem attempt_of_unrecoverable (h : f a = .error e) (he : e.recoverable? = none) :
    attempt f a = .error e := by
  simp only [attempt, h, he]

/-- **An attempt raises exactly what its callback raises and is not recoverable.** -/
theorem attempt_eq_error_iff :
    attempt f a = .error e ↔ f a = .error e ∧ e.recoverable? = none := by
  constructor
  · intro h
    cases hf : f a with
    | ok b =>
      rw [attempt_of_ok hf] at h
      cases h
    | error d =>
      cases hd : d.recoverable? with
      | some r =>
        rw [attempt_of_recoverable hf hd] at h
        cases h
      | none =>
        rw [attempt_of_unrecoverable hf hd] at h
        cases h
        exact ⟨rfl, hd⟩
  · rintro ⟨hf, he⟩
    exact attempt_of_unrecoverable hf he

/-- The report of a recoverable failure is no broken precondition. -/
theorem isInvariant_of_recoverable? {r : Report} (h : e.recoverable? = some r) :
    (Failure.report r).isInvariant = false := by
  cases e with
  | fault fault => cases h
  | report d =>
    rw [Failure.recoverable?] at h
    by_cases hd : d.isRecoverable = true
    · rw [if_pos hd] at h
      cases h
      exact Category.isInvariant_of_isRecoverable hd
    · rw [if_neg hd] at h
      cases h

/-- An attempt that gives an outcome gives none with a broken precondition. -/
theorem not_holdsInvariant_of_attempt {r : Outcome β} (h : attempt f a = .ok r) :
    ¬ r.HoldsInvariant := by
  rintro ⟨d, hheld, hd⟩
  cases hf : f a with
  | ok b =>
    rw [attempt_of_ok hf] at h
    cases h
    cases hheld
  | error e =>
    cases he : e.recoverable? with
    | some report =>
      -- what was caught is recoverable
      rw [attempt_of_recoverable hf he] at h
      cases h
      cases hheld
      rw [isInvariant_of_recoverable? he] at hd
      cases hd
    | none =>
      rw [attempt_of_unrecoverable hf he] at h
      cases h

end Attempts

/-- A broken precondition is held behind a call if the call caught it, or if it was held before and
the call passes it on. -/
theorem next_failure?_iff {r : Outcome α} {call : Call α} {e : Failure}
    (hcall : call.ReturnsSound) (he : e.isInvariant = true) :
    (r.next call).failure? = some e ↔
      call.Catches r e ∨ (r.failure? = some e ∧ call.Passes) := by
  cases call with
  | map f =>
    cases r with
    | err d => simp [next, Call.apply, map, failure?, Call.Catches, Call.Passes]
    | ok a =>
      cases hf : f a with
      | ok b => simp [next, Call.apply, map, ofRaising, failure?, Call.Catches, hf]
      | error d => simp [next, Call.apply, map, ofRaising, failure?, Call.Catches, hf]
  | andThen f =>
    cases r with
    | err d => simp [next, Call.apply, andThen, failure?, Call.Catches, Call.Passes]
    | ok a =>
      cases hf : f a with
      | ok s =>
        have hsound : s.failure? ≠ some e := fun hs => hcall a s hf ⟨e, hs, he⟩
        simpa [next, Call.apply, andThen, Call.Catches, hf, failure?] using hsound
      | error d => simp [next, Call.apply, andThen, failure?, Call.Catches, hf]
  | attempt f a =>
    cases hattempt : attempt f a with
    | ok s =>
      have hsound : s.failure? ≠ some e := fun hs =>
        not_holdsInvariant_of_attempt hattempt ⟨e, hs, he⟩
      simpa [next, Call.apply, Call.Catches, Call.Passes, hattempt] using hsound
    | error d => simp [next, Call.apply, Call.Catches, Call.Passes, hattempt]

/-! ## Chains -/

/-- A broken precondition is held behind a chain if it was held before and all calls pass it on, or
if one call caught it and all later ones pass it on. -/
theorem after_failure?_iff {r : Outcome α} {calls : List (Call α)} {e : Failure}
    (hcalls : ∀ call ∈ calls, call.ReturnsSound) (he : e.isInvariant = true) :
    (r.after calls).failure? = some e ↔
      (r.failure? = some e ∧ ∀ call ∈ calls, call.Passes) ∨
        ∃ front call back, calls = front ++ call :: back ∧ call.Catches (r.after front) e ∧
          ∀ later ∈ back, later.Passes := by
  induction calls generalizing r with
  | nil => simp [after]
  | cons first rest ih =>
    obtain ⟨hfirst, hrest⟩ := List.forall_mem_cons.1 hcalls
    rw [after, ih hrest, next_failure?_iff hfirst he]
    constructor
    · rintro (⟨hheld | ⟨hheld, hpass⟩, hall⟩ | ⟨front, call, back, rfl, hcatch, hback⟩)
      · exact Or.inr ⟨[], first, rest, rfl, hheld, hall⟩
      · exact Or.inl ⟨hheld, List.forall_mem_cons.2 ⟨hpass, hall⟩⟩
      · exact Or.inr ⟨first :: front, call, back, rfl, hcatch, hback⟩
    · rintro (⟨hheld, hall⟩ | ⟨front, call, back, hsplit, hcatch, hback⟩)
      · obtain ⟨hpass, hall⟩ := List.forall_mem_cons.1 hall
        exact Or.inl ⟨Or.inr ⟨hheld, hpass⟩, hall⟩
      · -- the call that caught it is the first one or one of the rest
        cases front with
        | nil =>
          cases hsplit
          exact Or.inl ⟨Or.inl hcatch, hback⟩
        | cons head front =>
          cases hsplit
          exact Or.inr ⟨front, call, back, rfl, hcatch, hback⟩

/-- **An outcome behind a chain holds a broken precondition exactly if a call of the chain caught
it**, by mapping or handing on the value at hand, and all later calls pass it on. An attempt catches
none: it raises what its callback raises, unless this is recoverable. -/
theorem holds_invariant_iff {r : Outcome α} {calls : List (Call α)} (hr : ¬ r.HoldsInvariant)
    (hcalls : ∀ call ∈ calls, call.ReturnsSound) :
    (∀ e : Failure, e.isInvariant = true →
      ((r.after calls).failure? = some e ↔
        ∃ front call back, calls = front ++ call :: back ∧ call.Catches (r.after front) e ∧
          ∀ later ∈ back, later.Passes)) ∧
      ∀ (f : α → Except Failure α) (a : α) (e : Failure),
        (Call.attempt f a).apply (r.after calls) = .error e ↔
          f a = .error e ∧ e.recoverable? = none := by
  refine ⟨fun e he => ?_, fun f a e => attempt_eq_error_iff⟩
  rw [after_failure?_iff hcalls he]
  have hnot : r.failure? ≠ some e := fun hheld => hr ⟨e, hheld, he⟩
  simp [hnot]

/-- A callback that lacks a value raises the report of a missing value. -/
def lacking (_ : List Int) : Except Failure (List Int) := .error (Issue.missingValue "x").failure

/-- The missing value that a mapping met is held by the outcome, and by the outcomes behind it. -/
theorem lacking_is_held :
    ((ok [1]).after [.map lacking, .andThen fun ns => .ok (ok ns)]).failure? =
      some (Issue.missingValue "x").failure := by
  have hsound : ∀ call ∈ [Call.map lacking, .andThen fun ns => .ok (ok ns)],
      call.ReturnsSound := by
    refine List.forall_mem_cons.2 ⟨trivial, List.forall_mem_singleton.2 ?_⟩
    rintro ns r heq ⟨e, hheld, -⟩
    cases heq
    cases hheld
  have hstart : ¬ (ok [1] : Outcome (List Int)).HoldsInvariant := by
    rintro ⟨e, hheld, -⟩
    cases hheld
  refine ((holds_invariant_iff hstart hsound).1 _ rfl).2 ?_
  refine ⟨[], .map lacking, _, rfl, ⟨[1], rfl, rfl⟩, ?_⟩
  exact List.forall_mem_singleton.2 trivial

end ShapeFlow.Outcome
