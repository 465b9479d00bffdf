import ShapeFlow.Issue
import Mathlib.Data.List.Forall2

/-!
# Computations that may fail

A computation of several parts gives a value exactly when its parts do, one after another
(`except_bind_eq_ok_iff`); one that is repeated over a list gives values for all members, or fails
as it does for one of them (`except_mapM_eq_ok_iff`, `except_mapM_eq_error`). A computation that
fails at all often fails in a few ways only: `FailsOnly` says in which, and passes from the parts of
a computation to the whole. `GivesOnly` does the same for the values. Two computations that go side
by side are compared by `Alike`, which passes from the parts to the whole as well.
-/

set_option autoImplicit false

namespace ShapeFlow

variable {ε α β : Type}

theorem except_ok_bind (a : α) (f : α → Except ε β) : (Except.ok a >>= f) = f a := rfl

theorem except_bind_eq_ok_iff {r : Except ε α} {f : α → Except ε β} {b : β} :
    (r >>= f) = .ok b ↔ ∃ a, r = .ok a ∧ f a = .ok b := by
  cases r with
  | ok a => simp [bind, Except.bind]
  | error e => simp [bind, Except.bind]

theorem except_bind_eq_error_iff {r : Except ε α} {f : α → Except ε β} {e : ε} :
    (r >>= f) = .error e ↔ r = .error e ∨ ∃ a, r = .ok a ∧ f a = .error e := by
  cases r with
  | ok a => simp [bind, Except.bind]
  | error e' => simp [bind, Except.bind]

theorem except_map_eq_ok_iff {r : Except ε α} {f : α → β} {b : β} :
    r.map f = .ok b ↔ ∃ a, r = .ok a ∧ f a = b := by
  cases r with
  | ok a => simp [Except.map]
  | error e => simp [Except.map]

theorem except_map_eq_error_iff {r : Except ε α} {f : α → β} {e : ε} :
    r.map f = .error e ↔ r = .error e := by
  cases r with
  | ok a => simp [Except.map]
  | error e' => simp [Except.map]

theorem except_mapM_eq_ok_iff {f : α → Except ε β} {as : List α} {bs : List β} :
    as.mapM f = .ok bs ↔ List.Forall₂ (fun a b => f a = .ok b) as bs := by
  induction as generalizing bs with
  | nil =>
    rw [List.mapM_nil, List.forall₂_nil_left_iff]
    exact ⟨fun h => (Except.ok.inj h).symm, fun h => congrArg Except.ok h.symm⟩
  | cons a rest ih =>
    rw [List.mapM_cons, List.forall₂_cons_left_iff]
    constructor
    · intro h
      obtain ⟨b, hb, h⟩ := except_bind_eq_ok_iff.1 h
      obtain ⟨more, hmore, h⟩ := except_bind_eq_ok_iff.1 h
      cases h
      exact ⟨b, more, hb, ih.1 hmore, rfl⟩
    · rintro ⟨b, more, hb, hmore, rfl⟩
      rw [hb, ih.2 hmore]
      rfl

theorem except_mapM_eq_error {f : α → Except ε β} {as : List α} {e : ε}
    (h : as.mapM f = .error e) : ∃ a ∈ as, f a = .error e := by
  induction as with
  | nil => cases h
  | cons a rest ih =>
    rw [List.mapM_cons] at h
    rcases except_bind_eq_error_iff.1 h with ha | ⟨b, -, h⟩
    · exact ⟨a, List.mem_cons_self, ha⟩
    · rcases except_bind_eq_error_iff.1 h with hrest | ⟨more, -, hpure⟩
      · obtain ⟨a', hmem, ha'⟩ := ih hrest
        exact ⟨a', List.mem_cons_of_mem a hmem, ha'⟩
      · cases hpure

theorem faulted_eq_ok_iff {r : Except Fault α} {a : α} : faulted r = .ok a ↔ r = .ok a := by
  cases r with
  | ok a' => simp
  | error f => simp

theorem faulted_eq_error_iff {r : Except Fault α} {e : Failure} :
    faulted r = .error e ↔ ∃ f, r = .error f ∧ e = .fault f := by
  cases r with
  | ok a => simp
  | error f => simp [eq_comm]

theorem reported_eq_ok_iff {r : Except Issue α} {a : α} : reported r = .ok a ↔ r = .ok a := by
  cases r with
  | ok a' => simp
  | error i => simp

theorem reported_bind (r : Except Issue α) (f : α → Except Issue β) :
    reported (r >>= f) = reported r >>= fun a => reported (f a) := by
  cases r with
  | ok a => rfl
  | error i => rfl

/-- A computation that fails at all fails in a way that a predicate admits. -/
def FailsOnly {ε α : Type} (P : ε → Prop) (r : Except ε α) : Prop := ∀ e, r = .error e → P e

variable {P : ε → Prop}

theorem failsOnly_ok (a : α) : FailsOnly P (.ok a : Except ε α) := by
  intro e h
  cases h

theorem failsOnly_error {e : ε} (h : P e) : FailsOnly P (.error e : Except ε α) := by
  intro e' he
  cases he
  exact h

theorem FailsOnly.bind {r : Except ε α} {f : α → Except ε β} (hr : FailsOnly P r)
    (hf : ∀ a, FailsOnly P (f a)) : FailsOnly P (r >>= f) := by
  intro e h
  cases r with
  | ok a => exact hf a e h
  | error e' =>
    cases h
    exact hr e rfl

theorem FailsOnly.map {r : Except ε α} {f : α → β} (hr : FailsOnly P r) :
    FailsOnly P (r.map f) := by
  intro e h
  cases r with
  | ok a => cases h
  | error e' =>
    cases h
    exact hr e rfl

theorem failsOnly_faulted {P : Failure → Prop} (h : ∀ f, P (.fault f)) (r : Except Fault α) :
    FailsOnly P (faulted r) := by
  cases r with
  | ok a => exact failsOnly_ok a
  | error f => exact failsOnly_error (h f)

/-- A computation that gives a value at all gives one that a predicate admits. -/
def GivesOnly {ε α : Type} (P : α → Prop) (r : Except ε α) : Prop := ∀ a, r = .ok a → P a

variable {Q : α → Prop} {R : β → Prop}

theorem givesOnly_ok {a : α} (h : Q a) : GivesOnly Q (.ok a : Except ε α) := by
  intro a' ha
  cases ha
  exact h

theorem givesOnly_error (e : ε) : GivesOnly Q (.error e : Except ε α) := by
  intro a h
  cases h

theorem GivesOnly.bind {r : Except ε α} {f : α → Except ε β} (hr : GivesOnly Q r)
    (hf : ∀ a, Q a → GivesOnly R (f a)) : GivesOnly R (r >>= f) := by
  intro b h
  obtain ⟨a, ha, hb⟩ := except_bind_eq_ok_iff.1 h
  exact hf a (hr a ha) b hb

theorem GivesOnly.map {r : Except ε α} {f : α → β} (hr : GivesOnly Q r) (hf : ∀ a, Q a → R (f a)) :
    GivesOnly R (r.map f) := by
  intro b h
  obtain ⟨a, ha, rfl⟩ := except_map_eq_ok_iff.1 h
  exact hf a (hr a ha)

/-! ## Two computations side by side -/

/-- Two computations end alike: both give values, and these are related, or both fail, with related
failures. -/
inductive Alike {ε δ α β : Type} (E : ε → δ → Prop) (R : α → β → Prop) :
    Except ε α → Except δ β → Prop where
  | ok {a : α} {b : β} : R a b → Alike E R (.ok a) (.ok b)
  | error {e : ε} {d : δ} : E e d → Alike E R (.error e) (.error d)

section Alike

variable {δ α' β' : Type} {E : ε → δ → Prop} {S : α → α' → Prop} {T : β → β' → Prop}
  {r : Except ε α} {r' : Except δ α'}

theorem Alike.bind {f : α → Except ε β} {f' : α' → Except δ β'} (h : Alike E S r r')
    (hf : ∀ a a', S a a' → Alike E T (f a) (f' a')) : Alike E T (r >>= f) (r' >>= f') := by
  cases h with
  | ok ha => exact hf _ _ ha
  | error he => exact .error he

theorem Alike.map {f : α → β} {f' : α' → β'} (h : Alike E S r r')
    (hf : ∀ a a', S a a' → T (f a) (f' a')) : Alike E T (r.map f) (r'.map f') := by
  cases h with
  | ok ha => exact .ok (hf _ _ ha)
  | error he => exact .error he

end Alike

/-- Two computations that give the same values end alike; where they fail, they fail in the ways
that are admitted for them. -/
theorem alike_of_ok_iff {δ : Type} {P : ε → Prop} {Q : δ → Prop} {r : Except ε α}
    {r' : Except δ α} (h : ∀ a, r = .ok a ↔ r' = .ok a) (hr : FailsOnly P r)
    (hr' : FailsOnly Q r') : Alike (fun e d => P e ∧ Q d) Eq r r' := by
  cases r with
  | ok a =>
    obtain rfl := (h a).1 rfl
    exact .ok rfl
  | error e =>
    cases r' with
    | ok a => cases (h a).2 rfl
    | error d => exact .error ⟨hr e rfl, hr' d rfl⟩

end ShapeFlow
