import ShapeFlow.Outcome
import ShapeFlow.Proofs.Failure.Results

/-!
# Laws of outcomes

A callback that raises is caught by the call that it was handed to, so a failure may be caught in
the middle of a chain or at its end. The laws say that this makes no difference: what two callbacks
do one after another is caught alike by one call or by two (`Outcome.ofRaising_bind`,
`Outcome.ofAnswering_map_andThen`), and so mapping respects composition and handing on is
associative (`Outcome.map_map`, `Outcome.andThen_andThen`). They hold for failures of any kind.
-/

set_option autoImplicit false

namespace ShapeFlow.Outcome

variable {α β γ ε : Type}

/-! ## One callback -/

/-- What a callback with an outcome of its own did: whatever it raised is caught. -/
def ofAnswering : Except ε (Outcome α ε) → Outcome α ε
  | .ok r => r
  | .error e => err e

@[simp] theorem map_ok (a : α) (f : α → Except ε β) : (ok a).map f = ofRaising (f a) := rfl

@[simp] theorem map_err (e : ε) (f : α → Except ε β) : (err e).map f = err e := rfl

@[simp] theorem andThen_ok (a : α) (f : α → Except ε (Outcome β ε)) :
    (ok a).andThen f = ofAnswering (f a) := by
  rw [andThen]
  cases f a with
  | ok r => rfl
  | error e => rfl

@[simp] theorem andThen_err (e : ε) (f : α → Except ε (Outcome β ε)) :
    (err e).andThen f = err e := rfl

/-- A value that is mapped after it was caught, and one that is mapped and then caught. -/
theorem ofRaising_bind (result : Except ε α) (g : α → Except ε β) :
    ofRaising (result >>= g) = (ofRaising result).map g := by
  cases result with
  | ok a => rfl
  | error e => rfl

/-- A value that is caught as such, and one that is made an outcome before. -/
theorem ofAnswering_map_ok (result : Except ε α) :
    ofAnswering (result.map ok) = ofRaising result := by
  cases result with
  | ok a => rfl
  | error e => rfl

/-- An outcome that is handed on after it was caught, and one that is handed on and then caught. -/
theorem ofAnswering_map_andThen (result : Except ε (Outcome α ε))
    (g : α → Except ε (Outcome β ε)) :
    ofAnswering (result.map fun r => r.andThen g) = (ofAnswering result).andThen g := by
  cases result with
  | ok r => rfl
  | error e => rfl

/-! ## The laws -/

/-- Mapping by a callback that gives its argument back changes nothing. -/
theorem map_identity (r : Outcome α ε) : r.map .ok = r := by
  cases r with
  | ok a => rfl
  | err e => rfl

theorem map_map (r : Outcome α ε) (f : α → Except ε β) (g : β → Except ε γ) :
    (r.map f).map g = r.map fun a => f a >>= g := by
  cases r with
  | ok a =>
    -- what the first callback raises is caught before the second call, or by the one call
    rw [map_ok, map_ok]
    exact (ofRaising_bind (f a) g).symm
  | err e => rfl

theorem map_eq_andThen (r : Outcome α ε) (f : α → Except ε β) :
    r.map f = r.andThen fun a => (f a).map ok := by
  cases r with
  | ok a =>
    rw [map_ok, andThen_ok]
    exact (ofAnswering_map_ok (f a)).symm
  | err e => rfl

theorem andThen_identity (r : Outcome α ε) : (r.andThen fun a => .ok (ok a)) = r := by
  cases r with
  | ok a => rfl
  | err e => rfl

theorem andThen_andThen (r : Outcome α ε) (f : α → Except ε (Outcome β ε))
    (g : β → Except ε (Outcome γ ε)) :
    (r.andThen f).andThen g = r.andThen fun a => (f a).map fun s => s.andThen g := by
  cases r with
  | ok a =>
    rw [andThen_ok, andThen_ok]
    exact (ofAnswering_map_andThen (f a) g).symm
  | err e => rfl

/-- **Mapping and handing on obey the laws of a functor and of a monad, whatever the callbacks
raise.** -/
theorem lawful (r : Outcome α ε) (f : α → Except ε β) (g : β → Except ε γ)
    (next : α → Except ε (Outcome β ε)) (last : β → Except ε (Outcome γ ε)) :
    r.map .ok = r ∧
      (r.map f).map g = r.map (fun a => f a >>= g) ∧
      r.map f = r.andThen (fun a => (f a).map ok) ∧
      (∀ a s, next a = .ok s → (ok a).andThen next = s) ∧
      (∀ a e, next a = .error e → (ok a).andThen next = err e) ∧
      r.andThen (fun a => .ok (ok a)) = r ∧
      (r.andThen next).andThen last =
        r.andThen (fun a => (next a).map fun s => s.andThen last) := by
  refine ⟨map_identity r, map_map r f g, map_eq_andThen r f, ?_, ?_, andThen_identity r,
    andThen_andThen r next last⟩
  · intro a s hnext
    rw [andThen_ok, hnext]
    rfl
  · intro a e hnext
    rw [andThen_ok, hnext]
    rfl

/-- The first callback gives a number and the second one raises: whether this is caught by one call
or by two, the outcome holds what was raised. -/
theorem lawful_of_raising_callback :
    let double : Int → Except String Int := fun n => .ok (2 * n)
    let refuse : Int → Except String Int := fun _ => .error "refused"
    let halve : Int → Except String (Outcome Int String) := fun n =>
      if n % 2 = 0 then .ok (ok (n / 2)) else .error "odd"
    ((ok 3).map double).map refuse = err "refused" ∧
      (ok 3).map (fun n => double n >>= refuse) = err "refused" ∧
      halve 3 = .error "odd" ∧ (ok 3).andThen halve = err "odd" ∧
      halve 6 = .ok (ok 3) ∧ (ok 6).andThen halve = ok 3 ∧
      (ok 6).andThen (fun n => (halve n).map fun s => s.andThen halve) = err "odd" := by
  intro double refuse halve
  obtain ⟨-, hmap, -, hgives, hraises, -, -⟩ := lawful (ok 3) double refuse halve halve
  obtain ⟨-, -, -, -, -, -, hnext⟩ := lawful (ok 6) double refuse halve halve
  have hodd : halve 3 = .error "odd" := rfl
  have heven : halve 6 = .ok (ok 3) := rfl
  refine ⟨rfl, ?_, hodd, hraises 3 "odd" hodd, heven, hgives 6 (ok 3) heven, ?_⟩
  · rw [← hmap]
    rfl
  · rw [← hnext, hgives 6 (ok 3) heven, hraises 3 "odd" hodd]

end ShapeFlow.Outcome
