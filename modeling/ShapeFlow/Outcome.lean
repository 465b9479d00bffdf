import ShapeFlow.Failure.Report

/-!
# Outcomes

An outcome is what an operation answers: a value, or the failure that stood in its way (`Outcome`).
A callback either gives a value or raises a failure. `Outcome.map` and `Outcome.andThen` catch
whatever a callback raises, so they take failures of any kind; `Outcome.attempt` knows the failures
of the library, catches only the recoverable ones and lets the others out.
-/

set_option autoImplicit false

namespace ShapeFlow

/-- What an operation answers. Where no other kind of failure is named, it is that of the library.
-/
inductive Outcome (α : Type) (ε : Type := Failure) where
  | ok (value : α)
  | err (failure : ε)

namespace Outcome

variable {α β ε : Type}

/-- Whether the outcome is a value. -/
def isOk : Outcome α ε → Bool
  | ok _ => true
  | err _ => false

/-- The failure of an outcome, if it is one. -/
def failure? : Outcome α ε → Option ε
  | ok _ => none
  | err f => some f

/-- The tag of a recoverable failure. -/
def kind? (r : Outcome α) : Option ErrorKind := r.failure?.bind Failure.kind?

/-- The value; a failure is raised. -/
def unwrap : Outcome α ε → Except ε α
  | ok a => .ok a
  | err f => .error f

/-- The value, or another one for a failure. -/
def unwrapOr (other : α) : Outcome α ε → α
  | ok a => a
  | err _ => other

/-- The value, or what a callback makes of the failure. -/
def unwrapOrElse (f : ε → Except ε α) : Outcome α ε → Except ε α
  | ok a => .ok a
  | err failure => f failure

/-- What a callback did, as an outcome: whatever it raised is caught. -/
def ofRaising : Except ε α → Outcome α ε
  | .ok a => ok a
  | .error f => err f

/-- Changes the value by a callback; what it raises is the new outcome's failure. -/
def map (r : Outcome α ε) (f : α → Except ε β) : Outcome β ε :=
  match r with
  | ok a => ofRaising (f a)
  | err failure => err failure

/-- Goes on with the outcome of a callback; what it raises is the new outcome's failure. -/
def andThen (r : Outcome α ε) (f : α → Except ε (Outcome β ε)) : Outcome β ε :=
  match r with
  | ok a =>
    match f a with
    | .ok next => next
    | .error failure => err failure
  | err failure => err failure

/-- Runs a callback and catches what is recoverable; other failures are raised. -/
def attempt (f : α → Except Failure β) (a : α) : Except Failure (Outcome β) :=
  match f a with
  | .ok b => .ok (ok b)
  | .error failure =>
    match failure.recoverable? with
    | some r => .ok (err (.report r))
    | none => .error failure

end Outcome

end ShapeFlow
