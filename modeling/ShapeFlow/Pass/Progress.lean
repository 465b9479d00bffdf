import ShapeFlow.Graph
import ShapeFlow.Journal.Record

/-!
# Progress of a pass

A pass works on a store and a journal (`Progress`). Its steps may fail, and what they did up to the
failure stays done: a step gives its value or its failure together with the progress it leaves
behind (`Pass`). `Pass.run_bind_ok` and `Pass.run_bind_error` say how two steps follow one another.
-/

set_option autoImplicit false

namespace ShapeFlow

/-- What a pass has done so far. -/
structure Progress where
  store : Store := .empty
  journal : List Record := []
  deriving Inhabited

/-- A step of a pass. -/
abbrev Pass (α : Type) := ExceptT Failure (StateM Progress) α

namespace Pass

variable {α β : Type}

/-- What a step gives and leaves behind. -/
def runFrom (step : Pass α) (p : Progress) : Except Failure α × Progress := step p

/-- A step that only gives a value or fails. -/
def ofExcept (r : Except Failure α) : Pass α := fun p => (r, p)

/-- A step that may look at the store. -/
def ofStore (f : Store → Except Failure α) : Pass α := fun p => (f p.store, p)

/-- Writes records to the journal. -/
def note (records : List Record) : Pass Unit :=
  fun p => (.ok (), { p with journal := p.journal ++ records })

/-- Writes the record of a value. -/
def write (names : Naming) (id : ValueId) (m : Meta) : Pass Unit := fun p =>
  match p.store.write names id m with
  | .ok store => (.ok (), { p with store })
  | .error f => (.error f, p)

/-- Reads the records of values in order. -/
def readAll (names : Naming) : List ValueId → Store → Except Failure (List Meta)
  | [], _ => .ok []
  | id :: rest, store => do
    let m ← store.read names id
    let more ← readAll names rest store
    return m :: more

/-- A step with its failure changed. -/
def mapFailure (f : Failure → Failure) (step : Pass α) : Pass α := fun p =>
  match step p with
  | (.ok a, q) => (.ok a, q)
  | (.error e, q) => (.error (f e), q)

theorem run_bind_ok {step : Pass α} {next : α → Pass β} {p q : Progress} {a : α}
    (h : step.runFrom p = (.ok a, q)) : (step >>= next).runFrom p = (next a).runFrom q := by
  simp only [runFrom] at h ⊢
  simp [bind, ExceptT.bind, ExceptT.mk, StateT.bind, ExceptT.bindCont, h]

theorem run_bind_error {step : Pass α} {next : α → Pass β} {p q : Progress} {e : Failure}
    (h : step.runFrom p = (.error e, q)) : (step >>= next).runFrom p = (.error e, q) := by
  simp only [runFrom] at h ⊢
  simp only [bind, ExceptT.bind, ExceptT.mk, StateT.bind, ExceptT.bindCont, h]
  rfl

end Pass

end ShapeFlow
