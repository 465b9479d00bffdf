import ShapeFlow.Pass.Progress
import ShapeFlow.Datum.Conversion

/-!
# Binding graph inputs

Before a pass runs, each graph input is bound to a value. `Datum.asMeta` says what is kept of one:
the sizes of a tensor or array, the number of a whole number or truth value, the numbers of a list
of whole numbers; anything else is refused. `Pass.bindInputs` writes the records in order and stops
at the first value that is refused, of which it reports the position.
-/

set_option autoImplicit false

namespace ShapeFlow

/-- What is kept of an input. -/
def Datum.asMeta (x : Datum) : Except Issue Meta :=
  match x with
  | .tensor dims _ | .parameter dims _ | .array dims _ => .ok (.tensor dims)
  | .sizes dims => .ok (.intList dims)
  | .list xs | .tuple xs =>
    match xs.mapM Datum.asWhole? with
    | some ns => .ok (.intList ns)
    | Option.none => .error (.inputType x.typeName)
  | _ =>
    match x.asScalar? with
    | some n => .ok (.scalar [n])
    | Option.none => .error (.inputType x.typeName)

namespace Pass

/-- Binds inputs from position `position` on; gives the records it wrote. -/
def bindFrom (names : Naming) : Nat → List (ValueId × Datum) → Pass (List Meta)
  | _, [] => pure []
  | position, (id, x) :: rest =>
    match x.asMeta with
    | .error i =>
      ofExcept (.error (.report (i.report.provide "position" (Issue.count position))))
    | .ok m => do
      write names id m
      note [{ severity := .debug, channel := Channel.inputs
              message := "Input " ++ toString position ++ ": shape=" ++ intList m.shape }]
      let metas ← bindFrom names (position + 1) rest
      return m :: metas

/-- Binds each input to its value, of which there must be as many. -/
def bindInputs (names : Naming) (ids : List ValueId) (xs : List Datum) : Pass (List Meta) :=
  if ids.length = xs.length then bindFrom names 0 (ids.zip xs)
  else ofExcept (.error (Issue.inputCount ids.length xs.length).failure)

end Pass

end ShapeFlow
