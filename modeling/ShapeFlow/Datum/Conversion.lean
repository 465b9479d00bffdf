import ShapeFlow.Failure.Fault
import ShapeFlow.Number.Numeral

/-!
# Dynamic values as whole numbers and truth values

`Datum.toInteger` converts a value to a whole number: numbers keep their whole part, truth values
are one or zero, texts and byte strings are read as numerals, and everything else is refused unless
it is of a library that converts it. `Datum.truth` says which values count as false where a truth
value is wanted; the library of a value may refuse to say so. `Datum.asScalar?` is the narrower view
of a graph input: only whole numbers and truth values.
-/

set_option autoImplicit false

namespace ShapeFlow.Datum

/-- The whole part of a floating-point number. -/
def wholePart : Floating → Except Fault Int
  | .nan => .error .nanToInteger
  | .infinite _ => .error .infinityToInteger
  | .finite negative significand exponent =>
    .ok (Floating.truncate negative significand exponent)

/-- One for true and zero for false. -/
def bit (b : Bool) : Int := if b then 1 else 0

/-- The most that a message quotes. -/
def excerptLength : Nat := 200

/-- The front of a quotation, as long as a message may quote. -/
def excerpt (s : String) : String := String.ofList (s.toList.take excerptLength)

/-- The word for a value's kind where a conversion refuses it. -/
def conversionName : Datum → String
  | sizes _ => "torch.Size"
  | value => value.typeName

/-- What another library gives for a value, or its refusal. -/
def granted {α : Type} (r : Except Refusal α) : Except Fault α := r.mapError .refused

/-- A value as a whole number. -/
def toInteger : Datum → Except Fault Int
  | bool b => .ok (bit b)
  | int n => .ok n
  | float x => wholePart x
  | sizedInt _ n => .ok n
  | sizedFloat _ x => wholePart x
  | sizedBool b => .ok (bit b)
  | text s =>
    match Numeral.read? s.toList with
    | some n => .ok n
    | Option.none => .error (.badNumeral (excerpt (Text.quoted s)))
  | bytes bs =>
    match Numeral.ofBytes? bs with
    | some n => .ok n
    | Option.none => .error (.badNumeral (excerpt (Text.quotedBytes (bs.take excerptLength))))
  | value =>
    match value.conversions?.bind Conversions.number with
    | some r => granted r
    | Option.none => .error (.notNumeric value.conversionName)

/-- The truth of a value: nothing, zero and whatever is empty count as false, the truth of a value
of another library is decided there, and all else counts as true. -/
def truth : Datum → Except Fault Bool
  | none => .ok false
  | bool b => .ok b
  | int n => .ok (n != 0)
  | float x => .ok (!x.isZero)
  | text s => .ok (!s.isEmpty)
  | bytes bs => .ok (!bs.isEmpty)
  | list xs => .ok (!xs.isEmpty)
  | tuple xs => .ok (!xs.isEmpty)
  | set xs => .ok (!xs.isEmpty)
  | dict entries => .ok (!entries.isEmpty)
  | sizes dims => .ok (!dims.isEmpty)
  | sizedInt _ n => .ok (n != 0)
  | sizedFloat _ x => .ok (!x.isZero)
  | sizedBool b => .ok b
  | value =>
    match value.conversions? with
    | some c => granted c.truth
    | Option.none => .ok true

/-- The number of a whole number or truth value. -/
def asScalar? : Datum → Option Int
  | bool b => some (bit b)
  | int n => some n
  | sizedInt _ n => some n
  | sizedBool b => some (bit b)
  | _ => Option.none

/-- The number of a whole number that is no truth value. -/
def asWhole? : Datum → Option Int
  | int n => some n
  | sizedInt _ n => some n
  | _ => Option.none

/-- A value that is a whole number by itself converts to that number. -/
theorem toInteger_of_asScalar? {x : Datum} {n : Int} (h : x.asScalar? = some n) :
    x.toInteger = .ok n := by
  cases x <;> simp_all [asScalar?, toInteger]

end ShapeFlow.Datum
