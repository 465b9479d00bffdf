import ShapeFlow.Journal.Severity
import ShapeFlow.Rule.ConstantPolicy
import ShapeFlow.Number.Floating

/-!
# Dynamic values

Graph inputs, node attributes, the details of an error and the contents of a settings file are
values whose kind is known only when they are looked at (`Datum`). Of a tensor or an array the sizes
matter, and of any value of another library what that library makes of it where a whole number or a
truth value is wanted (`Conversions`). `Datum.typeName` is the word that messages use for a value's
kind.
-/

set_option autoImplicit false

namespace ShapeFlow

/-- The width of a whole number of an array library. -/
inductive IntWidth where
  | int8 | int16 | int32 | int64 | uint8 | uint16 | uint32 | uint64
  deriving DecidableEq, Repr, Inhabited

/-- The word for the width of a whole number. -/
def IntWidth.label : IntWidth → String
  | int8 => "int8" | int16 => "int16" | int32 => "int32" | int64 => "int64"
  | uint8 => "uint8" | uint16 => "uint16" | uint32 => "uint32" | uint64 => "uint64"

/-- The width of a floating-point number of an array library. -/
inductive FloatWidth where
  | float32 | float64
  deriving DecidableEq, Repr, Inhabited

/-- The word for the width of a floating-point number. -/
def FloatWidth.label : FloatWidth → String
  | float32 => "float32" | float64 => "float64"

/-- The bits behind the word. -/
def FloatWidth.width : FloatWidth → Width
  | float32 => .single | float64 => .double

/-- The classes of the failures by which other libraries refuse a conversion: those that any library
may use, and those that a library has for itself. -/
inductive RefusalClass where
  | value
  | type
  | overflow
  | runtime
  | own (label : String)
  deriving DecidableEq, Repr, Inhabited

/-- A conversion is refused by the library of the value. -/
structure Refusal where
  kind : RefusalClass
  message : String
  deriving DecidableEq, Repr, Inhabited

/-- What the library of a value makes of it where a whole number or a truth value is wanted. A
library may have no conversion to a whole number at all, and a value counts as true unless its
library says otherwise. -/
structure Conversions where
  number : Option (Except Refusal Int) := none
  truth : Except Refusal Bool := .ok true
  deriving Repr, Inhabited

/-- A dynamic value. The sized constructors are the numbers and truth values of an array library,
which are kept apart from the plain ones; `sizes` is a tuple of tensor sizes, and `object` a value
of which only the name of its type is known. Tensors, arrays and objects convert as their library
says. -/
inductive Datum where
  | none
  | bool (b : Bool)
  | int (n : Int)
  | float (x : Floating)
  | text (s : String)
  | bytes (bs : List UInt8)
  | list (xs : List Datum)
  | tuple (xs : List Datum)
  | set (xs : List Datum)
  | dict (entries : List (Datum × Datum))
  | tensor (dims : List Int) (conversions : Conversions := {})
  | parameter (dims : List Int) (conversions : Conversions := {})
  | array (dims : List Int) (conversions : Conversions := {})
  | sizes (dims : List Int)
  | sizedInt (width : IntWidth) (n : Int)
  | sizedFloat (width : FloatWidth) (x : Floating)
  | sizedBool (b : Bool)
  | severity (s : Severity)
  | policy (p : ConstantPolicy)
  | object (type : String) (conversions : Conversions := {})
  deriving Repr, Inhabited

namespace Datum

/-- The word for the kind of a value. -/
def typeName : Datum → String
  | none => "NoneType"
  | bool _ => "bool"
  | int _ => "int"
  | float _ => "float"
  | text _ => "str"
  | bytes _ => "bytes"
  | list _ => "list"
  | tuple _ => "tuple"
  | set _ => "set"
  | dict _ => "dict"
  | tensor _ _ => "Tensor"
  | parameter _ _ => "Parameter"
  | array _ _ => "ndarray"
  | sizes _ => "Size"
  | sizedInt width _ => width.label
  | sizedFloat width _ => width.label
  | sizedBool _ => "bool"
  | severity _ => "LogLevel"
  | policy _ => "UnknownConstantPolicy"
  | object type _ => type

/-- The conversions of a value of another library. -/
def conversions? : Datum → Option Conversions
  | tensor _ c | parameter _ c | array _ c | object _ c => some c
  | _ => Option.none

/-- The number that a plain number or truth value stands for when mapping keys are compared. -/
def keyNumber? : Datum → Option Int
  | bool b => some (if b then 1 else 0)
  | int n => some n
  | float (.finite negative significand exponent) =>
    if exponent < 0 && significand % Nat.pow 2 (-exponent).toNat != 0 then Option.none
    else some (Floating.truncate negative significand exponent)
  | _ => Option.none

/-- Whether two mapping keys are one: equal texts, or numbers of one value, whatever their kind. -/
def sameKey (x y : Datum) : Bool :=
  match x, y with
  | none, none => true
  | text s, text t => s == t
  | bytes bs, bytes cs => bs == cs
  | float a, float b => a == b && a != .nan || (keyNumber? x).isSome && keyNumber? x == keyNumber? y
  | _, _ => (keyNumber? x).isSome && keyNumber? x == keyNumber? y

/-- Sets a key of a mapping: a key that is there keeps its place, a new one goes to the end. -/
def setKey (key value : Datum) : List (Datum × Datum) → List (Datum × Datum)
  | [] => [(key, value)]
  | (k, v) :: rest => if sameKey k key then (k, value) :: rest else (k, v) :: setKey key value rest

/-- The mapping that pairs give: the last pair of a key decides. -/
def dictOf (pairs : List (Datum × Datum)) : Datum :=
  dict (pairs.foldl (fun entries pair => setKey pair.1 pair.2 entries) [])

/-- The value under a text in a mapping. -/
def lookupText (key : String) : List (Datum × Datum) → Option Datum
  | [] => Option.none
  | (text k, v) :: rest => if k == key then some v else lookupText key rest
  | _ :: rest => lookupText key rest

end Datum

end ShapeFlow
