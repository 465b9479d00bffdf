import ShapeFlow.Datum
import ShapeFlow.Text.Quoted
import ShapeFlow.Number.Shortest

/-!
# Dynamic values as text

Messages show a value in one of two ways. `Datum.source` shows it so that its kind can be seen:
texts are quoted, collections bracketed. `Datum.plain` shows the value alone: a text is shown as it
is, and everything else mostly as by `source`. The lists inside messages have their own small
printers, `intList` and `intTuple`.
-/

set_option autoImplicit false

namespace ShapeFlow

/-- Texts with a comma and a blank between them. -/
def commaSeparated (parts : List String) : String := ", ".intercalate parts

/-- A list of numbers between square brackets. -/
def intList (ns : List Int) : String := "[" ++ commaSeparated (ns.map toString) ++ "]"

/-- The parts of a tuple between round brackets; a tuple of one part keeps a comma behind it. -/
def tupleText : List String → String
  | [part] => "(" ++ part ++ ",)"
  | parts => "(" ++ commaSeparated parts ++ ")"

/-- A tuple of numbers. -/
def intTuple (ns : List Int) : String := tupleText (ns.map toString)

namespace Datum

/-- The word for a truth value. -/
def boolText (b : Bool) : String := if b then "True" else "False"

mutual

/-- A value with its kind in sight. -/
def source : Datum → String
  | none => "None"
  | bool b => boolText b
  | int n => toString n
  | float x => x.text .double
  | text s => Text.quoted s
  | bytes bs => Text.quotedBytes bs
  | list xs => "[" ++ commaSeparated (sources xs) ++ "]"
  | tuple xs => tupleText (sources xs)
  | set [] => "set()"
  | set (x :: xs) => "\x7b" ++ commaSeparated (source x :: sources xs) ++ "\x7d"
  | dict entries => "\x7b" ++ commaSeparated (entrySources entries) ++ "\x7d"
  | tensor dims _ => "tensor" ++ intTuple dims
  | parameter dims _ => "parameter" ++ intTuple dims
  | array dims _ => "array" ++ intTuple dims
  | sizes dims => "torch.Size(" ++ intList dims ++ ")"
  | sizedInt width n => "np." ++ width.label ++ "(" ++ toString n ++ ")"
  | sizedFloat width x => "np." ++ width.label ++ "(" ++ x.text width.width ++ ")"
  | sizedBool b => "np." ++ boolText b ++ "_"
  | severity s => "<LogLevel." ++ s.name ++ ": " ++ Text.quoted s.label ++ ">"
  | policy p => "<UnknownConstantPolicy." ++ p.label.toUpper ++ ": " ++ Text.quoted p.label ++ ">"
  | object type _ => "<" ++ type ++ " object>"

/-- The parts of a collection. -/
def sources : List Datum → List String
  | [] => []
  | x :: xs => source x :: sources xs

/-- The entries of a mapping. -/
def entrySources : List (Datum × Datum) → List String
  | [] => []
  | (key, value) :: rest => (source key ++ ": " ++ source value) :: entrySources rest

end

/-- A value alone. -/
def plain : Datum → String
  | text s => s
  | sizedInt _ n => toString n
  | sizedFloat width x => x.text width.width
  | sizedBool b => boolText b
  | severity s => "LogLevel." ++ s.name
  | policy p => "UnknownConstantPolicy." ++ p.label.toUpper
  | value => value.source

end Datum

end ShapeFlow
