import ShapeFlow.Text.Digit

/-!
# Whole numbers written as text

A numeral is an optional sign and decimal digits of any script, with single underscores allowed
between digits and blanks around the whole (`Numeral.read?`). Nothing else may stand in it:
`readTail` takes an underscore only together with the digit behind it, so a doubled, leading or
trailing one is refused.
-/

set_option autoImplicit false

namespace ShapeFlow.Numeral

open ShapeFlow.Text

/-- The text without the blanks at both of its ends. -/
def trim (cs : List Char) : List Char :=
  ((cs.dropWhile isBlank).reverse.dropWhile isBlank).reverse

/-- Reads on to the end after digits that gave `value`. -/
def readTail (value : Nat) : List Char → Option Nat
  | [] => some value
  | '_' :: c :: rest => (digitValue? c).bind fun d => readTail (10 * value + d) rest
  | c :: rest => (digitValue? c).bind fun d => readTail (10 * value + d) rest

/-- The magnitude: at least one digit, and a digit first. -/
def readMagnitude? : List Char → Option Nat
  | [] => none
  | c :: rest => (digitValue? c).bind fun d => readTail d rest

/-- The number that a text writes, if it writes one. -/
def read? (cs : List Char) : Option Int :=
  match trim cs with
  | '-' :: rest => (readMagnitude? rest).map fun n => -(n : Int)
  | '+' :: rest => (readMagnitude? rest).map Int.ofNat
  | rest => (readMagnitude? rest).map Int.ofNat

/-- The number that a byte string writes; only ASCII counts in one. -/
def ofBytes? (bs : List UInt8) : Option Int :=
  if bs.all (· < 0x80) then read? (bs.map fun b => Char.ofNat b.toNat) else none

example : read? " -1_000\n".toList = some (-1000) := by decide
example : read? "1__0".toList = none := by decide
example : read? "_1".toList = none := by decide
example : read? "1_".toList = none := by decide
example : read? "+ 5".toList = none := by decide
example : read? "٣٤".toList = some 34 := by decide

end ShapeFlow.Numeral
