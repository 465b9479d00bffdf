import ShapeFlow.Text.Printable

/-!
# Quoted texts

Messages show a text between quotation marks so that its end and its blanks can be seen. The mark is
the apostrophe, unless the text has an apostrophe and no double mark (`markFor`); the mark and the
backslash are escaped, and so is every character that is not printable (`escape`). Byte strings are
written alike, one byte at a time, behind a leading `b`.
-/

set_option autoImplicit false

namespace ShapeFlow.Text

/-- A number in lower-case hexadecimal digits, filled up with zeros to the width. -/
def hexadecimal (width n : Nat) : List Char :=
  let digits := Nat.toDigits 16 n
  List.replicate (width - digits.length) '0' ++ digits

/-- The quotation mark for a text: the apostrophe if it does not force an escape that the double
mark would spare. -/
def markFor (cs : List Char) : Char :=
  if cs.contains '\x27' && !cs.contains '\x22' then '\x22' else '\x27'

/-- A character by its number, in the shortest of the three numeric forms. -/
def numericEscape (n : Nat) : List Char :=
  if n < 0x100 then '\\' :: 'x' :: hexadecimal 2 n
  else if n < 0x10000 then '\\' :: 'u' :: hexadecimal 4 n
  else '\\' :: 'U' :: hexadecimal 8 n

/-- How a character stands between two marks. -/
def escape (mark c : Char) : List Char :=
  if c == mark || c == '\\' then ['\\', c]
  else if c == '\n' then ['\\', 'n']
  else if c == '\r' then ['\\', 'r']
  else if c == '\t' then ['\\', 't']
  else if isPrintable c then [c]
  else numericEscape c.toNat

/-- A text between quotation marks. -/
def quoted (s : String) : String :=
  let cs := s.toList
  let mark := markFor cs
  String.ofList (mark :: cs.flatMap (escape mark) ++ [mark])

/-- The character a byte is shown as when it needs no escape; beyond ASCII every byte needs one. -/
def byteCharacter (b : UInt8) : Char := Char.ofNat b.toNat

/-- How a byte stands between two marks. -/
def escapeByte (mark : Char) (b : UInt8) : List Char :=
  if 0x7f ≤ b.toNat then numericEscape b.toNat else escape mark (byteCharacter b)

/-- A byte string between quotation marks. -/
def quotedBytes (bs : List UInt8) : String :=
  let mark := markFor (bs.map byteCharacter)
  String.ofList ('b' :: mark :: bs.flatMap (escapeByte mark) ++ [mark])

end ShapeFlow.Text
