import ShapeFlow.Datum.Conversion
import ShapeFlow.Journal.Record
import ShapeFlow.Settings.Basic
import ShapeFlow.Text.Digit
import ShapeFlow.Text.Word

/-!
# Formats of log lines

A line format is a text with fields. A field is a percent sign, a name between round brackets,
flags, a width, a precision and a letter that says how the value is set. `LineFormat.hasField` is
the test that a format must pass before it is put to use; `LineFormat.render` fills the fields of a
record in, and gives no line if a field is unknown or does not suit its letter. A double percent
sign stands for one.
-/

set_option autoImplicit false

namespace ShapeFlow.LineFormat

/-! ## Accepting a format -/

/-- The flags of a field. -/
def isFlag (c : Char) : Bool := ['#', '0', '+', ' ', '-'].contains c

/-- The letters of a field, in either case, with the letters of other scripts that have one of them
as their other case. -/
def isLetter (c : Char) : Bool :=
  ("diouxefgcrsa%DIOUXEFGCRSA".toList ++ ['\u0130', '\u0131', '\u017f']).contains c

/-- Skips a width: a star, or any number of digits. -/
def skipWidth : List Char → List Char
  | '*' :: rest => rest
  | cs => cs.dropWhile fun c => (Text.digitValue? c).isSome

/-- Skips a precision: a point with a star or at least one digit behind it. -/
def skipPrecision : List Char → List Char
  | '.' :: '*' :: rest => rest
  | '.' :: c :: rest =>
    if (Text.digitValue? c).isSome then rest.dropWhile fun d => (Text.digitValue? d).isSome
    else '.' :: c :: rest
  | cs => cs

/-- Whether a text begins, behind a percent sign and a bracket, with the rest of a field. -/
def beginsField (cs : List Char) : Bool :=
  match cs.dropWhile Text.isWord with
  | ')' :: rest =>
    (cs.head?.any Text.isWord) &&
      (skipPrecision (skipWidth (rest.dropWhile isFlag))).head?.any isLetter
  | _ => false

/-- Whether a field begins somewhere in a text. -/
def hasField : List Char → Bool
  | '%' :: '(' :: rest => beginsField rest || hasField rest
  | _ :: rest => hasField rest
  | [] => false

/-- The format of lines that show the message alone. -/
def messageOnly : String := "%(message)s"

/-- The format that a setting gives: what counts as false stands for the message alone, and a text
must have a field. -/
def ofDatum (format : Datum) : Except Fault String := do
  if ← format.truth then
    match format with
    | .text s => if hasField s.toList then return s else throw (.formatWithoutField s)
    | .bytes _ => throw .formatNotCharacters
    | _ => throw (.formatNotText format.typeName)
  else return messageOnly

/-! ## Filling fields in -/

/-- The value of a field: a text or a whole number. -/
inductive Field where
  | text (s : String)
  | number (n : Nat)

/-- The fields of a record by name. All records come from the main thread of the main process. -/
def fieldOf (r : Record) (name : String) : Option Field :=
  if name == "name" then some (.text r.channel)
  else if name == "levelname" then some (.text r.severity.name)
  else if name == "levelno" then some (.number r.severity.rank)
  else if name == "message" || name == "msg" then some (.text r.message)
  else if name == "threadName" then some (.text "MainThread")
  else if name == "processName" then some (.text "MainProcess")
  else none

/-- How a value is set. -/
structure Layout where
  flags : List Char := []
  width : Nat := 0
  precision : Option Nat := none

/-- The digits at the front of a text as a number, and the rest. -/
def takeNumber (cs : List Char) : Nat × List Char :=
  let digits := cs.takeWhile Char.isDigit
  (digits.foldl (fun n c => 10 * n + (c.toNat - 48)) 0, cs.dropWhile Char.isDigit)

/-- Skips a mark of a number's length, which has no effect. -/
def skipLength : List Char → List Char
  | 'h' :: rest | 'l' :: rest | 'L' :: rest => rest
  | cs => cs

/-- Reads flags, width and precision. -/
def readLayout (cs : List Char) : Layout × List Char :=
  let flags := cs.takeWhile isFlag
  let (width, rest) := takeNumber (cs.dropWhile isFlag)
  match rest with
  | '.' :: tail =>
    let (precision, tail) := takeNumber tail
    ({ flags, width, precision := some precision }, skipLength tail)
  | _ => ({ flags, width }, skipLength rest)

/-- Fills a text up to a width, on the left side unless a flag asks for the right one. -/
def fill (layout : Layout) (cs : List Char) : List Char :=
  let padding := List.replicate (layout.width - cs.length) ' '
  if layout.flags.contains '-' then cs ++ padding else padding ++ cs

/-- Sets a text: the precision cuts it. -/
def setText (layout : Layout) (s : String) : List Char :=
  fill layout (match layout.precision with
    | some n => s.toList.take n
    | none => s.toList)

/-- Sets a number: the precision is the least count of digits, and zeros may fill it up to the
width. -/
def setNumber (layout : Layout) (lead : String) (digits : List Char) : List Char :=
  let digits := List.replicate (layout.precision.getD 0 - digits.length) '0' ++ digits
  let sign := if layout.flags.contains '+' then ['+']
    else if layout.flags.contains ' ' then [' '] else []
  let lead := sign ++ (if layout.flags.contains '#' then lead.toList else [])
  -- zeros stand between the sign and the digits, blanks in front of the sign
  if layout.flags.contains '0' && !layout.flags.contains '-' then
    lead ++ List.replicate (layout.width - lead.length - digits.length) '0' ++ digits
  else fill layout (lead ++ digits)

/-- A quoted text in which every character beyond ASCII is escaped. -/
def quotedAscii (s : String) : String :=
  String.ofList ((Text.quoted s).toList.flatMap fun c =>
    if c.toNat < 0x80 then [c] else Text.numericEscape c.toNat)

/-- Sets the value of a field as its letter asks. -/
def setField (layout : Layout) (letter : Char) : Field → Option (List Char)
  | .text s =>
    if letter == 's' then some (setText layout s)
    else if letter == 'r' then some (setText layout (Text.quoted s))
    else if letter == 'a' then some (setText layout (quotedAscii s))
    else none
  | .number n =>
    if letter == 's' || letter == 'r' || letter == 'a' then some (setText layout (toString n))
    else if letter == 'd' || letter == 'i' || letter == 'u' then
      some (setNumber layout "" (Nat.toDigits 10 n))
    else if letter == 'x' then some (setNumber layout "0x" (Nat.toDigits 16 n))
    else if letter == 'X' then
      some (setNumber layout "0X" ((Nat.toDigits 16 n).map Char.toUpper))
    else if letter == 'o' then some (setNumber layout "0o" (Nat.toDigits 8 n))
    else if letter == 'c' then some (fill layout [Char.ofNat n])
    else none

/-- Splits a text behind the bracket that closes a name; brackets in a name come in pairs. -/
def splitName : Nat → List Char → Option (List Char × List Char)
  | _, [] => none
  | depth, ')' :: rest =>
    match depth with
    | 0 => some ([], rest)
    | outer + 1 => (splitName outer rest).map fun split => (')' :: split.1, split.2)
  | depth, '(' :: rest =>
    (splitName (depth + 1) rest).map fun split => ('(' :: split.1, split.2)
  | depth, c :: rest => (splitName depth rest).map fun split => (c :: split.1, split.2)

/-- Fills in the field that a text begins with, behind its percent sign; gives what is set and the
rest. A field without a name has no value. -/
def setNext (r : Record) (cs : List Char) : Option (List Char × List Char) :=
  match cs with
  | '%' :: tail => some (['%'], tail)
  | '(' :: tail => do
    let (name, rest) ← splitName 0 tail
    let (layout, rest) := readLayout rest
    match rest with
    | [] => none
    | letter :: tail => do
      let field ← fieldOf r (String.ofList name)
      let set ← setField layout letter field
      some (set, tail)
  | _ => none

/-- Fills fields in from the front; `fuel` bounds the number of characters that are read. -/
def renderFrom (r : Record) : Nat → List Char → Option (List Char)
  | 0, _ => some []
  | _, [] => some []
  | fuel + 1, '%' :: rest => do
    let (set, tail) ← setNext r rest
    let more ← renderFrom r fuel tail
    some (set ++ more)
  | fuel + 1, c :: rest => do
    let more ← renderFrom r fuel rest
    some (c :: more)

/-- The line of a record, if the format gives one. -/
def render (format : String) (r : Record) : Option String :=
  (renderFrom r (format.length + 1) format.toList).map String.ofList

end ShapeFlow.LineFormat
