import ShapeFlow.Yaml.Cursor
import ShapeFlow.Yaml.Resolve
import ShapeFlow.Datum.Display

/-!
# Writing documents

A value is written as a document in block style (`write`). A text is written plainly if it reads
back as that text, else between apostrophes, else between double marks with escapes for everything
beyond printable ASCII (`styleOf`). A scalar that runs past the line width is folded at a blank
(`writePlain`, `writeSingle`, `writeDouble`), so the writers keep count of columns.
-/

set_option autoImplicit false

namespace ShapeFlow.Yaml

/-! ## The style of a text -/

/-- How a text is written. -/
inductive Style where
  | plain
  | single
  | double
  deriving DecidableEq, Repr

/-- Characters that a plain scalar may not start with. -/
def isIndicator (c : Char) : Bool := "#,[]\x7b\x7d&*!|>'\x22%@\x60".toList.contains c

/-- Whether the text begins with three marks that separate documents. -/
def startsLikeSeparator (cs : List Char) : Bool :=
  cs.take 3 == ['-', '-', '-'] || cs.take 3 == ['.', '.', '.']

/-- Whether a character at the start keeps a text from being plain. -/
def badStart (cs : List Char) : Bool :=
  match cs with
  | [] => false
  | c :: rest =>
    isIndicator c || ((c == '?' || c == ':' || c == '-') && isSpace (rest.headD endMark))

/-- Whether a colon before a blank or a number sign behind one keeps a text from being plain. -/
def badInside : Char → List Char → Bool
  | _, [] => false
  | before, c :: rest =>
    (c == ':' && isSpace (rest.headD endMark)) || (c == '#' && isSpace before) || badInside c rest

/-- Whether a character needs an escape. -/
def needsEscape (c : Char) : Bool := !(c == '\n' || (' ' ≤ c && c ≤ '~'))

/-- Whether a blank and a line break stand side by side, in the given order. -/
def adjoins (a b : Char) : List Char → Bool
  | x :: y :: rest => (x == a && y == b) || adjoins a b (y :: rest)
  | _ => false

/-- Whether a text could be written plainly as far as its characters go. -/
def plainAllowed (cs : List Char) : Bool :=
  let ends := [cs.head?, cs.getLast?]
  !(ends.contains (some ' ') || ends.contains (some '\n') || cs.contains '\n' ||
    cs.any needsEscape || startsLikeSeparator cs || badStart cs ||
    (match cs with
      | [] => false
      | c :: rest => badInside c rest))

/-- Whether a text can be written between apostrophes. -/
def singleAllowed (cs : List Char) : Bool :=
  !(cs.any needsEscape || adjoins ' ' '\n' cs || adjoins '\n' ' ' cs)

/-- The style of a text. A key must stay on one line. -/
def styleOf (key : Bool) (s : String) : Style :=
  let cs := s.toList
  if plainAllowed cs && Kind.ofPlain s == .text then .plain
  else if singleAllowed cs && !(key && cs.contains '\n') then .single
  else .double

/-! ## Writing a text -/

/-- The greatest column that a line is meant to reach. -/
def lineWidth : Nat := 80

/-- A new line with its indentation. -/
def newLine (indent : Nat) : List Char := '\n' :: List.replicate indent ' '

/-- The kind of a run of equal characters. -/
inductive RunKind where
  | blanks
  | breaks
  | word
  deriving DecidableEq

/-- The kind of the run that a character belongs to. -/
def RunKind.of (c : Char) : RunKind :=
  if c == ' ' then blanks else if c == '\n' then breaks else word

/-- The runs of a text. -/
def runs : List Char → List (RunKind × List Char)
  | [] => []
  | c :: rest =>
    match runs rest with
    | (kind, cs) :: more =>
      if kind = RunKind.of c then (kind, c :: cs) :: more
      else (RunKind.of c, [c]) :: (kind, cs) :: more
    | [] => [(RunKind.of c, [c])]

/-- Writes the runs of a plain scalar from a column on. -/
def writePlainRuns (split : Bool) (indent : Nat) : Nat → List (RunKind × List Char) → List Char
  | _, [] => []
  | column, (kind, cs) :: rest =>
    if kind = .blanks && cs.length == 1 && lineWidth < column && split then
      newLine indent ++ writePlainRuns split indent indent rest
    else cs ++ writePlainRuns split indent (column + cs.length) rest

/-- A plain scalar. -/
def writePlain (split : Bool) (indent column : Nat) (cs : List Char) : List Char :=
  writePlainRuns split indent column (runs cs)

/-- A word between apostrophes: an apostrophe is doubled. -/
def doubleMarks (cs : List Char) : List Char :=
  cs.flatMap fun c => if c == '\x27' then ['\x27', '\x27'] else [c]

/-- Writes the runs of a scalar between apostrophes; `first` says whether a run is the first one. -/
def writeSingleRuns (split : Bool) (indent : Nat) :
    Bool → Nat → List (RunKind × List Char) → List Char
  | _, _, [] => []
  | first, column, (kind, cs) :: rest =>
    match kind with
    | .blanks =>
      if cs.length == 1 && lineWidth < column && split && !first && !rest.isEmpty then
        newLine indent ++ writeSingleRuns split indent false indent rest
      else cs ++ writeSingleRuns split indent false (column + cs.length) rest
    | .breaks =>
      '\n' :: cs ++ List.replicate indent ' ' ++ writeSingleRuns split indent false indent rest
    | .word =>
      let written := doubleMarks cs
      written ++ writeSingleRuns split indent false (column + written.length) rest

/-- A scalar between apostrophes. -/
def writeSingle (split : Bool) (indent column : Nat) (cs : List Char) : List Char :=
  '\x27' :: writeSingleRuns split indent true (column + 1) (runs cs) ++ ['\x27']

/-- The letters that stand for characters behind a backslash. -/
def shortEscapes : List (Char × Char) :=
  [('\x00', '0'), ('\x07', 'a'), ('\x08', 'b'), ('\t', 't'), ('\n', 'n'), ('\x0b', 'v'),
   ('\x0c', 'f'), ('\r', 'r'), ('\x1b', 'e'), ('\x22', '\x22'), ('\\', '\\'), ('\u0085', 'N'),
   ('\u00a0', '_'), ('\u2028', 'L'), ('\u2029', 'P')]

/-- A number in upper-case hexadecimal digits, filled up with zeros to the width. -/
def upperHex (width n : Nat) : List Char := (Text.hexadecimal width n).map Char.toUpper

/-- How a character stands between double marks, if it needs an escape there. -/
def doubleEscape? (c : Char) : Option (List Char) :=
  if ' ' ≤ c && c ≤ '~' && c != '\x22' && c != '\\' then none
  else
    match shortEscapes.lookup c with
    | some letter => some ['\\', letter]
    | none =>
      let n := c.toNat
      if n ≤ 0xff then some ('\\' :: 'x' :: upperHex 2 n)
      else if n ≤ 0xffff then some ('\\' :: 'u' :: upperHex 4 n)
      else some ('\\' :: 'U' :: upperHex 8 n)

/-- Writes a scalar between double marks from character number `index` of `total` on. `pending` is
the word that was read but not yet written, last character first, and `column` the column in front
of it. A line may end in front of a blank, or behind an escape, once it has passed the line width;
the backslash that ends it takes the line break back, and a blank that starts the next line needs
one of its own. -/
def writeDoubleFrom (split : Bool) (indent total : Nat) :
    Nat → Nat → List Char → List Char → List Char
  | _, _, pending, [] => pending.reverse
  | index, column, pending, c :: rest =>
    match doubleEscape? c with
    | some escaped =>
      -- what is pending goes out together with the escape, and the line may end behind both
      let column := column + pending.length + escaped.length
      let written := pending.reverse ++ escaped
      if 0 < index && index + 1 < total && lineWidth + 1 < column && split then
        let lead := if rest.head? == some ' ' then ['\\'] else []
        written ++ '\\' :: newLine indent ++ lead ++
          writeDoubleFrom split indent total (index + 1) (indent + lead.length) [] rest
      else written ++ writeDoubleFrom split indent total (index + 1) column [] rest
    | none =>
      -- the line ends in front of this character, which then starts the next one
      let mayEnd := 0 < index && index + 1 < total && (c == ' ' || pending.isEmpty)
      if mayEnd && lineWidth < column + pending.length && split then
        let lead := if c == ' ' then ['\\'] else []
        pending.reverse ++ '\\' :: newLine indent ++ lead ++
          writeDoubleFrom split indent total (index + 1) (indent + lead.length) [c] rest
      else writeDoubleFrom split indent total (index + 1) column (c :: pending) rest

/-- A scalar between double marks. -/
def writeDouble (split : Bool) (indent column : Nat) (cs : List Char) : List Char :=
  '\x22' :: writeDoubleFrom split indent cs.length 0 (column + 1) [] cs ++ ['\x22']

/-- A text as a scalar that starts at a column; lines that it is folded into are indented. -/
def writeText (key : Bool) (indent column : Nat) (s : String) : List Char :=
  match styleOf key s with
  | .plain => writePlain (!key) indent column s.toList
  | .single => writeSingle (!key) indent column s.toList
  | .double => writeDouble (!key) indent column s.toList

/-! ## Writing a value -/

/-- A floating-point number; a number with an exponent keeps a point. -/
def floatText (x : Floating) : String :=
  match x with
  | .nan => ".nan"
  | .infinite negative => if negative then "-.inf" else ".inf"
  | _ =>
    let cs := (x.text .double).toList
    if cs.contains 'e' && !cs.contains '.' then
      String.ofList (cs.takeWhile (· != 'e') ++ ".0".toList ++ cs.dropWhile (· != 'e'))
    else String.ofList cs

/-- A value that is written on the line it starts on, from a column on. -/
def writeScalar (key : Bool) (indent column : Nat) : Datum → List Char
  | .none => "null".toList
  | .bool b => (if b then "true" else "false").toList
  | .int n => (toString n).toList
  | .float x => (floatText x).toList
  | .text s => writeText key indent column s
  | x => writeText key indent column x.source

/-- The tag in front of a collection that is no plain list. -/
def collectionTag : Datum → List Char
  | .tuple _ => "!!python/tuple".toList
  | .severity _ => "!!python/object/apply:jitshape.config.LogLevel".toList
  | .policy _ => "!!python/object/apply:jitshape.core.types.UnknownConstantPolicy".toList
  | _ => []

mutual

/-- What follows the colon of an entry at an indentation; `column` is the column behind the colon.
-/
def writeEntryValue (indent column : Nat) : Datum → List Char
  | .dict [] => " \x7b\x7d".toList
  | .list [] => " []".toList
  | .tuple [] => " ".toList ++ collectionTag (.tuple []) ++ " []".toList
  | .dict (e :: es) => newLine (indent + 2) ++ writeEntries (indent + 2) (e :: es)
  | .list (x :: xs) => newLine indent ++ writeItems indent (x :: xs)
  | .tuple (x :: xs) =>
    ' ' :: collectionTag (.tuple []) ++ newLine indent ++ writeItems indent (x :: xs)
  | .severity s =>
    ' ' :: collectionTag (.severity s) ++ newLine indent ++ '-' :: ' ' ::
      writeText false (indent + 2) (indent + 2) s.label
  | .policy p =>
    ' ' :: collectionTag (.policy p) ++ newLine indent ++ '-' :: ' ' ::
      writeText false (indent + 2) (indent + 2) p.label
  | x => ' ' :: writeScalar false (indent + 2) (column + 1) x

/-- An item or a whole document, which starts at its indentation. -/
def writeItem (indent : Nat) : Datum → List Char
  | .dict [] => "\x7b\x7d".toList
  | .list [] => "[]".toList
  | .tuple [] => collectionTag (.tuple []) ++ " []".toList
  | .dict (e :: es) => writeEntries indent (e :: es)
  | .list (x :: xs) => writeItems indent (x :: xs)
  | .tuple (x :: xs) => collectionTag (.tuple []) ++ newLine indent ++ writeItems indent (x :: xs)
  | x => writeScalar false indent indent x

/-- The entries of a mapping, one to a line. -/
def writeEntries (indent : Nat) : List (Datum × Datum) → List Char
  | [] => []
  | [(key, value)] =>
    let name := writeScalar true indent indent key ++ [':']
    name ++ writeEntryValue indent (indent + name.length) value
  | (key, value) :: rest =>
    let name := writeScalar true indent indent key ++ [':']
    name ++ writeEntryValue indent (indent + name.length) value ++ newLine indent ++
      writeEntries indent rest

/-- The items of a list, one to a line. -/
def writeItems (indent : Nat) : List Datum → List Char
  | [] => []
  | [x] => '-' :: ' ' :: writeItem (indent + 2) x
  | x :: rest => '-' :: ' ' :: writeItem (indent + 2) x ++ newLine indent ++ writeItems indent rest

end

/-- The document of a value. -/
def write (x : Datum) : String := String.ofList (writeItem 0 x ++ ['\n'])

end ShapeFlow.Yaml
