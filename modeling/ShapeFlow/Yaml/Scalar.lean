import ShapeFlow.Yaml.Cursor

/-!
# Scalars as written

A scalar is written plainly, between quotation marks, or as a block of lines. Each form has its own
way to fold lines: a single line break counts as a blank, and of several the first is dropped. The
scanners here read one scalar from its first character on and give its text and the place behind it
(`scanPlain`, `scanQuoted`, `scanBlock`). `none` means that the document is malformed.
-/

set_option autoImplicit false

namespace ShapeFlow.Yaml

/-- A text that was read, and the place behind it. -/
abbrev Scanned := List Char × Cursor

/-! ## Plain scalars -/

/-- Whether a plain scalar ends at a character; inside brackets more characters end it. -/
def endsPlain (inFlow : Bool) (c following : Char) : Bool :=
  let closes := inFlow && [',', '[', ']', '\x7b', '\x7d'].contains following
  isSpace c ||
  (c == ':' && (isSpace following || closes)) ||
  (inFlow && [',', '?', '[', ']', '\x7b', '\x7d'].contains c)

/-- The count of characters up to the end of a plain scalar's word. -/
def plainLength (inFlow : Bool) : List Char → Nat
  | [] => 0
  | c :: rest => if endsPlain inFlow c (rest.headD endMark) then 0 else plainLength inFlow rest + 1

/-- Line breaks and blanks behind a first line break, up to a document separator; `none` if there is
one. -/
def plainBreaks : Nat → Cursor → List Char → Option (List Char × Cursor)
  | 0, c, breaks => some (breaks, c)
  | fuel + 1, c, breaks =>
    if c.peek == ' ' then plainBreaks fuel c.next breaks
    else if isBreak c.peek then
      let (br, c) := c.lineBreak
      if c.atSeparator then none else plainBreaks fuel c (breaks ++ br)
    else some (breaks, c)

/-- What stands between two words of a plain scalar: the text it counts as, the place behind it, and
whether a line ended. No text means that the scalar ends. -/
def plainSpaces (c : Cursor) : List Char × Cursor × Bool :=
  let (blanks, c) := c.span (· == ' ')
  if isBreak c.peek then
    let (br, c) := c.lineBreak
    if c.atSeparator then ([], c, true)
    else
      match plainBreaks (c.rest.length + 1) c [] with
      | none => ([], c, true)
      | some (breaks, c) =>
        -- one line feed counts as a blank, and of several the first is dropped
        let lead := if br != ['\n'] then br else if breaks.isEmpty then [' '] else []
        (lead ++ breaks, c, true)
  else (blanks, c, false)

/-- The words of a plain scalar from the cursor on; `spaces` is what stands before the next one. The
last part of the result says whether a line ended behind the last word. -/
def plainWords (inFlow : Bool) (indent : Int) :
    Nat → Cursor → List Char → List Char → Bool → List Char × Cursor × Bool
  | 0, c, _, text, ended => (text, c, ended)
  | fuel + 1, c, spaces, text, ended =>
    if c.peek == '#' then (text, c, ended)
    else
      let length := plainLength inFlow c.rest
      if length = 0 then (text, c, ended)
      else
        let text := text ++ spaces ++ c.rest.take length
        let (spaces, c, ended) := plainSpaces (c.skip length)
        if spaces.isEmpty || c.peek == '#' || (!inFlow && (c.column : Int) < indent) then
          (text, c, ended)
        else plainWords inFlow indent fuel c spaces text ended

/-- A plain scalar, and whether a line ended behind it. -/
def scanPlain (inFlow : Bool) (indent : Int) (c : Cursor) : List Char × Cursor × Bool :=
  plainWords inFlow indent (c.rest.length + 1) c [] [] false

/-! ## Quoted scalars -/

/-- The characters that single letters stand for behind a backslash. -/
def escapes : List (Char × Char) :=
  [('0', '\x00'), ('a', '\x07'), ('b', '\x08'), ('t', '\t'), ('\t', '\t'), ('n', '\n'),
   ('v', '\x0b'), ('f', '\x0c'), ('r', '\r'), ('e', '\x1b'), (' ', ' '), ('\x22', '\x22'),
   ('\\', '\\'), ('/', '/'), ('N', '\u0085'), ('_', '\u00a0'), ('L', '\u2028'), ('P', '\u2029')]

/-- The count of hexadecimal digits behind a letter for a numbered character. -/
def numberedEscapes : List (Char × Nat) := [('x', 2), ('u', 4), ('U', 8)]

/-- The value of a hexadecimal digit. -/
def hexValue? (c : Char) : Option Nat :=
  if '0' ≤ c && c ≤ '9' then some (c.toNat - 48)
  else if 'a' ≤ c && c ≤ 'f' then some (c.toNat - 87)
  else if 'A' ≤ c && c ≤ 'F' then some (c.toNat - 55)
  else none

/-- The number that hexadecimal digits write. -/
def hexNumber? (cs : List Char) : Option Nat :=
  cs.foldl (fun n c => do return 16 * (← n) + (← hexValue? c)) (some 0)

/-- Line breaks and blanks inside of a quoted scalar. -/
def quotedBreaks : Nat → Cursor → List Char → Option Scanned
  | 0, _, _ => none
  | fuel + 1, c, breaks =>
    if c.atSeparator then none
    else
      let (_, c) := c.span fun ch => ch == ' ' || ch == '\t'
      if isBreak c.peek then
        let (br, c) := c.lineBreak
        quotedBreaks fuel c (breaks ++ br)
      else some (breaks, c)

/-- What stands between two words of a quoted scalar. -/
def quotedSpaces (c : Cursor) : Option Scanned :=
  let (blanks, c) := c.span fun ch => ch == ' ' || ch == '\t'
  if c.peek == endMark then none
  else if isBreak c.peek then do
    let (br, c) := c.lineBreak
    let (breaks, c) ← quotedBreaks (c.rest.length + 1) c []
    let lead := if br != ['\n'] then br else if breaks.isEmpty then [' '] else []
    return (lead ++ breaks, c)
  else some (blanks, c)

/-- What a backslash and the characters behind it stand for. -/
def quotedEscape (c : Cursor) : Option Scanned :=
  match escapes.lookup c.peek with
  | some ch => if c.peek == endMark then none else some ([ch], c.next)
  | none =>
    match numberedEscapes.lookup c.peek with
    | some count => do
      let digits := c.next.rest.take count
      if digits.length < count then none
      else
        let n ← hexNumber? digits
        if n.isValidChar then return ([Char.ofNat n], c.next.skip count) else none
    | none =>
      if isBreak c.peek then
        let (_, c) := c.lineBreak
        quotedBreaks (c.rest.length + 1) c []
      else none

/-- The characters of a quoted scalar up to a blank, a line break, the end or the closing mark. -/
def quotedWord (double : Bool) : Nat → Cursor → List Char → Option Scanned
  | 0, _, _ => none
  | fuel + 1, c, text =>
    let ch := c.peek
    if isSpace ch then some (text, c)
    else if ch == '\x27' then
      if double then quotedWord double fuel c.next (text ++ [ch])
      else if c.peekAt 1 == '\x27' then quotedWord double fuel (c.skip 2) (text ++ [ch])
      else some (text, c)
    else if ch == '\x22' then
      if double then some (text, c) else quotedWord double fuel c.next (text ++ [ch])
    else if ch == '\\' && double then do
      let (escaped, c) ← quotedEscape c.next
      quotedWord double fuel c (text ++ escaped)
    else quotedWord double fuel c.next (text ++ [ch])

/-- The rest of a quoted scalar behind a word. -/
def quotedRest (double : Bool) : Nat → Cursor → List Char → Option Scanned
  | 0, _, _ => none
  | fuel + 1, c, text =>
    if c.peek == (if double then '\x22' else '\x27') then some (text, c.next)
    else do
      let (spaces, c) ← quotedSpaces c
      let (text, c) ← quotedWord double (c.rest.length + 1) c (text ++ spaces)
      quotedRest double fuel c text

/-- A quoted scalar from its opening mark on. -/
def scanQuoted (double : Bool) (c : Cursor) : Option Scanned := do
  let (text, c) ← quotedWord double (c.rest.length + 1) c.next []
  quotedRest double (c.rest.length + 1) c text

/-! ## Block scalars -/

/-- What becomes of the line breaks at the end of a block. -/
inductive Chomping where
  | clip
  | strip
  | keep
  deriving DecidableEq

/-- The marks behind the first one of a block: how to treat its end, and how deep it is indented. -/
def blockMarks (c : Cursor) : Option (Chomping × Option Nat × Cursor) :=
  let chomping? (ch : Char) : Option Chomping :=
    if ch == '+' then some .keep else if ch == '-' then some .strip else none
  let depth? (ch : Char) : Option Nat := if ch.isDigit then some (ch.toNat - 48) else none
  let (chomping, depth, c) :=
    match chomping? c.peek with
    | some chomping =>
      match depth? c.next.peek with
      | some d => (chomping, some d, c.skip 2)
      | none => (chomping, none, c.next)
    | none =>
      match depth? c.peek with
      | some d =>
        match chomping? c.next.peek with
        | some chomping => (chomping, some d, c.skip 2)
        | none => (.clip, some d, c.next)
      | none => (.clip, none, c)
  if depth == some 0 || !(c.peek == ' ' || isBreakOrEnd c.peek) then none
  else some (chomping, depth, c)

/-- Skips the rest of the line behind a block's marks, which may hold a comment. -/
def restOfLine (c : Cursor) : Option Cursor :=
  let (_, c) := c.span (· == ' ')
  let c := if c.peek == '#' then (c.span fun ch => !isBreakOrEnd ch).2 else c
  if isBreakOrEnd c.peek then some c.lineBreak.2 else none

/-- Empty lines at the front of a block, and the greatest indentation seen. -/
def blockIndentation : Nat → Cursor → List Char → Nat → List Char × Nat × Cursor
  | 0, c, breaks, depth => (breaks, depth, c)
  | fuel + 1, c, breaks, depth =>
    if c.peek == ' ' then
      let c := c.next
      blockIndentation fuel c breaks (max depth c.column)
    else if isBreak c.peek then
      let (br, c) := c.lineBreak
      blockIndentation fuel c (breaks ++ br) depth
    else (breaks, depth, c)

/-- Skips blanks up to a column. -/
def toColumn : Nat → Nat → Cursor → Cursor
  | 0, _, c => c
  | fuel + 1, indent, c =>
    if c.column < indent && c.peek == ' ' then toColumn fuel indent c.next else c

/-- Empty lines between two lines of a block. -/
def blockBreaks (indent : Nat) : Nat → Cursor → List Char → Scanned
  | 0, c, breaks => (breaks, c)
  | fuel + 1, c, breaks =>
    let c := toColumn indent indent c
    if isBreak c.peek then
      let (br, c) := c.lineBreak
      blockBreaks indent fuel c (breaks ++ br)
    else (breaks, c)

/-- The lines of a block; `br` is the line break behind the last one and `breaks` the empty lines
after it. -/
def blockLines (folded : Bool) (indent : Nat) :
    Nat → Cursor → List Char → List Char → List Char → List Char × List Char × List Char × Cursor
  | 0, c, text, br, breaks => (text, br, breaks, c)
  | fuel + 1, c, text, br, breaks =>
    if c.column != indent || c.peek == endMark then (text, br, breaks, c)
    else
      let blankStart := c.peek == ' ' || c.peek == '\t'
      let (line, c) := c.span fun ch => !isBreakOrEnd ch
      let text := text ++ breaks ++ line
      let (br, c) := c.lineBreak
      let (breaks, c) := blockBreaks indent (c.rest.length + 1) c []
      if c.column == indent && c.peek != endMark then
        -- two lines are joined unless one of them starts with a blank
        let joins := folded && br == ['\n'] && !blankStart && c.peek != ' ' && c.peek != '\t'
        let text := if joins then (if breaks.isEmpty then text ++ [' '] else text) else text ++ br
        blockLines folded indent fuel c text br breaks
      else (text, br, breaks, c)

/-- A block of lines from its first mark on, inside of an indentation. -/
def scanBlock (folded : Bool) (outer : Int) (c : Cursor) : Option Scanned := do
  let (chomping, depth, c) ← blockMarks c.next
  let c ← restOfLine c
  let least : Nat := max 1 (outer + 1).toNat
  let (indent, breaks, c) : Nat × List Char × Cursor :=
    match depth with
    | none =>
      let (breaks, deepest, c) := blockIndentation (c.rest.length + 1) c [] 0
      (max least deepest, breaks, c)
    | some d =>
      let indent := least + d - 1
      let (breaks, c) := blockBreaks indent (c.rest.length + 1) c []
      (indent, breaks, c)
  let (text, br, breaks, c) := blockLines folded indent (c.rest.length + 1) c [] [] breaks
  let text := if chomping = .strip then text else text ++ br
  let text := if chomping = .keep then text ++ breaks else text
  return (text, c)

end ShapeFlow.Yaml
