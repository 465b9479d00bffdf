/-!
# Reading positions

A cursor is a place in a document: the text from there on, with the count of characters before it,
its line and its column (`Cursor`). Four kinds of line break end a line, and behind the end of the
text a cursor shows the null character, which no document holds (`isAllowed`).
-/

set_option autoImplicit false

namespace ShapeFlow.Yaml

/-- Whether a character may stand in a document. -/
def isAllowed (c : Char) : Bool :=
  let n := c.toNat
  n == 0x9 || n == 0xa || n == 0xd || (0x20 ≤ n && n ≤ 0x7e) || n == 0x85 ||
    (0xa0 ≤ n && n ≤ 0xd7ff) || (0xe000 ≤ n && n ≤ 0xfffd) || 0x10000 ≤ n

/-- The character that stands for the end of a text. -/
def endMark : Char := '\x00'

/-- The characters that end a line. -/
def isBreak (c : Char) : Bool := ['\r', '\n', '\u0085', '\u2028', '\u2029'].contains c

/-- Line breaks and the end. -/
def isBreakOrEnd (c : Char) : Bool := c == endMark || isBreak c

/-- Blanks, line breaks and the end. -/
def isSpace (c : Char) : Bool := c == ' ' || c == '\t' || isBreakOrEnd c

/-- A place in a document. -/
structure Cursor where
  rest : List Char
  index : Nat := 0
  line : Nat := 0
  column : Nat := 0

namespace Cursor

/-- The character some places ahead. -/
def peekAt (c : Cursor) (n : Nat) : Char := (c.rest.drop n).headD endMark

/-- The character at the cursor. -/
def peek (c : Cursor) : Char := c.rest.headD endMark

/-- Moves over one character. -/
def next (c : Cursor) : Cursor :=
  match c.rest with
  | [] => c
  | ch :: rest =>
    let newLine := ch == '\n' || ch == '\u0085' || ch == '\u2028' || ch == '\u2029' ||
      (ch == '\r' && rest.headD endMark != '\n')
    if newLine then { rest, index := c.index + 1, line := c.line + 1, column := 0 }
    else if ch == '\ufeff' then { c with rest, index := c.index + 1 }
    else { c with rest, index := c.index + 1, column := c.column + 1 }

/-- Moves over a number of characters. -/
def skip (c : Cursor) : Nat → Cursor
  | 0 => c
  | n + 1 => c.next.skip n

/-- The characters up to the first that does not satisfy a test, and the place behind them. -/
def span (c : Cursor) (p : Char → Bool) : List Char × Cursor :=
  let taken := c.rest.takeWhile p
  (taken, c.skip taken.length)

/-- A line break as it counts in a text, and the place behind it; nothing if there is none. -/
def lineBreak (c : Cursor) : List Char × Cursor :=
  match c.rest with
  | '\r' :: '\n' :: _ => (['\n'], c.skip 2)
  | ch :: _ =>
    if ch == '\r' || ch == '\n' || ch == '\u0085' then (['\n'], c.next)
    else if isBreak ch then ([ch], c.next)
    else ([], c)
  | [] => ([], c)

/-- Whether a line of three equal marks starts or ends a document here. -/
def atSeparator (c : Cursor) : Bool :=
  let front := c.rest.take 3
  (front == ['-', '-', '-'] || front == ['.', '.', '.']) && isSpace (c.peekAt 3)

end Cursor

end ShapeFlow.Yaml
