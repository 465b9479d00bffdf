import ShapeFlow.Yaml.Scalar

/-!
# Tokens of a document

A document is cut into tokens before its structure is read (`tokenize`). Indentation becomes tokens
for the start and end of blocks. Whether a node is the key of a mapping is known only at the colon
behind it, so the scanner remembers the place of each node that may be a key (`KeyPlace`) and puts
the key token there afterwards. A key must end on its line and within 1024 characters.
-/

set_option autoImplicit false

namespace ShapeFlow.Yaml

/-- A token. A tag is kept as its handle, if it has one, and the rest of it. -/
inductive Token where
  | directive (words : List Char)
  | documentStart
  | documentEnd
  | blockSequenceStart
  | blockMappingStart
  | blockEnd
  | flowSequenceStart
  | flowSequenceEnd
  | flowMappingStart
  | flowMappingEnd
  | flowEntry
  | blockEntry
  | key
  | value
  | alias (name : String)
  | anchor (name : String)
  | tag (handle : Option String) (suffix : String)
  | scalar (text : String) (plain : Bool)
  deriving DecidableEq, Repr, Inhabited

/-- Where a node starts that may turn out to be a key. -/
structure KeyPlace where
  position : Nat
  required : Bool
  index : Nat
  line : Nat
  column : Nat

/-- The state of the scanner: the tokens so far, the enclosing indentations, and for each level of
brackets, the innermost first, the node that may be a key. -/
structure Scan where
  cursor : Cursor
  tokens : List Token := []
  indent : Int := -1
  outer : List Int := []
  keyAllowed : Bool := true
  keys : List (Option KeyPlace) := [none]

namespace Scan

/-- Whether the place is inside of brackets. -/
def inFlow (s : Scan) : Bool := 1 < s.keys.length

/-- Adds a token. -/
def emit (s : Scan) (t : Token) : Scan := { s with tokens := s.tokens ++ [t] }

/-- Puts tokens in at a position. -/
def emitAt (s : Scan) (position : Nat) (ts : List Token) : Scan :=
  { s with tokens := s.tokens.take position ++ ts ++ s.tokens.drop position }

/-- Moves to the next token: blanks, comments and line breaks are skipped. Outside of brackets a new
line may start with a key. -/
def toNext : Nat → Scan → Scan
  | 0, s => s
  | fuel + 1, s =>
    let c := s.cursor
    let c := if c.index == 0 && c.peek == '\ufeff' then c.next else c
    let (_, c) := c.span (· == ' ')
    let c := if c.peek == '#' then (c.span fun ch => !isBreakOrEnd ch).2 else c
    if isBreak c.peek then
      let (_, c) := c.lineBreak
      toNext fuel { s with cursor := c, keyAllowed := s.keyAllowed || !s.inFlow }
    else { s with cursor := c }

/-- Forgets the nodes that can no longer be keys; a required key that did not come is an error. -/
def dropStale (s : Scan) : Option Scan := do
  let keys ← s.keys.mapM fun
    | some k =>
      if k.line != s.cursor.line || 1024 < s.cursor.index - k.index then
        if k.required then none else some none
      else some (some k)
    | none => some none
  return { s with keys }

/-- Forgets the node of the innermost level. -/
def dropKey (s : Scan) : Option Scan :=
  match s.keys with
  | some k :: outer => if k.required then none else some { s with keys := none :: outer }
  | _ => some s

/-- Remembers the node that starts here, if a key may stand here. -/
def saveKey (s : Scan) : Option Scan :=
  if s.keyAllowed then do
    let s ← s.dropKey
    -- a node at the indentation of the enclosing mapping must be a key of it
    let k : KeyPlace :=
      { position := s.tokens.length
        required := !s.inFlow && s.indent == s.cursor.column
        index := s.cursor.index, line := s.cursor.line, column := s.cursor.column }
    match s.keys with
    | _ :: outer => return { s with keys := some k :: outer }
    | [] => none
  else some s

/-- Ends the blocks that are indented deeper than a column. -/
def unwind (s : Scan) (column : Int) : Scan :=
  if s.inFlow then s
  else
    let deeper := (s.indent :: s.outer).takeWhile (column < ·)
    let left := (s.indent :: s.outer).drop deeper.length
    { s with
      tokens := s.tokens ++ deeper.map fun _ => Token.blockEnd
      indent := left.headD (-1)
      outer := left.tail }

/-- Starts a block at a column, if it is deeper than the enclosing one. -/
def indentTo (s : Scan) (column : Int) : Bool × Scan :=
  if s.indent < column then
    (true, { s with indent := column, outer := s.indent :: s.outer })
  else (false, s)

/-- Moves over a token of fixed length and adds it. -/
def take (s : Scan) (length : Nat) (t : Token) : Scan :=
  { s.emit t with cursor := s.cursor.skip length }

/-! ## The kinds of tokens -/

/-- A separator of documents. -/
def separator (s : Scan) (t : Token) : Option Scan := do
  let s ← (s.unwind (-1)).dropKey
  return { s.take 3 t with keyAllowed := false }

/-- A directive, up to the end of its line. -/
def directive (s : Scan) : Option Scan := do
  let s ← (s.unwind (-1)).dropKey
  let (words, c) := s.cursor.next.span fun ch => !isBreakOrEnd ch
  return { s.emit (.directive words) with cursor := c, keyAllowed := false }

/-- An opening bracket. -/
def openFlow (s : Scan) (t : Token) : Option Scan := do
  let s ← s.saveKey
  return { s.take 1 t with keyAllowed := true, keys := none :: s.keys }

/-- A closing bracket. -/
def closeFlow (s : Scan) (t : Token) : Option Scan := do
  let s ← s.dropKey
  if s.inFlow then return { s.take 1 t with keyAllowed := false, keys := s.keys.tail } else none

/-- A comma between brackets. -/
def flowEntry (s : Scan) : Option Scan := do
  let s ← { s with keyAllowed := true }.dropKey
  return s.take 1 .flowEntry

/-- A dash in front of an item. -/
def blockEntry (s : Scan) : Option Scan := do
  let s ←
    if s.inFlow then some s
    else if s.keyAllowed then
      let (deeper, s) := s.indentTo s.cursor.column
      some (if deeper then s.emit .blockSequenceStart else s)
    else none
  let s ← { s with keyAllowed := true }.dropKey
  return s.take 1 .blockEntry

/-- Starts a block mapping at a column outside of brackets, where a key may stand. -/
def startMapping (s : Scan) : Option Scan :=
  if s.inFlow then some s
  else if s.keyAllowed then
    let (deeper, s) := s.indentTo s.cursor.column
    some (if deeper then s.emit .blockMappingStart else s)
  else none

/-- A question mark in front of a key. -/
def explicitKey (s : Scan) : Option Scan := do
  let s ← s.startMapping
  let s ← { s with keyAllowed := !s.inFlow }.dropKey
  return s.take 1 .key

/-- A colon in front of a value: the node before it becomes a key, if it may be one. -/
def valueMark (s : Scan) : Option Scan :=
  match s.keys with
  | some k :: outer =>
    let s := { s with keys := none :: outer }
    -- the first key of a block mapping is what starts the mapping
    let (deeper, s) := if s.inFlow then (false, s) else s.indentTo k.column
    let s := s.emitAt k.position (if deeper then [.blockMappingStart, .key] else [.key])
    some { s.take 1 .value with keyAllowed := false }
  | _ => do
    let s ← s.startMapping
    let s ← { s with keyAllowed := !s.inFlow }.dropKey
    return s.take 1 .value

/-- Whether a character may stand in the name of an anchor. -/
def isNameChar (c : Char) : Bool := c.isAlphanum || c == '-' || c == '_'

/-- An anchor or an alias: a mark and a name. -/
def named (s : Scan) (make : String → Token) : Option Scan := do
  let s ← s.saveKey
  let (name, c) := s.cursor.next.span isNameChar
  let ends := isSpace c.peek || ['?', ':', ',', ']', '\x7d', '%', '@', '\x60'].contains c.peek
  if name.isEmpty || !ends then none
  else return { s.emit (make (String.ofList name)) with cursor := c, keyAllowed := false }

/-- Whether a character may stand in a tag. -/
def isTagChar (c : Char) : Bool :=
  c.isAlphanum || "-;/?:@&=+$,_.!~*'()[]%".toList.contains c

/-- A tag: in angle brackets, a lone mark, behind a handle, or behind a mark alone. -/
def tagAt (c : Cursor) : Option (Option String × String × Cursor) :=
  if c.peekAt 1 == '<' then
    let (uri, c) := (c.skip 2).span isTagChar
    if uri.isEmpty || c.peek != '>' then none
    else some (none, String.ofList uri, c.next)
  else if isSpace (c.peekAt 1) then some (none, "!", c.next)
  else
    let word := c.next.rest.takeWhile fun ch => !(ch == ' ' || isBreakOrEnd ch)
    let (name, behind) := c.next.span isNameChar
    let hasName := word.contains '!'
    let (handle, c) : List Char × Cursor :=
      if hasName then ('!' :: name ++ ['!'], behind.next) else (['!'], c.next)
    let (uri, c) := c.span isTagChar
    if uri.isEmpty || (hasName && behind.peek != '!') then none
    else some (some (String.ofList handle), String.ofList uri, c)

/-- A tag in front of a node. -/
def tag (s : Scan) : Option Scan := do
  let s ← s.saveKey
  let (handle, suffix, c) ← tagAt s.cursor
  if c.peek == ' ' || isBreakOrEnd c.peek then
    return { s.emit (.tag handle suffix) with cursor := c, keyAllowed := false }
  else none

/-- A block of lines. -/
def block (s : Scan) (folded : Bool) : Option Scan := do
  let s ← { s with keyAllowed := true }.dropKey
  let (text, c) ← scanBlock folded s.indent s.cursor
  return { s.emit (.scalar (String.ofList text) false) with cursor := c }

/-- A scalar between quotation marks. -/
def quoted (s : Scan) (double : Bool) : Option Scan := do
  let s ← s.saveKey
  let (text, c) ← scanQuoted double s.cursor
  return { s.emit (.scalar (String.ofList text) false) with cursor := c, keyAllowed := false }

/-- A plain scalar; a line that ends behind it may be followed by a key. -/
def plain (s : Scan) : Option Scan := do
  let s ← s.saveKey
  let (text, c, ended) := scanPlain s.inFlow (s.indent + 1) s.cursor
  return { s.emit (.scalar (String.ofList text) true) with cursor := c, keyAllowed := ended }

/-- Whether a plain scalar may start with the character at the cursor. -/
def startsPlain (s : Scan) : Bool :=
  let c := s.cursor
  let ch := c.peek
  let reserved := "-?:,[]\x7b\x7d#&*!|>'\x22%@\x60".toList
  !(isSpace ch || reserved.contains ch) ||
    (!isSpace (c.peekAt 1) && (ch == '-' || (!s.inFlow && (ch == '?' || ch == ':'))))

/-- The next token, which is not the end. -/
def nextToken (s : Scan) : Option Scan :=
  let c := s.cursor
  let ch := c.peek
  let spaced := isSpace (c.peekAt 1)
  if ch == '%' && c.column == 0 then s.directive
  else if c.column == 0 && ch == '-' && c.atSeparator then s.separator .documentStart
  else if c.column == 0 && ch == '.' && c.atSeparator then s.separator .documentEnd
  else if ch == '[' then s.openFlow .flowSequenceStart
  else if ch == '\x7b' then s.openFlow .flowMappingStart
  else if ch == ']' then s.closeFlow .flowSequenceEnd
  else if ch == '\x7d' then s.closeFlow .flowMappingEnd
  else if ch == ',' then s.flowEntry
  else if ch == '-' && spaced then s.blockEntry
  else if ch == '?' && (s.inFlow || spaced) then s.explicitKey
  else if ch == ':' && (s.inFlow || spaced) then s.valueMark
  else if ch == '*' then s.named .alias
  else if ch == '&' then s.named .anchor
  else if ch == '!' then s.tag
  else if ch == '|' && !s.inFlow then s.block false
  else if ch == '>' && !s.inFlow then s.block true
  else if ch == '\x27' then s.quoted false
  else if ch == '\x22' then s.quoted true
  else if s.startsPlain then s.plain
  else none

/-- Scans tokens up to the end of the text. -/
def toEnd : Nat → Scan → Option Scan
  | 0, _ => none
  | fuel + 1, s => do
    let s ← (s.toNext (s.cursor.rest.length + 1)).dropStale
    let s := s.unwind s.cursor.column
    if s.cursor.rest.isEmpty then (s.unwind (-1)).dropKey
    else
      let s ← s.nextToken
      toEnd fuel s

end Scan

/-- The tokens of a document, if it can be cut into tokens. -/
def tokenize (text : String) : Option (List Token) :=
  if text.toList.all isAllowed then
    (Scan.toEnd (text.length + 2) { cursor := { rest := text.toList } }).map Scan.tokens
  else none

end ShapeFlow.Yaml
