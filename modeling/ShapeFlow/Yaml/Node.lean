import ShapeFlow.Yaml.Token

/-!
# Nodes of a document

The tokens of a document spell out one tree of scalars, sequences and mappings (`Node`), which
`Node.parse?` reads. A node may be named by an anchor and repeated by an alias, and it may carry a
tag. Where a node is left out an empty plain scalar stands in (`Node.empty`). A text without a
document gives no node, and more than one document is malformed (`document?`).
-/

set_option autoImplicit false

namespace ShapeFlow.Yaml

/-- A node of a document. -/
inductive Node where
  | scalar (tag : Option String) (text : String) (plain : Bool)
  | sequence (tag : Option String) (items : List Node)
  | mapping (tag : Option String) (entries : List (Node × Node))
  deriving Inhabited

namespace Node

/-- The node that stands in for one left out. -/
def empty : Node := scalar none "" true

/-- The nodes that anchors name. -/
abbrev Anchors := List (String × Node)

/-- A node that was read, the tokens behind it and the anchors so far. -/
abbrev Parsed (α : Type) := α × List Token × Anchors

/-- The whole tag of a node. -/
def fullTag? : Option String → String → Option String
  | none, suffix => some suffix
  | some "!!", suffix => some ("tag:yaml.org,2002:" ++ suffix)
  | some "!", suffix => some ("!" ++ suffix)
  | some _, _ => none

/-- The anchor and the tag in front of a node, in either order. -/
def properties (ts : List Token) : Option (Option String × Option String × List Token) :=
  match ts with
  | .anchor name :: .tag handle suffix :: rest => do
    let tag ← fullTag? handle suffix
    return (some name, some tag, rest)
  | .tag handle suffix :: .anchor name :: rest => do
    let tag ← fullTag? handle suffix
    return (some name, some tag, rest)
  | .anchor name :: rest => some (some name, none, rest)
  | .tag handle suffix :: rest => do
    let tag ← fullTag? handle suffix
    return (none, some tag, rest)
  | rest => some (none, none, rest)

/-- Names a node; a name is given once. -/
def define (anchors : Anchors) (anchor : Option String) (node : Node) : Option Anchors :=
  match anchor with
  | none => some anchors
  | some name => if (anchors.lookup name).isSome then none else some ((name, node) :: anchors)

/-- Whether the next token is one of some kinds. -/
def nextIs (p : Token → Bool) (ts : List Token) : Bool := ts.head?.any p

/-- Where the content of an item or a mapping's part is left out inside of a block. -/
def blockGap (t : Token) : Bool :=
  t == .blockEntry || t == .key || t == .value || t == .blockEnd

/-- The tokens behind the comma that every part between brackets but the first one needs. -/
def afterComma (first : Bool) (ts : List Token) : Option (List Token) :=
  if first then some ts
  else
    match ts with
    | .flowEntry :: rest => some rest
    | _ => none

mutual

/-- A node. `block` says whether blocks may start here, and `bare` whether a sequence may stand
without an indentation of its own. -/
def parse (block bare : Bool) : Nat → List Token → Anchors → Option (Parsed Node)
  | 0, _, _ => none
  | fuel + 1, ts, anchors =>
    match ts with
    | .alias name :: rest => do
      let node ← anchors.lookup name
      return (node, rest, anchors)
    | _ => do
      let (anchor, tag, ts) ← properties ts
      let (node, ts, anchors) ← content block bare fuel tag (anchor.isSome || tag.isSome) ts anchors
      let anchors ← define anchors anchor node
      return (node, ts, anchors)

/-- What a node holds, behind its anchor and tag. -/
def content (block bare : Bool) :
    Nat → Option String → Bool → List Token → Anchors → Option (Parsed Node)
  | 0, _, _, _, _ => none
  | fuel + 1, tag, marked, ts, anchors =>
    match ts with
    | .scalar text plain :: rest => some (scalar tag text plain, rest, anchors)
    | .flowSequenceStart :: rest => do
      let (items, ts, anchors) ← flowItems true fuel rest anchors
      return (sequence tag items, ts, anchors)
    | .flowMappingStart :: rest => do
      let (entries, ts, anchors) ← flowEntries true fuel rest anchors
      return (mapping tag entries, ts, anchors)
    | .blockEntry :: _ =>
      if bare then do
        let (items, ts, anchors) ← bareItems fuel ts anchors
        return (sequence tag items, ts, anchors)
      else if marked then some (scalar tag "" true, ts, anchors)
      else none
    | .blockSequenceStart :: rest =>
      if block then do
        let (items, ts, anchors) ← blockItems fuel rest anchors
        return (sequence tag items, ts, anchors)
      else if marked then some (scalar tag "" true, ts, anchors)
      else none
    | .blockMappingStart :: rest =>
      if block then do
        let (entries, ts, anchors) ← blockEntries fuel rest anchors
        return (mapping tag entries, ts, anchors)
      else if marked then some (scalar tag "" true, ts, anchors)
      else none
    | _ => if marked then some (scalar tag "" true, ts, anchors) else none

/-- A node, or the empty one if a token shows that it was left out. -/
def optional (block bare : Bool) (gap : Token → Bool) :
    Nat → List Token → Anchors → Option (Parsed Node)
  | 0, _, _ => none
  | fuel + 1, ts, anchors =>
    if nextIs gap ts then some (empty, ts, anchors) else parse block bare fuel ts anchors

/-- The value of an entry, which may be left out with or without its mark. -/
def entryValue (block : Bool) (gap : Token → Bool) :
    Nat → List Token → Anchors → Option (Parsed Node)
  | 0, _, _ => none
  | fuel + 1, ts, anchors =>
    match ts with
    | .value :: rest => optional block block gap fuel rest anchors
    | _ => some (empty, ts, anchors)

/-- The items of a block sequence. -/
def blockItems : Nat → List Token → Anchors → Option (Parsed (List Node))
  | 0, _, _ => none
  | fuel + 1, ts, anchors =>
    match ts with
    | .blockEntry :: rest => do
      let (item, ts, anchors) ← optional true false
        (fun t => t == .blockEntry || t == .blockEnd) fuel rest anchors
      let (items, ts, anchors) ← blockItems fuel ts anchors
      return (item :: items, ts, anchors)
    | .blockEnd :: rest => some ([], rest, anchors)
    | _ => none

/-- The items of a sequence without an indentation of its own. -/
def bareItems : Nat → List Token → Anchors → Option (Parsed (List Node))
  | 0, _, _ => none
  | fuel + 1, ts, anchors =>
    match ts with
    | .blockEntry :: rest => do
      let (item, ts, anchors) ← optional true false blockGap fuel rest anchors
      let (items, ts, anchors) ← bareItems fuel ts anchors
      return (item :: items, ts, anchors)
    | _ => some ([], ts, anchors)

/-- The entries of a block mapping. -/
def blockEntries : Nat → List Token → Anchors → Option (Parsed (List (Node × Node)))
  | 0, _, _ => none
  | fuel + 1, ts, anchors =>
    let gap (t : Token) : Bool := t == .key || t == .value || t == .blockEnd
    match ts with
    | .key :: rest => do
      let (key, ts, anchors) ← optional true true gap fuel rest anchors
      let (value, ts, anchors) ← entryValue true gap fuel ts anchors
      let (entries, ts, anchors) ← blockEntries fuel ts anchors
      return ((key, value) :: entries, ts, anchors)
    | .blockEnd :: rest => some ([], rest, anchors)
    | _ => none

/-- The items of a sequence between brackets. -/
def flowItems (first : Bool) : Nat → List Token → Anchors → Option (Parsed (List Node))
  | 0, _, _ => none
  | fuel + 1, ts, anchors =>
    match ts with
    | .flowSequenceEnd :: rest => some ([], rest, anchors)
    | _ => do
      let ts ← afterComma first ts
      match ts with
      | .flowSequenceEnd :: rest => some ([], rest, anchors)
      | .key :: rest => do
        let (key, ts, anchors) ← optional false false
          (fun t => t == .value || t == .flowEntry || t == .flowSequenceEnd) fuel rest anchors
        let (value, ts, anchors) ← entryValue false
          (fun t => t == .flowEntry || t == .flowSequenceEnd) fuel ts anchors
        let (items, ts, anchors) ← flowItems false fuel ts anchors
        return (mapping none [(key, value)] :: items, ts, anchors)
      | _ => do
        let (item, ts, anchors) ← parse false false fuel ts anchors
        let (items, ts, anchors) ← flowItems false fuel ts anchors
        return (item :: items, ts, anchors)

/-- The entries of a mapping between brackets. -/
def flowEntries (first : Bool) : Nat → List Token → Anchors → Option (Parsed (List (Node × Node)))
  | 0, _, _ => none
  | fuel + 1, ts, anchors =>
    match ts with
    | .flowMappingEnd :: rest => some ([], rest, anchors)
    | _ => do
      let ts ← afterComma first ts
      match ts with
      | .flowMappingEnd :: rest => some ([], rest, anchors)
      | .key :: rest => do
        let (key, ts, anchors) ← optional false false
          (fun t => t == .value || t == .flowEntry || t == .flowMappingEnd) fuel rest anchors
        let (value, ts, anchors) ← entryValue false
          (fun t => t == .flowEntry || t == .flowMappingEnd) fuel ts anchors
        let (entries, ts, anchors) ← flowEntries false fuel ts anchors
        return ((key, value) :: entries, ts, anchors)
      | _ => do
        let (key, ts, anchors) ← parse false false fuel ts anchors
        let (entries, ts, anchors) ← flowEntries false fuel ts anchors
        return ((key, empty) :: entries, ts, anchors)

end

/-- A node with enough fuel for its tokens. -/
def parse? (ts : List Token) : Option (Node × List Token) := do
  let (node, rest, _) ← parse true false (3 * ts.length + 3) ts []
  return (node, rest)

end Node

/-- Whether a directive can be followed: a version must be of the first line of versions. -/
def directiveAllowed (words : List Char) : Bool :=
  let name := words.takeWhile (· != ' ')
  if name == "YAML".toList then
    ((words.drop name.length).dropWhile (· == ' ')).take 2 == ['1', '.']
  else true

/-- Skips directives; gives whether there were any. -/
def skipDirectives : List Token → Option (Bool × List Token)
  | .directive words :: rest =>
    if directiveAllowed words then (skipDirectives rest).map fun r => (true, r.2) else none
  | ts => some (false, ts)

/-- Whether nothing but ends of documents is left. -/
def isFinished (ts : List Token) : Bool := ts.all (· == .documentEnd)

/-- The content of a document behind the mark that starts it. -/
def startedDocument (ts : List Token) : Option (Option Node) :=
  match ts with
  | [] | .documentEnd :: _ | .documentStart :: _ | .directive _ :: _ =>
    if isFinished ts then some (some .empty) else none
  | _ => do
    let (node, rest) ← Node.parse? ts
    if isFinished rest then return some node else none

/-- The one document of a text, if there is any. -/
def document? (ts : List Token) : Option (Option Node) :=
  match ts with
  | [] => some none
  | .documentStart :: rest => startedDocument rest
  | .directive _ :: _ => do
    match ← skipDirectives ts with
    | (_, .documentStart :: rest) => startedDocument rest
    | _ => none
  | _ => do
    let (node, rest) ← Node.parse? ts
    if isFinished rest then return some node else none

end ShapeFlow.Yaml
