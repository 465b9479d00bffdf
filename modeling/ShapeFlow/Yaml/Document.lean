import ShapeFlow.Yaml.Node
import ShapeFlow.Yaml.Resolve
import ShapeFlow.Datum

/-!
# Reading documents

A document is read into a dynamic value (`read?`). The tag of a node, or for a plain scalar its
spelling, decides what the node becomes. Keys of a mapping must be scalars; a repeated key keeps its
first place and its last value, and the entries of a merged mapping come before the others. A text
without a document gives nothing. `none` means that the document is malformed.
-/

set_option autoImplicit false

namespace ShapeFlow.Yaml

/-- A standard tag. -/
def standard (name : String) : String := "tag:yaml.org,2002:" ++ name

/-- A plain scalar of a kind. -/
def scalarOfKind (text : String) : Kind → Option Datum
  | .nothing => some .none
  | .flag => some (.bool (trueWords.contains text))
  | .whole => (wholeNumber? text.toList).map .int
  | .floating => (floating? text.toList).map .float
  | .date => some (.object "date")
  | .merge | .default => none
  | .text => some (.text text)

/-- A scalar under a standard tag: the spelling must suit the tag. -/
def taggedScalar (tag text : String) : Option Datum :=
  if tag == standard "str" then some (.text text)
  else if tag == standard "null" then some .none
  else if tag == standard "bool" then
    let word := text.toList.map Char.toLower
    if trueWords.any fun w => w.toList == word then some (.bool true)
    else if falseWords.any fun w => w.toList == word then some (.bool false)
    else none
  else if tag == standard "int" then (wholeNumber? text.toList).map .int
  else if tag == standard "float" then
    match floating? text.toList with
    | some x => some (.float x)
    | none => (wholeNumber? text.toList).map fun n =>
        .float (Floating.ofRatio .double (n < 0) n.natAbs 1)
  else none

/-- The value of a scalar. A lone exclamation mark as tag leaves the decision to the spelling. -/
def scalarValue (tag : Option String) (text : String) (plain : Bool) : Option Datum :=
  match tag with
  | none => if plain then scalarOfKind text (Kind.ofPlain text) else some (.text text)
  | some "!" => scalarOfKind text (Kind.ofPlain text)
  | some tag => taggedScalar tag text

/-- Whether a collection's tag allows its kind. -/
def tagAllows (name : String) : Option String → Bool
  | none | some "!" => true
  | some tag => tag == standard name

/-- Whether a key asks for a mapping to be merged in. -/
def isMergeKey : Node → Bool
  | .scalar none text true | .scalar (some "!") text _ => text == "<<"
  | .scalar (some tag) _ _ => tag == standard "merge"
  | _ => false

/-- Whether a value may be a key: collections that can change may not. -/
def isKey : Datum → Bool
  | .list _ | .dict _ | .set _ => false
  | _ => true

mutual

/-- The value of a node. -/
def valueOf : Node → Option Datum
  | .scalar tag text plain => scalarValue tag text plain
  | .sequence tag items => do
    let xs ← valuesOf items
    if tagAllows "seq" tag then return .list xs else none
  | .mapping tag entries => do
    let (merged, own) ← entriesOf entries
    if tagAllows "map" tag then return Datum.dictOf (merged ++ own) else none

/-- The values of nodes. -/
def valuesOf : List Node → Option (List Datum)
  | [] => some []
  | node :: rest => do
    let x ← valueOf node
    let xs ← valuesOf rest
    return x :: xs

/-- The entries of a mapping: those that are merged in, and its own. -/
def entriesOf : List (Node × Node) → Option (List (Datum × Datum) × List (Datum × Datum))
  | [] => some ([], [])
  | (key, value) :: rest => do
    let x ← valueOf value
    let (merged, own) ← entriesOf rest
    if isMergeKey key then
      match x with
      | .dict entries => return (entries ++ merged, own)
      | .list xs =>
        -- the last of several mappings comes first, so that the first one decides
        let entries ← xs.reverse.mapM fun
          | .dict entries => some entries
          | _ => none
        return (entries.flatten ++ merged, own)
      | _ => none
    else
      let k ← match key with
        | .scalar none "=" true => some (.text "=")
        | _ => valueOf key
      if isKey k then return (merged, (k, x) :: own) else none

end

/-- The value that a text writes as a document. -/
def read? (text : String) : Option Datum := do
  let tokens ← tokenize text
  match ← document? tokens with
  | some node => valueOf node
  | none => return .none

end ShapeFlow.Yaml
