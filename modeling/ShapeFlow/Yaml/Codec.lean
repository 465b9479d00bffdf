import ShapeFlow.Settings.Files
import ShapeFlow.Yaml.Document
import ShapeFlow.Yaml.Writer

/-!
# A codec of documents

`Yaml.codec` is one codec that files of settings can have: values are written in block style, and a
text that is malformed has a fault.
-/

set_option autoImplicit false

namespace ShapeFlow.Yaml

/-- The value that a text writes as a document, or the fault that it is none. -/
def readDocument (text : String) : Except Fault Datum :=
  match read? text with
  | some content => .ok content
  | none => .error .malformedDocument

/-- Documents in block style. -/
def codec : DocumentCodec := { write, read := readDocument }

end ShapeFlow.Yaml
