import ShapeFlow.Settings.Load

/-!
# Settings in files

Files hold documents as text (`Files`). A codec says how a value is written as a document and which
value a document is read as (`DocumentCodec`); the settings know nothing else of it. `Files.find`
reads the document at a path, and `Settings.text` is the document that a file of settings holds.
-/

set_option autoImplicit false

namespace ShapeFlow

/-- How values are written as documents, and how documents are read; a text that is no document has
a fault. -/
structure DocumentCodec where
  write : Datum → String
  read : String → Except Fault Datum

/-- The texts of files by path. -/
abbrev Files := List (String × String)

namespace Files

/-- Writes a file, in place of one that is there. -/
def write (files : Files) (path text : String) : Files :=
  (path, text) :: files.filter (·.1 != path)

/-- What a path leads to; an empty path counts as none. -/
def find (files : Files) (codec : DocumentCodec) (path : Option String) :
    Except Failure Loaded :=
  match path with
  | none => .ok .absent
  | some path =>
    if path.isEmpty then .ok .absent
    else
      match files.lookup path with
      | none => .ok (.missing path)
      | some text => do
        let content ← faulted (codec.read text)
        return .document path content

end Files

namespace Settings

/-- The document that a file of these settings holds. -/
def text (s : Settings) (codec : DocumentCodec) : String := codec.write s.document

/-- The settings of the file at a path with the environment put over them. -/
def loadFile (files : Files) (codec : DocumentCodec) (env : Environment)
    (path : Option String) : Except Failure Settings := do
  let found ← files.find codec path
  load env found

end Settings

end ShapeFlow
