import ShapeFlow.Datum.Conversion
import ShapeFlow.Settings.Environment

/-!
# Loading settings

Settings are read from a document, if there is one, and the environment is put over them
(`Settings.load`). An empty document gives the defaults; any other must be a mapping, in which the
sections of the pass and of the log are read (`Settings.ofDocument`). `Loaded` is what is found at a
path. The global settings (`GlobalSettings`) are loaded when they are first asked for and then kept
until they are set or reset.
-/

set_option autoImplicit false

namespace ShapeFlow

/-- What a path leads to: no path was given, no file is there, or a file holds a document. -/
inductive Loaded where
  | absent
  | missing (path : String)
  | document (path : String) (content : Datum)

/-- The arguments that a section gives to its group: its entries, all of which must have a text as
their key. -/
def SettingsGroup.arguments (group : SettingsGroup) (sectionData : Datum) : Except Fault Context :=
  match sectionData with
  | .dict entries =>
    match entries.mapM fun
      | (Datum.text key, value) => some (key, value)
      | _ => none with
    | some arguments => .ok arguments
    | none => .error .settingNameNotText
  | _ => .error (.settingsNotMapping group sectionData.typeName)

/-- A section of a mapping; one that is absent or counts as false is an empty mapping. -/
def sectionIn (entries : List (Datum × Datum)) (name : String) : Except Fault Datum :=
  match Datum.lookupText name entries with
  | some d => do
    if ← d.truth then return d else return .dict []
  | none => .ok (.dict [])

/-- A fault while a group is made means that the document has a key too many. -/
def asUnknownKey {α : Type} : Except Failure α → Except Failure α
  | .error (.fault f) => .error (SettingIssue.unknownKey f).failure
  | r => r

namespace Settings

/-- The settings that a mapping gives. -/
def ofEntries (entries : List (Datum × Datum)) : Except Failure Settings := do
  let engineSection ← faulted (sectionIn entries "engine")
  let loggingSection ← faulted (sectionIn entries "logging")
  asUnknownKey do
    let engineArguments ← faulted (SettingsGroup.engine.arguments engineSection)
    let engine ← PassSettings.ofArguments engineArguments
    let loggingArguments ← faulted (SettingsGroup.logging.arguments loggingSection)
    let logging ← LogSettings.ofArguments loggingArguments
    return { engine, logging }

/-- The settings that the document of a file gives. -/
def ofDocument (path : String) (content : Datum) : Except Failure Settings := do
  if ← faulted content.truth then
    match content with
    | .dict entries =>
      let s ← ofEntries entries
      return { s with file := some path }
    | _ => .error (SettingIssue.notMapping path).failure
  else return { file := some path }

/-- The settings that a file gives, or the defaults without one. -/
def base : Loaded → Except Failure Settings
  | .absent => .ok {}
  | .missing path => .error (SettingIssue.missingFile path).failure
  | .document path content => ofDocument path content

/-- The settings of a file with the environment put over them. -/
def load (env : Environment) (found : Loaded) : Except Failure Settings := do
  let s ← base found
  env.override s

end Settings

/-- The global settings: unset, or what was last set or loaded. -/
structure GlobalSettings where
  current : Option Settings := none

namespace GlobalSettings

/-- Sets the global settings, or resets them. -/
def set (_ : GlobalSettings) (s : Option Settings) : GlobalSettings := ⟨s⟩

/-- The global settings; they are loaded if they are unset, and stay unset if that fails. -/
def get (g : GlobalSettings) (env : Environment) : Except Failure Settings × GlobalSettings :=
  match g.current with
  | some s => (.ok s, g)
  | none =>
    match Settings.load env .absent with
    | .ok s => (.ok s, ⟨some s⟩)
    | .error f => (.error f, g)

end GlobalSettings

/-- A session with settings of its own, or with the global ones. -/
def Session.start (graph : Graph) (inputs : List Datum) (own : Option PassSettings)
    (g : GlobalSettings) (env : Environment) : Except Failure Session × GlobalSettings :=
  match own with
  | some settings => (.ok (.new graph inputs settings), g)
  | none =>
    match g.get env with
    | (.ok s, g) => (.ok (.new graph inputs s.engine), g)
    | (.error f, g) => (.error f, g)

end ShapeFlow
