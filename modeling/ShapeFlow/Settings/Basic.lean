import ShapeFlow.Session

/-!
# Settings

There are three settings of the pass and two of the log (`Settings`). Each is given as a dynamic
value and must be parsed: a flag is a truth value or one of two words, a choice is a member or the
word of one (`readFlag`, `readChoice`); letters may be small or capital. A group of settings is made
from arguments by name (`PassSettings.ofArguments`, `LogSettings.ofArguments`): an unknown name is a
fault, whatever the others are, and a name that is not given leaves the default.
-/

set_option autoImplicit false

namespace ShapeFlow

/-- What can be wrong with settings. -/
inductive SettingIssue where
  | badFlag (raw : Datum) (setting : String)
  | badChoice (raw : Datum) (setting : String) (allowed : List String)
  | missingFile (path : String)
  | notMapping (path : String)
  | unknownKey (fault : Fault)

namespace SettingIssue

/-- The wording of a cause. -/
def message : SettingIssue → String
  | badFlag raw setting =>
    "Invalid value " ++ raw.source ++ " for " ++ setting ++ "; expected true or false"
  | badChoice raw setting allowed =>
    "Invalid value " ++ raw.source ++ " for " ++ setting ++ "; expected one of: " ++
      commaSeparated allowed
  | missingFile path => "Config file not found: " ++ path
  | notMapping path => "Config file " ++ path ++ " must contain a mapping"
  | unknownKey fault => "Unknown configuration key: " ++ fault.message

/-- The details of a cause. -/
def context : SettingIssue → Context
  | badFlag _ setting => [("setting", .text setting)]
  | badChoice _ setting _ => [("setting", .text setting)]
  | missingFile path => [("path", .text path)]
  | notMapping path => [("path", .text path)]
  | unknownKey _ => []

/-- The failure of a cause. -/
def failure (i : SettingIssue) : Failure :=
  .report (Report.of .configuration i.message i.context)

end SettingIssue

/-- How a log shows records. The format is only looked at when it is put to use. -/
structure LogSettings where
  level : Severity := .warning
  format : Datum := .text "%(asctime)s - %(name)s - %(levelname)s - %(message)s"

/-- All settings, and the file they were read from. -/
structure Settings where
  engine : PassSettings := {}
  logging : LogSettings := {}
  file : Option String := none

/-! ## Parsing one setting -/

/-- A text in small letters. -/
def lower (s : String) : String := String.ofList (s.toList.map Char.toLower)

/-- A flag: a truth value, or the word for one. -/
def readFlag (setting : String) (raw : Datum) : Except Failure Bool :=
  match raw with
  | .bool b => .ok b
  | .text s =>
    if lower s == "true" then .ok true
    else if lower s == "false" then .ok false
    else .error (SettingIssue.badFlag raw setting).failure
  | _ => .error (SettingIssue.badFlag raw setting).failure

/-- The member of a choice that a value is, or that a text names. -/
def choiceOf? {α : Type} (member? : Datum → Option α) (ofLabel? : String → Option α) :
    Datum → Option α
  | .text s => ofLabel? (lower s)
  | raw => member? raw

/-- A choice: a member, or the word of one. -/
def readChoice {α : Type} (member? : Datum → Option α) (ofLabel? : String → Option α)
    (labels : List String) (setting : String) (raw : Datum) : Except Failure α :=
  match choiceOf? member? ofLabel? raw with
  | some a => .ok a
  | none => .error (SettingIssue.badChoice raw setting labels).failure

/-- The treatment of constants without a rule that a value is. -/
def Datum.policy? : Datum → Option ConstantPolicy
  | .policy p => some p
  | _ => Option.none

/-- The severity that a value is. -/
def Datum.severity? : Datum → Option Severity
  | .severity s => some s
  | _ => Option.none

/-- The treatment of constants without a rule. -/
def readPolicy (setting : String) (raw : Datum) : Except Failure ConstantPolicy :=
  readChoice Datum.policy? ConstantPolicy.ofLabel? (ConstantPolicy.all.map ConstantPolicy.label)
    setting raw

/-- The least severity that a log shows. -/
def readSeverity (setting : String) (raw : Datum) : Except Failure Severity :=
  readChoice Datum.severity? Severity.ofLabel? (Severity.all.map Severity.label) setting raw

/-- A setting that is given is parsed; one that is not has its default. -/
def given {α : Type} (arguments : Context) (name : String) (default : α)
    (parse : Datum → Except Failure α) : Except Failure α :=
  match arguments.lookup name with
  | some raw => parse raw
  | none => .ok default

/-! ## Making a group -/

/-- The names of a group's settings. -/
def SettingsGroup.names : SettingsGroup → List String
  | .engine => ["verify_topological_order", "unknown_constant_policy", "log_shape_map"]
  | .logging => ["level", "format"]

/-- Refuses the first argument that no setting of the group has as its name. -/
def SettingsGroup.check (group : SettingsGroup) (arguments : Context) : Except Fault Unit :=
  match arguments.find? fun a => !group.names.contains a.1 with
  | some (name, _) => .error (.unexpectedSetting group name)
  | none => .ok ()

/-- The settings of the pass from arguments by name. -/
def PassSettings.ofArguments (arguments : Context) : Except Failure PassSettings := do
  faulted (SettingsGroup.engine.check arguments)
  let verifyOrder ← given arguments "verify_topological_order" false
    (readFlag "verify_topological_order")
  let logShapeMap ← given arguments "log_shape_map" false (readFlag "log_shape_map")
  let unknownConstants ← given arguments "unknown_constant_policy" .refuse
    (readPolicy "unknown_constant_policy")
  return { verifyOrder, unknownConstants, logShapeMap }

/-- The settings of the log from arguments by name. -/
def LogSettings.ofArguments (arguments : Context) : Except Failure LogSettings := do
  faulted (SettingsGroup.logging.check arguments)
  let level ← given arguments "level" .warning (readSeverity "logging.level")
  let format := (arguments.lookup "format").getD ({} : LogSettings).format
  return { level, format }

/-- All settings from arguments by name. -/
def Settings.ofArguments (engine logging : Context) : Except Failure Settings := do
  let engine ← PassSettings.ofArguments engine
  let logging ← LogSettings.ofArguments logging
  return { engine, logging }

/-! ## Writing settings -/

/-- The settings as a document, in their fixed order. -/
def Settings.document (s : Settings) : Datum :=
  .dict
    [(.text "engine", .dict
      [(.text "verify_topological_order", .bool s.engine.verifyOrder),
       (.text "unknown_constant_policy", .text s.engine.unknownConstants.label),
       (.text "log_shape_map", .bool s.engine.logShapeMap)]),
     (.text "logging", .dict
      [(.text "level", .text s.logging.level.label),
       (.text "format", s.logging.format)])]

end ShapeFlow
