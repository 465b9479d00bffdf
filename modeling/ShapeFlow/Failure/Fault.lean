import ShapeFlow.Datum.Display

/-!
# Faults beneath the shape rules

Some failures are no judgement on a graph or a setting but break off the machinery underneath: a
look at a table outside of its range, a value that does not convert to a whole number or a truth
value, a name that nothing defines, arguments that a constructor does not take, a log format without
a field. `Fault` lists them, and `Fault.message` words them.
-/

set_option autoImplicit false

namespace ShapeFlow

/-- The two groups of settings, each made by a constructor of its own. -/
inductive SettingsGroup where
  | engine
  | logging
  deriving DecidableEq, Repr

/-- The constructor of a group of settings. -/
def SettingsGroup.constructor : SettingsGroup → String
  | engine => "EngineConfig"
  | logging => "LoggingConfig"

/-- A failure of the machinery beneath the rules. -/
inductive Fault where
  | indexOutOfRange
  | outputCounts
  | badNumeral (quoted : String)
  | nanToInteger
  | infinityToInteger
  | notNumeric (type : String)
  | refused (refusal : Refusal)
  | undefinedUnique (unique : Int)
  | missingSizes (names : List String)
  | unexpectedSetting (group : SettingsGroup) (key : String)
  | settingsNotMapping (group : SettingsGroup) (type : String)
  | settingNameNotText
  | formatWithoutField (format : String)
  | formatNotText (type : String)
  | formatNotCharacters
  | malformedDocument
  deriving DecidableEq, Repr

namespace Fault

/-- Words joined as in a sentence. -/
def enumerated : List String → String
  | [] => ""
  | [a] => a
  | [a, b] => a ++ " and " ++ b
  | a :: rest => a ++ ", " ++ enumerated rest

/-- The wording of a fault. -/
def message : Fault → String
  | indexOutOfRange => "list index out of range"
  | outputCounts => "output_types/output_names must match num_outputs"
  | badNumeral quoted => "invalid literal for int() with base 10: " ++ quoted
  | nanToInteger => "cannot convert float NaN to integer"
  | infinityToInteger => "cannot convert float infinity to integer"
  | notNumeric type =>
    "int() argument must be a string, a bytes-like object or a real number, not '" ++ type ++ "'"
  | refused refusal => refusal.message
  | undefinedUnique unique => toString unique
  | missingSizes names =>
    "ShapeMismatchError.__init__() missing " ++ toString names.length ++
      " required positional argument" ++ (if names.length = 1 then "" else "s") ++ ": " ++
      enumerated (names.map Text.quoted)
  | unexpectedSetting group key =>
    -- a constructor has the new object under this name already
    let trouble := if key = "self" then "multiple values for" else "an unexpected keyword"
    group.constructor ++ ".__init__() got " ++ trouble ++ " argument '" ++ key ++ "'"
  | settingsNotMapping group type =>
    "jitshape.config." ++ group.constructor ++
      "() argument after ** must be a mapping, not " ++ type
  | settingNameNotText => "keywords must be strings"
  | formatWithoutField format => "Invalid format '" ++ format ++ "' for '%' style"
  | formatNotText type => "expected string or bytes-like object, got '" ++ type ++ "'"
  | formatNotCharacters => "cannot use a string pattern on a bytes-like object"
  | malformedDocument => "malformed document"

end Fault

end ShapeFlow
