import ShapeFlow.Journal.LineFormat
import ShapeFlow.Settings.Load

/-!
# The log

The log shows the records of the library's channels from a level on and writes each to its handlers,
one line format for each (`Target`). `Target.configure` puts settings into force: the level first,
then a handler if there is none, then the format of each handler. A format that is refused is
noticed only at the last step.
-/

set_option autoImplicit false

namespace ShapeFlow

/-- The log of the library: its level and the formats of its handlers. A level is any number, and
zero stands for none. A handler without a format writes the message alone. -/
structure Target where
  level : Int := 0
  handlers : List (Option String) := []
  deriving DecidableEq, Repr, Inhabited

namespace Target

/-- Puts settings into force; a failure leaves behind what was done before it. -/
def configure (t : Target) (s : LogSettings) : Except Failure Unit × Target :=
  let ready : Target :=
    { level := s.level.rank, handlers := if t.handlers.isEmpty then [none] else t.handlers }
  match LineFormat.ofDatum s.format with
  | .ok format => (.ok (), { ready with handlers := ready.handlers.map fun _ => some format })
  | .error f => (.error (.fault f), ready)

/-- Puts the given settings into force, or the global ones. -/
def configureFrom (t : Target) (own : Option LogSettings) (g : GlobalSettings) (env : Environment) :
    Except Failure Unit × Target × GlobalSettings :=
  match own with
  | some s =>
    let (r, t) := t.configure s
    (r, t, g)
  | none =>
    match g.get env with
    | (.ok s, g) =>
      let (r, t) := t.configure s.logging
      (r, t, g)
    | (.error f, g) => (.error f, t, g)

/-- Whether a channel belongs to the library. -/
def covers (channel : String) : Bool :=
  channel == Channel.root || channel.startsWith (Channel.root ++ ".")

/-- The least number of a severity that is shown; without a level warnings are. -/
def threshold (t : Target) : Int := if t.level = 0 then Severity.warning.rank else t.level

/-- What the handlers write of a record. -/
def emit (t : Target) (r : Record) : String :=
  if covers r.channel && t.threshold ≤ r.severity.rank then
    "".intercalate (t.handlers.map fun format =>
      match LineFormat.render (format.getD LineFormat.messageOnly) r with
      | some line => line ++ "\n"
      | none => "")
  else ""

end Target

end ShapeFlow
