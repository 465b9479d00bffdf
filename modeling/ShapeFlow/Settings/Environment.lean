import ShapeFlow.Settings.Basic

/-!
# Settings from the environment

Each setting has a variable of its own. `Environment.engine` and `Environment.logging` make the
settings that the environment gives alone, and `Environment.override` puts the variables that are
set over other settings. A flag's variable is true for one word and false for every other text; the
variable of a choice must hold a word of the choice even where it overrides nothing else.
-/

set_option autoImplicit false

namespace ShapeFlow

/-- The variables that are set. -/
abbrev Environment := List (String × String)

namespace Environment

/-- The variable of the order check. -/
def verifyOrder : String := "JITSHAPE_VERIFY_ORDER"

/-- The variable of the treatment of constants without a rule. -/
def unknownConstants : String := "JITSHAPE_UNKNOWN_CONSTANTS"

/-- The variable of the shape map. -/
def logShapeMap : String := "JITSHAPE_LOG_SHAPE_MAP"

/-- The variable of the least severity. -/
def logLevel : String := "JITSHAPE_LOG_LEVEL"

/-- The variable of the line format. -/
def logFormat : String := "JITSHAPE_LOG_FORMAT"

/-- The text of a variable, if it is set. -/
def get? (env : Environment) (name : String) : Option String := env.lookup name

/-- Sets a variable. -/
def set (env : Environment) (name value : String) : Environment :=
  (name, value) :: env.filter (·.1 != name)

/-- Removes a variable. -/
def unset (env : Environment) (name : String) : Environment := env.filter (·.1 != name)

theorem get?_unset (env : Environment) (name other : String) :
    (env.unset name).get? other = if other = name then none else env.get? other := by
  unfold unset get?
  induction env with
  | nil => simp only [List.filter_nil, List.lookup_nil, ite_self]
  | cons e rest ih =>
    obtain ⟨k, v⟩ := e
    rw [List.filter_cons]
    by_cases hk : k = name
    · subst hk
      rw [if_neg (by simp), ih]
      by_cases ho : other = k
      · rw [if_pos ho, if_pos ho]
      · have hb : (other == k) = false := by simpa using ho
        rw [if_neg ho, if_neg ho, List.lookup_cons, hb]
    · rw [if_pos (by simpa using hk), List.lookup_cons, List.lookup_cons, ih]
      by_cases ho : other = k
      · subst ho
        simp only [BEq.rfl, if_neg hk]
      · have hb : (other == k) = false := by simpa using ho
        rw [hb]

theorem get?_set (env : Environment) (name value other : String) :
    (env.set name value).get? other = if other = name then some value else env.get? other := by
  by_cases ho : other = name
  · simp [set, get?, ho]
  · have hb : (other == name) = false := by simpa using ho
    have hu := env.get?_unset name other
    simp only [unset, get?, ho, if_false] at hu
    simp [set, get?, List.lookup_cons, hb, ho, hu]

/-- A flag: true for the word alone. -/
def flag (env : Environment) (name : String) : Bool :=
  (env.get? name).any fun s => lower s == "true"

/-- The settings of the pass that the environment gives alone. -/
def engine (env : Environment) : Except Failure PassSettings := do
  let unknownConstants ← readPolicy "unknown_constant_policy"
    (.text ((env.get? unknownConstants).getD ConstantPolicy.refuse.label))
  return { verifyOrder := env.flag verifyOrder, unknownConstants
           logShapeMap := env.flag logShapeMap }

/-- The settings of the log that the environment gives alone. -/
def logging (env : Environment) : Except Failure LogSettings := do
  let level ← readSeverity "logging.level"
    (.text ((env.get? logLevel).getD Severity.warning.label))
  let format := ((env.get? logFormat).map Datum.text).getD ({} : LogSettings).format
  return { level, format }

/-- The second of two settings if a variable is set, the first otherwise. -/
def choose {α : Type} (env : Environment) (name : String) (base given : α) : α :=
  if (env.get? name).isSome then given else base

/-- Settings with those replaced whose variable is set. -/
def override (env : Environment) (s : Settings) : Except Failure Settings := do
  -- a choice is parsed even where nothing is taken from it
  let e ← env.engine
  let l ← env.logging
  return { s with
    engine :=
      { verifyOrder := env.choose verifyOrder s.engine.verifyOrder e.verifyOrder
        unknownConstants :=
          env.choose unknownConstants s.engine.unknownConstants e.unknownConstants
        logShapeMap := env.choose logShapeMap s.engine.logShapeMap e.logShapeMap }
    logging :=
      { level := env.choose logLevel s.logging.level l.level
        format := env.choose logFormat s.logging.format l.format } }

end Environment

end ShapeFlow
