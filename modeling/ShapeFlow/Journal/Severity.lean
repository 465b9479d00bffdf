/-!
# Severities of log records

The five severities, in increasing order, with the number that decides whether a log shows a record
(`Severity.rank`), the word that settings use for each (`Severity.label`) and the word that log
lines show (`Severity.name`).
-/

set_option autoImplicit false

namespace ShapeFlow

/-- How grave a log record is. -/
inductive Severity where
  | debug
  | info
  | warning
  | error
  | critical
  deriving DecidableEq, Repr, Inhabited

namespace Severity

/-- Every severity, the least one first. -/
def all : List Severity := [debug, info, warning, error, critical]

/-- The word for a severity in settings. -/
def label : Severity → String
  | debug => "debug"
  | info => "info"
  | warning => "warning"
  | error => "error"
  | critical => "critical"

/-- The word for a severity in log lines. -/
def name (s : Severity) : String := s.label.toUpper

/-- The number of a severity; a log shows the records at or above its own. -/
def rank : Severity → Nat
  | debug => 10
  | info => 20
  | warning => 30
  | error => 40
  | critical => 50

/-- The severity that a word of settings names. -/
def ofLabel? (word : String) : Option Severity := all.find? (·.label == word)

theorem ofLabel?_label (s : Severity) : ofLabel? s.label = some s := by cases s <;> rfl

theorem mem_all (s : Severity) : s ∈ all := by cases s <;> simp [all]

end Severity

end ShapeFlow
