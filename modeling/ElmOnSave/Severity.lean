import ElmOnSave.Text.Blank
import ElmOnSave.Value

/-!
# Severities

The compiler and the analyzer label an issue `error` or `warning`; an editor numbers four levels.
A label counts whatever its case and the blanks around it, and a label that is neither of the two
counts as a default.
-/

namespace ElmOnSave

/-- The labels the compiler and the analyzer use. -/
inductive Severity where
  | error
  | warning
deriving Repr, DecidableEq, Inhabited

namespace Severity

/-- The spelling of a label. -/
def label : Severity → String
  | error => "error"
  | warning => "warning"

/-- The severity with exactly the given spelling. -/
def ofLabel? (s : String) : Option Severity :=
  if s = "error" then some error
  else if s = "warning" then some warning
  else none

end Severity

/-- The levels of an editor. -/
inductive EditorSeverity where
  | error
  | warning
  | information
  | hint
deriving Repr, DecidableEq, Inhabited

namespace EditorSeverity

/-- The number an editor gives to a level. -/
def number : EditorSeverity → Nat
  | error => 0
  | warning => 1
  | information => 2
  | hint => 3

/-- The name of a level in lower case. -/
def name : EditorSeverity → String
  | error => "error"
  | warning => "warning"
  | information => "information"
  | hint => "hint"

/-- All levels in the order of their numbers. -/
def all : List EditorSeverity := [error, warning, information, hint]

/-- The level of a label. -/
def ofSeverity : Severity → EditorSeverity
  | .error => error
  | .warning => warning

/-- The level of a label given as text: blanks around it and its case do not count. -/
def ofLabel (label : String) (otherwise : EditorSeverity) : EditorSeverity :=
  match Severity.ofLabel? (String.ofList ((Text.trim label.toList).map Char.toLower)) with
  | some s => ofSeverity s
  | none => otherwise

/-- The level of a label given as a value of a document; only texts can name one. -/
def ofValue (label : Value) (otherwise : EditorSeverity) : EditorSeverity :=
  match label with
  | .text (.whole s) => ofLabel s otherwise
  | _ => otherwise

end EditorSeverity

end ElmOnSave
