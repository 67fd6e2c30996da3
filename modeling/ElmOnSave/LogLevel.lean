/-!
# Levels of the log

Records of the log are kept from a threshold on: all of them while the user looks for faults in the
program, warnings and errors otherwise.
-/

namespace ElmOnSave

/-- The levels of log records. -/
inductive LogLevel where
  | debug
  | info
  | warning
  | error
deriving Repr, DecidableEq, Inhabited

namespace LogLevel

/-- The levels, the least important first. -/
def all : List LogLevel := [debug, info, warning, error]

/-- The rank of a level. -/
def rank : LogLevel → Nat
  | debug => 0
  | info => 1
  | warning => 2
  | error => 3

/-- The name of a level. -/
def name : LogLevel → String
  | debug => "DEBUG"
  | info => "INFO"
  | warning => "WARNING"
  | error => "ERROR"

/-- The threshold, given whether details are wanted. -/
def threshold (details : Bool) : LogLevel :=
  if details then debug else warning

/-- The levels that a threshold lets through. -/
def enabled (t : LogLevel) : List LogLevel :=
  all.filter fun l => t.rank ≤ l.rank

end LogLevel

/-- Where log records go: the threshold and the number of outputs. -/
structure LogSetup where
  threshold : LogLevel
  outputs : Nat
deriving Repr, DecidableEq, Inhabited

/-- The log before it is set up: nothing is written, and warnings are what would be. -/
def LogSetup.initial : LogSetup :=
  ⟨.warning, 0⟩

/-- Sets the log up; an output that is there already is not added again. -/
def LogSetup.configured (s : LogSetup) (details : Bool) : LogSetup :=
  ⟨.threshold details, max 1 s.outputs⟩

theorem LogSetup.configured_configured (s : LogSetup) (a b : Bool) :
    (s.configured a).configured b = s.configured b := by
  simp only [configured, LogSetup.mk.injEq, true_and]
  omega

end ElmOnSave
