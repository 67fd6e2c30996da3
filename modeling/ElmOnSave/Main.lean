import ElmOnSave.CommandLine
import ElmOnSave.Machine.Description

/-!
# The program

Runs a command line on the machine that standard input describes: prints what the command prints
and ends with its exit status.
-/

namespace ElmOnSave.CommandLine

/-- What is printed when the words make no sense. -/
def usage : String :=
  "Usage: check FILE [--workspace-root DIR] [--config FILE] [--analyzer-report FILE] [--json]\n"
    ++ "             [--emoji | --no-emoji] [--color | --no-color] [--debug]\n"
    ++ "       command FILE [--workspace-root DIR] [--config FILE]\n"

/-- Exit status, standard output and standard error of an outcome. -/
def Outcome.streams : Outcome → Nat × String × String
  | .rejected => (notDone, "", usage)
  | .raised f => (errorsFound, "", f.message ++ "\n")
  | .ended e => (e.exit, e.stdout, e.stderr)

/-- The outcome of a command line on the machine that a text describes. -/
def runDescribed [Platform] (description : String) (ws : List String) : Outcome :=
  match Json.read description.toList with
  | .ok v => run (Machine.ofDescription v) ws
  | .error _ => .rejected

end ElmOnSave.CommandLine

/-- Runs the program. -/
def main (args : List String) : IO UInt32 := do
  let input ← IO.getStdin
  let description ← input.readToEnd
  let (exit, out, err) := (ElmOnSave.CommandLine.runDescribed description args).streams
  IO.print out
  IO.eprint err
  return exit.toUInt32
