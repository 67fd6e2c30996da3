import ElmOnSave.Fault
import ElmOnSave.Json.Reader
import ElmOnSave.Text.Blank
import ElmOnSave.Validation.Diagnostic

/-!
# Lines of compiler output

Either generation of the compiler writes one JSON document to a line, and a line of blanks carries
nothing.
-/

namespace ElmOnSave.CompilerOutput

/-- A complaint about a line. -/
def refuse {α : Type} (line : String) (cause : OutputFault) : Except Fault α :=
  .error (.output cause line)

/-- The document on a line. -/
def readLine [Platform] (line : String) : Except Fault Value :=
  (Json.read line.toList).mapError (Fault.ofJson fun c p o => .output (.malformed c p o) line)

/-- The diagnostic that was read on a line. -/
def accept (line : String) (d : Checked Diagnostic) : Except Fault Diagnostic :=
  match d.toExcept Diagnostic.subject with
  | .ok d => .ok d
  | .error r => refuse line (.unexpectedShape r)

end ElmOnSave.CompilerOutput
