import ElmOnSave.CompilerOutput.LineFeed
import ElmOnSave.Generation

/-!
# Collecting the output of a run

The report stream is read line by line until its end or the first failure; what was gathered before
a failure is kept.  The other stream is a failure of the whole project if the generation says so and
anything was written to it.
-/

namespace ElmOnSave.CompilerOutput

/-- The diagnostics gathered from a report stream, and the failure that ended the reading. -/
structure Collected where
  diagnostics : List Diagnostic
  fault : Option Fault
deriving Repr, Inhabited

/-- Reads lines up to the first failure. -/
def collectLines (read : String → Except Fault (List Diagnostic)) :
    List Octets → List (List Diagnostic) → Collected
  | [], acc => ⟨acc.reverse.flatten, none⟩
  | l :: ls, acc =>
    match read (lineText l) with
    | .ok ds => collectLines read ls (ds :: acc)
    | .error e => ⟨acc.reverse.flatten, some e⟩

/-- Reads a report stream that arrives in chunks; `ended` says whether it has come to its end. -/
def collectChunks [Platform] (g : Generation) (target : String) (limit : Nat) (chunks : List Octets)
    (ended : Bool) : Collected :=
  let feed := LineFeed.ofChunks limit chunks
  let lines := if ended then feed.finish else feed.lines.reverse
  let c := collectLines (g.readLine target) lines []
  match c.fault, feed.overrun with
  | none, some found => { c with fault := some (.output (.lineTooLong found) "") }
  | _, _ => c

/-- The diagnostic for whatever was written to a stream that should stay empty. -/
def projectFailure? (g : Generation) (target : String) (chunks : List Octets) : Option Diagnostic :=
  if g.otherStreamFails && !chunks.flatten.isEmpty then
    some (Diagnostic.ofProject "" (String.ofList (Utf8.decodeLossy chunks.flatten)) target)
  else none

end ElmOnSave.CompilerOutput
