import ElmOnSave.Json.Reader
import ElmOnSave.Machine.TextFile
import ElmOnSave.Validation.Diagnostic

/-!
# Analyzer issues

The analyzer keeps a list of the issues it currently sees.  The list can be loaded from a report,
which is a JSON array of diagnostics: either every entry is read, or the report is refused.
-/

namespace ElmOnSave

namespace AnalyzerReport

/-- One entry of the report at a path. -/
def readEntry (path : String) : Value → Except Fault Diagnostic
  | .table entries =>
    match (Diagnostic.ofEntries entries).toExcept Diagnostic.subject with
    | .ok d => .ok d
    | .error r => .error (.report path (.invalid r))
  | _ => .error (.report path .notObject)

/-- The issues of the report that a text is. -/
def ofText [Platform] (path : String) (cs : List Char) : Except Fault (List Diagnostic) :=
  match Json.read cs with
  | .error e => .error (Fault.ofJson (fun c p o => .report path (.malformed c p o)) e)
  | .ok (.list es) => es.mapM (readEntry path)
  | .ok _ => .error (.report path .notArray)

/-- Loads the report at a path. -/
def load [Platform] (m : Machine) (path : Path) : Except Fault (List Diagnostic) := do
  let p := path.text
  let cs ← (m.readText p).mapError (ReadFault.fault fun f => .report p (.unreadable f))
  ofText p cs

end AnalyzerReport

/-- The issues the analyzer currently sees, in order. -/
structure AnalyzerIssues where
  issues : List Diagnostic
deriving Repr, DecidableEq, Inhabited

namespace AnalyzerIssues

/-- Adds an issue at the end. -/
def add (a : AnalyzerIssues) (d : Diagnostic) : AnalyzerIssues := ⟨a.issues ++ [d]⟩

/-- Puts other issues in the place of the current ones. -/
def replace (_ : AnalyzerIssues) (ds : List Diagnostic) : AnalyzerIssues := ⟨ds⟩

def clear (_ : AnalyzerIssues) : AnalyzerIssues := ⟨[]⟩

def size (a : AnalyzerIssues) : Nat := a.issues.length

end AnalyzerIssues

/-- What the analyzer does to its list. -/
inductive AnalyzerChange where
  | added (d : Diagnostic)
  | replaced (ds : List Diagnostic)
  | cleared
deriving Repr, DecidableEq, Inhabited

/-- The list after a change. -/
def AnalyzerIssues.changed (a : AnalyzerIssues) : AnalyzerChange → AnalyzerIssues
  | .added d => a.add d
  | .replaced ds => a.replace ds
  | .cleared => a.clear

end ElmOnSave
