import ElmOnSave.CompilerOutput.IssueArray
import ElmOnSave.CompilerOutput.ReportDocument

/-!
# Generations of the compiler

The two generations differ in the program to run, its arguments, the stream on which they report and
the form of the report.
-/

namespace ElmOnSave

/-- A generation of the compiler. -/
inductive Generation where
  /-- Generation 0.18: issue arrays on standard output, failures of the project on the other
  stream. -/
  | issueArrays
  /-- Generation 0.19: report documents on standard error. -/
  | reportDocuments
deriving Repr, DecidableEq, Inhabited

/-- One of the two output streams of a process. -/
inductive OutputStream where
  | stdout
  | stderr
deriving Repr, DecidableEq, Inhabited

namespace Generation

/-- The version that names a generation. -/
def label : Generation → String
  | issueArrays => "0.18"
  | reportDocuments => "0.19"

/-- The generation with exactly the given name. -/
def ofLabel? (s : String) : Option Generation :=
  if s = issueArrays.label then some issueArrays
  else if s = reportDocuments.label then some reportDocuments
  else none

/-- The stream that carries the report. -/
def reportStream : Generation → OutputStream
  | issueArrays => .stdout
  | reportDocuments => .stderr

/-- Whether anything on the other stream is a failure of the whole project. -/
def otherStreamFails : Generation → Bool
  | issueArrays => true
  | reportDocuments => false

/-- The diagnostics on a line of the report of a run for a target file. -/
def readLine [Platform] (g : Generation) (target line : String) : Except Fault (List Diagnostic) :=
  match g with
  | issueArrays => CompilerOutput.readIssueArray target line
  | reportDocuments => CompilerOutput.readReportDocument target line

end Generation

end ElmOnSave
