import ElmOnSave.CompilerOutput.Line
import ElmOnSave.CompilerOutput.Message

/-!
# Report documents

The compiler of generation 0.19 writes one report to a line.  A report of compile errors groups the
problems by file and yields a diagnostic for each problem; a report of a project error yields one
diagnostic for the whole project; a report of any other kind yields nothing.
-/

namespace ElmOnSave.CompilerOutput

/-- The kind of a report that groups problems by file. -/
def compileErrors : String := "compile-errors"

/-- The kind of a report on a whole project. -/
def projectError : String := "error"

/-- A list, for which null stands as an empty one. -/
def asList (line field : String) : Value → Except Fault (List Value)
  | .null => .ok []
  | .list items => .ok items
  | _ => refuse line (.notList field)

/-- An object. -/
def asObject (line field : String) : Value → Except Fault Value
  | .table entries => .ok (.table entries)
  | _ => refuse line (.notObject field)

/-- A value that counts as nothing: null, false, zero and whatever is empty. -/
def isNothing : Value → Bool
  | .null => true
  | .bool b => !b
  | .int i => i = 0
  | .float x => x.isZero
  | .text (.whole s) => s = ""
  | .text (.halved ps) => ps.isEmpty
  | .moment _ => false
  | .list items => items.isEmpty
  | .table entries => entries.isEmpty

/-- The title of a problem or report, empty when there is none. -/
def titleOf (v : Value) : Checked String :=
  match v.get? "title" with
  | none => .valid ""
  | some t => (Checked.ofExcept t.asString).within "overview"

/-- One problem of a group. -/
def readProblem (path problem : Value) : Checked Diagnostic :=
  let details := String.ofList (messageText (problem.getD "message"))
  (fun overview region file => ⟨"error", overview, "", details, region, Severity.error.label, file⟩)
    <$> titleOf problem
    <*> (Region.ofValue (problem.getD "region")).within "region"
    <*> (Checked.ofExcept path.asString).within "file"

/-- One entry of the problems of a group. -/
def readProblemEntry (line : String) (path problem : Value) : Except Fault Diagnostic :=
  match asObject line "problems[]" problem with
  | .error e => .error e
  | .ok p => accept line (readProblem path p)

/-- The problems of one file. -/
def readGroup (line : String) (group : Value) : Except Fault (List Diagnostic) :=
  match asObject line "errors[]" group with
  | .error e => .error e
  | .ok g =>
    match asList line "problems" (g.getD "problems") with
    | .error e => .error e
    | .ok problems => problems.mapM (readProblemEntry line (g.getD "path"))

/-- The problems of all files, in the order of the report. -/
def readCompileErrors (line : String) (report : Value) : Except Fault (List Diagnostic) :=
  match asList line "errors" (report.getD "errors") with
  | .error e => .error e
  | .ok groups => (groups.mapM (readGroup line)).map List.flatten

/-- The diagnostic of a project error, at the compiled file unless the report names another. -/
def readProjectError (target : String) (report : Value) : Checked Diagnostic :=
  let details := String.ofList (messageText (report.getD "message"))
  let path := report.getD "path"
  let file := if isNothing path then .ofString target else path
  (fun overview file => Diagnostic.ofProject overview details file)
    <$> titleOf report
    <*> (Checked.ofExcept file.asString).within "file"

/-- The diagnostics of a report. -/
def readReport (target line : String) (report : Value) : Except Fault (List Diagnostic) :=
  match report.getD "type" with
  | .text (.whole kind) =>
    if kind = compileErrors then readCompileErrors line report
    else if kind = projectError then
      (accept line (readProjectError target report)).map fun d => [d]
    else .ok []
  | _ => .ok []

/-- The diagnostics on a line of a run for a target file. -/
def readReportDocument [Platform] (target line : String) : Except Fault (List Diagnostic) :=
  if Text.isBlankText line.toList then .ok []
  else
    match readLine line with
    | .error e => .error e
    | .ok v =>
      match asObject line "document" v with
      | .error e => .error e
      | .ok report => readReport target line report

end ElmOnSave.CompilerOutput
