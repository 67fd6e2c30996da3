import ElmOnSave.CompilerOutput.Line

/-!
# Issue arrays

The compiler of generation 0.18 writes a banner when it succeeds and otherwise a list of issues,
which already have the fields of a diagnostic.  An issue that names no file belongs to the file that
was compiled.
-/

namespace ElmOnSave.CompilerOutput

/-- The start of the banner of a successful run. -/
def successBanner : String := "Successfully generated"

/-- The entries of an issue, the compiled file filled in when no file is named. -/
def withTarget (target : String) (entries : List (Text × Value)) : List (Text × Value) :=
  match Entries.get? entries (.whole "file") with
  | some _ => entries
  | none => Entries.put entries (.whole "file") (.ofString target)

/-- One issue. -/
def readIssue (target line : String) : Value → Except Fault Diagnostic
  | .table entries => accept line (Diagnostic.ofEntries (withTarget target entries))
  | _ => refuse line .notIssueObject

/-- The diagnostics on a line of a run for a target file. -/
def readIssueArray [Platform] (target line : String) : Except Fault (List Diagnostic) :=
  if successBanner.toList.isPrefixOf line.toList || Text.isBlankText line.toList then .ok []
  else
    match readLine line with
    | .error e => .error e
    | .ok (.list issues) => issues.mapM (readIssue target line)
    | .ok _ => refuse line .notIssueList

end ElmOnSave.CompilerOutput
