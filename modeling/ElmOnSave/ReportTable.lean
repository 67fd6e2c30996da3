import ElmOnSave.Fault
import ElmOnSave.Report
import ElmOnSave.Terminal.Console

/-!
# The report as tables

What is published is shown as one table for each collection that has entries, with one row for each
record.  Files come in the order of their code points, and lines and columns are counted from one,
as people do.

`Published.tables` says which tables there are and what their rows hold, as plain values;
`Published.printed` reads file names, messages and titles as markup and lays the tables out.
-/

namespace ElmOnSave

/-- A row of a table of records. -/
structure ReportRow where
  file : String
  position : EditorPosition
  severity : EditorSeverity
  message : String
deriving Repr, DecidableEq, Inhabited

/-- A table of records under the name of their collection. -/
structure ReportTable where
  title : String
  rows : List ReportRow
deriving Repr, DecidableEq, Inhabited

/-- Line and column counted from one. -/
def EditorPosition.shown (p : EditorPosition) : String :=
  toString (p.line + 1) ++ ":" ++ toString (p.character + 1)

/-- Whether line and column have no more digits than are written. -/
def EditorPosition.isWritable (p : EditorPosition) : Bool :=
  Decimal.isWritable (p.line + 1) && Decimal.isWritable (p.character + 1)

/-- The row of a record. -/
def ReportRow.ofRecord (file : String) (r : EditorRecord) : ReportRow :=
  ⟨file, r.range.start, r.severity, r.message⟩

namespace Published

/-- The rows of a collection: its files in increasing order, the records of each in their order. -/
def rowsOf (c : Register String (List EditorRecord)) : List ReportRow :=
  (c.entries.mergeSort fun a b => a.1 ≤ b.1).flatMap fun f => f.2.map (ReportRow.ofRecord f.1)

/-- The tables, in the order of the collections. -/
def tables (p : Published) : List ReportTable :=
  (p.entries.filter fun c => !c.2.isEmpty).map fun c => ⟨c.1, rowsOf c.2⟩

end Published

open Terminal

/-- The style of a severity. -/
def EditorSeverity.style : EditorSeverity → Style
  | error => Style.ofBasicColor "red" 1
  | warning => Style.ofBasicColor "yellow" 3
  | information => Style.ofBasicColor "cyan" 6
  | hint => Style.ofAttribute .dim

namespace ReportTable

/-- The columns of a table of records. -/
def columns : List Column :=
  [{ heading := "File" }, { heading := "Line:Col", right := true }, { heading := "Severity" },
    { heading := "Message", wraps := true }]

/-- The style of a title. -/
def titleStyle : Style := Style.ofAttribute .italic

/-- The rule under the headings: heavy if the table is coloured. -/
def ruleChar (colored : Bool) : Char :=
  Char.ofNat (if colored then 0x2501 else 0x2500)

/-- A severity as a cell, which is no markup. -/
def severityCell (colored : Bool) (s : EditorSeverity) : StyledText :=
  if colored then .styled s.style s.name else .unstyled s.name

/-- The text of a cell; a terminal that has no room for any cell does not read it. -/
def readCell (console : Console) (markup : String) : Except MarkupFault StyledText :=
  if console.width ≤ columns.length + 1 + cellPadding then .ok { chars := [] }
  else console.read markup

/-- The table with its cells read as markup: first all file names, then all messages, then the
title.  The numbers are written before any of them, and the names of styles are looked up last. -/
def printed (console : Console) (colored : Bool) (t : ReportTable) :
    Except MarkupFault (List Char) := do
  if t.rows.any (!·.position.isWritable) then throw .longNumber
  let files ← t.rows.mapM fun r => readCell console r.file
  let messages ← t.rows.mapM fun r => readCell console r.message
  let title ← console.read t.title
  let rows := (t.rows.zip (files.zip messages)).map fun r =>
    [r.2.1, .unstyled r.1.position.shown, severityCell colored r.1.severity, r.2.2]
  let title := if t.title.isEmpty then none else some { title with base := titleStyle }
  (console.printTable title ⟨columns, ruleChar colored, rows⟩).mapError MarkupFault.color

end ReportTable

/-- All tables as they are printed. -/
def Published.printed (console : Console) (colored : Bool) (p : Published) :
    Except MarkupFault String := do
  let texts ← p.tables.mapM (ReportTable.printed console colored)
  return String.ofList texts.flatten

end ElmOnSave
