import ElmOnSave.Collection
import ElmOnSave.Json.Writer

/-!
# The JSON report

The published collections as one JSON document: an object of collections, each an object of files,
each a list of records.
-/

namespace ElmOnSave

/-- Published records by collection and file. -/
abbrev Published := Register String (Register String (List EditorRecord))

namespace Published

/-- All records in order. -/
def records (p : Published) : List EditorRecord :=
  p.values.flatMap fun c => c.values.flatten

/-- The number of records with the severity of an error. -/
def errorCount (p : Published) : Nat :=
  (p.records.filter fun r => r.severity = .error).length

end Published

/-- An object with the given names. -/
def Value.object (fields : List (String × Value)) : Value :=
  .table (fields.map fun f => (.whole f.1, f.2))

/-- A place as JSON. -/
def EditorPosition.toValue (p : EditorPosition) : Value :=
  .object [("line", .int p.line), ("character", .int p.character)]

/-- A range as JSON. -/
def EditorRange.toValue (r : EditorRange) : Value :=
  .object [("start", r.start.toValue), ("end", r.stop.toValue)]

/-- A record as JSON, its severity as a number. -/
def EditorRecord.toValue (r : EditorRecord) : Value :=
  .object [("range", r.range.toValue), ("message", .ofString r.message),
    ("severity", .int r.severity.number),
    ("source", match r.source with
      | some s => .ofString s
      | none => .null)]

namespace Published

/-- The collections as JSON. -/
def toValue (p : Published) : Value :=
  .object (p.entries.map fun c =>
    (c.1, .object (c.2.entries.map fun f => (f.1, .list (f.2.map EditorRecord.toValue)))))

/-- The text of the report. -/
def reportText (p : Published) : String :=
  String.ofList (Json.pretty p.toValue)

end Published

end ElmOnSave
