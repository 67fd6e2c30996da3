import ElmOnSave.Diagnostic
import ElmOnSave.Validation.Scalar

/-!
# Reading a diagnostic

A diagnostic comes as a table.  Only the file is required; any other field that is missing has a
default, fields beyond the seven are ignored, and every field of the wrong kind is an issue.
-/

namespace ElmOnSave

/-- Reads a position: a line and a column, both required. -/
def Position.ofValue (v : Value) : Checked Position :=
  match v.asTable with
  | .error m => .ofExcept (.error m)
  | .ok es =>
    Position.mk <$> Value.scalarField es "line" none Value.asInt
      <*> Value.scalarField es "column" none Value.asInt

/-- Reads a region: a start and an end, both required. -/
def Region.ofValue (v : Value) : Checked Region :=
  match v.asTable with
  | .error m => .ofExcept (.error m)
  | .ok es =>
    Region.mk <$> Value.field es "start" none Position.ofValue
      <*> Value.field es "end" none Position.ofValue

namespace Diagnostic

/-- What a report calls the thing it could not read. -/
def subject : String := "Diagnostic"

/-- Reads the fields of a table. -/
def ofEntries (es : List (Text × Value)) : Checked Diagnostic :=
  Diagnostic.mk <$> Value.scalarField es "tag" (some "error") Value.asString
    <*> Value.scalarField es "overview" (some "") Value.asString
    <*> Value.scalarField es "subregion" (some "") Value.asString
    <*> Value.scalarField es "details" (some "") Value.asString
    <*> Value.field es "region" (some Region.whole) Region.ofValue
    <*> Value.scalarField es "type" (some Severity.error.label) Value.asString
    <*> Value.scalarField es "file" none Value.asString

/-- Reads a value that should be the table of a diagnostic. -/
def ofValue (v : Value) : Checked Diagnostic :=
  match v.asTable with
  | .error m => .ofExcept (.error m)
  | .ok es => ofEntries es

/-- Reads a diagnostic or refuses with all issues. -/
def read (v : Value) : Except Refusal Diagnostic :=
  (ofValue v).toExcept subject

end Diagnostic

end ElmOnSave
