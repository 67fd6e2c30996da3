import ElmOnSave.Marker
import ElmOnSave.Severity

/-!
# Diagnostics

A `Diagnostic` is one issue of the compiler or the analyzer, located by a region that counts lines
and columns from one.  An `EditorRecord` is what an editor shows for it: a range that counts from
zero, one message and a severity level.
-/

namespace ElmOnSave

/-- A place in a source file, counted from one. -/
structure Position where
  line : Int
  column : Int
deriving Repr, DecidableEq, Inhabited

/-- A stretch of a source file. -/
structure Region where
  start : Position
  stop : Position
deriving Repr, DecidableEq, Inhabited

/-- The region given to an issue of a whole project: the very first place. -/
def Region.whole : Region := ⟨⟨1, 1⟩, ⟨1, 1⟩⟩

/-- An issue of the compiler or the analyzer. -/
structure Diagnostic where
  tag : String
  overview : String
  subregion : String
  details : String
  region : Region
  /-- The severity label as it was reported. -/
  type : String
  file : String
deriving Repr, DecidableEq, Inhabited

namespace Diagnostic

/-- The same issue in another file. -/
def withFile (d : Diagnostic) (file : String) : Diagnostic :=
  { d with file }

/-- An error of a whole project, shown at the first place of a file. -/
def ofProject (overview details file : String) : Diagnostic :=
  ⟨"error", overview, "", details, .whole, Severity.error.label, file⟩

end Diagnostic

/-- A place in a source file, counted from zero. -/
structure EditorPosition where
  line : Int
  character : Int
deriving Repr, DecidableEq, Inhabited

/-- A stretch of a source file between places counted from zero. -/
structure EditorRange where
  start : EditorPosition
  stop : EditorPosition
deriving Repr, DecidableEq, Inhabited

/-- What an editor shows for an issue. -/
structure EditorRecord where
  range : EditorRange
  message : String
  severity : EditorSeverity
  /-- The tool that found the issue. -/
  source : Option String
deriving Repr, DecidableEq, Inhabited

/-- The place counted from zero.  A place before the first line or column counts as the first. -/
def Position.toEditor (p : Position) : EditorPosition :=
  ⟨max (p.line - 1) 0, max (p.column - 1) 0⟩

/-- The region counted from zero. -/
def Region.toEditor (r : Region) : EditorRange :=
  ⟨r.start.toEditor, r.stop.toEditor⟩

namespace Diagnostic

/-- The overview and the details without colour markers, joined by a dash. -/
def message (d : Diagnostic) : String :=
  d.overview ++ " - " ++ String.ofList (Marker.strip d.details.toList)

/-- The record an editor shows; a label that names no severity counts as an error. -/
def toEditor (d : Diagnostic) (source : Option String) : EditorRecord :=
  ⟨d.region.toEditor, d.message, EditorSeverity.ofLabel d.type .error, source⟩

end Diagnostic

end ElmOnSave
