import ElmOnSave.Diagnostic
import ElmOnSave.Path
import ElmOnSave.Register

/-!
# Paths of issues

An issue may name its file relative to the root of the project.  `issuePath` finds the file, and
`groupByFile` collects the issues of each file in the order in which they arrived, the files in the
order in which they first came.
-/

namespace ElmOnSave

/-- The file an issue names, seen from a project root; without a root, and for an absolute path, the
spelling stays. -/
def issuePath (file : String) (root : Option String) : String :=
  match root with
  | none => file
  | some r => if Path.isAbsoluteText file then file else Path.normText (Path.joinText r file)

/-- Adds an issue to the group of its file. -/
def addToGroup (root : Option String) (groups : Register String (List Diagnostic))
    (d : Diagnostic) : Register String (List Diagnostic) :=
  let file := issuePath d.file root
  groups.put file (((groups.get? file).getD []) ++ [d.withFile file])

/-- The issues of each file. -/
def groupByFile (ds : List Diagnostic) (root : Option String) : Register String (List Diagnostic) :=
  ds.foldl (addToGroup root) .empty

end ElmOnSave
