import ElmOnSave.Path

/-!
# Test files

A file belongs to the tests when it lies in a directory called `tests`, at any depth below the root
of the project.  Directories above the root do not count, unless the file does not lie below the
root at all.
-/

namespace ElmOnSave

/-- The name of directories that hold tests. -/
def testsDirectory : String := "tests"

/-- Whether a file seen from a working directory belongs to the tests of a project. -/
def isTestFile (cwd : Path) (file : Path) (root : Option Path) : Bool :=
  let path := file.absolute cwd
  let names :=
    match root with
    | none => path.names
    | some r => (path.below? (r.absolute cwd)).getD path.names
  names.dropLast.contains testsDirectory

end ElmOnSave
