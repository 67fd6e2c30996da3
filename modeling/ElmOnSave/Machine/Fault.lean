import ElmOnSave.Text.Basic

/-!
# What the operating system refuses

A file may be missing, be a directory, have a name that is too long, or not be executable.  Each
refusal has a number, a wording and the path it is about.
-/

namespace ElmOnSave

/-- Why the operating system refuses. -/
inductive Errno where
  | noEntry
  | argumentsTooLong
  | notExecutable
  | permissionDenied
  | notDirectory
  | isDirectory
  | nameTooLong
  /-- Scripts that name each other as what runs them. -/
  | endlessChain
deriving Repr, DecidableEq, Inhabited

namespace Errno

/-- The number of a refusal. -/
def number : Errno → Nat
  | noEntry => 2
  | argumentsTooLong => 7
  | notExecutable => 8
  | permissionDenied => 13
  | notDirectory => 20
  | isDirectory => 21
  | nameTooLong => 36
  | endlessChain => 40

/-- The wording of a refusal. -/
def message : Errno → String
  | noEntry => "No such file or directory"
  | argumentsTooLong => "Argument list too long"
  | notExecutable => "Exec format error"
  | permissionDenied => "Permission denied"
  | notDirectory => "Not a directory"
  | isDirectory => "Is a directory"
  | nameTooLong => "File name too long"
  | endlessChain => "Too many levels of symbolic links"

end Errno

/-- A refusal and the path it is about. -/
structure SystemFault where
  errno : Errno
  path : String
deriving Repr, DecidableEq, Inhabited

/-- The wording of a refusal with its number and path. -/
def SystemFault.message (f : SystemFault) : String :=
  "[Errno " ++ toString f.errno.number ++ "] " ++ f.errno.message ++ ": " ++
    String.ofList (Text.quoted (.whole f.path))

end ElmOnSave
