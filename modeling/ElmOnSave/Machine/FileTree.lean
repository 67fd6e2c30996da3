import ElmOnSave.Decimal.Binary64
import ElmOnSave.Machine.Fault
import ElmOnSave.Path
import ElmOnSave.Text.Utf8

/-!
# Files

A file tree maps absolute paths, given as lists of names, to files and directories.  `FileTree.stat`
walks a path the way an operating system does: every name but the last must be a directory, `..`
leads back to the directory above, and a name or path may be too long.  The files are seen as a
superuser sees them: no question about them is refused for want of permission, and of the permission
bits only those for execution count.
-/

namespace ElmOnSave

/-- What a program does that does the same whenever it runs. -/
structure Performance where
  /-- Octets written to standard output. -/
  stdout : Octets
  /-- Octets written to standard error. -/
  stderr : Octets
  /-- How long it waits, in seconds, after writing; a program that waits exits with zero. -/
  sleep : Option Binary64
  exit : Nat
deriving Repr, Inhabited

/-- What an executable file does when it runs. -/
inductive Program where
  | fixed (p : Performance)
  /-- Runs scripts. -/
  | shell
  /-- Writes its arguments. -/
  | echo
  /-- Writes the files it is given, or else its input. -/
  | concatenate
  /-- Runs another program with other environment variables. -/
  | environment
deriving Repr, Inhabited

/-- What a path leads to. -/
inductive Node where
  | directory
  /-- A regular file with its content, its permission bits and, if it is more than a text, what it
  does when it runs. -/
  | file (content : Octets) (mode : Nat) (program : Option Program)
  /-- Something that is neither a regular file nor a directory, such as the null device. -/
  | device
deriving Repr, Inhabited

namespace Node

def isDirectory : Node → Bool
  | directory => true
  | _ => false

def isFile : Node → Bool
  | file .. => true
  | _ => false

/-- Whether anyone may execute the node, which then a superuser may. -/
def isExecutable : Node → Bool
  | directory => true
  | file _ mode _ => mode &&& 0o111 != 0
  | device => false

end Node

/-- The files and directories by the names that lead to them; the root is always a directory. -/
structure FileTree where
  nodes : List (List String × Node)
deriving Repr, Inhabited

namespace FileTree

/-- What stands at exactly the given names. -/
def node? (t : FileTree) (names : List String) : Option Node :=
  if names = [] then some .directory else t.nodes.lookup names

/-- The greatest number of octets of a name. -/
def nameLimit : Nat := 255

/-- The number of octets from which a path is too long. -/
def pathLimit : Nat := 4096

/-- The names in a directory, each once. -/
def entries (t : FileTree) (names : List String) : List String :=
  let inside := t.nodes.filterMap fun n =>
    match n.1.getLast? with
    | some last => if n.1.dropLast = names then some last else none
    | none => none
  inside.eraseDups

/-- The tree with something else at the given names. -/
def put (t : FileTree) (names : List String) (n : Node) : FileTree :=
  ⟨(names, n) :: t.nodes.filter fun e => e.1 != names⟩

/-- One name further from a node: the names behind it and what stands there. -/
def step (t : FileTree) (here : List String × Node) (name : String) :
    Except Errno (List String × Node) :=
  if !here.2.isDirectory then .error .notDirectory
  else if name = "" ∨ name = "." then .ok here
  else if name = ".." then .ok (here.1.dropLast, .directory)
  else if nameLimit < name.utf8ByteSize then .error .nameTooLong
  else
    match t.node? (here.1 ++ [name]) with
    | some n => .ok (here.1 ++ [name], n)
    | none => .error .noEntry

/-- All names, one after the other. -/
def walk (t : FileTree) : List String × Node → List String → Except Errno (List String × Node)
  | here, [] => .ok here
  | here, n :: ns =>
    match t.step here n with
    | .ok next => t.walk next ns
    | .error e => .error e

end FileTree

end ElmOnSave
