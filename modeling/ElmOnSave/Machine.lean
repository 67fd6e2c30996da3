import ElmOnSave.Machine.FileTree

/-!
# The machine

What the program sees of the machine it runs on: the files, its working directory, its environment
variables and the home directories of the accounts.
-/

namespace ElmOnSave

/-- The surroundings of the program. -/
structure Machine where
  tree : FileTree
  /-- The working directory, an absolute path.  That it is there is `HasWorkingDirectory`. -/
  cwd : String
  /-- The environment variables. -/
  environment : List (String × String)
  /-- The home directories of the accounts. -/
  accounts : List (String × String)
deriving Repr, Inhabited

/-- Why nothing can be said about a path. -/
inductive LookupFault where
  | system (e : Errno)
  /-- The path holds a character that no path may hold. -/
  | nullByte
deriving Repr, DecidableEq, Inhabited

namespace Machine

/-- The value of an environment variable. -/
def valueOf? (m : Machine) (name : String) : Option String :=
  m.environment.lookup name

/-- The working directory as a path. -/
def here (m : Machine) : Path :=
  Path.ofString m.cwd

/-- The names of the working directory. -/
def cwdNames (m : Machine) : List String :=
  (Path.ofString m.cwd).names

/-- What a path leads to from a directory. -/
def statFrom (m : Machine) (start : List String) (path : String) :
    Except LookupFault (List String × Node) :=
  if path.toList.contains (Char.ofNat 0) then .error .nullByte
  else if path = "" then .error (.system .noEntry)
  else if FileTree.pathLimit ≤ path.utf8ByteSize then .error (.system .nameTooLong)
  else
    let start := if Path.isAbsoluteText path then [] else start
    match m.tree.node? start with
    | none => .error (.system .noEntry)
    | some n =>
      match m.tree.walk (start, n) (Path.pieces path.toList) with
      | .ok r => .ok r
      | .error e => .error (.system e)

/-- What a path leads to from the working directory. -/
def stat (m : Machine) (path : String) : Except LookupFault Node :=
  (m.statFrom m.cwdNames path).map Prod.snd

/-- The working directory is there.  Where it has been removed, nothing can be said of a relative
path, and whatever asks for one fails. -/
structure HasWorkingDirectory (m : Machine) : Prop where
  absolute : Path.isAbsoluteText m.cwd = true
  directory : m.stat m.cwd = .ok .directory

/-- A yes-or-no question about what a path leads to.  A path that leads nowhere is answered by no;
a path that is too long cannot be asked about. -/
def ask (m : Machine) (question : Node → Bool) (p : Path) : Except SystemFault Bool :=
  match m.stat p.text with
  | .ok n => .ok (question n)
  | .error (.system .nameTooLong) => .error ⟨.nameTooLong, p.text⟩
  | .error _ => .ok false

def isFile (m : Machine) (p : Path) : Except SystemFault Bool :=
  m.ask Node.isFile p

def isDirectory (m : Machine) (p : Path) : Except SystemFault Bool :=
  m.ask Node.isDirectory p

def pathExists (m : Machine) (p : Path) : Except SystemFault Bool :=
  m.ask (fun _ => true) p

/-- The content of a file. -/
def readFile (m : Machine) (path : String) : Except LookupFault Octets :=
  match m.stat path with
  | .ok (.file content _ _) => .ok content
  | .ok .device => .ok []
  | .ok .directory => .error (.system .isDirectory)
  | .error e => .error e

/-! ## Home directories -/

/-- The text without slashes at its end. -/
def dropEndSlashes (s : String) : String :=
  String.ofList (s.toList.reverse.dropWhile (· == '/')).reverse

/-- The home directory that a leading tilde with a name stands for. -/
def home? (m : Machine) (account : String) : Option String :=
  if account = "" then
    match m.valueOf? "HOME" with
    | some h => some h
    | none => m.accounts.lookup "root"
  else m.accounts.lookup account

/-- Replaces a tilde at the start of a text by the home directory of the account it names; a text
that names no known account stays as it is. -/
def expandTilde (m : Machine) (s : String) : String :=
  match s.toList with
  | '~' :: cs =>
    let account := cs.takeWhile (· != '/')
    match m.home? (String.ofList account) with
    | some h =>
      let full := dropEndSlashes h ++ String.ofList (cs.drop account.length)
      if full = "" then "/" else full
    | none => s
  | _ => s

/-- Whether a text starts with a tilde and a name that cannot be looked up, because a null character
stands in it. -/
def namesNullAccount (s : String) : Bool :=
  match s.toList with
  | '~' :: cs => (cs.takeWhile (· != '/')).contains (Char.ofNat 0)
  | _ => false

/-- A path with a tilde in front replaced by a home directory; there may be none. -/
def expandHome? (m : Machine) (p : Path) : Option Path :=
  match p.anchor, p.names with
  | .relative, n :: ns =>
    if n.startsWith "~" then
      let h := m.expandTilde n
      if h.startsWith "~" then none else some ((Path.ofString h).join ⟨.relative, ns⟩)
    else some p
  | _, _ => some p

end Machine

end ElmOnSave
