import ElmOnSave.Shell.Session

/-!
# Names of files that match a pattern

A pattern of a path is matched name by name.  A name that starts with a dot has to be asked for by a
dot.  What matches is listed in the order of the octets.
-/

namespace ElmOnSave.Shell

/-- The names in the directory at a path, with the two that every directory has. -/
def Session.namesIn (s : Session) (path : List Char) : List (List Char) :=
  match s.stat (if path.isEmpty then ['.'] else path) with
  | .ok (names, .directory) =>
    ['.'] :: "..".toList :: (s.world.machine.tree.entries names).map encoded
  | _ => []

/-- Whether a path leads anywhere. -/
def Session.pathExists (s : Session) (path : List Char) : Bool :=
  (s.stat path).toBool

/-- Whether a pattern accepts the name of a file. -/
def Pattern.acceptsName (p : Pattern) (name : List Char) : Bool :=
  (name.head? != some '.' || p.head?.any (·.char == '.')) && p.accepts name

/-- The texts of patterns as a path. -/
def pathText (ps : List Pattern) : List Char :=
  List.intercalate ['/'] (ps.map Pattern.text)

/-- The paths that start with a path and go on with names that match. -/
def Session.pathsFrom (s : Session) : (start : List Char) → List Pattern → List (List Char)
  | _, [] => []
  | start, p :: ps =>
    if p.isOpen then
      let found := (s.namesIn start).filter p.acceptsName
      if ps.isEmpty then found.map (start ++ ·)
      else if ps.any Pattern.isOpen then found.flatMap fun n => s.pathsFrom (start ++ n ++ ['/']) ps
      else
        (found.map fun n => start ++ n ++ '/' :: pathText ps).filter s.pathExists
    else s.pathsFrom (start ++ p.text ++ ['/']) ps

/-- The paths that match a pattern, in order. -/
def Session.paths (s : Session) (p : Pattern) : List (List Char) :=
  (s.pathsFrom [] p.names).mergeSort fun a b => decide (String.ofList a ≤ String.ofList b)

end ElmOnSave.Shell
