import ElmOnSave.Text.Line

/-!
# Paths

A path is an anchor and the names between its slashes.  Reading a path drops empty names and the
name `.`; nothing else is simplified, so `..` stays until `normalize` resolves it against the name
before it.  Two leading slashes, and only exactly two, are an anchor of their own.

Paths given as text are joined and made absolute by `joinText` and `absText`, which answer with the
normal spelling.
-/

namespace ElmOnSave

/-- What a path starts from. -/
inductive Anchor where
  | relative
  | root
  /-- The root spelled with two slashes. -/
  | doubleRoot
deriving Repr, DecidableEq, Inhabited

/-- The spelling of an anchor. -/
def Anchor.text : Anchor → String
  | relative => ""
  | root => "/"
  | doubleRoot => "//"

/-- An anchor and the names that follow it. -/
structure Path where
  anchor : Anchor
  names : List String
deriving Repr, DecidableEq, Inhabited

namespace Path

/-- The pieces between slashes. -/
def pieces (cs : List Char) : List String :=
  (Text.splitAll (· == '/') cs).map String.ofList

/-- The anchor a text starts with. -/
def anchorOf : List Char → Anchor
  | '/' :: '/' :: '/' :: _ => .root
  | '/' :: '/' :: _ => .doubleRoot
  | '/' :: _ => .root
  | _ => .relative

/-- A name that counts: neither empty nor `.`. -/
def isName (s : String) : Bool :=
  s != "" && s != "."

/-- Reads a path. -/
def ofString (s : String) : Path :=
  ⟨anchorOf s.toList, (pieces s.toList).filter isName⟩

/-- The spelling of a path; a relative path without names is `.`. -/
def text (p : Path) : String :=
  match p.anchor, p.names with
  | .relative, [] => "."
  | a, ns => a.text ++ String.intercalate "/" ns

def isAbsolute (p : Path) : Bool :=
  p.anchor != .relative

/-- The second path seen from the first; an absolute path stands for itself. -/
def join (p q : Path) : Path :=
  if q.isAbsolute then q else ⟨p.anchor, p.names ++ q.names⟩

/-- The path one name further. -/
def child (p : Path) (name : String) : Path :=
  p.join (ofString name)

/-- The path without its last name. -/
def parent (p : Path) : Path :=
  ⟨p.anchor, p.names.dropLast⟩

/-- All paths above, nearest first. -/
def ancestors (p : Path) : List Path :=
  (List.range p.names.length).reverse.map fun n => ⟨p.anchor, p.names.take n⟩

/-- The last name; a path without names has none. -/
def name (p : Path) : String :=
  p.names.getLastD ""

/-- The path seen from a working directory. -/
def absolute (p cwd : Path) : Path :=
  cwd.join p

/-- The names below another path, if the path lies below it. -/
def below? (p root : Path) : Option (List String) :=
  if p.anchor = root.anchor then Text.stripLeading? root.names p.names else none

/-- The last point of a name and what follows it, unless the point comes first or last. -/
def suffix (p : Path) : String :=
  let cs := p.name.toList
  let tail := (cs.reverse.takeWhile (· != '.')).reverse
  let head := cs.length - tail.length
  if 2 ≤ head ∧ tail ≠ [] then "." ++ String.ofList tail else ""

/-! ## Normal paths -/

/-- One name more of a normal path, whose names come latest first: `..` takes the name before it
away, stays when there is none to take, and vanishes at a root. -/
def normalStep (a : Anchor) (acc : List String) (name : String) : List String :=
  if name = ".." then
    match acc with
    | [] => if a = .relative then [".."] else []
    | n :: ns => if n = ".." then ".." :: n :: ns else ns
  else name :: acc

/-- The path without `..`, where a name before it can be taken away. -/
def normalize (p : Path) : Path :=
  ⟨p.anchor, (p.names.foldl (normalStep p.anchor) []).reverse⟩

/-- A text as a path joined behind another, both as they are spelled. -/
def joinText (a b : String) : String :=
  if b.startsWith "/" then b
  else if a = "" ∨ a.endsWith "/" then a ++ b
  else a ++ "/" ++ b

/-- The normal spelling of a path. -/
def normText (s : String) : String :=
  (ofString s).normalize.text

/-- The normal spelling of a path seen from a working directory. -/
def absText (cwd : String) (s : String) : String :=
  normText (joinText cwd s)

/-- Whether a text is an absolute path. -/
def isAbsoluteText (s : String) : Bool :=
  s.startsWith "/"

end Path

end ElmOnSave
