import ElmOnSave.Shell.Expansion

/-!
# Redirections

A redirection makes a descriptor lead to another open file.  The words of all redirections of a
command are filled in before the first of them takes effect.
-/

namespace ElmOnSave.Shell

/-- A redirection whose word is filled in. -/
inductive Opening where
  | file (descriptor : Nat) (access : Access) (path : List Char)
  | duplicate (descriptor origin : Nat)
  | close (descriptor : Nat)
  | text (descriptor : Nat) (content : List Char)
deriving Repr, Inhabited

/-- The wording of a refusal to open a file. -/
def openFault (creates : Bool) (e : Errno) : List Char :=
  match e with
  | .noEntry | .notDirectory =>
    if creates then "Directory nonexistent".toList else "No such file".toList
  | e => e.message.toList

/-- The descriptor that a path stands for. -/
def descriptorPath? (path : List Char) : Option Nat :=
  match String.ofList path with
  | "/dev/stdin" => some 0
  | "/dev/stdout" => some 1
  | "/dev/stderr" => some 2
  | _ =>
    match path.drop "/dev/fd/".length with
    | [c] => if "/dev/fd/".toList.isPrefixOf path && c.isDigit then some (c.toNat - 48) else none
    | _ => none

/-- Where a file is or would be, and what is there. -/
def Session.place (s : Session) (path : List Char) : Except Errno (List String × Option Node) :=
  match s.stat path with
  | .ok (names, n) => .ok (names, some n)
  | .error .noEntry =>
    let last := (path.reverse.takeWhile (· != '/')).reverse
    let above := path.take (path.length - last.length)
    if last.isEmpty then .error (if path.isEmpty then .noEntry else .isDirectory)
    else
      match s.stat (if above.isEmpty then ['.'] else above) with
      | .ok (names, .directory) =>
        if FileTree.nameLimit < last.length then .error .nameTooLong
        else .ok (names ++ [decoded last], none)
      | .ok _ => .error .notDirectory
      | .error e => .error e
  | .error e => .error e

/-- The session with an empty file. -/
def Session.clear (s : Session) (names : List String) : Session :=
  let m := s.world.machine
  let mode := match m.tree.node? names with
    | some (.file _ mode _) => mode
    | _ => 0o644
  { s with world := { s.world with machine := { m with
    tree := m.tree.put names (.file [] mode none) } } }

/-- Opens a file at a descriptor. -/
def openPath (descriptor : Nat) (access : Access) (path : List Char) : Act Unit := do
  let s ← get
  match (descriptorPath? path).bind s.fileNumber? with
  | some n => set (s.connect descriptor n)
  | none =>
    let creates := access ≠ .read
    let refuse : Errno → Act Unit := fun e =>
      fail ((if creates then "cannot create " else "cannot open ").toList ++ path ++
        ": ".toList ++ openFault creates e)
    let lead : Session → Target → Act Unit := fun s target => do
      let (s, n) := s.addFile ⟨target, 0, access = .append⟩
      set (s.connect descriptor n)
    match if creates then s.place path else (s.stat path).map fun r => (r.1, some r.2) with
    | .error e => refuse e
    | .ok (names, none) => lead (s.clear names) (.file names)
    | .ok (names, some (.file ..)) =>
      lead (if access = .write then s.clear names else s) (.file names)
    | .ok (_, some .directory) => if creates then refuse .isDirectory else lead s .nothing
    | .ok (_, some .device) => lead s .nothing

/-- Lets a redirection take effect. -/
def Opening.apply : Opening → Act Unit
  | file descriptor access path => openPath descriptor access path
  | close descriptor => modify fun s => s.disconnect descriptor
  | duplicate descriptor origin => do
    let s ← get
    match s.fileNumber? origin with
    | some n => set (s.connect descriptor n)
    | none => fail (Text.natDigits origin ++ ": Bad file descriptor".toList)
  | text descriptor content => do
    let (s, n) := (← get).addFile ⟨.stream [content], 0, false⟩
    set (s.connect descriptor n)

/-- As many rounds as filling in a word can take. -/
def wordBudget : Nat := 1000000

/-- What a word comes to as one text. -/
def expandText (outputs : Outputs) (purpose : Purpose) (w : Word) : Act (List Char) := do
  return Piece.text (← expandParts outputs wordBudget purpose true w)

/-- The pattern a word comes to. -/
def expandPattern (outputs : Outputs) (w : Word) : Act Pattern := do
  return Glyph.pattern ((← expandParts outputs wordBudget .text true w).flatMap Piece.glyphs)

/-- What a word comes to as an argument of a command: any number of texts. -/
def expandFields (outputs : Outputs) (w : Word) : Act (List (List Char)) := do
  let pieces ← expandParts outputs wordBudget .argument true w
  let s ← get
  return (Piece.fields s.separators pieces).flatMap fun gs =>
    let pattern := Glyph.pattern gs
    let found := if s.has 'f' || !pattern.names.any Pattern.isOpen then [] else s.paths pattern
    if found.isEmpty then [Glyph.text gs] else found

/-- Fills in the word of a redirection. -/
def Redirection.opening (outputs : Outputs) : Redirection → Act Opening
  | .file descriptor access path =>
    return .file descriptor access (← expandText outputs .text path)
  | .duplicate descriptor _ origin => do
    match ← expandText outputs .text origin with
    | ['-'] => return .close descriptor
    | [c] =>
      if c.isDigit then return .duplicate descriptor (c.toNat - 48)
      else failReading SyntaxFault.badDescriptor.message.toList
    | _ => failReading SyntaxFault.badDescriptor.message.toList
  | .document descriptor number => do
    let parts := ((← get).documents.lookup number).getD []
    return .text descriptor
      (Piece.text (← expandParts outputs wordBudget .text false parts))

end ElmOnSave.Shell
