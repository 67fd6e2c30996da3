import ElmOnSave.Machine

/-!
# Files that are run

The operating system runs a file that may be executed and that is a program or a script.  The first
line of a script names what runs it: two signs, the path of another file and perhaps one argument,
which may hold blanks.  That file is run in its place, with the path of the script as an argument.
-/

namespace ElmOnSave

/-- A program that ran. -/
structure RunRecord where
  /-- The names that lead to the program. -/
  program : List String
  cwd : String
  args : List String
deriving Repr, DecidableEq, Inhabited

/-- A wait of a program: how long it lasts, in seconds, and how many octets had been written to the
two streams of the process when it began. -/
structure Pause where
  seconds : Binary64
  stdout : Nat
  stderr : Nat
deriving Repr, Inhabited

/-- A program that is to run, with the names that lead to it and its arguments. -/
structure Image where
  program : Program
  names : List String
  /-- What the program is called by. -/
  calledBy : String
  args : List String
deriving Repr, Inhabited

namespace Machine

/-- The number of octets from which an argument is too long. -/
def argumentLimit : Nat := 131071

/-- How many octets of a script are looked at. -/
def firstLineLimit : Nat := 256

/-- How many scripts may run each other. -/
def chainLimit : Nat := 5

/-- Whether an octet separates the path in the first line of a script from the argument. -/
def isLineBlank (o : UInt8) : Bool :=
  o == 32 || o == 9

/-- Octets without blanks at their end. -/
def trimEnd (os : Octets) : Octets :=
  (os.reverse.dropWhile isLineBlank).reverse

/-- Whether a file starts like a script. -/
def isScript (content : Octets) : Bool :=
  match content with
  | 35 :: 33 :: _ => true
  | _ => false

/-- What follows the two signs on the first line of a script.  Where no line ends, the file counts
as if zeros followed it, and the path must not reach to the end of what is looked at. -/
def firstLine? (content : Octets) : Option Octets :=
  let seen := content.take firstLineLimit
  if seen.contains 10 then some (trimEnd ((seen.drop 2).takeWhile (· != 10)))
  else
    let zeros := List.replicate (firstLineLimit - seen.length) (0 : UInt8)
    let body := ((seen ++ zeros).take (firstLineLimit - 1)).drop 2
    if (body.dropWhile isLineBlank).any fun o => isLineBlank o || o == 0 then some (trimEnd body)
    else none

/-- A path and perhaps an argument. -/
abbrev Interpreter := String × Option String

/-- What a script names in its first line. -/
def interpreter? (content : Octets) : Option Interpreter :=
  if !isScript content then none
  else
    (firstLine? content).bind fun line =>
      let named := line.dropWhile isLineBlank
      let path := named.takeWhile fun o => !isLineBlank o && o != 0
      let text := fun (os : Octets) => String.ofList (Utf8.decodeLossy os)
      match named.drop path.length with
      | [] => if named.isEmpty then none else some (text path, none)
      | 0 :: _ => some (text path, none)
      | rest =>
        let argument := (rest.dropWhile isLineBlank).takeWhile (· != 0)
        some (text path, some (text argument))

/-- What runs when the file at a path is run, seen from a directory. -/
def imageAt (m : Machine) (start : List String) : (depth : Nat) → (path : String) →
    (args : List String) → Except Errno Image
  | depth, path, args =>
    match m.statFrom start path with
    | .error (.system e) => .error e
    | .error .nullByte => .error .noEntry
    | .ok (names, .file content mode program) =>
      if !(Node.file content mode program).isExecutable then .error .permissionDenied
      else
        match program, depth with
        | some p, 0 => if isScript content then .error .endlessChain else .ok ⟨p, names, path, args⟩
        | some p, _ + 1 => .ok ⟨p, names, path, args⟩
        | none, 0 => .error (if isScript content then .endlessChain else .notExecutable)
        | none, depth + 1 =>
          match interpreter? content with
          | none => .error .notExecutable
          | some (i, argument) =>
            if i = "" then .error .permissionDenied
            else m.imageAt start depth i (argument.toList ++ path :: args)
    | .ok _ => .error .permissionDenied

/-- What runs when the file at a path is run with arguments, seen from a directory. -/
def image (m : Machine) (start : List String) (path : String) (args : List String) :
    Except Errno Image :=
  if args.any fun a => argumentLimit < a.utf8ByteSize then
    match m.statFrom start path with
    | .ok (_, n) =>
      .error (if n.isExecutable && !n.isDirectory then .argumentsTooLong else .permissionDenied)
    | .error (.system e) => .error e
    | .error .nullByte => .error .noEntry
  else m.imageAt start chainLimit path args

/-- Tries paths one after the other.  When none can be run, a refusal that is more than the absence
of the file counts, and of several such the first. -/
def firstImage (m : Machine) (start : List String) (args : List String) :
    List String → Errno → Except Errno Image
  | [], e => .error e
  | p :: ps, e =>
    match m.image start p args with
    | .ok i => .ok i
    | .error e' =>
      let keep := e = .noEntry ∨ e = .notDirectory
      m.firstImage start args ps (if keep then e' else e)

end Machine

end ElmOnSave
