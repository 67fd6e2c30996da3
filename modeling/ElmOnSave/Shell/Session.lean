import ElmOnSave.Machine.Image
import ElmOnSave.Shell.Grammar
import ElmOnSave.Shell.Pattern

/-!
# The state of a shell

A `Session` is a shell that runs.  Part of it, the `World`, it shares with every process it starts:
the files, the streams and what became of the programs that ran.  The rest is its own: variables,
functions, the working directory and which descriptor leads to which open file.  An `Act` changes a
session and may end it.
-/

namespace ElmOnSave.Shell

/-! ## Octets and characters -/

/-- The text whose characters stand for the given octets. -/
def ofOctets (os : Octets) : List Char :=
  os.map fun o => Char.ofNat o.toNat

/-- The octets that the characters of a text stand for. -/
def toOctets (cs : List Char) : Octets :=
  cs.map fun c => UInt8.ofNat c.toNat

/-- A string as a text of octets. -/
def encoded (s : String) : List Char :=
  ofOctets (Utf8.encode s.toList)

/-- A text of octets as a string. -/
def decoded (cs : List Char) : String :=
  String.ofList (Utf8.decodeLossy (toOctets cs))

/-! ## The state -/

/-- A variable. -/
structure Variable where
  /-- There may be marks on a variable that has no value. -/
  value : Option (List Char)
  exported : Bool
  readOnly : Bool
deriving Repr, Inhabited

/-- What an open file leads to. -/
inductive Target where
  /-- A device that holds nothing and keeps nothing. -/
  | nothing
  /-- What was written so far, the latest text first. -/
  | stream (texts : List (List Char))
  | file (names : List String)
deriving Repr, Inhabited

/-- An open file. -/
structure OpenFile where
  target : Target
  /-- Where reading and writing go on. -/
  position : Nat
  /-- Whether writing always goes on at the end. -/
  appends : Bool
deriving Repr, Inhabited

/-- What all processes share. -/
structure World where
  machine : Machine
  openFiles : List OpenFile
  /-- The programs that ran, the latest first. -/
  runs : List RunRecord
  /-- How programs waited, the latest wait first. -/
  pauses : List Pause
  /-- What was written by processes nobody waits for, and the open files where it will show: it
  shows when the shell next waits for something. -/
  late : List (Nat × Nat)
deriving Repr, Inhabited

/-- Why the commands that come next are left out. -/
inductive Leaving where
  /-- The given number of loops is left. -/
  | loops (n : Nat)
  /-- All but one of the given number of loops are left, and that one goes on. -/
  | rounds (n : Nat)
  | function
deriving Repr, DecidableEq, Inhabited

/-- How a process ends before it has run all its commands. -/
inductive Halt where
  | fault
  | exit
  | signal (n : Nat)
deriving Repr, DecidableEq, Inhabited

/-- A shell that runs. -/
structure Session where
  world : World
  /-- What the shell is called by. -/
  name : List Char
  /-- The line of the command that runs. -/
  line : Nat
  /-- The line up to which the script was read. -/
  readLine : Nat
  /-- The command of the shell itself that runs, if one does. -/
  running : Option (List Char)
  directory : List String
  bindings : List (List Char × Variable)
  functions : List (List Char × Command)
  arguments : List (List Char)
  status : Nat
  /-- The status of the latest substitution of a command. -/
  outputStatus : Nat
  descriptors : List (Nat × Nat)
  options : List Char
  documents : List (Nat × Word)
  /-- How many loops surround the command that runs. -/
  loops : Nat
  /-- How many functions and files surround the command that runs. -/
  calls : Nat
  leaving : Option Leaving
  /-- For each function that runs, the variables it has to restore. -/
  scopes : List (List (List Char × Option Variable))
  /-- The commands that run when a signal arrives; zero stands for the end of the shell. -/
  traps : List (Nat × List Char)
  /-- The signals that arrived and have not been answered. -/
  arrived : List Nat
  /-- The permissions that new files do not get. -/
  mask : Nat
  /-- The names of programs that were looked for and found. -/
  located : List (List Char)
  /-- The process that was last left alone. -/
  lastBackground : Option Nat
deriving Inhabited

/-- A change of a session that may end it. -/
abbrev Act (α : Type) := ExceptT Halt (StateM Session) α

/-- The number that stands for the process of the shell. -/
def processNumber : Nat := 4242

namespace Session

/-! ## Variables -/

/-- The value of a variable. -/
def valueOf? (s : Session) (name : List Char) : Option (List Char) :=
  (s.bindings.lookup name).bind Variable.value

/-- The characters that separate fields. -/
def separators (s : Session) : List Char :=
  (s.valueOf? "IFS".toList).getD " \t\n".toList

/-- The session with something else known of a variable. -/
def putVariable (s : Session) (name : List Char) (v : Variable) : Session :=
  { s with bindings := (name, v) :: s.bindings.filter fun e => e.1 != name }

/-- The session without a variable. -/
def dropVariable (s : Session) (name : List Char) : Session :=
  { s with bindings := s.bindings.filter fun e => e.1 != name }

/-- The variables that programs get to see. -/
def environment (s : Session) : List (String × String) :=
  s.bindings.filterMap fun (name, v) =>
    if v.exported then v.value.map fun value => (decoded name, decoded value) else none

/-- Whether an option is set. -/
def has (s : Session) (option : Char) : Bool :=
  s.options.contains option

end Session

/-! ## Files -/

/-- The octets of an open file, all of them. -/
def World.contentOf (w : World) (f : OpenFile) : List Char :=
  match f.target with
  | .nothing => []
  | .stream texts => texts.reverse.flatten
  | .file names =>
    match w.machine.tree.node? names with
    | some (.file content _ _) => ofOctets content
    | _ => []

/-- The world with another open file at a number. -/
def World.putFile (w : World) (n : Nat) (f : OpenFile) : World :=
  { w with openFiles := w.openFiles.set n f }

/-- A text with another text written over it from a place on. -/
def overwrite (content : List Char) (place : Nat) (text : List Char) : List Char :=
  let before := content.take place
  before ++ List.replicate (place - before.length) (Char.ofNat 0) ++ text ++
    content.drop (place + text.length)

/-- Writes a text to an open file. -/
def World.write (w : World) (n : Nat) (text : List Char) : World :=
  match w.openFiles[n]? with
  | none => w
  | some f =>
    match f.target with
    | .nothing => w
    | .stream texts => w.putFile n { f with target := .stream (text :: texts) }
    | .file names =>
      let mode := match w.machine.tree.node? names with
        | some (.file _ mode _) => mode
        | _ => 0o644
      let content := w.contentOf f
      let place := if f.appends then content.length else f.position
      let node := Node.file (toOctets (overwrite content place text)) mode none
      let w := { w with machine := { w.machine with tree := w.machine.tree.put names node } }
      w.putFile n { f with position := place + text.length }

/-- The number of octets in the open file at a number. -/
def World.sizeAt (w : World) (n : Nat) : Nat :=
  ((w.openFiles[n]?).map fun f => (w.contentOf f).length).getD 0

/-- The world after a program waited.  The streams of the process are the open files one and two. -/
def World.paused (w : World) (seconds : Binary64) : World :=
  { w with pauses := ⟨seconds, w.sizeAt 1, w.sizeAt 2⟩ :: w.pauses }

namespace Session

/-- The open file behind a descriptor. -/
def fileNumber? (s : Session) (descriptor : Nat) : Option Nat :=
  s.descriptors.lookup descriptor

/-- The session after a text was written to a descriptor. -/
def write (s : Session) (descriptor : Nat) (text : List Char) : Session :=
  match s.fileNumber? descriptor with
  | some n => { s with world := s.world.write n text }
  | none => s

/-- The session with another open file, and its number. -/
def addFile (s : Session) (f : OpenFile) : Session × Nat :=
  let n := s.world.openFiles.length
  ({ s with world := { s.world with openFiles := s.world.openFiles ++ [f] } }, n)

/-- The session with a descriptor leading to an open file. -/
def connect (s : Session) (descriptor n : Nat) : Session :=
  { s with descriptors := (descriptor, n) :: s.descriptors.filter fun e => e.1 != descriptor }

/-- The session with a descriptor closed. -/
def disconnect (s : Session) (descriptor : Nat) : Session :=
  { s with descriptors := s.descriptors.filter fun e => e.1 != descriptor }

/-- The session in which everything shows that was written by processes nobody waits for. -/
def settle (s : Session) : Session :=
  let texts := s.world.late.map fun (n, source) =>
    (n, ((s.world.openFiles[source]?).map s.world.contentOf).getD [])
  { s with world := texts.foldl (fun w (n, text) => w.write n text) { s.world with late := [] } }

/-- The session with a new stream at a descriptor, which will show where the descriptor leads. -/
def postpone (s : Session) (descriptor : Nat) : Session :=
  match s.fileNumber? descriptor with
  | none => s
  | some n =>
    let (s, source) := s.addFile ⟨.stream [], 0, false⟩
    let s := { s with world := { s.world with late := s.world.late ++ [(n, source)] } }
    s.connect descriptor source

/-- What can still be read from a descriptor. -/
def pending (s : Session) (descriptor : Nat) : List Char :=
  match (s.fileNumber? descriptor).bind fun n => s.world.openFiles[n]? with
  | some f => (s.world.contentOf f).drop f.position
  | none => []

/-- The session after some characters were read from a descriptor. -/
def advance (s : Session) (descriptor count : Nat) : Session :=
  match s.fileNumber? descriptor with
  | some n =>
    match s.world.openFiles[n]? with
    | some f =>
      { s with world := s.world.putFile n { f with position := f.position + count } }
    | none => s
  | none => s

/-- The working directory as a path. -/
def directoryText (s : Session) : List Char :=
  encoded (Path.mk .root s.directory).text

/-- What a path leads to. -/
def stat (s : Session) (path : List Char) : Except Errno (List String × Node) :=
  match s.world.machine.statFrom s.directory (decoded path) with
  | .ok r => .ok r
  | .error (.system e) => .error e
  | .error .nullByte => .error .noEntry

end Session

/-! ## Acts -/

/-- A line about something that went wrong goes to the second stream. -/
def complain (message : List Char) : Act Unit := do
  let s ← get
  let place := s.name ++ ": ".toList ++ Text.natDigits s.line ++ ": ".toList
  let command := match s.running with
    | some name => name ++ ": ".toList
    | none => []
  set (s.write 2 (place ++ command ++ message ++ ['\n']))

/-- Something went wrong that ends the shell, or at least the command of the shell that runs. -/
def fail {α : Type} (message : List Char) : Act α := do
  complain message
  modify fun s => { s with status := 2 }
  throw .fault

/-- Something went wrong that shows where the script was read up to. -/
def failReading {α : Type} (message : List Char) : Act α := do
  modify fun s => { s with line := s.readLine }
  fail ("Syntax error: ".toList ++ message)

/-- Sets a variable. -/
def assign (name value : List Char) (exported : Bool) : Act Unit := do
  let s ← get
  let old := (s.bindings.lookup name).getD ⟨none, false, false⟩
  if old.readOnly then fail (name ++ ": is read only".toList)
  else
    let v : Variable := ⟨some value, old.exported || exported || s.has 'a', false⟩
    set (s.putVariable name v)

end ElmOnSave.Shell
