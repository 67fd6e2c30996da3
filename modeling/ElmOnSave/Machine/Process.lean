import ElmOnSave.Shell.Run

/-!
# Processes

A process is started in a directory from a list of words, of which the first names the program, or
from a line that a shell reads.  What it did is known when it has ended: what it wrote to its two
output streams, how long it waited and how far it had written by then, how it ended and which
programs ran.
-/

namespace ElmOnSave

/-- How a process ended. -/
inductive ExitStatus where
  | code (n : Nat)
  /-- A signal ended it. -/
  | signal (n : Nat)
deriving Repr, DecidableEq, Inhabited

/-- What a process did. -/
structure Execution where
  stdout : Octets
  stderr : Octets
  /-- How it waited, in order. -/
  pauses : List Pause
  exit : ExitStatus
  /-- The programs that ran, in order. -/
  runs : List RunRecord
deriving Repr, Inhabited

/-- Why a process cannot be started. -/
inductive StartFault where
  | system (cause : SystemFault)
  | nullByte
deriving Repr, DecidableEq, Inhabited

namespace Machine

/-- The paths at which the operating system looks for a program. -/
def programPaths (m : Machine) (program : String) : List String :=
  if program.toList.contains '/' then [program]
  else
    let path := (m.valueOf? "PATH").getD "/bin:/usr/bin"
    (Text.splitAll (· == ':') path.toList).map fun d => Path.joinText (String.ofList d) program

/-- The directory a process is started in. -/
def enter (m : Machine) (cwd : String) : Except StartFault (List String) :=
  match m.statFrom m.cwdNames cwd with
  | .ok (names, .directory) => .ok names
  | .ok _ => .error (.system ⟨.notDirectory, cwd⟩)
  | .error (.system e) => .error (.system ⟨e, cwd⟩)
  | .error .nullByte => .error .nullByte

/-- The octets written to an open file. -/
def written (w : Shell.World) (n : Nat) : Octets :=
  Shell.toOctets (((w.openFiles[n]?).map w.contentOf).getD [])

/-- Runs what was found for a program in a directory; nothing can be read from its input. -/
def runImage (m : Machine) (names : List String) (i : Image) : Execution :=
  let streams : List Shell.OpenFile :=
    [⟨.nothing, 0, false⟩, ⟨.stream [], 0, false⟩, ⟨.stream [], 0, false⟩]
  let world : Shell.World := ⟨m, streams, [], [], []⟩
  let start := Shell.Session.fresh world names [(0, 0), (1, 1), (2, 2)] []
  let act := Shell.perform (Shell.runCommand Shell.nestingLimit) Shell.performBudget i
  let (r, s) := act.run start
  let s := s.settle
  let exit := match r with
    | .error (.signal n) => ExitStatus.signal n
    | _ => .code (s.status % 256)
  ⟨written s.world 1, written s.world 2, s.world.pauses.reverse, exit, s.world.runs.reverse⟩

/-- Starts a process from words, of which the first is the program, in a directory. -/
def start (m : Machine) (cwd : String) (program : String) (args : List String) :
    Except StartFault Execution :=
  if (program :: args).any fun a => a.toList.contains (Char.ofNat 0) then .error .nullByte
  else
    match m.enter cwd with
    | .error e => .error e
    | .ok names =>
      match m.firstImage names args (m.programPaths program) .noEntry with
      | .ok i => .ok (m.runImage names i)
      | .error e => .error (.system ⟨e, program⟩)

/-- Where the shell is that runs lines. -/
def shellPath : String := "/bin/sh"

/-- Starts a shell that runs a line, in a directory. -/
def startLine (m : Machine) (cwd : String) (line : String) : Except StartFault Execution :=
  m.start cwd shellPath ["-c", line]

end Machine

end ElmOnSave
