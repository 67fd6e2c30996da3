import ElmOnSave.Command.Resolve
import ElmOnSave.CompilerOutput.Collector
import ElmOnSave.Machine.Process
import ElmOnSave.Project.Root
import ElmOnSave.Project.TestFile

/-!
# Running the compiler

A run finds the project of a file, starts the compiler there and reads what it reports.  A compiler
that cannot be found is no failure: the run yields nothing and the user is told.  The exit status of
the compiler does not count; only what it reports does.
-/

namespace ElmOnSave

/-- A request to compile a file. -/
structure CompileRequest where
  /-- The file, an absolute path in normal spelling. -/
  file : String
  /-- The root for files outside every project. -/
  workspace : Option String
  config : Config
  /-- The root and generation, when they need not be detected. -/
  project : Option (Path × Generation)
  /-- Whether the file is a test, when that need not be found out. -/
  isTest : Option Bool
deriving Repr, Inhabited

/-- What a run yields. -/
structure RunResult where
  diagnostics : List Diagnostic
  /-- The directory the compiler ran in. -/
  projectRoot : Path
  generation : Generation
  command : Command
  compilerMissing : Bool
deriving Repr, Inhabited

/-- How a run ended, what the user was told and which programs ran. -/
structure RunOutcome where
  result : Except Fault RunResult
  notices : List String
  runs : List RunRecord
deriving Inhabited

namespace CompileRequest

/-- A request to compile a file seen from the working directory. -/
def ofFile (m : Machine) (file : String) (workspace : Option String) (config : Config) :
    CompileRequest :=
  ⟨Path.absText m.cwd file, workspace, config, none, none⟩

/-- The command that compiles the file and the generation it belongs to. -/
def prepare [Platform] (m : Machine) (r : CompileRequest) :
    Except Fault (Command × Generation) := do
  let (root, generation) ←
    match r.project with
    | some p => pure p
    | none => detectProject m (Path.ofString r.file) (r.workspace.map Path.ofString)
  let isTest := r.isTest.getD (isTestFile m.here (Path.ofString r.file) (some root))
  return (generation.command r.file root isTest r.config false, generation)

end CompileRequest

/-- What the user is told when the compiler cannot be found. -/
def missingNotice (program : String) : String :=
  "The elm compiler is not available (" ++ program ++ "). Install Elm from https://elm-lang.org."

/-- The greatest length of a line that is read. -/
def streamLineLimit : Nat := 64 * 1024 * 1024

/-- The stream of a process. -/
def Execution.stream (x : Execution) : OutputStream → Octets
  | .stdout => x.stdout
  | .stderr => x.stderr

/-- The number of octets on a stream when a pause began. -/
def Pause.written (p : Pause) : OutputStream → Nat
  | .stdout => p.stdout
  | .stderr => p.stderr

/-- The stream beside another one. -/
def OutputStream.other : OutputStream → OutputStream
  | .stdout => .stderr
  | .stderr => .stdout

namespace CompilerRun

/-- Whether a limit is reached before a time. -/
def limitReached (limit : Option Binary64) (time : Binary64) : Bool :=
  match limit with
  | none => false
  | some l => !time.lt l

/-- The first pause in which a limit is reached, given the time that has passed before. -/
def pauseAtLimit? (limit : Option Binary64) : (time : Binary64) → List Pause → Option Pause
  | _, [] => none
  | time, p :: ps =>
    if limitReached limit (time.add p.seconds) then some p
    else pauseAtLimit? limit (time.add p.seconds) ps

end CompilerRun

namespace Execution

variable [Platform] (limit : Option Binary64) (x : Execution)

/-- The pause in which a process reaches a time limit. -/
def cutOff? : Option Pause :=
  CompilerRun.pauseAtLimit? limit Platform.startupTime x.pauses

/-- Whether a process waits for longer than it may. -/
def isCutOff : Bool :=
  (x.cutOff? limit).isSome

/-- What arrives on a stream within a time limit. -/
def received (s : OutputStream) : Octets :=
  match x.cutOff? limit with
  | some p => (x.stream s).take (p.written s)
  | none => x.stream s

end Execution

namespace CompilerRun

/-- The diagnostics a process yields, given the chunks in which its two streams arrive: the first
failure of the report stream, else the failure of the whole project, else what was reported. -/
def conclude [Platform] (g : Generation) (file : String) (report other : List Octets) :
    Except Fault (List Diagnostic) :=
  let c := CompilerOutput.collectChunks g file streamLineLimit report true
  match c.fault with
  | some f => .error f
  | none =>
    match CompilerOutput.projectFailure? g file other with
    | some d => .ok [d]
    | none => .ok c.diagnostics

/-- The diagnostics a process yields within a time limit.  A process that waits longer than is
allowed is cut off, unless a complete line of its report that arrived before already failed. -/
def supervise [Platform] (g : Generation) (r : CompileRequest) (c : Command) (x : Execution) :
    Except Fault (List Diagnostic) :=
  let limit := r.config.timeout
  let report := [x.received limit g.reportStream]
  let other := [x.received limit g.reportStream.other]
  let late := Fault.timedOut c.words (limit.getD .zero)
  if limitReached limit Platform.startupTime then .error late
  else if x.isCutOff limit then
    .error ((CompilerOutput.collectChunks g r.file streamLineLimit report false).fault.getD late)
  else conclude g r.file report other

/-- The result of a run whose compiler cannot be found. -/
def missing (c : Command) (g : Generation) : RunOutcome :=
  ⟨.ok ⟨[], c.cwd, g, c, true⟩, [missingNotice c.program], []⟩

/-- The outcome of a run that could not be started. -/
def notStarted (c : Command) (g : Generation) (f : SystemFault) : RunOutcome :=
  if f.errno = .noEntry then missing c g
  else ⟨.error (.notStarted c.program f c.words), [], []⟩

/-- Starts a command whose program was located. -/
def startCommand (m : Machine) (c : Command) : Except StartFault Execution :=
  if c.shell then m.startLine c.cwd.text c.line else m.start c.cwd.text c.program c.args

/-- Runs a prepared command. -/
def runCommand [Platform] (m : Machine) (r : CompileRequest) (c : Command) (g : Generation) :
    RunOutcome :=
  match c.resolve m with
  | .error (.programAbsent _) => missing c g
  | .error (.system f) => notStarted c g f
  | .error f => ⟨.error f, [], []⟩
  | .ok located =>
    match startCommand m located with
    | .error (.system f) => notStarted c g f
    | .error .nullByte => ⟨.error .nullByte, [], []⟩
    | .ok x =>
      ⟨(supervise g r c x).map fun ds => ⟨ds, c.cwd, g, c, false⟩, [], x.runs⟩

/-- Runs the compiler for a request. -/
def run [Platform] (m : Machine) (r : CompileRequest) : RunOutcome :=
  match r.prepare m with
  | .error f => ⟨.error f, [], []⟩
  | .ok (c, g) => runCommand m r c g

end CompilerRun

end ElmOnSave
