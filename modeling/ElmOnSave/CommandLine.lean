import ElmOnSave.CommandLine.Arguments
import ElmOnSave.Config.Load
import ElmOnSave.LogLevel
import ElmOnSave.Notice
import ElmOnSave.Publisher
import ElmOnSave.ReportTable

/-!
# The command line

`check` handles one save of a file and prints what is published, as tables or as JSON; `command`
prints the command that such a save would run.  The exit status tells whether errors were found
(`errorsFound`) or the work could not be done (`notDone`).

`run` takes the words of the command line and the machine and answers with everything that can be
seen from outside.
-/

namespace ElmOnSave.CommandLine

/-- The exit status when errors were found. -/
def errorsFound : Nat := 1

/-- The exit status when the work could not be done. -/
def notDone : Nat := 2

/-- What can be seen of the program once it has ended. -/
structure Ending where
  exit : Nat := 0
  stdout : String := ""
  /-- What is written to standard error, the records of the log apart. -/
  stderr : String := ""
  /-- Which records of the log are written to standard error as well. -/
  log : LogSetup := .initial
  runs : List RunRecord := []
deriving Inhabited

/-- How the program ends. -/
inductive Outcome where
  /-- The words make no sense, or name files that they may not name. -/
  | rejected
  | ended (e : Ending)
  /-- A cause that nothing provides for ends the program. -/
  | raised (f : Fault)
deriving Inhabited

/-! ## Files named on the command line -/

/-- The file that was saved: it must exist and be no directory. -/
def savedFile? (m : Machine) (word : String) : Option Path :=
  let p := { Path.ofString (Path.absText m.cwd word) with anchor := .root }
  match m.stat p.text with
  | .ok .directory => none
  | .ok _ => some p
  | .error _ => none

/-- What the path that a word spells leads to; nothing can be asked of a word that is no path. -/
def settingStat (m : Machine) (word : String) : Except LookupFault Node :=
  m.stat (Path.ofString word).text

/-- Whether a file of settings may be read: it is no directory. -/
def mayBeRead (m : Machine) (word : String) : Bool :=
  match settingStat m word with
  | .ok .directory | .error .nullByte => false
  | _ => true

/-- Whether a file is there to be read. -/
def canBeRead (m : Machine) (word : String) : Bool :=
  match settingStat m word with
  | .ok .directory => false
  | .ok _ => true
  | .error _ => false

/-- Whether a path may be a root: it is no file. -/
def mayBeRoot (m : Machine) (word : String) : Bool :=
  match settingStat m word with
  | .ok (.file ..) | .error .nullByte => false
  | _ => true

/-- Whether the paths of the settings are of the right kinds. -/
def settingsFit (m : Machine) (s : Settings) : Bool :=
  s.workspaceRoot.all (mayBeRoot m) && s.config.all (mayBeRead m) &&
    s.analyzerReport.all (canBeRead m)

/-! ## The steps of a command -/

/-- The directory whose configuration counts for a file: its project, else the workspace, else the
directory of the file. -/
def configRoot (m : Machine) (file : Path) (s : Settings) : Except Fault Path := do
  let root ← projectRoot? m file
  return root.getD ((s.workspaceRoot.map Path.ofString).getD file.parent)

/-- The configuration for a file. -/
def configFor [Platform] (m : Machine) (file : Path) (s : Settings) : Except Fault Config := do
  Config.load m m.environment (← configRoot m file s) (s.config.map Path.ofString)

/-- The issues of the analyzer, if a report is named. -/
def issuesFor [Platform] (m : Machine) (s : Settings) : Except Fault (List Diagnostic) :=
  match s.analyzerReport with
  | some path => AnalyzerReport.load m (Path.ofString path)
  | none => .ok []

/-- The length of the code whose text starts here, after its escape character. -/
def codeLength? : List Char → Option Nat
  | '[' :: cs =>
    let parameters := cs.takeWhile fun c => c.isDigit || c == ';' || c == '?'
    match (cs.drop parameters.length).head? with
    | some c => if c.isAlpha then some (parameters.length + 2) else none
    | none => none
  | _ => none

/-- The text without the codes that a terminal would act on. -/
def withoutCodes (cs : List Char) : List Char :=
  (go cs 0 []).reverse
where
  /-- Works through the characters with the number of those still to be left out and the result so
  far, the latest first. -/
  go : List Char → Nat → List Char → List Char
  | [], _, acc => acc
  | _ :: cs, n + 1, acc => go cs n acc
  | c :: cs, 0, acc =>
    if c = Char.ofNat 27 then
      match codeLength? cs with
      | some n => go cs n acc
      | none => go cs 0 (c :: acc)
    else go cs 0 (c :: acc)

/-- A text as a line of output that is not meant for a terminal. -/
def echo (s : String) : String :=
  String.ofList (withoutCodes s.toList) ++ "\n"

/-- The end of a program that only says why the work could not be done. -/
def refusal (taste : NoticeTaste) (log : LogSetup) (f : Fault) : Outcome :=
  .ended { exit := notDone, stdout := taste.printed false .fail f.message, log }

/-- The collections as they are published. -/
def publishedBy (p : Publisher) : Published :=
  .ofList [(p.compilerShown.name, p.compilerShown.entries),
    (p.analyzerShown.name, p.analyzerShown.entries)]

/-- The width of the terminal: what the environment says, else eighty cells. -/
def terminalWidth (m : Machine) : Nat :=
  match (m.valueOf? "COLUMNS").map String.toList with
  | some cs => if !cs.isEmpty && cs.all Char.isDigit then Text.ofDigits cs else 80
  | none => 80

/-- The exit status after a save whose run did not fail. -/
def statusOf (p : Published) : Nat :=
  if p.errorCount = 0 then 0 else errorsFound

/-- What is printed after a save whose run did not fail. -/
def publishedText (m : Machine) (taste : NoticeTaste) (colored : Bool) (json : Bool)
    (p : Published) : Except Fault String :=
  if json then .ok (echo p.reportText)
  else do
    let console := { taste.console false with width := terminalWidth m }
    let tables ← (p.printed console colored).mapError Fault.markup
    let n := p.errorCount
    let verdict :=
      if n = 0 then taste.printed false .ok "No errors reported"
      else taste.printed false .fail (toString n ++ " error(s) reported")
    return tables ++ verdict

/-- What the user is told during a save: on standard output, or on the other stream when standard
output holds JSON. -/
def noticeTexts (taste : NoticeTaste) (json : Bool) (notices : List String) : String × String :=
  if json then ("", String.join (notices.map echo))
  else (String.join (notices.map (taste.printed false .info)), "")

/-- Prints the report of a save. -/
def reportSave (m : Machine) (taste : NoticeTaste) (colored : Bool) (json : Bool) (file : Path)
    (p : Publisher) (r : PublishReport) : Except Fault (Nat × String) :=
  if r.skipped then
    let text := "Skipped " ++ file.text ++ ": not an Elm source or linting is disabled"
    .ok (0, taste.printed false .warn text)
  else
    match r.error with
    | some f => .ok (notDone, taste.printed false .fail ("Compiler run failed: " ++ f.message))
    | none => do
      let published := publishedBy p
      return (statusOf published, ← publishedText m taste colored json published)

/-- Handles one save of a file. -/
def check [Platform] (m : Machine) (file : Path) (s : Settings) : Outcome :=
  let log := LogSetup.initial.configured s.debug
  let loaded := do
    let config ← configFor m file s
    let issues ← issuesFor m s
    return (config, issues)
  match loaded with
  | .error f =>
    if f.family = .config ∨ f.family = .report then refusal { emoji := s.emoji.getD false } log f
    else .raised f
  | .ok (config, issues) =>
    let colored := s.color.getD config.color
    let taste : NoticeTaste := { emoji := s.emoji.getD config.emoji, color := some colored }
    let start := Publisher.initial config ⟨issues⟩
      (s.workspaceRoot.map fun w => (Path.ofString w).text)
      (Publisher.collectionName compilerSource) (Publisher.collectionName analyzerSource)
    match start.save m (.ofPath m.cwd file.text) with
    | (p, .reported r, notices, runs) =>
      match reportSave m taste colored s.json file p r with
      | .ok (exit, text) =>
        let told := noticeTexts taste s.json notices
        .ended { exit, stdout := told.1 ++ text, stderr := told.2, log, runs }
      | .error f => .raised f
    | (_, .raised f, _, _) => .raised f
    | (_, .cancelled, _, _) => .ended { exit := notDone, log }

/-- Shows the command that a save of a file would run. -/
def showCommand [Platform] (m : Machine) (file : Path) (s : Settings) : Outcome :=
  match configFor m file s with
  | .error f => if f.family = .config then refusal { emoji := false } .initial f else .raised f
  | .ok config =>
    let request := CompileRequest.ofFile m file.text
      (s.workspaceRoot.map fun w => (Path.ofString w).text) config
    match request.prepare m with
    | .error f => .raised f
    | .ok (c, g) =>
      .ended { stdout := echo ("root: " ++ c.cwd.text) ++ echo ("generation: " ++ g.label)
        ++ echo ("command: " ++ c.line) }

/-- Runs the program with the words of the command line. -/
def run [Platform] (m : Machine) (ws : List String) : Outcome :=
  match Request.ofWords? ws with
  | none => .rejected
  | some r =>
    match savedFile? m r.file, settingsFit m r.settings with
    | some file, true =>
      match r.action with
      | .check => check m file r.settings
      | .command => showCommand m file r.settings
    | _, _ => .rejected

end ElmOnSave.CommandLine
