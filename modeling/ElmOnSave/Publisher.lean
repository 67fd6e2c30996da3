import ElmOnSave.AnalyzerReport
import ElmOnSave.Collection
import ElmOnSave.CompilerRun
import ElmOnSave.IssuePath
import ElmOnSave.SavedDocument

/-!
# Publishing on save

A save has two moments.  When it begins, the saved file is cleared from both collections, the
analyzer's issues are published anew and a run of the compiler starts; when the run ends, what it
found is published by file.  Between the two other saves may begin and end.

Each run has a number.  `Publisher.running` holds, for each file, the number of its latest run while
that run is in flight; a run whose number is not there when it ends was overtaken by a later save of
its file.  The compiler collection keeps the records of other files, because a run rarely reports on
the whole project.
-/

namespace ElmOnSave

/-- The label of records that the compiler found. -/
def compilerSource : String := "elm-make"

/-- The label of records that the analyzer found. -/
def analyzerSource : String := "elm-analyse"

/-- What a save published. -/
structure PublishReport where
  document : String
  /-- The document is of no interest, or linting is turned off. -/
  skipped : Bool
  /-- The number of issues of the run for each file. -/
  compilerFiles : List (String × Nat)
  /-- The number of issues of the analyzer for each file. -/
  analyzerFiles : List (String × Nat)
  /-- Why the run failed. -/
  error : Option Fault
  /-- The run was discarded because it was overtaken. -/
  stale : Bool
  compilerMissing : Bool
deriving Repr, Inhabited

/-- The report of a save that did nothing yet. -/
def PublishReport.initial (document : String) : PublishReport :=
  ⟨document, false, [], [], none, false, false⟩

/-- Whether the run did not fail. -/
def PublishReport.ok (r : PublishReport) : Bool :=
  r.error.isNone

/-- A run in flight. -/
structure PendingRun where
  /-- The saved file. -/
  location : String
  /-- The number of the run. -/
  token : Nat
  /-- The report so far. -/
  report : PublishReport
deriving Repr, Inhabited

/-- How a run ends. -/
inductive RunEnd where
  | returned (result : RunResult)
  | failed (fault : Fault)
  | cancelled
deriving Inhabited

/-- What becomes of a save at its beginning. -/
inductive SaveStart where
  /-- The save is over: nothing was to be done. -/
  | skipped (report : PublishReport)
  /-- The save is over: the project of the file could not be found. -/
  | raised (fault : Fault)
  /-- A run has started. -/
  | waiting (run : PendingRun)
deriving Inhabited

/-- What becomes of a save at the end of its run. -/
inductive SaveEnd where
  | reported (report : PublishReport)
  | raised (fault : Fault)
  | cancelled
deriving Inhabited

/-- The state of the pipeline between two moments of saves. -/
structure Publisher where
  config : Config
  analyzer : AnalyzerIssues
  workspace : Option String
  compilerShown : Collection
  analyzerShown : Collection
  /-- The number of the next run. -/
  nextToken : Nat
  /-- The number of the latest run for each file, while it is in flight. -/
  running : Register String Nat
  /-- The files that the analyzer collection was last published for. -/
  analyzerFiles : List String
deriving Inhabited

namespace Publisher

/-- A publisher that has seen no save. -/
def initial (config : Config) (analyzer : AnalyzerIssues) (workspace : Option String)
    (compilerName analyzerName : String) : Publisher :=
  ⟨config, analyzer, workspace, .named compilerName, .named analyzerName, 1, .empty, []⟩

/-- The name of a collection that shows the records of a source. -/
def collectionName (source : String) : String :=
  source ++ "-diagnostics"

/-- Shows the groups of issues in a collection, one file after the other. -/
def showGroups (source : String) (c : Collection) (groups : Register String (List Diagnostic)) :
    Collection :=
  groups.entries.foldl (fun c g => c.set g.1 (g.2.map (·.toEditor (some source)))) c

/-- The number of issues of each group. -/
def groupSizes (groups : Register String (List Diagnostic)) : List (String × Nat) :=
  groups.entries.map fun g => (g.1, g.2.length)

/-- Removes the records of files from a collection. -/
def hideFiles (c : Collection) (files : List String) : Collection :=
  files.foldl (fun c f => c.set f []) c

/-- Publishes the analyzer's issues for a project root; files without issues disappear. -/
def publishAnalyzer (p : Publisher) (root : Option String) : Publisher × List (String × Nat) :=
  let groups := groupByFile p.analyzer.issues root
  let shown := showGroups analyzerSource p.analyzerShown groups
  let gone := p.analyzerFiles.filter fun f => !groups.keys.contains f
  ({ p with analyzerShown := hideFiles shown gone, analyzerFiles := groups.keys },
    groupSizes groups)

/-- The root against which the analyzer's issues are seen when a file is saved. -/
def analyzerRoot (m : Machine) (p : Publisher) (location : String) :
    Except Fault (Option String) :=
  (projectRoot? m (Path.ofString location)).map fun root => (root.map Path.text) <|> p.workspace

/-- Clears the saved file from both collections. -/
def clearFile (p : Publisher) (location : String) : Publisher :=
  { p with
    analyzerShown := p.analyzerShown.set location []
    compilerShown := p.compilerShown.set location [] }

/-- Whether a save of the document is to be handled. -/
def handles (p : Publisher) (d : SavedDocument) : Bool :=
  !p.config.disableLinting && d.isAccepted

/-- A run for a file starts. -/
def startRun (p : Publisher) (location : String) (report : PublishReport) :
    Publisher × PendingRun :=
  ({ p with nextToken := p.nextToken + 1, running := p.running.put location p.nextToken },
    ⟨location, p.nextToken, report⟩)

/-- A save begins. -/
def beginSave (m : Machine) (p : Publisher) (d : SavedDocument) : Publisher × SaveStart :=
  let location := Path.absText m.cwd d.path
  let report := PublishReport.initial location
  if !p.handles d then (p, .skipped { report with skipped := true })
  else
    let p := p.clearFile location
    match p.analyzerRoot m location with
    | .error f => (p, .raised f)
    | .ok root =>
      let (p, sizes) := p.publishAnalyzer root
      let (p, run) := p.startRun location { report with analyzerFiles := sizes }
      (p, .waiting run)

/-- Whether a later save of its file has overtaken a run. -/
def overtaken (p : Publisher) (run : PendingRun) : Bool :=
  p.running.get? run.location != some run.token

/-- The run is in flight no more. -/
def release (p : Publisher) (run : PendingRun) : Publisher :=
  if p.overtaken run then p else { p with running := p.running.remove run.location }

/-- Publishes what a run found. -/
def publishResult (p : Publisher) (run : PendingRun) (superseded : Bool) (r : RunResult) :
    Publisher × PublishReport :=
  let report := { run.report with compilerMissing := r.compilerMissing }
  if p.config.overlapPolicy = .latestStarted ∧ superseded then (p, { report with stale := true })
  else
    let groups := groupByFile r.diagnostics (some r.projectRoot.text)
    ({ p with compilerShown := showGroups compilerSource p.compilerShown groups },
      { report with compilerFiles := groupSizes groups })

/-- The run of a save ends, and with it the save. -/
def endRun (p : Publisher) (run : PendingRun) (e : RunEnd) : Publisher × SaveEnd :=
  let superseded := p.overtaken run
  let p := p.release run
  match e with
  | .cancelled => (p, .cancelled)
  | .failed f =>
    if f.isPipeline then (p, .reported { run.report with error := some f }) else (p, .raised f)
  | .returned r =>
    let (p, report) := p.publishResult run superseded r
    (p, .reported report)

/-- The request with which a publisher runs the compiler for a saved file. -/
def request (m : Machine) (p : Publisher) (location : String) : CompileRequest :=
  .ofFile m location p.workspace p.config

/-- A whole save, from its beginning to the end of its run of the compiler, with what the user was
told and which programs ran. -/
def save [Platform] (m : Machine) (p : Publisher) (d : SavedDocument) :
    Publisher × SaveEnd × List String × List RunRecord :=
  match p.beginSave m d with
  | (p, .skipped report) => (p, .reported report, [], [])
  | (p, .raised f) => (p, .raised f, [], [])
  | (p, .waiting run) =>
    let o := CompilerRun.run m (p.request m run.location)
    let e :=
      match o.result with
      | .ok r => RunEnd.returned r
      | .error f => RunEnd.failed f
    let (p, e) := p.endRun run e
    (p, e, o.notices, o.runs)

end Publisher

end ElmOnSave
