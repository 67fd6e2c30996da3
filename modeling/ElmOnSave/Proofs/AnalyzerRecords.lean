import ElmOnSave.Proofs.SessionStep

/-!
# The analyzer's records

The analyzer collection is published anew with every save that starts a run.  The files that lost
their issues must disappear from it, and the publisher finds them among the files it published the
last time (`Publisher.analyzerFiles`).  This works because every file that is shown is among these:
`Tracked` is the invariant, `tracked_step` says that each step keeps it, and
`get?_analyzerShown_beginRun` what it is good for.  It makes no difference that each save may see
the issues from another root, so that one issue moves between files, nor that runs are in flight.

`analyzerShown_mirrors_issues` is the result: after the beginning of a save the collection shows what
the analyzer holds, and nothing else.
-/

namespace ElmOnSave

namespace Publisher

/-- Every file that the analyzer collection shows is among those it was last published for. -/
def Tracked (p : Publisher) : Prop :=
  ∀ file ∈ p.analyzerShown.files, file ∈ p.analyzerFiles

/-- Publishing shows the issues of each file that has any, and hides the others it knows of. -/
lemma get?_analyzerShown_publishAnalyzer (p : Publisher) (root : Option String) (file : String) :
    (p.publishAnalyzer root).1.analyzerShown.get? file =
      if recordsAt analyzerSource p.analyzer.issues root file = [] then
        (if file ∈ p.analyzerFiles then none else p.analyzerShown.get? file)
      else some (recordsAt analyzerSource p.analyzer.issues root file) := by
  have hgone : file ∈ (p.analyzerFiles.filter fun f =>
      !(groupByFile p.analyzer.issues root).keys.contains f) ↔
      file ∈ p.analyzerFiles ∧ recordsAt analyzerSource p.analyzer.issues root file = [] := by
    rw [List.mem_filter, Bool.not_eq_true', List.contains_eq_mem, decide_eq_false_iff_not,
      mem_keys_groupByFile, Decidable.not_not, recordsAt_eq_nil_iff]
  simp only [publishAnalyzer, get?_hideFiles, get?_showGroups, hgone]
  by_cases hnil : recordsAt analyzerSource p.analyzer.issues root file = []
  · simp only [hnil, and_true, if_true]
  · simp only [hnil, and_false, if_false]

lemma Tracked.clearFile {p : Publisher} (hp : p.Tracked) (location : String) :
    (p.clearFile location).Tracked := by
  intro file hfile
  refine hp file ?_
  rw [Collection.mem_files_iff] at hfile ⊢
  intro hnone
  refine hfile ?_
  rw [Publisher.clearFile, Collection.get?_set, hnone]
  split <;> rfl

/-- After the beginning of a run each file shows its issues, and files without issues have no
entry. -/
lemma get?_analyzerShown_beginRun {p : Publisher} (hp : p.Tracked) (location : String)
    (root : Option String) (file : String) :
    (p.beginRun location root).1.analyzerShown.get? file =
      if recordsAt analyzerSource p.analyzer.issues root file = [] then none
      else some (recordsAt analyzerSource p.analyzer.issues root file) := by
  have hpublish := get?_analyzerShown_publishAnalyzer (p.clearFile location) root file
  have hhidden : (if file ∈ (p.clearFile location).analyzerFiles then none
      else (p.clearFile location).analyzerShown.get? file) = none := by
    split
    · rfl
    · rename_i hfile
      refine Decidable.not_not.1 fun hshown => hfile ?_
      exact hp.clearFile location file ((Collection.mem_files_iff _ file).2 hshown)
  rw [hhidden] at hpublish
  exact hpublish

/-- The files that are shown after the beginning of a run are those that issues lead to. -/
lemma mem_files_analyzerShown_beginRun {p : Publisher} (hp : p.Tracked) (location : String)
    (root : Option String) (file : String) :
    file ∈ (p.beginRun location root).1.analyzerShown.files ↔
      ∃ d ∈ p.analyzer.issues, issuePath d.file root = file := by
  rw [Collection.mem_files_iff, get?_analyzerShown_beginRun hp, Ne, ite_eq_left_iff]
  simp [issuesAt_eq_nil_iff]

lemma get_analyzerShown_beginRun {p : Publisher} (hp : p.Tracked) (location : String)
    (root : Option String) (file : String) :
    (p.beginRun location root).1.analyzerShown.get file =
      recordsAt analyzerSource p.analyzer.issues root file := by
  rw [Collection.get_eq_getD, get?_analyzerShown_beginRun hp]
  split
  · rename_i hnil
    rw [hnil]
    rfl
  · rfl

lemma Tracked.beginRun {p : Publisher} (hp : p.Tracked) (location : String)
    (root : Option String) : (p.beginRun location root).1.Tracked := by
  intro file hfile
  rw [beginRun_analyzerFiles, mem_keys_groupByFile, Ne, issuesAt_eq_nil_iff]
  obtain ⟨d, hd, hpath⟩ := (mem_files_analyzerShown_beginRun hp location root file).1 hfile
  exact fun hall => hall d hd hpath

end Publisher

namespace Session

lemma tracked_step {s t : Session} {o : Occurrence} (hs : s.publisher.Tracked)
    (step : Step s o t) : t.publisher.Tracked := by
  cases step with
  | raised location f => exact hs.clearFile location
  | started location root => exact hs.beginRun location root
  | ended run how =>
    intro file hfile
    rw [Publisher.endRun_analyzerShown] at hfile
    rw [Publisher.endRun_analyzerFiles]
    exact hs file hfile
  | skipped | analyzed | missed => exact hs

/-- Along every course of events every file that is shown is tracked. -/
lemma tracked_after {p : Publisher} (hp : p.Tracked) (events : List SessionEvent) :
    ((ofPublisher p).after events).publisher.Tracked :=
  history_induction (P := fun _ t => t.publisher.Tracked) hp
    (fun _ _ _ _ hs step => tracked_step hs step) events

/-- **The analyzer collection mirrors the analyzer.**  A session starts with an empty collection,
and after any course of events a document is saved.  If the root of its project is known, a run
starts; then exactly the files that current issues lead to are shown, each with the records of its
issues in their order, and the counts in the report sum to the number of issues. -/
theorem analyzerShown_mirrors_issues (config : Config) (analyzer : AnalyzerIssues)
    (workspace : Option String) (compilerName analyzerName : String) (events : List SessionEvent)
    (m : Machine) (d : SavedDocument) :
    let start := ofPublisher (.initial config analyzer workspace compilerName analyzerName)
    let s := start.after events
    s.publisher.handles d = true →
      match s.publisher.analyzerRoot m (Path.absText m.cwd d.path) with
      | .error f => (s.begin m d).2 = .raised f
      | .ok root => ∃ run, (s.begin m d).2 = .waiting run ∧
          (∀ file, file ∈ (s.begin m d).1.publisher.analyzerShown.files ↔
            ∃ i ∈ s.publisher.analyzer.issues, issuePath i.file root = file) ∧
          (∀ file, (s.begin m d).1.publisher.analyzerShown.get file =
            recordsAt analyzerSource s.publisher.analyzer.issues root file) ∧
          (run.report.analyzerFiles.map Prod.snd).sum = s.publisher.analyzer.issues.length := by
  intro start s handled
  have htracked : start.publisher.Tracked := fun _ hfile => (List.not_mem_nil hfile).elim
  have tracked : s.publisher.Tracked := tracked_after htracked events
  cases hroot : s.publisher.analyzerRoot m (Path.absText m.cwd d.path) with
  | error f =>
    simp only [begin, Publisher.beginSave_of_error handled hroot]
  | ok root =>
    have hbegin := begin_of_beginSave (Publisher.beginSave_of_root handled hroot)
    refine ⟨_, congrArg Prod.snd hbegin, ?_, ?_, ?_⟩
    · intro file
      rw [hbegin]
      exact Publisher.mem_files_analyzerShown_beginRun tracked _ root file
    · intro file
      rw [hbegin]
      exact Publisher.get_analyzerShown_beginRun tracked _ root file
    · rw [Publisher.beginRun_analyzerFiles_report]
      exact sum_groupSizes _ root

/-- A machine with two projects. -/
def twoProjects : Machine :=
  ⟨⟨[(["p"], .directory), (["p", "elm.json"], .file [] 420 none), (["q"], .directory),
    (["q", "elm.json"], .file [] 420 none)]⟩, "/", [], []⟩

/-- An issue with a relative path moves to the project of the file that is saved. -/
theorem relative_issue_moves :
    let s := (ofPublisher (.initial .standard ⟨[.ofProject "UNUSED" "" "A.elm"]⟩ none "compiler"
      "analyzer")).after [.save twoProjects ⟨"/p/Main.elm", "elm", "file"⟩]
    "/p/A.elm" ∈ s.publisher.analyzerShown.files ∧
      ∀ file, file ∈ (s.begin twoProjects ⟨"/q/Main.elm", "elm", "file"⟩
        ).1.publisher.analyzerShown.files ↔ file = "/q/A.elm" := by
  intro s
  refine ⟨by decide +kernel, fun file => ?_⟩
  have hmirror := analyzerShown_mirrors_issues .standard ⟨[.ofProject "UNUSED" "" "A.elm"]⟩ none
    "compiler" "analyzer" [.save twoProjects ⟨"/p/Main.elm", "elm", "file"⟩] twoProjects
    ⟨"/q/Main.elm", "elm", "file"⟩ (by decide +kernel)
  have hroot : (s.publisher.analyzerRoot twoProjects
      (Path.absText twoProjects.cwd "/q/Main.elm")).toOption = some (some "/q") := by decide +kernel
  cases hcase : s.publisher.analyzerRoot twoProjects
      (Path.absText twoProjects.cwd "/q/Main.elm") with
  | error f =>
    rw [hcase] at hroot
    cases hroot
  | ok root =>
    rw [hcase] at hroot hmirror
    cases hroot
    obtain ⟨run, -, hfiles, -⟩ := hmirror
    have hpath : issuePath "A.elm" (some "/q") = "/q/A.elm" := by decide +kernel
    have hissues : s.publisher.analyzer.issues = [.ofProject "UNUSED" "" "A.elm"] := by
      decide +kernel
    rw [hfiles, hissues, ← hpath]
    simp [Diagnostic.ofProject, eq_comm]

end Session

end ElmOnSave
