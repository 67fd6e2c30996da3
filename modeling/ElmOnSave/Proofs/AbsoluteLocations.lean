import ElmOnSave.Proofs.ProjectRoots

/-!
# Where the locations of a save start

Records are published under the path of an issue seen from a root.  The location is an absolute path
if the issue's own path is one, or else if the root is (`isAbsoluteText_issuePath_eq`).  A project
that was found has an absolute root (`isAbsolute_of_projectRoot?`), as has the directory of a saved
file, but a workspace is taken as it was given, and the analyzer's issues have no root at all
without a project and a workspace.

`locations_absolute_iff` puts this together: which saves publish under absolute paths only, for the
beginning of a save, which publishes the analyzer's issues, and for its end, which publishes what
the run of the compiler found.
-/

namespace ElmOnSave

/-! ## Locations -/

namespace Path

/-- Of two spellings that are joined the second counts if it is absolute, else the first. -/
lemma isAbsoluteText_joinText_eq (a b : String) :
    isAbsoluteText (joinText a b) = (isAbsoluteText b || isAbsoluteText a) := by
  cases hb : isAbsoluteText b with
  | true =>
    rw [joinText, ← isAbsoluteText, if_pos hb, hb]
    rfl
  | false =>
    have hrelative : (ofString b).isAbsolute = false := by rw [isAbsolute_ofString, hb]
    rw [← isAbsolute_ofString, ofString_joinText hb, join, hrelative, if_neg Bool.false_ne_true,
      Bool.false_or, ← isAbsolute_ofString a]
    rfl

lemma isAbsoluteText_text {p : Path} (hp : p.WellFormed) :
    isAbsoluteText p.text = p.isAbsolute := by
  rw [← isAbsolute_ofString, ofString_text hp]

end Path

/-- A location is absolute if the path of the issue is, or the root. -/
theorem isAbsoluteText_issuePath_eq (file : String) (root : Option String) :
    Path.isAbsoluteText (issuePath file root) =
      (Path.isAbsoluteText file || root.any Path.isAbsoluteText) := by
  cases root with
  | none => simp [issuePath]
  | some r =>
    cases hfile : Path.isAbsoluteText file with
    | true => simp [issuePath, hfile]
    | false =>
      simp only [issuePath, hfile, Bool.false_eq_true, if_false, Option.any_some, Bool.false_or]
      rw [Path.isAbsoluteText_normText, Path.isAbsoluteText_joinText_eq, hfile, Bool.false_or]

/-- The locations under which issues are published are absolute exactly if the root is, or every
path of an issue. -/
theorem keys_groupByFile_absolute_iff (ds : List Diagnostic) (root : Option String) :
    (∀ file ∈ (groupByFile ds root).keys, Path.isAbsoluteText file = true) ↔
      (∃ r ∈ root, Path.isAbsoluteText r = true) ∨
        ∀ d ∈ ds, Path.isAbsoluteText d.file = true := by
  have hkeys : (∀ file ∈ (groupByFile ds root).keys, Path.isAbsoluteText file = true) ↔
      ∀ d ∈ ds, Path.isAbsoluteText (issuePath d.file root) = true := by
    simp only [mem_keys_groupByFile, Ne, issuesAt_eq_nil_iff]
    constructor
    · exact fun h d hd => h _ fun hall => hall d hd rfl
    · intro h file hfile
      push Not at hfile
      obtain ⟨d, hd, rfl⟩ := hfile
      exact h d hd
  rw [hkeys]
  simp only [isAbsoluteText_issuePath_eq, Bool.or_eq_true]
  by_cases hroot : root.any Path.isAbsoluteText = true
  · refine iff_of_true (fun d _ => .inr hroot) (.inl ?_)
    simpa [Option.any_eq_true] using hroot
  · have hnone : ¬ ∃ r ∈ root, Path.isAbsoluteText r = true := by
      simpa [Option.any_eq_true] using hroot
    simp only [hroot, hnone, false_or]
    simp

lemma map_fst_groupSizes (groups : Register String (List Diagnostic)) :
    (Publisher.groupSizes groups).map Prod.fst = groups.keys := by
  rw [Publisher.groupSizes, List.map_map]
  rfl

/-! ## Roots -/

section Roots

variable {m : Machine} {path : Path}

/-- The directories that are looked through have the anchor of the path. -/
lemma anchor_of_mem_lookedThrough {root : Path} {isDirectory : Bool}
    (h : root ∈ lookedThrough path isDirectory) : root.anchor = path.anchor := by
  have hstart : (if isDirectory then path else path.parent).anchor = path.anchor := by
    split <;> rfl
  rcases List.mem_cons.1 h with rfl | h
  · exact hstart
  · obtain ⟨n, -, rfl⟩ := List.mem_map.1 h
    exact hstart

/-- The root of a project is absolute, as the path is. -/
lemma isAbsolute_of_projectRoot? {root : Path} (absolute : path.isAbsolute = true)
    (h : projectRoot? m path = .ok (some root)) : root.isAbsolute = true := by
  obtain ⟨isDirectory, hmem, -⟩ := projectRoot?_eq_some absolute h
  rw [Path.isAbsolute, anchor_of_mem_lookedThrough hmem]
  exact absolute

variable {found : Option Path} (absolute : path.isAbsolute = true) (formed : path.WellFormed)
  (lookup : projectRoot? m path = .ok found) (workspace : Option String)

include absolute formed lookup

/-- The publisher's root is absolute if there is a project, or else a workspace that is absolute. -/
lemma publisherRoot_absolute_iff :
    (∃ r ∈ (found.map Path.text) <|> workspace, Path.isAbsoluteText r = true) ↔
      found.isSome = true ∨ ∃ w ∈ workspace, Path.isAbsoluteText w = true := by
  cases found with
  | none => simp
  | some root =>
    have hroot := isAbsolute_of_projectRoot? absolute lookup
    have htext : Path.isAbsoluteText root.text = true := by
      rw [Path.isAbsoluteText_text (wellFormed_of_projectRoot? absolute formed lookup), hroot]
    simp [htext]

/-- The directory of a run is absolute if there is a project, or else unless the workspace is
relative. -/
lemma chosenRoot_absolute_iff :
    Path.isAbsoluteText (chosenRoot found (workspace.map Path.ofString) path).text = true ↔
      found.isSome = true ∨ ∀ w ∈ workspace, Path.isAbsoluteText w = true := by
  cases found with
  | some root =>
    have hroot := isAbsolute_of_projectRoot? absolute lookup
    have htext : Path.isAbsoluteText root.text = true := by
      rw [Path.isAbsoluteText_text (wellFormed_of_projectRoot? absolute formed lookup), hroot]
    simp [chosenRoot, htext]
  | none =>
    cases workspace with
    | some w =>
      simp [chosenRoot, Path.isAbsoluteText_text (Path.wellFormed_ofString w),
        Path.isAbsolute_ofString]
    | none =>
      have hparent : path.parent.isAbsolute = true := absolute
      simp [chosenRoot, Path.isAbsoluteText_text formed.parent, hparent]

end Roots

/-! ## The locations of a save -/

namespace Publisher

section Beginning

variable (p : Publisher) (location : String) (root : Option String)

lemma map_fst_analyzerFiles_beginRun :
    (p.beginRun location root).2.report.analyzerFiles.map Prod.fst =
      (groupByFile p.analyzer.issues root).keys := by
  rw [beginRun_analyzerFiles_report, map_fst_groupSizes]

/-- A file that is not in the report of the beginning was at most cleared. -/
lemma get?_analyzerShown_beginRun_of_not_mem {file : String}
    (h : file ∉ (p.beginRun location root).2.report.analyzerFiles.map Prod.fst) :
    (p.beginRun location root).1.analyzerShown.get? file = none ∨
      (p.beginRun location root).1.analyzerShown.get? file = p.analyzerShown.get? file := by
  rw [map_fst_analyzerFiles_beginRun, mem_keys_groupByFile, Decidable.not_not] at h
  have hnil : recordsAt analyzerSource p.analyzer.issues root file = [] := by
    rw [recordsAt_eq_nil_iff, h]
  have hpublish : (p.beginRun location root).1.analyzerShown.get? file =
      if file ∈ p.analyzerFiles then none
      else (p.analyzerShown.set location []).get? file :=
    (get?_analyzerShown_publishAnalyzer (p.clearFile location) root file).trans (if_pos hnil)
  rw [hpublish, Collection.get?_set]
  split
  · exact .inl rfl
  · split
    · exact .inl rfl
    · exact .inr rfl

end Beginning

section End

variable {p : Publisher} {run : PendingRun} (counts : ¬ p.discards run) (r : RunResult)
  {report : PublishReport} (reported : (p.endRun run (.returned r)).2 = .reported report)

include counts reported

lemma map_fst_compilerFiles_of_reported :
    report.compilerFiles.map Prod.fst =
      (groupByFile r.diagnostics (some r.projectRoot.text)).keys := by
  rw [endRun_returned_of_not_discards p run counts] at reported
  cases reported
  exact map_fst_groupSizes _

/-- A file that is not in the report of the end is left alone. -/
lemma get?_compilerShown_endRun_of_not_mem {file : String}
    (h : file ∉ report.compilerFiles.map Prod.fst) :
    (p.endRun run (.returned r)).1.compilerShown.get? file = p.compilerShown.get? file := by
  rw [map_fst_compilerFiles_of_reported counts r reported, mem_keys_groupByFile,
    Decidable.not_not] at h
  rw [endRun_returned_of_not_discards p run counts]
  refine (get?_showGroups compilerSource p.compilerShown r.diagnostics _ file).trans (if_pos ?_)
  rw [recordsAt_eq_nil_iff, h]

end End

end Publisher

/-- **Which locations are absolute.**  A document is saved that is to be handled; its path may be
relative.  If the project cannot be looked up, nothing is published.  Else the save publishes the
analyzer's issues for the files of its report and for no others, and all of these are absolute paths
exactly if there is a project, or a workspace that is absolute, or every issue has an absolute path.
When the run of the compiler ends, which may be on a later state of the machine and of the
publisher, and its result counts, the save publishes for the files of the final report and for no
others, and all of these are absolute exactly if there is a project, or no relative workspace, or
every diagnostic has an absolute path.  The working directory must be there, since the path of the
document may be seen from it. -/
theorem locations_absolute_iff [Platform] {m : Machine} {p : Publisher} {d : SavedDocument}
    (working : m.HasWorkingDirectory) (handled : p.handles d = true) :
    let location := Path.absText m.cwd d.path
    match projectRoot? m (.ofString location) with
    | .error f => p.beginSave m d = (p.clearFile location, .raised f)
    | .ok found => ∃ q run, p.beginSave m d = (q, .waiting run) ∧
        (∀ file, file ∉ run.report.analyzerFiles.map Prod.fst →
          q.analyzerShown.get? file = none ∨
            q.analyzerShown.get? file = p.analyzerShown.get? file) ∧
        ((∀ file ∈ run.report.analyzerFiles.map Prod.fst, Path.isAbsoluteText file = true) ↔
          found.isSome = true ∨ (∃ w ∈ p.workspace, Path.isAbsoluteText w = true) ∨
            ∀ i ∈ p.analyzer.issues, Path.isAbsoluteText i.file = true) ∧
        ∀ (m' : Machine) (found' : Option Path) (r : RunResult),
          projectRoot? m' (.ofString location) = .ok found' →
          (p.outcome m' location).result = .ok r →
          ∀ (later : Publisher) (report : PublishReport), ¬ later.discards run →
            (later.endRun run (.returned r)).2 = .reported report →
            (∀ file, file ∉ report.compilerFiles.map Prod.fst →
              (later.endRun run (.returned r)).1.compilerShown.get? file =
                later.compilerShown.get? file) ∧
            ((∀ file ∈ report.compilerFiles.map Prod.fst, Path.isAbsoluteText file = true) ↔
              found'.isSome = true ∨ (∀ w ∈ p.workspace, Path.isAbsoluteText w = true) ∨
                ∀ c ∈ r.diagnostics, Path.isAbsoluteText c.file = true) := by
  intro location
  have cwd := working.absolute
  have habs : Path.isAbsoluteText location = true := Path.isAbsoluteText_absText cwd d.path
  have hnormal : ∀ m' : Machine, Path.absText m'.cwd location = location := by
    intro m'
    rw [Path.absText_of_isAbsoluteText habs]
    exact Path.normText_normText (Path.isAbsoluteText_joinText cwd d.path)
  have hfile : (Path.ofString location).isAbsolute = true := by rw [Path.isAbsolute_ofString, habs]
  have hformed : (Path.ofString location).WellFormed := Path.wellFormed_ofString location
  cases hlookup : projectRoot? m (.ofString location) with
  | error f => exact Publisher.beginSave_of_error handled (analyzerRoot_of_error hlookup)
  | ok found =>
    have hroot := analyzerRoot_of_lookup (p := p) hlookup
    refine ⟨_, _, Publisher.beginSave_of_root handled hroot, ?_, ?_, ?_⟩
    · exact fun file => Publisher.get?_analyzerShown_beginRun_of_not_mem p _ _
    · rw [Publisher.map_fst_analyzerFiles_beginRun, keys_groupByFile_absolute_iff,
        publisherRoot_absolute_iff hfile hformed hlookup, or_assoc]
    · intro m' found' r hlookup' returned later report counts reported
      refine ⟨fun file => Publisher.get?_compilerShown_endRun_of_not_mem counts r reported, ?_⟩
      obtain ⟨c, g, prepared, hdirectory⟩ := exists_prepare_of_run returned
      have hchosen := cwd_of_prepare habs (hnormal m') hlookup' prepared
      rw [Publisher.map_fst_compilerFiles_of_reported counts r reported,
        keys_groupByFile_absolute_iff, hdirectory, hchosen]
      simp only [Option.mem_def, Option.some.injEq, exists_eq_left']
      rw [chosenRoot_absolute_iff hfile hformed hlookup' p.workspace, or_assoc]
      exact Iff.rfl

/-- A publisher for which the analyzer sees one issue, in a file it names by a relative path. -/
def oneRelativeIssue (workspace : Option String) : Publisher :=
  .initial .standard ⟨[.ofProject "UNUSED" "" "src/A.elm"]⟩ workspace "compiler" "analyzer"

/-- In a project the relative path is published as an absolute one. -/
theorem absolute_in_project :
    let d : SavedDocument := ⟨"p/Main.elm", "elm", "file"⟩
    Session.twoProjects.HasWorkingDirectory ∧ (oneRelativeIssue none).handles d = true ∧
      ∃ q run, (oneRelativeIssue none).beginSave Session.twoProjects d = (q, .waiting run) ∧
        ∀ file ∈ run.report.analyzerFiles.map Prod.fst, Path.isAbsoluteText file = true := by
  intro d
  have working : Session.twoProjects.HasWorkingDirectory :=
    Machine.hasWorkingDirectory_of_cwd_eq rfl
  have handled : (oneRelativeIssue none).handles d = true := by decide +kernel
  have hlocations := locations_absolute_iff working handled
  have hlookup : projectRoot? Session.twoProjects
      (.ofString (Path.absText Session.twoProjects.cwd d.path)) = .ok (some ⟨.root, ["p"]⟩) := by
    decide +kernel
  simp only [hlookup] at hlocations
  obtain ⟨q, run, hbegin, -, habsolute, -⟩ := hlocations
  exact ⟨working, handled, q, run, hbegin, habsolute.2 (.inl rfl)⟩

/-- From a relative workspace the relative path is published as a relative one. -/
theorem not_forall_locations_absolute :
    ¬ ∀ (m : Machine) (p q : Publisher) (d : SavedDocument) (run : PendingRun),
      m.HasWorkingDirectory → p.handles d = true →
      p.beginSave m d = (q, .waiting run) →
      ∀ file ∈ run.report.analyzerFiles.map Prod.fst, Path.isAbsoluteText file = true := by
  intro h
  have hroot : (oneRelativeIssue (some "ws")).analyzerRoot ⟨⟨[]⟩, "/", [], []⟩
      (Path.absText "/" "/Main.elm") = .ok (some "ws") := by decide +kernel
  have hbegin := Publisher.beginSave_of_root (m := ⟨⟨[]⟩, "/", [], []⟩)
    (d := ⟨"/Main.elm", "elm", "file"⟩) (by decide +kernel) hroot
  have habsolute := h _ _ _ _ _ (Machine.hasWorkingDirectory_of_cwd_eq rfl) (by decide +kernel)
    hbegin "ws/src/A.elm" (by decide +kernel)
  revert habsolute
  decide +kernel

end ElmOnSave
