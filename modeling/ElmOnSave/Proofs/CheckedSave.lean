import ElmOnSave.Proofs.EscapingFaults
import ElmOnSave.Proofs.PrintedReport
import ElmOnSave.Proofs.SeverityLabels
import ElmOnSave.Proofs.ShortRegions
import ElmOnSave.Proofs.ShownRecords

/-!
# What a checked save comes to

`check` handles one save with a publisher of its own and then says three times what was found: by
its exit status, by the records it prints as JSON, and by the severities of those records.
`check_json_accounts` says that all three agree with the diagnostics themselves, the issues of the
analyzer and what the run reported.

The publisher has seen no save before, so each of its collections was given the groups of its
diagnostics and nothing else (`published_of_returned`).  From there on everything is counted: the
records of a collection and the errors among them (`RecordsOf.length`, `RecordsOf.zeroSeverities`),
the same for the collection as it is read back, where its locations are in another order
(`RecordsOf.allRecords_inOrder`), and all errors for the status (`errorCount_publishedAs`).
-/

namespace ElmOnSave

/-! ## Counting diagnostics -/

/-- The number of diagnostics that are no warnings. -/
def nonWarnings (ds : List Diagnostic) : Nat :=
  ds.countP fun d => ¬ d.IsWarning

lemma nonWarnings_eq_zero_iff {ds : List Diagnostic} :
    nonWarnings ds = 0 ↔ ¬ ∃ d ∈ ds, ¬ d.IsWarning := by
  simp [nonWarnings, List.countP_eq_zero]

/-- The number of records with the severity that an editor numbers zero. -/
def zeroSeverities (rs : List EditorRecord) : Nat :=
  rs.countP fun r => r.severity.number = 0

lemma number_eq_zero_iff (s : EditorSeverity) : s.number = 0 ↔ s = .error := by
  cases s <;> decide

lemma Published.errorCount_eq (p : Published) : p.errorCount = zeroSeverities p.records := by
  simp only [errorCount, zeroSeverities, number_eq_zero_iff, List.countP_eq_length_filter]

lemma isWritable_max_pred {i : Int} (h : Decimal.isWritable i = true) :
    Decimal.isWritable (max (i - 1) 0) = true := by
  rw [Decimal.isWritable_iff] at h ⊢
  refine Nat.lt_of_le_of_lt ?_ h
  omega

/-- Counting from zero makes no number longer. -/
lemma Region.Short.toEditor {r : Region} (h : r.Short) : r.toEditor.Short := by
  obtain ⟨⟨startLine, startColumn⟩, ⟨stopLine, stopColumn⟩⟩ := h
  simp only [EditorRange.Short, List.forall_mem_cons, List.not_mem_nil, false_implies,
    implies_true, and_true]
  exact ⟨isWritable_max_pred startLine, isWritable_max_pred startColumn,
    isWritable_max_pred stopLine, isWritable_max_pred stopColumn⟩

/-- Records that are those of some diagnostics. -/
def RecordsOf (source : String) (ds : List Diagnostic) (rs : List EditorRecord) : Prop :=
  rs.Perm (ds.map (·.toEditor (some source)))

namespace RecordsOf

variable {source : String} {ds : List Diagnostic} {rs : List EditorRecord}

lemma length (h : RecordsOf source ds rs) : rs.length = ds.length := by
  rw [List.Perm.length_eq h, List.length_map]

/-- The errors among them are the diagnostics that are no warnings. -/
lemma zeroSeverities (h : RecordsOf source ds rs) : zeroSeverities rs = nonWarnings ds := by
  rw [ElmOnSave.zeroSeverities, List.Perm.countP_eq _ h, List.countP_map, nonWarnings]
  refine List.countP_congr fun d _ => ?_
  simp [number_eq_zero_iff, d.severity_eq_error_iff]

/-- Records of diagnostics with short regions are short. -/
lemma short (h : RecordsOf source ds rs) (hds : ∀ d ∈ ds, d.region.Short) :
    ∀ r ∈ rs, r.range.Short := by
  intro r hr
  obtain ⟨d, hd, rfl⟩ := List.mem_map.1 ((List.Perm.mem_iff h).1 hr)
  exact Region.Short.toEditor (hds d hd)

lemma allRecords_inOrder {files : Register String (List EditorRecord)}
    (h : RecordsOf source ds (allRecords files)) :
    RecordsOf source ds (allRecords files.inOrder) :=
  ((sortFields_perm files.entries).map Prod.snd).flatten.trans h

end RecordsOf

/-! ## The collections as they are published -/

/-- The collections of two sources, by name. -/
def publishedAs (compiler analyzer : Register String (List EditorRecord)) : Published :=
  .ofList [("elm-make-diagnostics", compiler), ("elm-analyse-diagnostics", analyzer)]

section PublishedAs

variable (compiler analyzer : Register String (List EditorRecord))

lemma records_publishedAs :
    (publishedAs compiler analyzer).records = allRecords compiler ++ allRecords analyzer := by
  have hentries : (publishedAs compiler analyzer).entries =
      [("elm-make-diagnostics", compiler), ("elm-analyse-diagnostics", analyzer)] := by
    simp [publishedAs, Register.ofList, Register.put, Register.empty, Entries.put]
  simp [Published.records, Register.values, hentries, allRecords]

lemma get?_publishedAs_compiler :
    (publishedAs compiler analyzer).get? "elm-make-diagnostics" = some compiler := by
  simp [publishedAs, Register.ofList, Register.get?_put]

lemma get?_publishedAs_analyzer :
    (publishedAs compiler analyzer).get? "elm-analyse-diagnostics" = some analyzer := by
  simp [publishedAs, Register.ofList, Register.get?_put]

end PublishedAs

/-- A text is a document that holds a record for each diagnostic of the analyzer and of the
compiler, in the collection of its source, and as many with the severity of an error as there are
diagnostics that are no warnings. -/
def Documents [Platform] (text : String) (issues diagnostics : List Diagnostic) : Prop :=
  ∃ v q analyzer compiler, Json.read text.toList = .ok v ∧ Published.ofValue? v = some q ∧
    q.get? "elm-analyse-diagnostics" = some analyzer ∧
    q.get? "elm-make-diagnostics" = some compiler ∧
    (allRecords analyzer).length = issues.length ∧
    (allRecords compiler).length = diagnostics.length ∧
    zeroSeverities (allRecords analyzer ++ allRecords compiler) =
      nonWarnings (issues ++ diagnostics)

section Documents

variable {compiler analyzer : Register String (List EditorRecord)}
  {issues diagnostics : List Diagnostic}
  (hcompiler : RecordsOf compilerSource diagnostics (allRecords compiler))
  (hanalyzer : RecordsOf analyzerSource issues (allRecords analyzer))

include hcompiler hanalyzer

lemma errorCount_publishedAs :
    (publishedAs compiler analyzer).errorCount = nonWarnings (issues ++ diagnostics) := by
  rw [Published.errorCount_eq, records_publishedAs, zeroSeverities, List.countP_append,
    ← zeroSeverities, ← zeroSeverities, hcompiler.zeroSeverities, hanalyzer.zeroSeverities,
    nonWarnings, nonWarnings, nonWarnings, List.countP_append, Nat.add_comm]

/-- What is printed of the collections documents the diagnostics they were given. -/
lemma documents_publishedAs [Platform] (shortIssues : ∀ d ∈ issues, d.region.Short)
    (shortDiagnostics : ∀ d ∈ diagnostics, d.region.Short) :
    Documents (CommandLine.echo (publishedAs compiler analyzer).reportText) issues
      diagnostics := by
  have hshort : ∀ r ∈ (publishedAs compiler analyzer).records, r.range.Short := by
    rw [records_publishedAs]
    exact List.forall_mem_append.2 ⟨hcompiler.short shortDiagnostics, hanalyzer.short shortIssues⟩
  refine ⟨_, _, analyzer.inOrder, compiler.inOrder, Published.read_echo_reportText hshort,
    Published.ofValue?_sorted _, ?_, ?_, hanalyzer.allRecords_inOrder.length,
    hcompiler.allRecords_inOrder.length, ?_⟩
  · rw [Register.get?_inOrder, Register.get?_mapValues, get?_publishedAs_analyzer]
    rfl
  · rw [Register.get?_inOrder, Register.get?_mapValues, get?_publishedAs_compiler]
    rfl
  · rw [zeroSeverities, List.countP_append, ← zeroSeverities, ← zeroSeverities,
      hcompiler.allRecords_inOrder.zeroSeverities, hanalyzer.allRecords_inOrder.zeroSeverities,
      nonWarnings, nonWarnings, nonWarnings, List.countP_append]

end Documents

/-! ## The check -/

namespace Publisher

lemma name_showGroups (source : String) (c : Collection)
    (groups : Register String (List Diagnostic)) : (showGroups source c groups).name = c.name := by
  rw [showGroups]
  induction groups.entries generalizing c with
  | nil => rfl
  | cons g gs ih =>
    rw [List.foldl_cons, ih, Collection.set]
    split <;> rfl

/-- How a save comes to a report: it is skipped, its run fails, or its run returns. -/
lemma reported_cases [Platform] {m : Machine} {p : Publisher} {d : SavedDocument}
    {report : PublishReport} (h : (p.save m d).2.1 = .reported report) :
    report.skipped = true ∨
    (report.skipped = false ∧ ∃ f, report.error = some f ∧
      (p.outcome m (Path.absText m.cwd d.path)).result = .error f) ∨
    (report.skipped = false ∧ report.error = none ∧ p.handles d = true ∧
      ∃ root r, p.analyzerRoot m (Path.absText m.cwd d.path) = .ok root ∧
        (p.outcome m (Path.absText m.cwd d.path)).result = .ok r) := by
  cases handled : p.handles d with
  | false =>
    rw [save_of_not_handles m handled] at h
    cases h
    exact .inl rfl
  | true =>
    cases hroot : p.analyzerRoot m (Path.absText m.cwd d.path) with
    | error f =>
      rw [save_of_error handled hroot] at h
      cases h
    | ok root =>
      rw [end_of_save handled hroot] at h
      cases hresult : (p.outcome m (Path.absText m.cwd d.path)).result with
      | ok r =>
        rw [hresult] at h
        cases h
        exact .inr (.inr ⟨rfl, rfl, rfl, root, r, rfl, rfl⟩)
      | error f =>
        rw [hresult] at h
        simp only at h
        split at h
        · cases h
          exact .inr (.inl ⟨rfl, f, rfl, rfl⟩)
        · cases h

end Publisher

namespace CommandLine

/-- The publisher with which a file is checked. -/
def publisherFor (config : Config) (issues : List Diagnostic) (s : Settings) : Publisher :=
  .initial config ⟨issues⟩ (s.workspaceRoot.map fun w => (Path.ofString w).text)
    "elm-make-diagnostics" "elm-analyse-diagnostics"

/-- The save that is checked, with a publisher of its own. -/
def saveFor [Platform] (config : Config) (issues : List Diagnostic) (m : Machine) (file : Path)
    (s : Settings) : Publisher × SaveEnd × List String × List RunRecord :=
  (publisherFor config issues s).save m (.ofPath m.cwd file.text)

/-- How notices are printed while a file is checked. -/
def tasteFor (config : Config) (s : Settings) : NoticeTaste :=
  { emoji := s.emoji.getD config.emoji, color := some (s.color.getD config.color) }

/-- The collections of the two sources are published by their names. -/
lemma publishedBy_of_shown {p : Publisher}
    {compilerGroups analyzerGroups : Register String (List Diagnostic)}
    (compiler : p.compilerShown = Publisher.showGroups compilerSource
      (.named "elm-make-diagnostics") compilerGroups)
    (analyzer : p.analyzerShown = Publisher.showGroups analyzerSource
      (.named "elm-analyse-diagnostics") analyzerGroups) :
    publishedBy p = publishedAs
      (Publisher.showGroups compilerSource (.named "elm-make-diagnostics") compilerGroups).entries
      (Publisher.showGroups analyzerSource (.named "elm-analyse-diagnostics")
        analyzerGroups).entries := by
  rw [publishedBy, compiler, analyzer, Publisher.name_showGroups, Publisher.name_showGroups]
  rfl

/-- The issues of the analyzer are located by numbers that can be written. -/
lemma short_of_issuesFor [Platform] {m : Machine} {s : Settings} {issues : List Diagnostic}
    (h : issuesFor m s = .ok issues) : ∀ d ∈ issues, d.region.Short := by
  unfold issuesFor at h
  split at h
  · exact AnalyzerReport.short_of_load h
  · cases h
    exact List.forall_mem_nil _

section Check

variable [Platform] {m : Machine} {file : Path} {s : Settings} {config : Config}
  {issues : List Diagnostic}
  (hconfig : configFor m file s = .ok config) (hissues : issuesFor m s = .ok issues)

include hconfig hissues

/-- A check that could load what it needs goes by its save. -/
lemma check_of_loaded :
    check m file s =
      match saveFor config issues m file s with
      | (p, .reported r, notices, runs) =>
        match reportSave m (tasteFor config s) (s.color.getD config.color) s.json file p r with
        | .ok (exit, text) =>
          .ended { exit, stdout := (noticeTexts (tasteFor config s) s.json notices).1 ++ text,
                   stderr := (noticeTexts (tasteFor config s) s.json notices).2,
                   log := LogSetup.initial.configured s.debug, runs }
        | .error f => .raised f
      | (_, .raised f, _, _) => .raised f
      | (_, .cancelled, _, _) =>
        .ended { exit := notDone, log := LogSetup.initial.configured s.debug } := by
  simp only [check, hconfig, hissues]
  rfl

section Reported

variable {report : PublishReport} (returned : (saveFor config issues m file s).2.1 = .reported report)

include returned

omit hconfig in
/-- A save whose run returned has published the diagnostics: the status goes by them, and what is
printed documents them. -/
lemma published_of_returned (hskipped : report.skipped = false) (herror : report.error = none) :
    ∃ r, ((publisherFor config issues s).outcome m
        (Path.absText m.cwd (SavedDocument.ofPath m.cwd file.text).path)).result = .ok r ∧
      statusOf (publishedBy (saveFor config issues m file s).1) =
        (if ∃ d ∈ issues ++ r.diagnostics, ¬ d.IsWarning then 1 else 0) ∧
      Documents (echo (publishedBy (saveFor config issues m file s).1).reportText) issues
        r.diagnostics := by
  rcases Publisher.reported_cases returned with hskip | ⟨-, f, hfailed, -⟩ |
    ⟨-, -, handled, root, r, hroot, hresult⟩
  · rw [hskipped] at hskip
    cases hskip
  · rw [herror] at hfailed
    cases hfailed
  · obtain ⟨hcompiler, hanalyzer⟩ := Publisher.shown_of_first_save handled hroot hresult
    have hshown : publishedBy (saveFor config issues m file s).1 = _ :=
      publishedBy_of_shown hcompiler hanalyzer
    have hrecords := allRecords_showGroups_perm compilerSource "elm-make-diagnostics"
      r.diagnostics (some r.projectRoot.text)
    have hrecords' := allRecords_showGroups_perm analyzerSource "elm-analyse-diagnostics" issues root
    refine ⟨r, hresult, ?_, ?_⟩
    · simp only [statusOf, hshown, errorCount_publishedAs hrecords hrecords',
        nonWarnings_eq_zero_iff, errorsFound, ite_not]
    · rw [hshown]
      exact documents_publishedAs hrecords hrecords' (short_of_issuesFor hissues)
        (CompilerRun.short_of_run hresult)

variable (json : s.json = true)

include json

/-- With JSON a check whose save came to a report ends: what it says of the save is all that is on
standard output, and the notices of the run are on the other stream. -/
lemma check_of_reported {exit : Nat} {text : String}
    (said : reportSave m (tasteFor config s) (s.color.getD config.color) true file
      (saveFor config issues m file s).1 report = .ok (exit, text)) :
    check m file s = .ended
      { exit, stdout := text,
        stderr := String.join ((saveFor config issues m file s).2.2.1.map echo),
        log := LogSetup.initial.configured s.debug,
        runs := (saveFor config issues m file s).2.2.2 } := by
  rw [check_of_loaded hconfig hissues]
  generalize saveFor config issues m file s = saved at returned said
  obtain ⟨p, ending, notices, runs⟩ := saved
  obtain rfl : ending = .reported report := returned
  simp only [json, said, noticeTexts, if_true, String.empty_append]

/-- **Exit status, document and diagnostics agree.**  The configuration and the issues of the
analyzer were loaded, and the save of the file came to a report.  With JSON the check then ends: with
the status zero if the save was skipped, with the status of work that could not be done if the run
failed, and otherwise with the status of errors exactly if some diagnostic of the analyzer or of the
run is no warning.  In that last case what is printed documents the diagnostics. -/
theorem check_json_accounts :
    ∃ e, check m file s = .ended e ∧
      (report.skipped = true → e.exit = 0) ∧
      (report.skipped = false → ∀ f, report.error = some f → e.exit = 2) ∧
      (report.skipped = false → report.error = none →
        ∃ r, ((publisherFor config issues s).outcome m
            (Path.absText m.cwd (SavedDocument.ofPath m.cwd file.text).path)).result = .ok r ∧
          e.exit = (if ∃ d ∈ issues ++ r.diagnostics, ¬ d.IsWarning then 1 else 0) ∧
          Documents e.stdout issues r.diagnostics) := by
  cases hskipped : report.skipped with
  | true =>
    exact ⟨_, check_of_reported hconfig hissues returned json
      (by rw [reportSave, if_pos hskipped]), fun _ => rfl, nofun, nofun⟩
  | false =>
    cases herror : report.error with
    | some f =>
      exact ⟨_, check_of_reported hconfig hissues returned json
        (by rw [reportSave, hskipped, herror]; rfl), nofun, fun _ _ _ => rfl, nofun⟩
    | none =>
      exact ⟨_, check_of_reported hconfig hissues returned json
        (by rw [reportSave, hskipped, herror]; rfl), nofun, nofun,
        fun _ _ => published_of_returned hissues returned hskipped herror⟩

end Reported

end Check

/-! ## A warning beside an error -/

/-- A machine whose compiler of generation 0.18 reports one issue with a padded label, and a report
of the analyzer on one issue without a label. -/
def warningBesideError : Machine :=
  ⟨⟨[(["p"], .directory), (["p", "elm-package.json"], .file [] 420 none),
    (["a.json"], .file (Utf8.encode "[\x7b\"file\": \"A.elm\"\x7d]".toList) 420 none),
    (["bin"], .directory), (["bin", "elm-make"], .file [] 493 (some (.fixed
      ⟨Utf8.encode "[\x7b\"type\": \" Warning \"\x7d]\n".toList, [], none, 1⟩)))]⟩,
    "/", [("PATH", "/bin")], []⟩

lemma eq_ok_of_toOption {ε α : Type} {x : Except ε α} {a : α} (h : x.toOption = some a) :
    x = .ok a := by
  cases x <;> cases h
  rfl

/-- Whether a save was neither skipped nor ended with a fault. -/
def isPublishing : SaveEnd → Bool
  | .reported report => !report.skipped && report.error.isNone
  | _ => false

lemma exists_report_of_isPublishing {e : SaveEnd} (h : isPublishing e = true) :
    ∃ report, e = .reported report ∧ report.skipped = false ∧ report.error = none := by
  unfold isPublishing at h
  split at h
  · rename_i report
    rw [Bool.and_eq_true, Bool.not_eq_true', Option.isNone_iff_eq_none] at h
    exact ⟨report, rfl, h.1, h.2⟩
  · cases h

/-- Of two diagnostics the one without a label is an error, and that is the exit status. -/
theorem warning_beside_error_accounts :
    let file : Path := ⟨.root, ["p", "Main.elm"]⟩
    let s : Settings := { analyzerReport := some "/a.json", json := true }
    let issue : Diagnostic := ⟨"error", "", "", "", .whole, "error", "A.elm"⟩
    let warning : Diagnostic := ⟨"error", "", "", "", .whole, " Warning ", "/p/Main.elm"⟩
    configFor warningBesideError file s = .ok .standard ∧
      issuesFor warningBesideError s = .ok [issue] ∧
      (∃ report, (saveFor .standard [issue] warningBesideError file s).2.1 = .reported report) ∧
      ∃ e, check warningBesideError file s = .ended e ∧ e.exit = 1 ∧
        Documents e.stdout [issue] [warning] := by
  intro file s issue warning
  have hconfig : configFor warningBesideError file s = .ok .standard :=
    eq_ok_of_toOption (by decide +kernel)
  have hissues : issuesFor warningBesideError s = .ok [issue] :=
    eq_ok_of_toOption (by decide +kernel)
  have hdiagnostics : ((publisherFor .standard [issue] s).outcome warningBesideError
      (Path.absText warningBesideError.cwd
        (SavedDocument.ofPath warningBesideError.cwd file.text).path)).result.toOption.map
      RunResult.diagnostics = some [warning] := by
    decide +kernel
  obtain ⟨report, hreport, hskipped, herror⟩ := exists_report_of_isPublishing
    (e := (saveFor .standard [issue] warningBesideError file s).2.1) (by decide +kernel)
  obtain ⟨e, hcheck, -, -, hlast⟩ := check_json_accounts hconfig hissues hreport rfl
  obtain ⟨r, hr, hexit, hdocuments⟩ := hlast hskipped herror
  rw [hr] at hdiagnostics
  have hnonWarning : ∃ d ∈ [issue] ++ r.diagnostics, ¬ d.IsWarning :=
    ⟨issue, List.mem_cons_self .., by decide +kernel⟩
  refine ⟨hconfig, hissues, ⟨report, hreport⟩, e, hcheck, ?_, ?_⟩
  · rw [hexit, if_pos hnonWarning]
  · rwa [← Option.some.inj hdiagnostics]

end CommandLine

end ElmOnSave
