import ElmOnSave.CommandLine
import ElmOnSave.Proofs.AnalyzerRecords
import ElmOnSave.Proofs.CompilerRecords
import ElmOnSave.Proofs.ProjectLookup
import ElmOnSave.Proofs.WholeSave

/-!
# The roots of a save

Three places choose a root for a saved file: the command line, which looks for the configuration
there, the request to the compiler, which runs there and whose diagnostics are seen from there, and
the publisher, which sees the analyzer's issues from there.  All three take the project of the file
or else the workspace.  Without either, the first two fall back on the directory of the file
(`chosenRoot`), but the publisher has no root at all (`analyzerRoot_of_lookup`), and relative paths
stay as the analyzer spelled them.

`same_root_iff` says that this is the only difference, and what it means for the records of one
save: an issue of the analyzer and a diagnostic of the compiler that name the same relative path are
published under the same file exactly if there is a project or a workspace.
-/

namespace ElmOnSave

/-- The root of a file that never fails: the project, the workspace, or the directory of the file.
-/
def chosenRoot (found workspace : Option Path) (file : Path) : Path :=
  found.getD (workspace.getD file.parent)

section Choices

variable {m : Machine} {p : Publisher}

lemma configRoot_of_lookup {file : Path} {found : Option Path}
    (h : projectRoot? m file = .ok found) (s : CommandLine.Settings) :
    CommandLine.configRoot m file s =
      .ok (chosenRoot found (s.workspaceRoot.map Path.ofString) file) := by
  rw [CommandLine.configRoot, h]
  rfl

lemma cwd_of_prepare [Platform] {location : String} {found : Option Path} {c : Command}
    {g : Generation} (absolute : Path.isAbsoluteText location = true)
    (normal : Path.absText m.cwd location = location)
    (h : projectRoot? m (.ofString location) = .ok found)
    (prepared : (p.request m location).prepare m = .ok (c, g)) :
    c.cwd = chosenRoot found (p.workspace.map Path.ofString) (.ofString location) := by
  obtain ⟨root, hdetected, rfl⟩ := CompileRequest.exists_detected_of_prepare prepared
  rw [detected_request normal] at hdetected
  rw [← Path.isAbsolute_ofString] at absolute
  exact fst_of_detectProject absolute _ h hdetected

/-- What a run yields is seen from the directory of its command. -/
lemma exists_prepare_of_run [Platform] {r : CompileRequest} {result : RunResult}
    (h : (CompilerRun.run m r).result = .ok result) :
    ∃ c g, r.prepare m = .ok (c, g) ∧ result.projectRoot = c.cwd := by
  obtain ⟨c, g, prepared, rfl | ⟨x, ds, -, rfl⟩⟩ := CompilerRun.run_eq_ok h
  · exact ⟨c, g, prepared, rfl⟩
  · exact ⟨c, g, prepared, rfl⟩

end Choices

/-! ## Where relative paths lead -/

/-- A relative path seen from an absolute directory is absolute. -/
lemma isAbsoluteText_issuePath {path : String} (directory : Path)
    (relative : Path.isAbsoluteText path = false) (absolute : directory.isAbsolute = true)
    (hdirectory : directory.WellFormed) :
    Path.isAbsoluteText (issuePath path (some directory.text)) = true := by
  have hspelled : Path.isAbsoluteText directory.text = true := by
    rw [← Path.isAbsolute_ofString, Path.ofString_text hdirectory, absolute]
  simp only [issuePath, relative, Bool.false_eq_true, if_false]
  rw [Path.isAbsoluteText_normText]
  exact Path.isAbsoluteText_joinText hspelled path

section SameRoot

variable {found : Option Path} (hfound : ∀ root ∈ found, root.WellFormed)
  (workspace : Option String) {file : Path}

include hfound

/-- The publisher's root is the root of the others if there is a project or a workspace. -/
lemma publisherRoot_eq_chosenRoot_iff :
    ((found.map Path.text) <|> workspace).map Path.ofString =
        some (chosenRoot found (workspace.map Path.ofString) file) ↔
      found.isSome = true ∨ workspace.isSome = true := by
  cases found with
  | some root => simp [chosenRoot, Path.ofString_text (hfound root rfl)]
  | none => cases workspace <;> simp [chosenRoot]

/-- Seen from both roots an absolute path leads to the same file, and a relative one does if there
is a project or a workspace. -/
lemma issuePath_publisherRoot_iff (hfile : file.WellFormed) (absolute : file.isAbsolute = true)
    (path : String) :
    issuePath path ((found.map Path.text) <|> workspace) =
        issuePath path (some (chosenRoot found (workspace.map Path.ofString) file).text) ↔
      Path.isAbsoluteText path = true ∨ found.isSome = true ∨ workspace.isSome = true := by
  cases hpath : Path.isAbsoluteText path with
  | true =>
    refine iff_of_true ?_ (.inl rfl)
    cases (found.map Path.text) <|> workspace <;> simp [issuePath, hpath]
  | false =>
    cases found with
    | some root => exact iff_of_true rfl (.inr (.inl rfl))
    | none =>
      cases workspace with
      | some w =>
        refine iff_of_true (issuePath_congr ?_ path) (.inr (.inr rfl))
        exact (Path.ofString_text (Path.wellFormed_ofString w)).symm
      | none =>
        refine iff_of_false (fun heq => ?_) (by simp)
        have habs := isAbsoluteText_issuePath file.parent hpath absolute hfile.parent
        have hspelled : path = issuePath path (some file.parent.text) := heq
        rw [← hspelled, hpath] at habs
        cases habs

end SameRoot

/-! ## The records of one save -/

lemma toEditor_mem_recordsAt {ds : List Diagnostic} {d : Diagnostic} (hd : d ∈ ds)
    (source : String) (root : Option String) :
    d.toEditor (some source) ∈ recordsAt source ds root (issuePath d.file root) :=
  List.mem_map_of_mem (List.mem_filter.2 ⟨hd, decide_eq_true rfl⟩)

namespace Publisher

variable {m : Machine} {p : Publisher} {d : SavedDocument} {root : Option String}
  (handled : p.handles d = true)
  (hroot : p.analyzerRoot m (Path.absText m.cwd d.path) = .ok root)

include handled hroot

/-- An issue of the analyzer is published where it is seen from the publisher's root. -/
lemma toEditor_mem_analyzerShown_save [Platform] {i : Diagnostic} (hi : i ∈ p.analyzer.issues) :
    i.toEditor (some analyzerSource) ∈
      (p.save m d).1.analyzerShown.get (issuePath i.file root) := by
  have hmem := toEditor_mem_recordsAt hi analyzerSource root
  have hget : (p.beginRun (Path.absText m.cwd d.path) root).1.analyzerShown.get?
      (issuePath i.file root) =
        some (recordsAt analyzerSource p.analyzer.issues root (issuePath i.file root)) :=
    (get?_analyzerShown_publishAnalyzer (p.clearFile _) root _).trans
      (if_neg (List.ne_nil_of_mem hmem))
  rw [save_of_root handled hroot]
  simp only [endRun_analyzerShown]
  rw [Collection.get_eq_getD, hget]
  exact hmem

/-- A diagnostic of the compiler is published where it is seen from the directory of the run. -/
lemma toEditor_mem_compilerShown_save [Platform] {r : RunResult}
    (returned : (p.outcome m (Path.absText m.cwd d.path)).result = .ok r) {c : Diagnostic}
    (hc : c ∈ r.diagnostics) :
    c.toEditor (some compilerSource) ∈
      (p.save m d).1.compilerShown.get (issuePath c.file (some r.projectRoot.text)) := by
  have hmem := toEditor_mem_recordsAt hc compilerSource (some r.projectRoot.text)
  have hending : (p.outcome m (Path.absText m.cwd d.path)).ending = .returned r := by
    rw [RunOutcome.ending, returned]
  rw [save_of_root handled hroot]
  simp only [hending, endRun_returned_of_not_discards _ _ (not_discards_beginRun p _ root)]
  rw [Collection.get_eq_getD, get?_showGroups, if_neg (List.ne_nil_of_mem hmem)]
  exact hmem

end Publisher

/-- **One root for every save that has one.**  A document with an absolute path is saved.  If its
project cannot be looked up, the command line, the compiler and the publisher fail alike.  Else the
command line and the compiler choose the same directory, and the publisher's root is that directory
exactly if there is a project or a workspace.  The records of one save that name the same path are
published under the same file exactly if the path is absolute or there is such a root. -/
theorem same_root_iff [Platform] {m : Machine} {p : Publisher} {s : CommandLine.Settings}
    {d : SavedDocument} (absolute : Path.isAbsoluteText d.path = true)
    (workspace : s.workspaceRoot.map Path.ofString = p.workspace.map Path.ofString) :
    let location := Path.absText m.cwd d.path
    match projectRoot? m (.ofString location) with
    | .error f => p.analyzerRoot m location = .error f ∧
        CommandLine.configRoot m (.ofString location) s = .error f ∧
        (p.request m location).prepare m = .error f
    | .ok found => ∃ root directory,
        p.analyzerRoot m location = .ok root ∧
        CommandLine.configRoot m (.ofString location) s = .ok directory ∧
        (∀ c g, (p.request m location).prepare m = .ok (c, g) → c.cwd = directory) ∧
        (root.map Path.ofString = some directory ↔
          found.isSome = true ∨ p.workspace.isSome = true) ∧
        (∀ path, issuePath path root = issuePath path (some directory.text) ↔
          Path.isAbsoluteText path = true ∨ found.isSome = true ∨ p.workspace.isSome = true) ∧
        (p.handles d = true → ∀ r, (p.outcome m location).result = .ok r →
          (∀ i ∈ p.analyzer.issues, i.toEditor (some analyzerSource) ∈
            (p.save m d).1.analyzerShown.get (issuePath i.file root)) ∧
          ∀ c ∈ r.diagnostics, c.toEditor (some compilerSource) ∈
            (p.save m d).1.compilerShown.get (issuePath c.file (some directory.text))) := by
  intro location
  have hlocation : location = Path.normText d.path := Path.absText_of_isAbsoluteText absolute _
  have habs : Path.isAbsoluteText location = true := by
    rw [hlocation, Path.isAbsoluteText_normText, absolute]
  have normal : Path.absText m.cwd location = location := by
    rw [Path.absText_of_isAbsoluteText habs, hlocation, Path.normText_normText absolute]
  have hfile : (Path.ofString location).isAbsolute = true := by rw [Path.isAbsolute_ofString, habs]
  have hformed : (Path.ofString location).WellFormed := Path.wellFormed_ofString location
  cases hlookup : projectRoot? m (.ofString location) with
  | error f =>
    have hconfig : CommandLine.configRoot m (.ofString location) s = .error f := by
      rw [CommandLine.configRoot, hlookup]
      rfl
    have hprepare : (p.request m location).prepare m = .error f := by
      rw [prepare_request normal, detectProject_of_error _ hlookup]
      rfl
    exact ⟨analyzerRoot_of_error hlookup, hconfig, hprepare⟩
  | ok found =>
    have hfound : ∀ root ∈ found, root.WellFormed := fun root hroot => by
      cases hroot
      exact wellFormed_of_projectRoot? hfile hformed hlookup
    have hroot := analyzerRoot_of_lookup (p := p) hlookup
    refine ⟨_, _, hroot, by rw [configRoot_of_lookup hlookup, workspace],
      fun c g => cwd_of_prepare habs normal hlookup, publisherRoot_eq_chosenRoot_iff hfound _,
      issuePath_publisherRoot_iff hfound _ hformed hfile, fun handled r returned => ⟨?_, ?_⟩⟩
    · exact fun i hi => Publisher.toEditor_mem_analyzerShown_save handled hroot hi
    · obtain ⟨c, g, prepared, hdirectory⟩ := exists_prepare_of_run returned
      rw [← cwd_of_prepare habs normal hlookup prepared, ← hdirectory]
      exact fun c hc => Publisher.toEditor_mem_compilerShown_save handled hroot returned hc

/-- A publisher that knows of no workspace. -/
def withoutWorkspace : Publisher :=
  .initial .standard ⟨[]⟩ none "compiler" "analyzer"

/-- In a project both records of a path are published under the same file. -/
theorem one_root_in_project :
    let location := "/p/Main.elm"
    let settings : CommandLine.Settings := {}
    Path.isAbsoluteText location = true ∧
      settings.workspaceRoot.map Path.ofString = withoutWorkspace.workspace.map Path.ofString ∧
      ∃ root, withoutWorkspace.analyzerRoot Session.twoProjects location = .ok root ∧
        CommandLine.configRoot Session.twoProjects (.ofString location) settings =
          .ok ⟨.root, ["p"]⟩ ∧
        ∀ path, issuePath path root = issuePath path (some "/p") := by
  intro location settings
  have absolute : Path.isAbsoluteText location = true := by decide +kernel
  refine ⟨absolute, rfl, ?_⟩
  have hroots := same_root_iff (m := Session.twoProjects) (p := withoutWorkspace) (s := settings)
    (d := ⟨location, "elm", "file"⟩) absolute rfl
  have hlocation : Path.absText Session.twoProjects.cwd location = location := by decide +kernel
  have hlookup : projectRoot? Session.twoProjects (.ofString location) =
      .ok (some ⟨.root, ["p"]⟩) := by decide +kernel
  have hconfig : CommandLine.configRoot Session.twoProjects (.ofString location) settings =
      .ok ⟨.root, ["p"]⟩ := by decide +kernel
  simp only [hlocation, hlookup] at hroots
  obtain ⟨root, directory, hroot, hdirectory, -, -, hpaths, -⟩ := hroots
  obtain rfl : ⟨.root, ["p"]⟩ = directory := Except.ok.inj (hconfig.symm.trans hdirectory)
  exact ⟨root, hroot, hconfig, fun path => (hpaths path).2 (.inr (.inl rfl))⟩

/-- Without a project and a workspace a relative path leads to different files. -/
theorem not_forall_same_root :
    ¬ ∀ (m : Machine) (p : Publisher) (location : String) (root : Option String) (c : Command)
        (g : Generation) (path : String), Path.isAbsoluteText location = true →
      p.analyzerRoot m location = .ok root → (p.request m location).prepare m = .ok (c, g) →
      issuePath path root = issuePath path (some c.cwd.text) := by
  intro h
  have hsame := h ⟨⟨[]⟩, "/", [], []⟩ withoutWorkspace "/Main.elm" none
    (Generation.reportDocuments.command "/Main.elm" ⟨.root, []⟩ false .standard false)
    .reportDocuments "src/A.elm" (by decide +kernel) (by decide +kernel) (by decide +kernel)
  revert hsame
  decide +kernel

end ElmOnSave
