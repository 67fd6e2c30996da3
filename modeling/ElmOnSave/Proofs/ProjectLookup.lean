import ElmOnSave.Proofs.FailingSteps
import ElmOnSave.Proofs.Paths
import ElmOnSave.Publisher

/-!
# Looking up the project of a file

What is known once `projectRoot?` has answered.  A project it found holds a manifest and is spelled
properly (`wellFormed_of_projectRoot?`).  Everything else that is chosen for a saved file follows
from its answer: the root and generation (`detectProject_of_none`, `detectProject_of_some`), with
them the command that compiles the file (`CompileRequest.prepare_eq`), and the root from which the publisher
sees the analyzer's issues (`analyzerRoot_of_lookup`).  What can go wrong is that a path is too long
(`projectRoot?_eq_error`) or that an old manifest is refused for its size
(`generationOfManifest_eq_error`).
-/

namespace ElmOnSave

section Lookup

variable {m : Machine}

lemma isFile_manifest_of_holdsManifest {directory : Path} {b : Bool}
    (h : holdsManifest m directory = .ok b) :
    ∃ b', m.isFile (directory.child manifestName) = .ok b' := by
  obtain ⟨b', hfile, -⟩ := bind_eq_ok_iff.1 h
  exact ⟨b', mapError_eq_ok_iff.1 hfile⟩

/-- The root is always there to work in. -/
lemma Machine.hasWorkingDirectory_of_cwd_eq (h : m.cwd = "/") : m.HasWorkingDirectory := by
  have habsolute : Path.isAbsoluteText "/" = true := by decide +kernel
  have hpieces : Path.pieces "/".toList = ["", ""] := by decide +kernel
  have hclean : "/".toList.contains (Char.ofNat 0) = false := by decide
  refine ⟨by rw [h, habsolute], ?_⟩
  rw [h, stat, statFrom, hclean, hpieces]
  simp only [habsolute]
  rfl

/-- A question about a path has no answer only if the path is too long. -/
lemma ask_eq_error {question : Node → Bool} {path : Path} {e : SystemFault}
    (h : m.ask question path = .error e) : e = ⟨.nameTooLong, path.text⟩ := by
  unfold Machine.ask at h
  split at h
  · cases h
  · cases h
    rfl
  · cases h

lemma mapError_ask_eq_error {question : Node → Bool} {path : Path} {f : Fault}
    (h : (m.ask question path).mapError Fault.system = .error f) :
    f = .system ⟨.nameTooLong, path.text⟩ := by
  obtain ⟨e, hask, rfl⟩ := mapError_eq_error_iff.1 h
  rw [ask_eq_error hask]

lemma holdsManifest_eq_error {directory : Path} {f : Fault}
    (h : holdsManifest m directory = .error f) : ∃ path, f = .system ⟨.nameTooLong, path⟩ := by
  rcases bind_eq_error_iff.1 h with hfile | ⟨b, -, hold⟩
  · exact ⟨_, mapError_ask_eq_error hfile⟩
  · cases b with
    | true => cases hold
    | false => exact ⟨_, mapError_ask_eq_error hold⟩

lemma firstWithManifest_eq_error {ds : List Path} {f : Fault}
    (h : firstWithManifest m ds = .error f) : ∃ path, f = .system ⟨.nameTooLong, path⟩ := by
  induction ds with
  | nil => cases h
  | cons d ds ih =>
    rw [firstWithManifest] at h
    split at h
    · rename_i hd
      cases h
      exact holdsManifest_eq_error hd
    · cases h
    · exact ih h

/-- The directory that is found is among those looked through, and holds a manifest. -/
lemma firstWithManifest_eq_some {ds : List Path} {d : Path}
    (h : firstWithManifest m ds = .ok (some d)) : d ∈ ds ∧ holdsManifest m d = .ok true := by
  induction ds with
  | nil => cases h
  | cons d' ds ih =>
    rw [firstWithManifest] at h
    split at h
    · cases h
    · rename_i hd
      cases h
      exact ⟨List.mem_cons_self .., hd⟩
    · exact ⟨List.mem_cons_of_mem d' (ih h).1, (ih h).2⟩

lemma expandHome?_of_isAbsolute {path : Path} (absolute : path.isAbsolute = true) :
    m.expandHome? path = some path := by
  obtain ⟨a, ns⟩ := path
  cases a with
  | relative => cases absolute
  | root | doubleRoot => rfl

lemma absolute_of_isAbsolute {path : Path} (absolute : path.isAbsolute = true) (cwd : Path) :
    path.absolute cwd = path :=
  if_pos absolute

/-- The directories that the lookup for a path goes through. -/
def lookedThrough (path : Path) (isDirectory : Bool) : List Path :=
  let start := if isDirectory then path else path.parent
  start :: start.ancestors

lemma projectRoot?_of_isAbsolute {path : Path} (absolute : path.isAbsolute = true) :
    projectRoot? m path = ((m.isDirectory path).mapError Fault.system).bind fun isDirectory =>
      firstWithManifest m (lookedThrough path isDirectory) := by
  rw [projectRoot?, expandHome?_of_isAbsolute absolute]
  simp only [absolute_of_isAbsolute absolute]
  rfl

lemma projectRoot?_eq_some {path root : Path} (absolute : path.isAbsolute = true)
    (h : projectRoot? m path = .ok (some root)) :
    ∃ isDirectory, root ∈ lookedThrough path isDirectory ∧ holdsManifest m root = .ok true := by
  rw [projectRoot?_of_isAbsolute absolute] at h
  obtain ⟨isDirectory, -, hfirst⟩ := bind_eq_ok_iff.1 h
  exact ⟨isDirectory, firstWithManifest_eq_some hfirst⟩

/-- Looking for a project fails only where a path is too long. -/
theorem projectRoot?_eq_error {path : Path} {f : Fault} (absolute : path.isAbsolute = true)
    (h : projectRoot? m path = .error f) : ∃ path', f = .system ⟨.nameTooLong, path'⟩ := by
  rw [projectRoot?_of_isAbsolute absolute] at h
  rcases bind_eq_error_iff.1 h with hdirectory | ⟨isDirectory, -, hfirst⟩
  · exact ⟨_, mapError_ask_eq_error hdirectory⟩
  · exact firstWithManifest_eq_error hfirst

/-- The root of a project is well-formed, as the path is. -/
lemma wellFormed_of_projectRoot? {path root : Path} (absolute : path.isAbsolute = true)
    (hpath : path.WellFormed) (h : projectRoot? m path = .ok (some root)) : root.WellFormed := by
  obtain ⟨isDirectory, hmem, -⟩ := projectRoot?_eq_some absolute h
  have hstart : (if isDirectory then path else path.parent).WellFormed := by
    split
    · exact hpath
    · exact hpath.parent
  rcases List.mem_cons.1 hmem with rfl | hroot
  · exact hstart
  · exact hstart.ancestor hroot

end Lookup

/-! ## Root, generation and command -/

lemma readNumber_eq_error {digits : List Char} {f : Fault} (h : readNumber digits = .error f) :
    f = .integerTooLong digits.length := by
  unfold readNumber at h
  split at h
  · cases h
    rfl
  · cases h

/-- An old manifest tells its generation unless it is refused for its size. -/
theorem generationOfManifest_eq_error [Platform] {m : Machine} {manifest : Path} {f : Fault}
    (h : generationOfManifest m manifest = .error f) :
    f = .nestedTooDeep ∨ ∃ digits, f = .integerTooLong digits := by
  unfold generationOfManifest at h
  split at h
  · cases h
  split at h
  · cases h
    exact .inl rfl
  · cases h
  unfold generationOfConstraint at h
  split at h
  · cases h
  rcases bind_eq_error_iff.1 h with hmajor | ⟨a, -, h⟩
  · exact .inr ⟨_, readNumber_eq_error hmajor⟩
  rcases bind_eq_error_iff.1 h with hminor | ⟨b, -, h⟩
  · exact .inr ⟨_, readNumber_eq_error hminor⟩
  · cases h

section Detect

variable {m : Machine} {file : Path}

lemma detectProject_of_error [Platform] {f : Fault} (workspace : Option Path)
    (h : projectRoot? m file = .error f) : detectProject m file workspace = .error f := by
  rw [detectProject, h]
  rfl

variable (absolute : file.isAbsolute = true) (workspace : Option Path)

include absolute

lemma detectProject_of_none [Platform] (h : projectRoot? m file = .ok none) :
    detectProject m file workspace = .ok (workspace.getD file.parent, .reportDocuments) := by
  rw [detectProject, h, absolute_of_isAbsolute absolute]
  rfl

/-- The generation of a project that was found: the old manifest is read only if there is no other.
-/
lemma detectProject_of_some [Platform] {root : Path} (h : projectRoot? m file = .ok (some root)) :
    ∃ b, m.isFile (root.child manifestName) = .ok b ∧ detectProject m file workspace =
      if b then .ok (root, .reportDocuments)
      else (generationOfManifest m (root.child oldManifestName)).map (Prod.mk root) := by
  obtain ⟨-, -, hroot⟩ := projectRoot?_eq_some absolute h
  obtain ⟨b, hb⟩ := isFile_manifest_of_holdsManifest hroot
  refine ⟨b, hb, ?_⟩
  simp only [detectProject, h, hb, bind, Except.bind, Except.mapError]
  cases b <;> rfl

/-- Root and generation are known unless the lookup fails, or the old manifest of the project is
read and refused. -/
lemma detectProject_eq_error_iff [Platform] {f : Fault} :
    detectProject m file workspace = .error f ↔ projectRoot? m file = .error f ∨
      ∃ root, projectRoot? m file = .ok (some root) ∧
        m.isFile (root.child manifestName) = .ok false ∧
        generationOfManifest m (root.child oldManifestName) = .error f := by
  cases hlookup : projectRoot? m file with
  | error f' => simp [detectProject_of_error workspace hlookup]
  | ok found =>
    cases found with
    | none => simp [detectProject_of_none absolute workspace hlookup]
    | some root =>
      obtain ⟨b, hb, hdetect⟩ := detectProject_of_some absolute workspace hlookup
      cases b with
      | true => simp [hdetect, hb]
      | false => simp [hdetect, hb, map_eq_error_iff]

/-- Whatever the generation is, the root is the one that was found, else the workspace, else the
directory of the file. -/
lemma fst_of_detectProject [Platform] {root : Path} {found : Option Path} {g : Generation}
    (h : projectRoot? m file = .ok found)
    (detected : detectProject m file workspace = .ok (root, g)) :
    root = found.getD (workspace.getD file.parent) := by
  cases found with
  | none =>
    rw [detectProject_of_none absolute workspace h] at detected
    cases detected
    rfl
  | some found =>
    obtain ⟨b, -, heq⟩ := detectProject_of_some absolute workspace h
    rw [heq] at detected
    cases b with
    | true =>
      cases detected
      rfl
    | false =>
      obtain ⟨g', -, hroot⟩ := map_eq_ok_iff.1 detected
      cases hroot
      rfl

end Detect

section AnalyzerRoot

variable {m : Machine} {p : Publisher} {location : String}

lemma analyzerRoot_of_error {f : Fault} (h : projectRoot? m (.ofString location) = .error f) :
    p.analyzerRoot m location = .error f := by
  rw [Publisher.analyzerRoot, h]
  rfl

lemma analyzerRoot_of_lookup {found : Option Path}
    (h : projectRoot? m (.ofString location) = .ok found) :
    p.analyzerRoot m location = .ok ((found.map Path.text) <|> p.workspace) := by
  rw [Publisher.analyzerRoot, h]
  rfl

end AnalyzerRoot

/-! ## Preparing a command -/

namespace CompileRequest

variable {m : Machine} {r : CompileRequest}

/-- The root and generation that a request is prepared for. -/
def detected [Platform] (m : Machine) (r : CompileRequest) : Except Fault (Path × Generation) :=
  match r.project with
  | some p => .ok p
  | none => detectProject m (.ofString r.file) (r.workspace.map Path.ofString)

lemma prepare_eq [Platform] (m : Machine) (r : CompileRequest) :
    r.prepare m = (r.detected m).map fun found =>
      (found.2.command r.file found.1
        (r.isTest.getD (isTestFile m.here (.ofString r.file) (some found.1))) r.config false,
        found.2) := by
  unfold prepare CompileRequest.detected
  cases r.project with
  | some p => rfl
  | none =>
    dsimp only
    cases detectProject m (.ofString r.file) (r.workspace.map Path.ofString) <;> rfl

/-- A command that is prepared runs in the root that was found. -/
lemma exists_detected_of_prepare [Platform] {c : Command} {g : Generation}
    (h : r.prepare m = .ok (c, g)) :
    ∃ root, r.detected m = .ok (root, g) ∧
      c = g.command r.file root
        (r.isTest.getD (isTestFile m.here (.ofString r.file) (some root))) r.config false := by
  rw [prepare_eq] at h
  obtain ⟨⟨root, g'⟩, hdetected, hcommand⟩ := map_eq_ok_iff.1 h
  cases hcommand
  exact ⟨root, hdetected, rfl⟩

/-- Preparing a command fails only where no project is told. -/
lemma prepare_eq_error [Platform] {f : Fault} (h : r.prepare m = .error f) :
    detectProject m (.ofString r.file) (r.workspace.map Path.ofString) = .error f := by
  rw [prepare_eq, map_eq_error_iff, CompileRequest.detected] at h
  split at h
  · cases h
  · exact h

end CompileRequest

/-- A run that yields something was prepared.  Then the compiler is missing, or a process has run. -/
lemma CompilerRun.run_eq_ok [Platform] {m : Machine} {r : CompileRequest} {result : RunResult}
    (h : (run m r).result = .ok result) : ∃ c g, r.prepare m = .ok (c, g) ∧
      (result = ⟨[], c.cwd, g, c, true⟩ ∨
        ∃ x ds, supervise g r c x = .ok ds ∧ result = ⟨ds, c.cwd, g, c, false⟩) := by
  have hstart : ∀ {c : Command} {g : Generation} {e : SystemFault},
      (notStarted c g e).result = .ok result → result = ⟨[], c.cwd, g, c, true⟩ := by
    intro c g e h
    unfold notStarted at h
    split at h <;> cases h
    rfl
  unfold run at h
  split at h
  · cases h
  rename_i c g hprepare
  refine ⟨c, g, hprepare, ?_⟩
  unfold runCommand at h
  split at h
  · cases h
    exact .inl rfl
  · exact .inl (hstart h)
  · cases h
  · split at h
    · exact .inl (hstart h)
    · cases h
    · rename_i x _
      obtain ⟨ds, hsupervise, rfl⟩ := map_eq_ok_iff.1 h
      exact .inr ⟨x, ds, hsupervise, rfl⟩

section Request

variable {m : Machine} {location : String} (normal : Path.absText m.cwd location = location)
  (p : Publisher)

include normal

lemma detected_request [Platform] : (p.request m location).detected m =
    detectProject m (.ofString location) (p.workspace.map Path.ofString) := by
  simp only [Publisher.request, CompileRequest.ofFile, CompileRequest.detected, normal]

/-- The command for a saved file runs in the root of its project. -/
lemma prepare_request [Platform] : (p.request m location).prepare m =
    (detectProject m (.ofString location) (p.workspace.map Path.ofString)).map fun (root, g) =>
      (g.command location root (isTestFile m.here (.ofString location) (some root)) p.config
        false, g) := by
  rw [CompileRequest.prepare_eq, detected_request normal]
  simp only [Publisher.request, CompileRequest.ofFile, normal]
  rfl

end Request

end ElmOnSave
