import ElmOnSave.Proofs.NearestManifest
import ElmOnSave.Proofs.TestFiles

/-!
# Copies of a project

A project is copied if what stands below its directory stands below another one as well
(`FileTree.SameBelow`), in the same file tree or in that of another machine.  Since the directory
holds a manifest, the nearest manifest for a file of the project lies in it
(`exists_nearest_down`), and the copy of the file has its nearest manifest at the same place of the
copy (`nearest_of_sameBelow`).  The two manifests are the same, and so is the generation
(`exists_detected`).

A file is classified by its path below the root of its project (`isTestFile_join`), so for the copy
the same program is chosen (`choice_eq_of_isCopy`), wherever the copy is.
-/

namespace ElmOnSave

/-- The path that leads some names further. -/
def Path.down (p : Path) (names : List String) : Path :=
  ⟨p.anchor, p.names ++ names⟩

namespace Path

lemma join_of_relative {p q : Path} (relative : q.isAbsolute = false) :
    p.join q = p.down q.names := by
  rw [join, relative, if_neg Bool.false_ne_true, down]

/-- What lies below a path is where a way down from it leads. -/
lemma LiesBelow.exists_down {p root : Path} (h : p.LiesBelow root) :
    ∃ names, p = root.down names := by
  obtain ⟨anchor, names, hnames⟩ := h
  cases p
  cases anchor
  cases hnames
  exact ⟨names, rfl⟩

lemma absolute_down {p : Path} (absolute : p.isAbsolute = true) (names : List String) (cwd : Path) :
    (p.down names).absolute cwd = p.down names := by
  have hdown : (p.down names).isAbsolute = true := absolute
  exact absolute_of_isAbsolute hdown cwd

/-- Without `..`, a way down leads from the normal path where it leads from the path. -/
lemma normalize_down {p : Path} {names : List String} (h : ".." ∉ names) :
    (p.down names).normalize = p.normalize.down names := by
  rw [normalize, down, List.foldl_append, foldl_normalStep_of_not_mem h, List.reverse_append,
    List.reverse_reverse]
  rfl

section Texts

variable {P r : String} (absolute : isAbsoluteText P = true) (relative : isAbsoluteText r = false)

include relative

lemma ofString_joinText_eq_down :
    ofString (joinText P r) = (ofString P).down (ofString r).names := by
  rw [ofString_joinText relative, join_of_relative ((isAbsolute_ofString r).trans relative)]

include absolute

lemma absolute_joinText (cwd : Path) :
    (ofString (joinText P r)).absolute cwd = (ofString P).join (ofString r) := by
  rw [ofString_joinText relative]
  refine absolute_of_isAbsolute ?_ cwd
  rw [join_of_relative ((isAbsolute_ofString r).trans relative)]
  exact (isAbsolute_ofString P).trans absolute

variable (down : ".." ∉ (ofString r).names) (cwd : String)

include down

lemma ofString_absText_joinText : ofString (absText cwd (joinText P r)) =
    (ofString P).normalize.down (ofString r).names := by
  rw [absText_of_isAbsoluteText (isAbsoluteText_joinText absolute r), ofString_normText,
    ofString_joinText_eq_down relative, normalize_down down]

lemma isDirect_normalize_down : ((ofString P).normalize.down (ofString r).names).IsDirect := by
  rw [← ofString_absText_joinText absolute relative down "/", absText_of_isAbsoluteText
    (isAbsoluteText_joinText absolute r), ofString_normText]
  have hjoined : (ofString (joinText P r)).isAbsolute = true :=
    (isAbsolute_ofString _).trans (isAbsoluteText_joinText absolute r)
  exact ⟨hjoined, (wellFormed_ofString _).normalize, dots_not_mem_normalize hjoined⟩

end Texts

end Path

/-! ## Copies in a file tree -/

/-- What stands below a directory of one tree stands below a directory of another. -/
def FileTree.SameBelow (t t' : FileTree) (d d' : List String) : Prop :=
  ∀ names, t.node? (d ++ names) = t'.node? (d' ++ names)

section Trees

variable {t t' : FileTree} {root root' : Path} {names inner : List String}

lemma FileTree.SameBelow.holdsFile_eq {d d' : List String} (same : t.SameBelow t' d d')
    (names : List String) : t'.holdsFile (d' ++ names) = t.holdsFile (d ++ names) := by
  rw [holdsFile, holdsFile, same names]

lemma FileTree.SameBelow.holdsManifest_eq {d d' : List String} (same : t.SameBelow t' d d')
    (inner : List String) : t'.holdsManifest (d' ++ inner) = t.holdsManifest (d ++ inner) := by
  rw [holdsManifest, holdsManifest]
  simp only [List.append_assoc, same.holdsFile_eq]

/-- A candidate in the copy of a project is the copy of one in the project. -/
lemma candidate_of_sameBelow (same : t.SameBelow t' root.names root'.names)
    (h : Candidate t (root.down names) (root.down inner)) :
    Candidate t' (root'.down names) (root'.down inner) where
  anchor := rfl
  above := (List.prefix_append_right_inj _).2 ((List.prefix_append_right_inj _).1 h.above)
  itself heq := by
    have hinner : inner = names := List.append_cancel_left heq
    exact (same names).symm.trans (h.itself (congrArg (root.names ++ ·) hinner))

/-- The nearest manifest for the copy of a file is at the same place of the copy. -/
lemma nearest_of_sameBelow (same : t.SameBelow t' root.names root'.names)
    (h : Nearest t (root.down names) (root.down inner)) :
    Nearest t' (root'.down names) (root'.down inner) := by
  refine ⟨candidate_of_sameBelow same h.candidate, (same.holdsManifest_eq inner).trans h.holds, ?_⟩
  rintro d candidate hd
  have hroot : root'.names <+: (root'.down names).names := List.prefix_append _ _
  obtain habove | hbelow := List.prefix_or_prefix_of_prefix candidate.above hroot
  · exact habove.trans (List.prefix_append _ _)
  · -- A directory below the copy is the copy of one below the project.
    have hdown : d.LiesBelow root' := ⟨candidate.anchor, hbelow⟩
    obtain ⟨inner', rfl⟩ := hdown.exists_down
    have hdeepest := h.deepest (root.down inner')
      (candidate_of_sameBelow (fun names => (same names).symm) candidate)
      ((same.holdsManifest_eq inner').symm.trans hd)
    exact (List.prefix_append_right_inj _).2 ((List.prefix_append_right_inj _).1 hdeepest)

end Trees

/-! ## Finding the project -/

section Detection

variable {m m' : Machine} {root root' : Path} {names inner : List String}

/-- The nearest manifest for a file below a directory with a manifest lies in this directory or
below it. -/
lemma exists_nearest_down (direct : (root.down names).IsDirect) (proper : m.tree.IsProper)
    (answers : m.Answers (root.down names)) (manifest : m.tree.holdsManifest root.names = true) :
    ∃ inner, Nearest m.tree (root.down names) (root.down inner) := by
  have candidate : Candidate m.tree (root.down names) root :=
    ⟨rfl, List.prefix_append _ _, fun heq => heq ▸ proper.node?_of_holdsManifest manifest⟩
  obtain ⟨found, hfound⟩ : ∃ found, projectRoot? m (root.down names) = .ok found :=
    ⟨_, projectRoot?_eq_find? direct proper answers⟩
  cases found with
  | none =>
    have hnone := (projectRoot?_eq_none_iff direct proper answers).1 hfound root candidate
    rw [manifest] at hnone
    cases hnone
  | some d =>
    have h := (projectRoot?_eq_some_iff direct proper answers).1 hfound
    have hdown : d.LiesBelow root := ⟨h.candidate.anchor, h.deepest root candidate manifest⟩
    obtain ⟨inner, rfl⟩ := hdown.exists_down
    exact ⟨inner, h⟩

variable (direct : (root.down names).IsDirect) (direct' : (root'.down names).IsDirect)
  (proper : m.tree.IsProper) (proper' : m'.tree.IsProper)
  (answers : m.Answers (root.down names)) (answers' : m'.Answers (root'.down names))
  (same : m.tree.SameBelow m'.tree root.names root'.names)
  (nearest : Nearest m.tree (root.down names) (root.down inner))

include direct direct' proper proper' answers answers' same nearest

/-- An old manifest and its copy tell the same generation. -/
lemma generationOfManifest_of_sameBelow [Platform]
    (old : m.tree.holdsFile ((root.down inner).names ++ [oldManifestName]) = true) :
    generationOfManifest m' ((root'.down inner).child oldManifestName) =
      generationOfManifest m ((root.down inner).child oldManifestName) := by
  have nearest' := nearest_of_sameBelow same nearest
  obtain ⟨content, mode, program, hnode⟩ := FileTree.exists_file_of_holdsFile old
  obtain ⟨b, hb⟩ := answers.oldManifest _ nearest.candidate
  obtain ⟨b', hb'⟩ := answers'.oldManifest _ nearest'.candidate
  have hnode' : m'.tree.node? ((root'.down inner).names ++ [oldManifestName]) =
      some (.file content mode program) := by
    rw [Path.down, List.append_assoc, ← same, ← hnode, Path.down, List.append_assoc]
  have hread := readFile_text proper (isDirect_manifest direct nearest.candidate).2 hb hnode
  have hread' := readFile_text proper' (isDirect_manifest direct' nearest'.candidate).2 hb' hnode'
  exact generationOfManifest_congr (hread'.trans hread.symm)

/-- For a file and its copy the same generation is found, or the same obstacle. -/
lemma exists_detected [Platform] (workspace workspace' : Option Path) :
    ∃ found : Except Fault Generation,
    detectProject m (root.down names) workspace = found.map (Prod.mk (root.down inner)) ∧
      detectProject m' (root'.down names) workspace' = found.map (Prod.mk (root'.down inner)) := by
  have nearest' := nearest_of_sameBelow same nearest
  have hnew : m'.tree.holdsFile ((root'.down inner).names ++ [manifestName]) =
      m.tree.holdsFile ((root.down inner).names ++ [manifestName]) := by
    rw [Path.down, Path.down, List.append_assoc, List.append_assoc, same.holdsFile_eq]
  rw [detectProject_of_nearest direct proper answers nearest,
    detectProject_of_nearest direct' proper' answers' nearest', hnew]
  cases hfile : m.tree.holdsFile ((root.down inner).names ++ [manifestName]) with
  | true => exact ⟨.ok .reportDocuments, rfl, rfl⟩
  | false =>
    have hold : m.tree.holdsFile ((root.down inner).names ++ [oldManifestName]) = true := by
      have hholds := nearest.holds
      rwa [FileTree.holdsManifest, hfile, Bool.false_or] at hholds
    refine ⟨generationOfManifest m ((root.down inner).child oldManifestName), rfl, ?_⟩
    rw [if_neg Bool.false_ne_true, generationOfManifest_of_sameBelow direct direct' proper proper'
      answers answers' same nearest hold]

end Detection

/-! ## The chosen program -/

namespace CompileRequest

/-- The program and the generation of the command for a request. -/
def choice [Platform] (m : Machine) (r : CompileRequest) : Except Fault (String × Generation) :=
  (r.prepare m).map fun prepared => (prepared.1.program, prepared.2)

variable {m : Machine} {r : CompileRequest}

/-- The program is chosen by the path of the file below the root. -/
lemma choice_of_detected [Platform] {found : Except Fault Generation} {root rel : Path}
    (unclassified : r.isTest = none) (detected : r.detected m = found.map (Prod.mk root))
    (relative : rel.isAbsolute = false)
    (file : (Path.ofString r.file).absolute m.here = (root.absolute m.here).join rel) :
    r.choice m = found.map fun g => (g.program r.config (decide (InTests rel.names)), g) := by
  have htest : isTestFile m.here (.ofString r.file) (some root) = decide (InTests rel.names) :=
    Bool.eq_iff_iff.2 ((isTestFile_join relative file).trans decide_eq_true_iff.symm)
  rw [choice, prepare_eq, detected, unclassified]
  cases found with
  | error f => rfl
  | ok g =>
    show Except.ok (g.program r.config (isTestFile m.here (.ofString r.file) (some root)), g) = _
    rw [htest]
    rfl

/-- The program for a file whose project is found on the way to it. -/
lemma choice_ofFile [Platform] {found : Except Fault Generation} {root : Path}
    {inner rest : List String} {file : String} {workspace : Option String} {config : Config}
    (absolute : root.isAbsolute = true)
    (path : Path.ofString (Path.absText m.cwd file) = root.down (inner ++ rest))
    (detects : detectProject m (root.down (inner ++ rest)) (workspace.map Path.ofString) =
      found.map (Prod.mk (root.down inner))) :
    (ofFile m file workspace config).choice m =
      found.map fun g => (g.program config (decide (InTests rest)), g) := by
  have hdetected : (ofFile m file workspace config).detected m =
      found.map (Prod.mk (root.down inner)) := by
    rw [← detects, ← path]
    rfl
  have hfile : (root.down (inner ++ rest)).absolute m.here =
      ((root.down inner).absolute m.here).join ⟨.relative, rest⟩ := by
    rw [Path.absolute_down absolute, Path.absolute_down absolute, Path.join_of_relative rfl,
      Path.down, Path.down, Path.down, List.append_assoc]
  exact choice_of_detected rfl hdetected rfl (by rw [← hfile, ← path]; rfl)

end CompileRequest

/-- What stands below a directory of one machine, with a manifest among it, stands below a directory
of another machine. -/
structure IsCopy (m m' : Machine) (root root' : Path) : Prop where
  proper : m.tree.IsProper
  proper' : m'.tree.IsProper
  manifest : m.tree.holdsManifest root.names = true
  same : m.tree.SameBelow m'.tree root.names root'.names

/-- For a file and its copy the same program is chosen. -/
lemma choice_eq_of_isCopy [Platform] {m m' : Machine} {root root' : Path} {names : List String}
    {file file' : String} (copy : IsCopy m m' root root')
    (path : Path.ofString (Path.absText m.cwd file) = root.down names)
    (path' : Path.ofString (Path.absText m'.cwd file') = root'.down names)
    (direct : (root.down names).IsDirect) (direct' : (root'.down names).IsDirect)
    (answers : m.Answers (root.down names)) (answers' : m'.Answers (root'.down names))
    (config : Config) (workspace workspace' : Option String) :
    (CompileRequest.ofFile m' file' workspace' config).choice m' =
      (CompileRequest.ofFile m file workspace config).choice m := by
  obtain ⟨inner, nearest⟩ := exists_nearest_down direct copy.proper answers copy.manifest
  obtain ⟨found, hfound, hfound'⟩ := exists_detected direct direct' copy.proper copy.proper'
    answers answers' copy.same nearest (workspace.map Path.ofString)
    (workspace'.map Path.ofString)
  -- Below the two roots that are found, the file and its copy have one path.
  obtain ⟨rest, rfl⟩ : inner <+: names :=
    (List.prefix_append_right_inj _).1 nearest.candidate.above
  have absolute : root.isAbsolute = true := direct.absolute
  have absolute' : root'.isAbsolute = true := direct'.absolute
  rw [CompileRequest.choice_ofFile absolute path hfound,
    CompileRequest.choice_ofFile absolute' path' hfound']

/-- **Tests lie below the root.**  Whether a file below an absolute root is a test file does not
depend on the root: it is one exactly if a name before the last of its path below the root is that
of the directories for tests.  A file that does not lie below the root, or has none, is told by the
names of its whole path.  So for a project of generation 0.19 the program follows from the path of
the file below the root.  For a project and its copy at another place, where the system answers
every question, the same program is chosen, whatever the workspaces are. -/
theorem tests_lie_below_the_root [Platform] {P Q r : String}
    (absolute : Path.isAbsoluteText P = true)
    (absolute' : Path.isAbsoluteText Q = true) (relative : Path.isAbsoluteText r = false)
    (down : ".." ∉ (Path.ofString r).names) :
    (∀ cwd cwd', isTestFile cwd (.ofString (Path.joinText P r)) (some (.ofString P)) =
      isTestFile cwd' (.ofString (Path.joinText Q r)) (some (.ofString Q))) ∧
    (∀ cwd, isTestFile cwd (.ofString (Path.joinText P r)) (some (.ofString P)) = true ↔
      InTests (Path.ofString r).names) ∧
    (∀ cwd file (root : Option Path),
      (∀ R ∈ root, ¬ (file.absolute cwd).LiesBelow (R.absolute cwd)) →
        (isTestFile cwd file root = true ↔ InTests (file.absolute cwd).names)) ∧
    (∀ (m : Machine) (request : CompileRequest) root,
      request.detected m = .ok (root, .reportDocuments) → request.isTest = none →
      root.absolute m.here = .ofString P →
      Path.ofString request.file = .ofString (Path.joinText P r) →
        request.choice m = .ok (if InTests (Path.ofString r).names then request.config.testCompiler
          else request.config.compiler, .reportDocuments)) ∧
    ∀ (m m' : Machine) (config : Config) (workspace workspace' : Option String),
      IsCopy m m' (Path.ofString P).normalize (Path.ofString Q).normalize →
      m.Answers (.ofString (Path.absText m.cwd (Path.joinText P r))) →
      m'.Answers (.ofString (Path.absText m'.cwd (Path.joinText Q r))) →
        (CompileRequest.ofFile m' (Path.joinText Q r) workspace' config).choice m' =
          (CompileRequest.ofFile m (Path.joinText P r) workspace config).choice m := by
  have hrelative : (Path.ofString r).isAbsolute = false :=
    (Path.isAbsolute_ofString r).trans relative
  have htest : ∀ {R : String}, Path.isAbsoluteText R = true → ∀ cwd,
      isTestFile cwd (.ofString (Path.joinText R r)) (some (.ofString R)) = true ↔
        InTests (Path.ofString r).names := by
    intro R hR cwd
    have hroot : (Path.ofString R).absolute cwd = .ofString R :=
      absolute_of_isAbsolute ((Path.isAbsolute_ofString R).trans hR) cwd
    refine isTestFile_join hrelative ?_
    rw [Path.absolute_joinText hR relative, hroot]
  refine ⟨fun cwd cwd' => ?_, htest absolute, fun cwd file root => isTestFile_of_not_liesBelow,
    fun m request root detected unclassified hroot hfile => ?_,
    fun m m' config workspace workspace' copy answers answers' => ?_⟩
  · exact Bool.eq_iff_iff.2 ((htest absolute cwd).trans (htest absolute' cwd').symm)
  · have hbelow : (Path.ofString request.file).absolute m.here =
        (root.absolute m.here).join (.ofString r) := by
      rw [hfile, hroot, Path.absolute_joinText absolute relative]
    have hfound : request.detected m = (Except.ok .reportDocuments).map (Prod.mk root) := detected
    rw [CompileRequest.choice_of_detected unclassified hfound hrelative hbelow]
    simp only [Except.map, Generation.program, decide_eq_true_eq]
  · have path := Path.ofString_absText_joinText absolute relative down m.cwd
    have path' := Path.ofString_absText_joinText absolute' relative down m'.cwd
    rw [path] at answers
    rw [path'] at answers'
    exact choice_eq_of_isCopy copy path path'
      (Path.isDirect_normalize_down absolute relative down)
      (Path.isDirect_normalize_down absolute' relative down) answers answers' config workspace
      workspace'

/-- A machine with a project of generation 0.19 and a copy of it in a directory for tests. -/
def appTwice : Machine :=
  let file := Node.file [] 0o644 none
  ⟨⟨[(["app"], .directory), (["app", "elm.json"], file), (["app", "Main.elm"], file),
    (["tests"], .directory), (["tests", "app"], .directory), (["tests", "app", "elm.json"], file),
    (["tests", "app", "Main.elm"], file)]⟩, "/", [], []⟩

/-- The copy of a file that is no test file is one only where its root is not known. -/
theorem copy_among_tests :
    Path.isAbsoluteText "/app" = true ∧ Path.isAbsoluteText "/tests/app" = true ∧
    Path.isAbsoluteText "Main.elm" = false ∧ ".." ∉ (Path.ofString "Main.elm").names ∧
    IsCopy appTwice appTwice ⟨.root, ["app"]⟩ ⟨.root, ["tests", "app"]⟩ ∧
    isTestFile ⟨.root, []⟩ (.ofString "/tests/app/Main.elm") (some (.ofString "/tests/app")) =
      false ∧
    isTestFile ⟨.root, []⟩ (.ofString "/tests/app/Main.elm") none = true ∧
    (CompileRequest.ofFile appTwice "/app/Main.elm" none .standard).choice appTwice =
      .ok ("elm", .reportDocuments) ∧
    (CompileRequest.ofFile appTwice "/tests/app/Main.elm" none .standard).choice appTwice =
      .ok ("elm", .reportDocuments) := by
  have absolute : Path.isAbsoluteText "/app" = true := by decide +kernel
  have absolute' : Path.isAbsoluteText "/tests/app" = true := by decide +kernel
  have relative : Path.isAbsoluteText "Main.elm" = false := by decide +kernel
  have down : ".." ∉ (Path.ofString "Main.elm").names := by decide +kernel
  have proper : appTwice.tree.IsProper := ⟨by decide +kernel, by decide +kernel⟩
  have same : appTwice.tree.SameBelow appTwice.tree ["app"] ["tests", "app"] := by
    intro names
    rw [FileTree.node?_of_ne_nil (by simp), FileTree.node?_of_ne_nil (by simp)]
    simp [appTwice, List.lookup_cons]
  have copy : IsCopy appTwice appTwice ⟨.root, ["app"]⟩ ⟨.root, ["tests", "app"]⟩ :=
    ⟨proper, proper, by decide +kernel, same⟩
  have answers : appTwice.Answers
      (.ofString (Path.absText "/" (Path.joinText "/app" "Main.elm"))) := by
    rw [Path.ofString_absText_joinText absolute relative down]
    exact answers_of_short (Path.isDirect_normalize_down absolute relative down)
      (by decide +kernel) (by decide +kernel) (by decide +kernel)
  have answers' : appTwice.Answers
      (.ofString (Path.absText "/" (Path.joinText "/tests/app" "Main.elm"))) := by
    rw [Path.ofString_absText_joinText absolute' relative down]
    exact answers_of_short (Path.isDirect_normalize_down absolute' relative down)
      (by decide +kernel) (by decide +kernel) (by decide +kernel)
  have outsideTests : ¬ InTests (Path.ofString "Main.elm").names := by decide +kernel
  obtain ⟨moved, told, outside, detected, copied⟩ :=
    tests_lie_below_the_root absolute absolute' relative down
  have hjoin : Path.joinText "/app" "Main.elm" = "/app/Main.elm" := by decide +kernel
  have hjoin' : Path.joinText "/tests/app" "Main.elm" = "/tests/app/Main.elm" := by decide +kernel
  have hchoice := detected appTwice (.ofFile appTwice "/app/Main.elm" none .standard)
    ⟨.root, ["app"]⟩ (by decide +kernel) rfl (by decide +kernel) (by decide +kernel)
  rw [if_neg outsideTests] at hchoice
  have hcopied := copied appTwice appTwice .standard none none copy answers answers'
  rw [hjoin, hjoin'] at hcopied
  refine ⟨absolute, absolute', relative, down, copy, ?_, ?_, hchoice, hcopied.trans hchoice⟩
  · rw [Bool.eq_false_iff, ← hjoin', ← moved ⟨.root, []⟩ ⟨.root, []⟩, Ne, told]
    exact outsideTests
  · exact (outside ⟨.root, []⟩ _ none nofun).2 (by decide +kernel)

end ElmOnSave
