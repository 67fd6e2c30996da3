import ElmOnSave.Proofs.OldManifests

/-!
# The nearest manifest

The project of a path is the nearest directory that holds a manifest (`Nearest`), told from the file
tree alone: of the path itself, if it is a directory, and the directories above it, the deepest in
which a regular file goes by one of the two names.

The lookup goes through the directories from the deepest on (`pairwise_lookedThrough`), and these
are the candidates (`mem_lookedThrough_iff`); where every question it asks has an answer
(`Machine.Answers`), it finds the first that holds a manifest (`projectRoot?_eq_find?`).  Nothing
that lies outside the directories between the root and the path has a say in this
(`nearest_of_same`).  `nearest_manifest_decides` puts the two together.
-/

namespace ElmOnSave

/-! ## Manifests in a tree -/

namespace FileTree

/-- A regular file stands at the given names. -/
def holdsFile (t : FileTree) (names : List String) : Bool :=
  (t.node? names).any Node.isFile

/-- A directory holds a regular file that is a manifest. -/
def holdsManifest (t : FileTree) (directory : List String) : Bool :=
  t.holdsFile (directory ++ [manifestName]) || t.holdsFile (directory ++ [oldManifestName])

/-- Two trees hold the same in a directory. -/
def SameIn (t t' : FileTree) (directory : List String) : Prop :=
  ∀ name, t.node? (directory ++ [name]) = t'.node? (directory ++ [name])

variable {t t' : FileTree} {directory : List String}

lemma exists_file_of_holdsFile {names : List String} (h : t.holdsFile names = true) :
    ∃ content mode program, t.node? names = some (.file content mode program) := by
  rw [holdsFile] at h
  cases hnode : t.node? names with
  | none =>
    rw [hnode] at h
    cases h
  | some n =>
    rw [hnode] at h
    cases n with
    | file content mode program => exact ⟨content, mode, program, rfl⟩
    | directory | device => cases h

/-- Where a manifest is, there is a directory. -/
lemma IsProper.node?_of_holdsManifest (proper : t.IsProper)
    (h : t.holdsManifest directory = true) : t.node? directory = some .directory := by
  have hparent : ∀ {name}, t.holdsFile (directory ++ [name]) = true →
      t.node? directory = some .directory := by
    intro name hfile
    obtain ⟨content, mode, program, hnode⟩ := exists_file_of_holdsFile hfile
    exact proper.node?_above (List.cons_ne_nil name []) hnode
  rw [holdsManifest, Bool.or_eq_true] at h
  exact h.elim hparent hparent

lemma SameIn.holdsManifest_eq (same : t.SameIn t' directory) :
    t'.holdsManifest directory = t.holdsManifest directory := by
  rw [holdsManifest, holdsManifest, holdsFile, holdsFile, holdsFile, holdsFile, same, same]

end FileTree

/-- A directory whose manifest counts for a path: the path itself, if it is a directory, or one
above it. -/
structure Candidate (t : FileTree) (p d : Path) : Prop where
  anchor : d.anchor = p.anchor
  above : d.names <+: p.names
  itself : d.names = p.names → t.node? p.names = some .directory

/-- The deepest directory for a path that holds a manifest. -/
structure Nearest (t : FileTree) (p d : Path) : Prop where
  candidate : Candidate t p d
  holds : t.holdsManifest d.names = true
  deepest : ∀ d', Candidate t p d' → t.holdsManifest d'.names = true → d'.names <+: d.names

/-- A directory in which a change may change the project of a path: the root of the project, if
there is one, the path, and every directory between them. -/
def Matters (t : FileTree) (p : Path) (directory : List String) : Prop :=
  directory <+: p.names ∧ ∀ d, Nearest t p d → d.names <+: directory

section Nearest

variable {t t' : FileTree} {p d d' : Path}

/-- There is one nearest directory at most. -/
lemma Nearest.unique (h : Nearest t p d) (h' : Nearest t p d') : d = d' := by
  have hnames : d.names = d'.names :=
    (h'.deepest d h.candidate h.holds).eq_of_length_le
      (h.deepest d' h'.candidate h'.holds).length_le
  have hanchor : d.anchor = d'.anchor := h.candidate.anchor.trans h'.candidate.anchor.symm
  cases d
  cases d'
  cases hnames
  cases hanchor
  rfl

section Same

variable (proper : t.IsProper) (proper' : t'.IsProper)
  (same : ∀ directory, Matters t p directory → t.SameIn t' directory)

include proper same

include proper' in
/-- The nearest directory stays the nearest. -/
lemma nearest_of_same (h : Nearest t p d) : Nearest t' p d := by
  have hmatters : ∀ {directory}, directory <+: p.names → d.names <+: directory →
      Matters t p directory := by
    intro directory habove hbelow
    refine ⟨habove, fun d' h' => ?_⟩
    rwa [← h.unique h']
  have hholds : t'.holdsManifest d.names = true := by
    rw [(same _ (hmatters h.candidate.above (List.prefix_refl _))).holdsManifest_eq]
    exact h.holds
  refine ⟨⟨h.candidate.anchor, h.candidate.above, fun heq => ?_⟩, hholds, ?_⟩
  · rw [← heq]
    exact proper'.node?_of_holdsManifest hholds
  · intro d' candidate hd'
    obtain habove | habove :=
      List.prefix_or_prefix_of_prefix candidate.above h.candidate.above
    · exact habove
    · rw [(same _ (hmatters candidate.above habove)).holdsManifest_eq] at hd'
      refine h.deepest d' ⟨candidate.anchor, candidate.above, fun heq => ?_⟩ hd'
      rw [← heq]
      exact proper.node?_of_holdsManifest hd'

/-- Where there is none, there will be none. -/
lemma forall_not_holdsManifest_of_same
    (none : ∀ d, Candidate t p d → t.holdsManifest d.names = false) (candidate : Candidate t' p d) :
    t'.holdsManifest d.names = false := by
  have hmatters : Matters t p d.names := by
    refine ⟨candidate.above, fun d' h' => ?_⟩
    have hholds := h'.holds
    rw [none d' h'.candidate] at hholds
    cases hholds
  rw [(same _ hmatters).holdsManifest_eq, Bool.eq_false_iff]
  intro hholds
  have hfalse := none d ⟨candidate.anchor, candidate.above, fun heq => by
    rw [← heq]
    exact proper.node?_of_holdsManifest hholds⟩
  rw [hholds] at hfalse
  cases hfalse

end Same

end Nearest

/-! ## The lookup -/

section Lookup

variable {m : Machine} {p d : Path}

/-- Every question that the lookup for a path may ask has an answer. -/
structure Machine.Answers (m : Machine) (p : Path) : Prop where
  itself : ∃ b, m.isDirectory p = .ok b
  manifest : ∀ d, Candidate m.tree p d → ∃ b, m.isFile (d.child manifestName) = .ok b
  oldManifest : ∀ d, Candidate m.tree p d → ∃ b, m.isFile (d.child oldManifestName) = .ok b

lemma mem_self_ancestors_iff {q : Path} :
    d ∈ q :: q.ancestors ↔ d.anchor = q.anchor ∧ d.names <+: q.names := by
  constructor
  · intro h
    obtain rfl | h := List.mem_cons.1 h
    · exact ⟨rfl, List.prefix_refl _⟩
    · obtain ⟨n, -, rfl⟩ := List.mem_map.1 h
      exact ⟨rfl, List.take_prefix n q.names⟩
  · rintro ⟨hanchor, habove⟩
    obtain ⟨a, ns⟩ := d
    dsimp only at hanchor habove
    subst hanchor
    obtain heq | hlt := habove.length_le.eq_or_lt
    · rw [habove.eq_of_length heq]
      exact List.mem_cons_self ..
    · refine List.mem_cons_of_mem q (List.mem_map.2 ⟨ns.length, by simpa using hlt, ?_⟩)
      rw [← List.prefix_iff_eq_take.1 habove]

/-- A path and those above it, the deepest first. -/
lemma pairwise_self_ancestors (q : Path) :
    (q :: q.ancestors).Pairwise fun a b => b.names <+: a.names := by
  refine List.pairwise_cons.2 ⟨fun b hb => ?_, ?_⟩
  · exact (mem_self_ancestors_iff.1 (List.mem_cons_of_mem q hb)).2
  · rw [Path.ancestors, List.pairwise_map, List.pairwise_reverse]
    refine List.pairwise_lt_range.imp fun hlt => ?_
    exact List.take_prefix_take_left hlt.le

/-- The directories that are looked through are the candidates. -/
lemma mem_lookedThrough_iff (t : FileTree) :
    d ∈ lookedThrough p ((t.node? p.names).any Node.isDirectory) ↔ Candidate t p d := by
  rw [lookedThrough, mem_self_ancestors_iff]
  cases hdirectory : (t.node? p.names).any Node.isDirectory with
  | true =>
    have hnode := FileTree.eq_directory_of_any hdirectory
    exact ⟨fun ⟨anchor, above⟩ => ⟨anchor, above, fun _ => hnode⟩,
      fun h => ⟨h.anchor, h.above⟩⟩
  | false =>
    have hnode : t.node? p.names ≠ some .directory := by
      intro hnode
      rw [hnode] at hdirectory
      cases hdirectory
    have hnames : p.names ≠ [] := fun hnil => hnode (by rw [hnil]; rfl)
    obtain ⟨init, last, hlast⟩ := (List.eq_nil_or_concat' p.names).resolve_left hnames
    simp only [Bool.false_eq_true, if_false, Path.parent, hlast, List.dropLast_concat]
    constructor
    · rintro ⟨anchor, above⟩
      refine ⟨anchor, above.trans ?_, fun heq => ?_⟩
      · rw [hlast]
        exact List.prefix_append init [last]
      · have hlength := above.length_le
        rw [heq, hlast, List.length_append] at hlength
        simp at hlength
    · intro h
      refine ⟨h.anchor, ?_⟩
      have habove := h.above
      rw [hlast] at habove
      obtain heq | habove := List.prefix_concat_iff.1 habove
      · exact absurd (h.itself (heq.trans hlast.symm)) hnode
      · exact habove

lemma pairwise_lookedThrough (p : Path) (b : Bool) :
    (lookedThrough p b).Pairwise fun a b => b.names <+: a.names :=
  pairwise_self_ancestors _

section Answered

variable (direct : p.IsDirect) (proper : m.tree.IsProper) (answers : m.Answers p)

include direct in
lemma isDirect_manifest {t : FileTree} (candidate : Candidate t p d) :
    (d.child manifestName).IsDirect ∧ (d.child oldManifestName).IsDirect :=
  ⟨direct.child candidate.anchor candidate.above (by decide) (by decide) (by decide),
    direct.child candidate.anchor candidate.above (by decide) (by decide) (by decide)⟩

include direct proper answers

omit proper answers in
/-- Every question has an answer if no name and no path is too long. -/
lemma answers_of_short (names : ∀ name ∈ p.names, name.utf8ByteSize ≤ FileTree.nameLimit)
    (short : p.text.utf8ByteSize < FileTree.pathLimit)
    (shorts : ∀ d ∈ p :: p.ancestors,
      (d.child manifestName).text.utf8ByteSize < FileTree.pathLimit ∧
        (d.child oldManifestName).text.utf8ByteSize < FileTree.pathLimit) : m.Answers p := by
  have hnames : ∀ {d : Path}, Candidate m.tree p d → ∀ {last : String},
      last.utf8ByteSize ≤ FileTree.nameLimit →
        ∀ name ∈ d.names ++ [last], name.utf8ByteSize ≤ FileTree.nameLimit := by
    intro d candidate last hlast name hname
    obtain hname | hname := List.mem_append.1 hname
    · exact names name (candidate.above.subset hname)
    · rwa [List.mem_singleton.1 hname]
  have hmem : ∀ {d : Path}, Candidate m.tree p d → d ∈ p :: p.ancestors := fun candidate =>
    mem_self_ancestors_iff.2 ⟨candidate.anchor, candidate.above⟩
  refine ⟨exists_answer direct m _ names short, fun d candidate => ?_, fun d candidate => ?_⟩
  · exact exists_answer (isDirect_manifest direct candidate).1 m _
      (hnames candidate (by decide)) (shorts d (hmem candidate)).1
  · exact exists_answer (isDirect_manifest direct candidate).2 m _
      (hnames candidate (by decide)) (shorts d (hmem candidate)).2

/-- What the system says of the manifests of a candidate is read off the tree. -/
lemma isFile_manifest_eq (candidate : Candidate m.tree p d) :
    m.isFile (d.child manifestName) = .ok (m.tree.holdsFile (d.names ++ [manifestName])) ∧
      m.isFile (d.child oldManifestName) =
        .ok (m.tree.holdsFile (d.names ++ [oldManifestName])) := by
  obtain ⟨hdirect, hdirect'⟩ := isDirect_manifest direct candidate
  obtain ⟨b, hb⟩ := answers.manifest d candidate
  obtain ⟨b', hb'⟩ := answers.oldManifest d candidate
  rw [hb, hb', ask_eq_ok proper hdirect hb, ask_eq_ok proper hdirect' hb']
  exact ⟨rfl, rfl⟩

lemma holdsManifest_eq (candidate : Candidate m.tree p d) :
    holdsManifest m d = .ok (m.tree.holdsManifest d.names) := by
  obtain ⟨hfile, hfile'⟩ := isFile_manifest_eq direct proper answers candidate
  rw [holdsManifest, hfile, hfile', FileTree.holdsManifest]
  cases m.tree.holdsFile (d.names ++ [manifestName]) <;> rfl

omit direct proper answers in
lemma firstWithManifest_eq_find? {ds : List Path}
    (h : ∀ d ∈ ds, holdsManifest m d = .ok (m.tree.holdsManifest d.names)) :
    firstWithManifest m ds = .ok (ds.find? fun d => m.tree.holdsManifest d.names) := by
  induction ds with
  | nil => rfl
  | cons d ds ih =>
    rw [firstWithManifest, h d (List.mem_cons_self ..), List.find?_cons]
    cases m.tree.holdsManifest d.names with
    | true => rfl
    | false => exact ih fun d' hd' => h d' (List.mem_cons_of_mem d hd')

/-- The lookup finds the first candidate that holds a manifest. -/
lemma projectRoot?_eq_find? :
    projectRoot? m p = .ok ((lookedThrough p ((m.tree.node? p.names).any Node.isDirectory)).find?
      fun d => m.tree.holdsManifest d.names) := by
  obtain ⟨b, hb⟩ := answers.itself
  have hdirectory := ask_eq_ok proper direct hb
  rw [projectRoot?_of_isAbsolute direct.absolute, hb, ← hdirectory]
  refine firstWithManifest_eq_find? fun d hd => ?_
  rw [hdirectory] at hd
  exact holdsManifest_eq direct proper answers ((mem_lookedThrough_iff m.tree).1 hd)

/-- **The nearest directory is found.** -/
lemma projectRoot?_eq_some_iff : projectRoot? m p = .ok (some d) ↔ Nearest m.tree p d := by
  have hfound : ∀ {d}, projectRoot? m p = .ok (some d) → Nearest m.tree p d := by
    intro d h
    rw [projectRoot?_eq_find? direct proper answers, Except.ok.injEq,
      List.find?_eq_some_iff_append] at h
    obtain ⟨holds, before, after, hlist, hbefore⟩ := h
    have hpairwise := pairwise_lookedThrough p ((m.tree.node? p.names).any Node.isDirectory)
    rw [hlist, List.pairwise_append, List.pairwise_cons] at hpairwise
    refine ⟨(mem_lookedThrough_iff m.tree).1 (by simp [hlist]), holds, fun d' candidate hd' => ?_⟩
    have hmem := (mem_lookedThrough_iff m.tree).2 candidate
    rw [hlist, List.mem_append, List.mem_cons] at hmem
    obtain hmem | rfl | hmem := hmem
    · have hnot := hbefore d' hmem
      rw [hd'] at hnot
      cases hnot
    · exact List.prefix_refl _
    · exact hpairwise.2.1.1 d' hmem
  refine ⟨hfound, fun h => ?_⟩
  have hsome : ((lookedThrough p ((m.tree.node? p.names).any Node.isDirectory)).find?
      fun d => m.tree.holdsManifest d.names).isSome = true :=
    List.find?_isSome.2 ⟨d, (mem_lookedThrough_iff m.tree).2 h.candidate, h.holds⟩
  obtain ⟨d', hd'⟩ := Option.isSome_iff_exists.1 hsome
  have hroot := projectRoot?_eq_find? direct proper answers
  rw [hd'] at hroot
  rwa [h.unique (hfound hroot)]

/-- None is found where no candidate holds a manifest. -/
lemma projectRoot?_eq_none_iff : projectRoot? m p = .ok none ↔
    ∀ d, Candidate m.tree p d → m.tree.holdsManifest d.names = false := by
  rw [projectRoot?_eq_find? direct proper answers, Except.ok.injEq, List.find?_eq_none]
  simp only [mem_lookedThrough_iff, Bool.not_eq_true]

/-- The generation of the project: the old manifest is read only if there is no other. -/
lemma detectProject_of_nearest [Platform] (h : Nearest m.tree p d) (workspace : Option Path) :
    detectProject m p workspace =
      if m.tree.holdsFile (d.names ++ [manifestName]) then .ok (d, .reportDocuments)
      else (generationOfManifest m (d.child oldManifestName)).map (Prod.mk d) := by
  obtain ⟨b, hb, hdetect⟩ := detectProject_of_some direct.absolute workspace
    ((projectRoot?_eq_some_iff direct proper answers).2 h)
  rw [(isFile_manifest_eq direct proper answers h.candidate).1] at hb
  rw [hdetect, Except.ok.inj hb]

variable {m' : Machine} (proper' : m'.tree.IsProper) (answers' : m'.Answers p)
  (same : ∀ directory, Matters m.tree p directory → m.tree.SameIn m'.tree directory)

include proper' answers' same

/-- The generation stays the same where the directory of the project does. -/
lemma detectProject_of_same_of_nearest [Platform] (h : Nearest m.tree p d)
    (workspace : Option Path) :
    detectProject m' p workspace = detectProject m p workspace := by
  have h' := nearest_of_same proper proper' same h
  have hsame : m.tree.SameIn m'.tree d.names :=
    same d.names ⟨h.candidate.above, fun d' hd' => by rw [h.unique hd']⟩
  rw [detectProject_of_nearest direct proper answers h,
    detectProject_of_nearest direct proper' answers' h', FileTree.holdsFile, FileTree.holdsFile,
    hsame manifestName]
  split_ifs with hfile
  · rfl
  · have hold : m.tree.holdsFile (d.names ++ [oldManifestName]) = true := by
      have hholds := h.holds
      rw [FileTree.holdsManifest, FileTree.holdsFile, hsame manifestName, Bool.or_eq_true] at hholds
      exact hholds.resolve_left hfile
    obtain ⟨content, mode, program, hnode⟩ := FileTree.exists_file_of_holdsFile hold
    obtain ⟨b, hb⟩ := answers.oldManifest d h.candidate
    obtain ⟨b', hb'⟩ := answers'.oldManifest d h'.candidate
    have hchild := (isDirect_manifest direct h.candidate).2
    have hread := readFile_text proper hchild hb hnode
    have hread' := readFile_text proper' hchild hb' (hsame oldManifestName ▸ hnode)
    rw [generationOfManifest_congr (hread'.trans hread.symm)]

end Answered

end Lookup

/-- **The nearest manifest decides.**  For a direct path in a proper tree, where the system answers
every question: the root of the project is the deepest candidate that holds a manifest, and there is
none exactly if no candidate does.  The generation is 0.19 if this root holds the new manifest, and
else what its old manifest tells.  The result does not change with what lies elsewhere than in the
root, in the path and in the directories between them. -/
theorem nearest_manifest_decides [Platform] {m : Machine} {p : Path} (direct : p.IsDirect)
    (proper : m.tree.IsProper) (answers : m.Answers p) :
    (∀ d, projectRoot? m p = .ok (some d) ↔ Nearest m.tree p d) ∧
    (projectRoot? m p = .ok none ↔
      ∀ d, Candidate m.tree p d → m.tree.holdsManifest d.names = false) ∧
    (∀ d workspace, Nearest m.tree p d → detectProject m p workspace =
      if m.tree.holdsFile (d.names ++ [manifestName]) then .ok (d, .reportDocuments)
      else (generationOfManifest m (d.child oldManifestName)).map (Prod.mk d)) ∧
    ∀ m' : Machine, m'.tree.IsProper → m'.Answers p →
      (∀ directory, Matters m.tree p directory → m.tree.SameIn m'.tree directory) →
        projectRoot? m' p = projectRoot? m p ∧
          ∀ workspace, detectProject m' p workspace = detectProject m p workspace := by
  refine ⟨fun d => projectRoot?_eq_some_iff direct proper answers,
    projectRoot?_eq_none_iff direct proper answers,
    fun d workspace h => detectProject_of_nearest direct proper answers h workspace,
    fun m' proper' answers' same => ?_⟩
  cases hfound : projectRoot? m p with
  | error f =>
    rw [projectRoot?_eq_find? direct proper answers] at hfound
    cases hfound
  | ok found =>
    cases found with
    | none =>
      have hnone : projectRoot? m' p = .ok none :=
        (projectRoot?_eq_none_iff direct proper' answers').2 fun d candidate =>
          forall_not_holdsManifest_of_same proper same
            ((projectRoot?_eq_none_iff direct proper answers).1 hfound) candidate
      refine ⟨hnone, fun workspace => ?_⟩
      rw [detectProject_of_none direct.absolute workspace hfound,
        detectProject_of_none direct.absolute workspace hnone]
    | some d =>
      have h := (projectRoot?_eq_some_iff direct proper answers).1 hfound
      exact ⟨(projectRoot?_eq_some_iff direct proper' answers').2
        (nearest_of_same proper proper' same h),
        detectProject_of_same_of_nearest direct proper answers proper' answers' same h⟩

/-- A project of generation 0.18, with a directory that goes by the name of a manifest. -/
def innerProject : List (List String × Node) :=
  [(["a"], .directory), (["a", "b"], .directory),
    (["a", "b", "elm-package.json"], .file [] 0o644 none), (["a", "b", "src"], .directory),
    (["a", "b", "src", "elm.json"], .directory), (["a", "b", "src", "Main.elm"], .file [] 0o644 none)]

/-- A file of the project. -/
def innerFile : Path :=
  ⟨.root, ["a", "b", "src", "Main.elm"]⟩

/-- A machine with this project inside another one. -/
def twoProjects : Machine :=
  ⟨⟨(["a", "elm.json"], .file [] 0o644 none) :: innerProject⟩, "/", [], []⟩

/-- A machine with this project only. -/
def oneProject : Machine :=
  ⟨⟨innerProject⟩, "/", [], []⟩

/-- The nearer manifest counts, though it is an old one, whether or not there is one farther off. -/
theorem nearer_old_manifest_decides :
    innerFile.IsDirect ∧ twoProjects.tree.IsProper ∧ twoProjects.Answers innerFile ∧
    Nearest twoProjects.tree innerFile ⟨.root, ["a", "b"]⟩ ∧
    detectProject twoProjects innerFile none = .ok (⟨.root, ["a", "b"]⟩, .issueArrays) ∧
    detectProject oneProject innerFile none = .ok (⟨.root, ["a", "b"]⟩, .issueArrays) := by
  have direct : innerFile.IsDirect := by
    refine ⟨by decide, ?_, by decide⟩
    unfold Path.WellFormed
    decide +kernel
  have answers : ∀ m : Machine, m.Answers innerFile := fun m =>
    answers_of_short direct (by decide +kernel) (by decide +kernel) (by decide +kernel)
  have proper : twoProjects.tree.IsProper := ⟨by decide +kernel, by decide +kernel⟩
  have proper' : oneProject.tree.IsProper := ⟨by decide +kernel, by decide +kernel⟩
  obtain ⟨root, -, generation, locality⟩ :=
    nearest_manifest_decides direct proper (answers twoProjects)
  have nearest : Nearest twoProjects.tree innerFile ⟨.root, ["a", "b"]⟩ :=
    (root _).1 (by decide +kernel)
  have same : ∀ directory, Matters twoProjects.tree innerFile directory →
      twoProjects.tree.SameIn oneProject.tree directory := by
    rintro directory ⟨-, hbelow⟩ name
    obtain ⟨rest, rfl⟩ := hbelow _ nearest
    have hother : (["a", "b"] ++ rest ++ [name] == ["a", "elm.json"]) = false := by simp
    rw [FileTree.node?_of_ne_nil (by simp), FileTree.node?_of_ne_nil (by simp), twoProjects,
      List.lookup_cons, hother]
    rfl
  have hdetect := (generation _ none nearest).trans
    (show _ = .ok (⟨.root, ["a", "b"]⟩, .issueArrays) by decide +kernel)
  exact ⟨direct, proper, answers twoProjects, nearest, hdetect,
    ((locality oneProject proper' (answers oneProject) same).2 none).trans hdetect⟩

/-- The generation for a root that is found is not always told. -/
theorem not_forall_detectProject_of_nearest :
    ¬ ∀ (m : Machine) (p d : Path) (workspace : Option Path), p.IsDirect → m.tree.IsProper →
      m.Answers p → Nearest m.tree p d → ∃ g, detectProject m p workspace = .ok (d, g) := by
  intro h
  have direct := isDirect_manifestPath
  have answers : (manifestMachine overlongBound.written).Answers manifestPath :=
    answers_of_short direct (by decide) (by decide) (by decide)
  have nearest : Nearest (manifestMachine overlongBound.written).tree manifestPath ⟨.root, []⟩ := by
    refine ⟨⟨rfl, List.nil_prefix, nofun⟩, rfl, fun d' candidate _ => ?_⟩
    have habove : d'.names <+: [] ++ [oldManifestName] := candidate.above
    obtain heq | habove := List.prefix_concat_iff.1 habove
    · cases candidate.itself heq
    · exact habove
  obtain ⟨g, hg⟩ := h _ _ _ none direct (isProper_manifestMachine _) answers nearest
  have hold : Path.child ⟨.root, []⟩ oldManifestName = manifestPath := rfl
  rw [detectProject_of_nearest direct (isProper_manifestMachine _) answers nearest, hold,
    generationOfManifest_overlongBound] at hg
  cases hg

end ElmOnSave
