import ElmOnSave.Proofs.AbsoluteLocations

/-!
# Where the program of a command is found

Locating a command replaces its program by the path at which it was found and leaves the rest as it
is.  `Command.Found` lists the ways in which a program is found, each with whether the path is
absolute.  A program given by its name or with a directory part need not be found at an absolute
path: the directory of the command or one of the search path may be relative, and a name that is
spelled with a slash, such as `./elm`, is taken as it is.

`locate_eq_some_iff` says that these are all the ways, and `Command.Found.isAbsoluteText_eq` that
each of them tells rightly whether the path is absolute.  An absolute path leads from every
directory to the same file (`statFrom_of_isAbsoluteText`), so what is started is what was checked.
`resolve_eq_ok_iff_found` puts this together.
-/

namespace ElmOnSave

variable {m : Machine}

/-! ## Absolute paths -/

/-- An absolute path leads to the same file from everywhere. -/
lemma statFrom_of_isAbsoluteText {path : String} (absolute : Path.isAbsoluteText path = true)
    (start start' : List String) : m.statFrom start path = m.statFrom start' path := by
  unfold Machine.statFrom
  rw [absolute]
  rfl

/-- An absolute path is not searched for when it is started. -/
lemma programPaths_of_isAbsoluteText {program : String}
    (absolute : Path.isAbsoluteText program = true) : m.programPaths program = [program] := by
  rw [Path.isAbsoluteText, String.startsWith_string_iff] at absolute
  obtain ⟨rest, hrest⟩ := absolute
  have hslash : program.toList.contains '/' = true := by simp [← hrest]
  rw [Machine.programPaths, if_pos hslash]

/-- There is no home directory in front of an absolute path. -/
lemma expandHome?_of_isAbsoluteText {program : String}
    (absolute : Path.isAbsoluteText program = true) :
    m.expandHome? (.ofString program) = some (.ofString program) := by
  refine expandHome?_of_isAbsolute ?_
  rw [Path.isAbsolute_ofString, absolute]

lemma wellFormed_of_expandHome? {p q : Path} (formed : p.WellFormed)
    (h : m.expandHome? p = some q) : q.WellFormed := by
  unfold Machine.expandHome? at h
  split at h
  · rename_i name names _ hnames
    split at h
    · dsimp only at h
      split at h
      · cases h
      · cases h
        refine (Path.wellFormed_ofString _).join fun n hn => formed n ?_
        rw [hnames]
        exact List.mem_cons_of_mem name hn
    · cases h
      exact formed
  · cases h
    exact formed

/-! ## Searching -/

lemma exists_statFrom_of_canExecute {path : String} (h : m.canExecute path = true) :
    ∃ file, m.statFrom m.cwdNames path = .ok file := by
  unfold Machine.canExecute Machine.stat at h
  cases hstat : m.statFrom m.cwdNames path with
  | ok file => exact ⟨file, rfl⟩
  | error e =>
    rw [hstat] at h
    cases h

lemma exists_statFrom_of_pathExists {path : Path} (h : m.pathExists path = .ok true) :
    ∃ file, m.statFrom m.cwdNames path.text = .ok file := by
  unfold Machine.pathExists Machine.ask Machine.stat at h
  cases hstat : m.statFrom m.cwdNames path.text with
  | ok file => exact ⟨file, rfl⟩
  | error e =>
    rw [hstat] at h
    cases e with
    | nullByte => cases h
    | system e => cases e <;> cases h

lemma which?_of_slash {name : String} (slash : '/' ∈ name.toList) (found : String) :
    m.which? name = some found ↔ m.canExecute name = true ∧ name = found := by
  rw [Machine.which?, if_pos (List.contains_iff_mem.2 slash)]
  simp

/-- A name is found in the first directory of the search path in which it can be executed. -/
lemma which?_of_bare {name : String} (bare : '/' ∉ name.toList) (found : String) :
    m.which? name = some found ↔ ∃ before directory after,
      m.searchPath = before ++ directory :: after ∧
      (∀ d ∈ before, m.canExecute (Path.joinText d name) = false) ∧
      m.canExecute (Path.joinText directory name) = true ∧
      Path.joinText directory name = found := by
  rw [Machine.which?, if_neg (by simpa using bare), List.find?_map, Option.map_eq_some_iff]
  simp only [List.find?_eq_some_iff_append, Function.comp_apply, Bool.not_eq_true']
  constructor
  · rintro ⟨directory, ⟨executable, before, after, hpath, hbefore⟩, hfound⟩
    exact ⟨before, directory, after, hpath, hbefore, executable, hfound⟩
  · rintro ⟨before, directory, after, hpath, hbefore, executable, hfound⟩
    exact ⟨directory, ⟨executable, before, after, hpath, hbefore⟩, hfound⟩

/-! ## The ways to find a program -/

/-- The path at which the program of a command is found, and whether it is absolute.  Every path is
looked at from the working directory of the process, whatever the directory of the command is. -/
inductive Command.Found (m : Machine) (c : Command) : String → Bool → Prop where
  /-- The program is given by an absolute path, or by one below a home directory. -/
  | given {path : Path} (home : m.expandHome? (.ofString c.program) = some path)
      (absolute : path.isAbsolute = true) (present : m.pathExists path = .ok true) :
      Found m c path.text true
  /-- It is given with a directory part, and there is an executable file below the directory of the
  command. -/
  | below {path : Path} (home : m.expandHome? (.ofString c.program) = some path)
      (relative : path.isAbsolute = false) (part : 1 < path.names.length)
      (executable : m.canExecute (c.cwd.join path).text = true) :
      Found m c (c.cwd.join path).text c.cwd.isAbsolute
  /-- It is a name, spelled with a slash. -/
  | spelled {path : Path} (home : m.expandHome? (.ofString c.program) = some path)
      (relative : path.isAbsolute = false) (name : ¬ 1 < path.names.length)
      (slash : '/' ∈ c.program.toList) (executable : m.canExecute c.program = true) :
      Found m c c.program false
  /-- It is a name, and this is the first directory of the search path that has such a program. -/
  | searched {path : Path} {before after : List String} {directory : String}
      (home : m.expandHome? (.ofString c.program) = some path)
      (relative : path.isAbsolute = false) (name : ¬ 1 < path.names.length)
      (bare : '/' ∉ c.program.toList)
      (directories : m.searchPath = before ++ directory :: after)
      (nowhere : ∀ d ∈ before, m.canExecute (Path.joinText d c.program) = false)
      (executable : m.canExecute (Path.joinText directory c.program) = true) :
      Found m c (Path.joinText directory c.program) (Path.isAbsoluteText directory)

section Found

variable {c : Command} {program : String} {absolute : Bool}

/-- The spelling of a path with a directory part has a slash. -/
lemma slash_mem_text {p : Path} (part : 1 < p.names.length) : '/' ∈ p.text.toList := by
  obtain ⟨a, ns⟩ := p
  match ns, part with
  | n :: n' :: ns, _ =>
    rw [Path.text]
    simp [String.toList_append, String.toList_intercalate]

lemma slash_mem_text_join {p q : Path} (part : 1 < q.names.length) :
    '/' ∈ (p.join q).text.toList := by
  refine slash_mem_text ?_
  rw [Path.join]
  split
  · exact part
  · rw [List.length_append]
    omega

lemma Command.Found.locate (h : c.Found m program absolute) :
    c.locate m = .ok (some program) := by
  unfold Command.locate
  cases h with
  | given home absolute present =>
    rw [home]
    simp only [absolute, present]
    rfl
  | below home relative part executable =>
    rw [home]
    simp only [relative, part,
      (which?_of_slash (slash_mem_text_join part) _).2 ⟨executable, rfl⟩]
    rfl
  | spelled home relative name slash executable =>
    rw [home]
    simp only [relative, name, (which?_of_slash slash _).2 ⟨executable, rfl⟩]
    rfl
  | searched home relative name bare directories nowhere executable =>
    rw [home]
    simp only [relative, name,
      (which?_of_bare bare _).2 ⟨_, _, _, directories, nowhere, executable, rfl⟩]
    rfl

lemma found_of_locate (h : c.locate m = .ok (some program)) :
    ∃ absolute, c.Found m program absolute := by
  unfold Command.locate at h
  cases home : m.expandHome? (.ofString c.program) with
  | none =>
    rw [home] at h
    cases h
  | some path =>
    rw [home] at h
    dsimp only at h
    split at h
    · rename_i absolute
      obtain ⟨found, present, h⟩ := bind_eq_ok_iff.1 h
      cases found with
      | false => cases h
      | true =>
        cases h
        exact ⟨_, .given home absolute (mapError_eq_ok_iff.1 present)⟩
    · rename_i relative
      rw [Bool.not_eq_true] at relative
      split at h
      · rename_i part
        obtain ⟨executable, rfl⟩ :=
          (which?_of_slash (slash_mem_text_join part) _).1 (Except.ok.inj h)
        exact ⟨_, .below home relative part executable⟩
      · rename_i name
        by_cases slash : '/' ∈ c.program.toList
        · obtain ⟨executable, rfl⟩ := (which?_of_slash slash _).1 (Except.ok.inj h)
          exact ⟨_, .spelled home relative name slash executable⟩
        · obtain ⟨before, directory, after, directories, nowhere, executable, rfl⟩ :=
            (which?_of_bare slash _).1 (Except.ok.inj h)
          exact ⟨_, .searched home relative name slash directories nowhere executable⟩

lemma locate_eq_some_iff :
    c.locate m = .ok (some program) ↔ ∃ absolute, c.Found m program absolute :=
  ⟨found_of_locate, fun ⟨_, h⟩ => h.locate⟩

/-- A program whose path is relative was not spelled as an absolute one. -/
lemma isAbsoluteText_program_eq_false {path : Path}
    (home : m.expandHome? (.ofString c.program) = some path) (relative : path.isAbsolute = false) :
    Path.isAbsoluteText c.program = false := by
  rw [Bool.eq_false_iff]
  intro habsolute
  rw [expandHome?_of_isAbsoluteText habsolute] at home
  cases home
  rw [Path.isAbsolute_ofString, habsolute] at relative
  cases relative

lemma Command.Found.isAbsoluteText_eq (formed : c.cwd.WellFormed)
    (h : c.Found m program absolute) : Path.isAbsoluteText program = absolute := by
  have hpath : ∀ {path : Path}, m.expandHome? (.ofString c.program) = some path →
      path.WellFormed := wellFormed_of_expandHome? (Path.wellFormed_ofString c.program)
  cases h with
  | given home absolute present => rw [Path.isAbsoluteText_text (hpath home), absolute]
  | below home relative part executable =>
    rw [Path.isAbsoluteText_text (formed.join (hpath home)), Path.join, relative]
    rfl
  | spelled home relative name slash executable =>
    exact isAbsoluteText_program_eq_false home relative
  | searched home relative name bare directories nowhere executable =>
    rw [Path.isAbsoluteText_joinText_eq, isAbsoluteText_program_eq_false home relative,
      Bool.false_or]

/-- What is found exists, as the process sees it. -/
lemma Command.Found.exists_statFrom (h : c.Found m program absolute) :
    ∃ file, m.statFrom m.cwdNames program = .ok file := by
  cases h with
  | given home absolute present => exact exists_statFrom_of_pathExists present
  | below home relative part executable => exact exists_statFrom_of_canExecute executable
  | spelled home relative name slash executable => exact exists_statFrom_of_canExecute executable
  | searched home relative name bare directories nowhere executable =>
    exact exists_statFrom_of_canExecute executable

lemma resolve_eq_ok_iff {located : Command} :
    c.resolve m = .ok located ↔
      ∃ program, c.locate m = .ok (some program) ∧ located = { c with program } := by
  unfold Command.resolve
  cases hlocate : c.locate m with
  | error f => exact iff_of_false nofun nofun
  | ok found =>
    cases found with
    | none => exact iff_of_false nofun nofun
    | some program =>
      constructor
      · rintro ⟨⟩
        exact ⟨program, rfl, rfl⟩
      · rintro ⟨_, ⟨⟩, rfl⟩
        rfl

/-- **Where a located program is.**  Locating a command replaces its program by a path at which it
is found and changes nothing else.  This path is absolute exactly in the cases that `Command.Found`
marks so, and leads, as the process sees it, to a file.  If it is absolute, no other path is tried
when the command is started, and from every directory it leads to the file that was checked. -/
theorem resolve_eq_ok_iff_found (m : Machine) (formed : c.cwd.WellFormed) :
    (∀ located, c.resolve m = .ok located ↔
      ∃ program absolute, c.Found m program absolute ∧ located = { c with program }) ∧
    ∀ program absolute, c.Found m program absolute →
      Path.isAbsoluteText program = absolute ∧
      ∃ file, m.statFrom m.cwdNames program = .ok file ∧
        (absolute = true → m.programPaths program = [program] ∧
          ∀ start, m.statFrom start program = .ok file) := by
  constructor
  · intro located
    rw [resolve_eq_ok_iff]
    simp only [locate_eq_some_iff, exists_and_right]
  · intro program absolute h
    have habsolute := h.isAbsoluteText_eq formed
    obtain ⟨file, hfile⟩ := h.exists_statFrom
    refine ⟨habsolute, file, hfile, ?_⟩
    rintro rfl
    refine ⟨programPaths_of_isAbsoluteText habsolute, fun start => ?_⟩
    rw [statFrom_of_isAbsoluteText habsolute start m.cwdNames, hfile]

end Found

/-- A machine with a compiler in its working directory and another one below a project. -/
def twoCompilers : Machine :=
  ⟨⟨[(["elm"], .file [] 0o755 none), (["p"], .directory), (["p", "bin"], .directory),
    (["p", "bin", "elm"], .file [] 0o755 none)]⟩, "/", [], []⟩

/-- A program with a directory part is the one below the directory of its command. -/
theorem program_below_project_is_found :
    (Path.ofString "/p").WellFormed ∧
    (Command.mk "bin/elm" [] (.ofString "/p") false).resolve twoCompilers =
      .ok ⟨"/p/bin/elm", [], .ofString "/p", false⟩ ∧
    Path.isAbsoluteText "/p/bin/elm" = true ∧
    twoCompilers.programPaths "/p/bin/elm" = ["/p/bin/elm"] ∧
    ∃ file, ∀ start, twoCompilers.statFrom start "/p/bin/elm" = .ok file := by
  have formed : (Path.ofString "/p").WellFormed := Path.wellFormed_ofString "/p"
  obtain ⟨located, spot⟩ := resolve_eq_ok_iff_found
    (c := ⟨"bin/elm", [], .ofString "/p", false⟩) twoCompilers formed
  have home : twoCompilers.expandHome? (.ofString "bin/elm") = some (.ofString "bin/elm") := by
    decide +kernel
  have found : (Command.mk "bin/elm" [] (.ofString "/p") false).Found twoCompilers
      "/p/bin/elm" true :=
    .below (c := ⟨"bin/elm", [], .ofString "/p", false⟩) home (by decide +kernel)
      (by decide +kernel) (by decide +kernel)
  obtain ⟨absolute, file, -, started⟩ := spot _ _ found
  obtain ⟨paths, everywhere⟩ := started rfl
  exact ⟨formed, (located _).2 ⟨_, _, found, rfl⟩, absolute, paths, file, everywhere⟩

/-- The path of a located program may be relative: `./elm` is looked up in the working directory of
the process, here without there being such a file in the directory of the command. -/
theorem not_forall_resolved_absolute :
    ¬ ∀ (m : Machine) (c located : Command), c.cwd.isAbsolute = true →
      c.resolve m = .ok located → Path.isAbsoluteText located.program = true := by
  intro h
  have hlocated : (Command.mk "./elm" [] (.ofString "/p") false).resolve twoCompilers =
      .ok ⟨"./elm", [], .ofString "/p", false⟩ := by decide +kernel
  have habsolute := h _ _ _ (by decide +kernel) hlocated
  revert habsolute
  decide +kernel

end ElmOnSave
