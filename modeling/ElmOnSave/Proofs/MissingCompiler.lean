import ElmOnSave.Proofs.EscapingFaults

/-!
# The missing compiler

A run tells the user that the compiler is missing, and yields nothing, in two cases.  In the first
no program can be located (`Command.Unlocatable`).  In the second one is located, and something else
that starting it takes does not exist (`Command.MissingOnStart`): the directory to run in, what a
script names in its first line, or the program itself as seen from that directory.

The second case is put together from the inside out: a file that is run, which may be a script that
names another one (`Dangling`, `image_eq_error_iff`), the paths that are tried for a program
(`AllDangling.firstImage`, `allDangling_of_firstImage`), and the start of a process
(`Command.MissingOnStart.startCommand`, `missingOnStart_of_startCommand`).

`Launches` lists what can become of a command up to the moment that a process runs.  Every command
meets with one of these ends (`exists_launch`), and the end decides the run
(`runCommand_of_launches`).  `run_reports_missing_iff` reads off when the compiler is reported
missing, when the user is told something, and when a run is refused.
-/

namespace ElmOnSave

open CompilerOutput CompilerRun

variable {m : Machine}

/-! ## Programs that cannot be located -/

/-- The paths at which an executable file of a name is looked for. -/
def Machine.lookupPaths (m : Machine) (name : String) : List String :=
  if name.toList.contains '/' then [name] else m.searchPath.map fun d => Path.joinText d name

lemma which?_eq_none_iff (name : String) :
    m.which? name = none ↔ ∀ path ∈ m.lookupPaths name, m.canExecute path = false := by
  unfold Machine.which? Machine.lookupPaths
  split
  · simp
  · simp [List.find?_eq_none]

/-- The program of a command cannot be located. -/
inductive Command.Unlocatable (m : Machine) (c : Command) : Prop where
  /-- It is given by an absolute path, where nothing exists. -/
  | absolute {path : Path} (home : m.expandHome? (.ofString c.program) = some path)
      (absolute : path.isAbsolute = true) (nothing : m.pathExists path = .ok false) :
      Unlocatable m c
  /-- It is given with a directory part, and no executable file is there. -/
  | relative {path : Path} (home : m.expandHome? (.ofString c.program) = some path)
      (relative : path.isAbsolute = false) (names : 1 < path.names.length)
      (nowhere : ∀ found ∈ m.lookupPaths (c.cwd.join path).text, m.canExecute found = false) :
      Unlocatable m c
  /-- It is given by its name, and no executable file goes by it. -/
  | bare {path : Path} (home : m.expandHome? (.ofString c.program) = some path)
      (relative : path.isAbsolute = false) (name : ¬ 1 < path.names.length)
      (nowhere : ∀ found ∈ m.lookupPaths c.program, m.canExecute found = false) :
      Unlocatable m c

variable {c : Command}

lemma Command.Unlocatable.locate (h : c.Unlocatable m) : c.locate m = .ok none := by
  unfold Command.locate
  cases h with
  | absolute home absolute nothing =>
    rw [home]
    simp only [absolute, nothing]
    rfl
  | relative home relative names nowhere =>
    rw [home]
    simp only [relative, names, (which?_eq_none_iff _).2 nowhere]
    rfl
  | bare home relative name nowhere =>
    rw [home]
    simp only [relative, name, (which?_eq_none_iff _).2 nowhere]
    rfl

lemma unlocatable_of_locate (h : c.locate m = .ok none) : c.Unlocatable m := by
  unfold Command.locate at h
  cases home : m.expandHome? (.ofString c.program) with
  | none =>
    rw [home] at h
    cases h
  | some path =>
    rw [home] at h
    dsimp only at h
    split at h
    · rename_i absolute
      obtain ⟨found, hexists, h⟩ := bind_eq_ok_iff.1 h
      cases found with
      | true => cases h
      | false => exact .absolute home absolute (mapError_eq_ok_iff.1 hexists)
    · rename_i relative
      rw [Bool.not_eq_true] at relative
      split at h
      · rename_i names
        exact .relative home relative names ((which?_eq_none_iff _).1 (Except.ok.inj h))
      · rename_i name
        exact .bare home relative name ((which?_eq_none_iff _).1 (Except.ok.inj h))

/-! ## Files that cannot be run because something does not exist -/

/-- The refusals that say that a path leads nowhere. -/
def Errno.LeadsNowhere (e : Errno) : Prop :=
  e = .noEntry ∨ e = .notDirectory

/-- What is to be run leads nowhere, seen from a directory, with a refusal that says so; up to a
number of scripts are followed. -/
inductive Dangling (m : Machine) (start : List String) (e : Errno) : Nat → String → Prop where
  /-- The path itself leads nowhere. -/
  | path {depth : Nat} {path : String} (nothing : m.statFrom start path = .error (.system e)) :
      Dangling m start e depth path
  /-- No path holds a null character. -/
  | null {depth : Nat} {path : String} (null : nullCharacter ∈ path.toList)
      (absent : e = .noEntry) : Dangling m start e depth path
  /-- The path leads to a script, and what its first line names leads nowhere. -/
  | script {depth : Nat} {path interpreter : String} {argument : Option String}
      {names : List String} {content : Octets} {mode : Nat}
      (found : m.statFrom start path = .ok (names, .file content mode none))
      (executable : (Node.file content mode none).isExecutable = true)
      (line : Machine.interpreter? content = some (interpreter, argument))
      (named : interpreter ≠ "") (dangling : Dangling m start e depth interpreter) :
      Dangling m start e (depth + 1) path

section Image

variable {start : List String} {e : Errno}

lemma Dangling.imageAt {depth : Nat} {path : String} (h : Dangling m start e depth path)
    (args : List String) : m.imageAt start depth path args = .error e := by
  induction h generalizing args with
  | path nothing =>
    unfold Machine.imageAt
    rw [nothing]
  | null null absent =>
    unfold Machine.imageAt
    rw [(statFrom_eq_nullByte_iff start _).2 null, absent]
  | script found executable line named dangling ih =>
    unfold Machine.imageAt
    rw [found]
    simp only [executable, line, named]
    exact ih _

/-- The induction is on the scripts that are followed; every other refusal says that something is
there. -/
lemma dangling_of_imageAt (he : e.LeadsNowhere) {depth : Nat} {path : String} {args : List String}
    (h : m.imageAt start depth path args = .error e) : Dangling m start e depth path := by
  fun_induction Machine.imageAt m start depth path args with
  | case1 depth path args e' nothing =>
    cases h
    exact .path nothing
  | case2 depth path args nothing =>
    cases h
    exact .null ((statFrom_eq_nullByte_iff start path).1 nothing) rfl
  | case10 path args names content mode depth interpreter argument line named found executable ih =>
    exact .script found (by simpa using executable) line named (ih h)
  | case7 =>
    split at h <;> cases h <;> simp [Errno.LeadsNowhere] at he
  | _ => cases h <;> simp [Errno.LeadsNowhere] at he

/-- How many scripts may be followed to run a file with the given arguments. -/
def scriptDepth (args : List String) : Nat :=
  if args.any fun a => Machine.argumentLimit < a.utf8ByteSize then 0 else Machine.chainLimit

/-- A file cannot be run because something leads nowhere if it is dangling. -/
lemma image_eq_error_iff (he : e.LeadsNowhere) {path : String} {args : List String} :
    m.image start path args = .error e ↔ Dangling m start e (scriptDepth args) path := by
  unfold Machine.image scriptDepth
  split
  · constructor
    · intro h
      split at h
      · split at h <;> cases h <;> simp [Errno.LeadsNowhere] at he
      · rename_i nothing
        cases h
        exact .path nothing
      · rename_i nothing
        cases h
        exact .null ((statFrom_eq_nullByte_iff start path).1 nothing) rfl
    · intro h
      cases h with
      | path nothing => rw [nothing]
      | null null absent => rw [(statFrom_eq_nullByte_iff start path).2 null, absent]
  · exact ⟨dangling_of_imageAt he, fun h => h.imageAt args⟩

/-- Each of several paths leads nowhere, and the last of them to no entry. -/
inductive AllDangling (m : Machine) (start : List String) (depth : Nat) : List String → Prop where
  | last {path : String} (absent : Dangling m start .noEntry depth path) :
      AllDangling m start depth [path]
  | cons {path : String} {paths : List String} {e : Errno} (he : e.LeadsNowhere)
      (dangling : Dangling m start e depth path) (rest : AllDangling m start depth paths) :
      AllDangling m start depth (path :: paths)

lemma firstImage_cons_of_leadsNowhere (he : e.LeadsNowhere) {path : String} {e' : Errno}
    {args : List String} (h : m.image start path args = .error e') (paths : List String) :
    m.firstImage start args (path :: paths) e = m.firstImage start args paths e' := by
  rw [Machine.firstImage, h]
  exact congrArg (m.firstImage start args paths) (if_pos he)

lemma AllDangling.firstImage {paths args : List String}
    (h : AllDangling m start (scriptDepth args) paths) (he : e.LeadsNowhere) :
    m.firstImage start args paths e = .error .noEntry := by
  induction h generalizing e with
  | last absent =>
    exact firstImage_cons_of_leadsNowhere he ((image_eq_error_iff (.inl rfl)).2 absent) []
  | cons he' dangling rest ih =>
    rw [firstImage_cons_of_leadsNowhere he ((image_eq_error_iff he').2 dangling)]
    exact ih he'

/-- A refusal that says more than that a path leads nowhere is kept. -/
lemma firstImage_ne_noEntry {paths args : List String} (he : ¬ e.LeadsNowhere) :
    m.firstImage start args paths e ≠ .error .noEntry := by
  induction paths with
  | nil =>
    rintro ⟨⟩
    exact he (.inl rfl)
  | cons path paths ih =>
    cases himage : m.image start path args with
    | ok i => simp [Machine.firstImage, himage]
    | error e' =>
      have hkept : m.firstImage start args (path :: paths) e =
          m.firstImage start args paths e := by
        rw [Machine.firstImage, himage]
        exact congrArg (m.firstImage start args paths) (if_neg he)
      rwa [hkept]

lemma allDangling_of_firstImage {paths args : List String} (hpaths : paths ≠ [])
    (he : e.LeadsNowhere) (h : m.firstImage start args paths e = .error .noEntry) :
    AllDangling m start (scriptDepth args) paths := by
  induction paths generalizing e with
  | nil => exact absurd rfl hpaths
  | cons path paths ih =>
    cases himage : m.image start path args with
    | ok i => simp [Machine.firstImage, himage] at h
    | error e' =>
      rw [firstImage_cons_of_leadsNowhere he himage] at h
      have he' : e'.LeadsNowhere := by
        by_contra hother
        exact firstImage_ne_noEntry hother h
      have dangling := (image_eq_error_iff he').1 himage
      cases paths with
      | nil =>
        cases h
        exact .last dangling
      | cons next paths => exact .cons he' dangling (ih (List.cons_ne_nil next paths) he' h)

end Image

/-! ## Processes that are not started because something does not exist -/

/-- What starting a located command takes does not exist; no word of the command holds a null
character. -/
inductive Command.MissingOnStart (m : Machine) (c : Command) : Prop where
  /-- The directory to run in does not exist. -/
  | directory (absent : m.statFrom m.cwdNames c.cwd.text = .error (.system .noEntry))
      (speakable : ∀ word ∈ c.words, nullCharacter ∉ word.toList) : MissingOnStart m c
  /-- Seen from that directory, the program or what runs it does not exist. -/
  | program {names : List String}
      (entered : m.statFrom m.cwdNames c.cwd.text = .ok (names, .directory))
      (dangling : AllDangling m names (scriptDepth c.args) (m.programPaths c.program))
      (speakable : ∀ word ∈ c.words, nullCharacter ∉ word.toList) : MissingOnStart m c

lemma programPaths_ne_nil (program : String) : m.programPaths program ≠ [] := by
  unfold Machine.programPaths
  split
  · exact List.cons_ne_nil _ _
  · simp [Text.splitAll_eq_splitOnP]

lemma enter_of_directory {cwd : String} {names : List String}
    (h : m.statFrom m.cwdNames cwd = .ok (names, .directory)) : m.enter cwd = .ok names := by
  rw [Machine.enter, h]

lemma enter_eq_noEntry_iff {cwd : String} :
    m.enter cwd = .error (.system ⟨.noEntry, cwd⟩) ↔
      m.statFrom m.cwdNames cwd = .error (.system .noEntry) := by
  unfold Machine.enter
  split <;> simp_all

/-- A command without null characters is started in its directory, where the paths of its program
are tried. -/
lemma startCommand_eq (direct : c.shell = false)
    (speakable : ∀ word ∈ c.words, nullCharacter ∉ word.toList) :
    startCommand m c = match m.enter c.cwd.text with
      | .error e => .error e
      | .ok names => match m.firstImage names c.args (m.programPaths c.program) .noEntry with
        | .ok i => .ok (m.runImage names i)
        | .error e => .error (.system ⟨e, c.program⟩) := by
  have hclean : ¬ ((c.program :: c.args).any fun a => a.toList.contains (Char.ofNat 0)) = true := by
    simpa [nullCharacter, Command.words] using speakable
  calc startCommand m c = m.start c.cwd.text c.program c.args := by
        rw [startCommand, direct, if_neg Bool.false_ne_true]
    _ = _ := if_neg hclean

lemma Command.MissingOnStart.startCommand (h : c.MissingOnStart m) (direct : c.shell = false) :
    ∃ cause, startCommand m c = .error (.system cause) ∧ cause.errno = .noEntry := by
  cases h with
  | directory absent speakable =>
    rw [startCommand_eq direct speakable, enter_eq_noEntry_iff.2 absent]
    exact ⟨_, rfl, rfl⟩
  | program entered dangling speakable =>
    rw [startCommand_eq direct speakable, enter_of_directory entered]
    dsimp only
    rw [dangling.firstImage (.inl rfl)]
    exact ⟨_, rfl, rfl⟩

lemma missingOnStart_of_startCommand (direct : c.shell = false) {cause : SystemFault}
    (h : startCommand m c = .error (.system cause)) (absent : cause.errno = .noEntry) :
    c.MissingOnStart m := by
  have speakable : ∀ word ∈ c.words, nullCharacter ∉ word.toList := by
    intro word hword hnull
    have hstart : startCommand m c = .error .nullByte :=
      (startCommand_eq_nullByte_iff direct).2 ⟨word, List.mem_cons_of_mem _ hword, hnull⟩
    rw [hstart] at h
    cases h
  rw [startCommand_eq direct speakable] at h
  cases hstat : m.statFrom m.cwdNames c.cwd.text with
  | error e =>
    rw [Machine.enter, hstat] at h
    cases e with
    | nullByte => cases h
    | system e =>
      cases h
      cases absent
      exact .directory hstat speakable
  | ok found =>
    obtain ⟨names, node⟩ := found
    cases node with
    | directory =>
      rw [enter_of_directory hstat] at h
      dsimp only at h
      cases himage : m.firstImage names c.args (m.programPaths c.program) .noEntry with
      | ok i =>
        rw [himage] at h
        cases h
      | error e =>
        rw [himage] at h
        cases h
        cases absent
        exact .program hstat
          (allDangling_of_firstImage (programPaths_ne_nil c.program) (.inl rfl) himage) speakable
    | file | device =>
      rw [Machine.enter, hstat] at h
      cases h
      cases absent

/-! ## What becomes of a command -/

/-- What becomes of a command up to the moment that a process runs. -/
inductive Launch where
  /-- The compiler counts as missing. -/
  | missing
  /-- The operating system refuses to look for the program or to start it. -/
  | refused (cause : SystemFault)
  /-- The command cannot be handed to the operating system. -/
  | failed (f : Fault)
  | started (x : Execution)

/-- The outcome of a run whose command comes to an end before, or when, a process runs. -/
def Launch.outcome [Platform] (r : CompileRequest) (c : Command) (g : Generation) :
    Launch → RunOutcome
  | missing => CompilerRun.missing c g
  | refused cause => ⟨.error (.notStarted c.program cause c.words), [], []⟩
  | failed f => ⟨.error f, [], []⟩
  | started x => ⟨(supervise g r c x).map fun ds => ⟨ds, c.cwd, g, c, false⟩, [], x.runs⟩

/-- When a command meets with which end. -/
inductive Launches (m : Machine) (c : Command) : Launch → Prop where
  /-- The program cannot be located. -/
  | unlocatable (nowhere : c.Unlocatable m) : Launches m c .missing
  /-- The program is located, and something else does not exist. -/
  | missingOnStart {located : Command} (found : c.resolve m = .ok located)
      (missing : located.MissingOnStart m) : Launches m c .missing
  /-- The operating system refuses to say whether the program exists. -/
  | lookup {cause : SystemFault} (refused : c.locate m = .error (.system cause)) :
      Launches m c (.refused cause)
  /-- The operating system refuses to start the program, for another reason than that something
  does not exist. -/
  | start {located : Command} {cause : SystemFault} (found : c.resolve m = .ok located)
      (refused : startCommand m located = .error (.system cause))
      (present : cause.errno ≠ .noEntry) : Launches m c (.refused cause)
  /-- The program is given by a tilde that names no account. -/
  | home (unknown : m.expandHome? (.ofString c.program) = none) : Launches m c (.failed c.homeFault)
  /-- A null character stands in the directory or in a word of the command. -/
  | null {located : Command} {text : String} (found : c.resolve m = .ok located)
      (mem : text ∈ located.cwd.text :: located.words) (null : nullCharacter ∈ text.toList) :
      Launches m c (.failed .nullByte)
  | started {located : Command} {x : Execution} (found : c.resolve m = .ok located)
      (started : startCommand m located = .ok x) : Launches m c (.started x)

section Launch

variable (direct : c.shell = false)

include direct

/-- Every command meets with an end. -/
lemma exists_launch (m : Machine) : ∃ l, Launches m c l := by
  cases hlocate : c.locate m with
  | error f =>
    rcases locate_eq_error hlocate with ⟨unknown, -⟩ | ⟨path, rfl⟩
    · exact ⟨_, .home unknown⟩
    · exact ⟨_, .lookup hlocate⟩
  | ok program =>
    cases program with
    | none => exact ⟨_, .unlocatable (unlocatable_of_locate hlocate)⟩
    | some program =>
      have found : c.resolve m = .ok { c with program } := by
        rw [Command.resolve, hlocate]
        rfl
      have hdirect := direct_of_resolve direct found
      cases hstart : startCommand m { c with program } with
      | ok x => exact ⟨_, .started found hstart⟩
      | error e =>
        cases e with
        | nullByte =>
          obtain ⟨text, mem, null⟩ := (startCommand_eq_nullByte_iff hdirect).1 hstart
          exact ⟨_, .null found mem null⟩
        | system cause =>
          by_cases absent : cause.errno = .noEntry
          · exact ⟨_, .missingOnStart found
              (missingOnStart_of_startCommand hdirect hstart absent)⟩
          · exact ⟨_, .start found hstart absent⟩

/-- The end of a command decides the run. -/
lemma runCommand_of_launches [Platform] {l : Launch} (h : Launches m c l) (r : CompileRequest)
    (g : Generation) : runCommand m r c g = l.outcome r c g := by
  unfold runCommand
  cases h with
  | unlocatable nowhere =>
    rw [Command.resolve, nowhere.locate]
    rfl
  | missingOnStart found missing =>
    obtain ⟨cause, hstart, absent⟩ := missing.startCommand (direct_of_resolve direct found)
    rw [found]
    dsimp only
    rw [hstart]
    exact if_pos absent
  | lookup refused =>
    rcases locate_eq_error refused with ⟨-, hfault⟩ | ⟨path, hfault⟩
    · rcases homeFault_cases c with h | h <;> rw [h] at hfault <;> cases hfault
    · cases hfault
      rw [Command.resolve, refused]
      rfl
  | start found refused present =>
    rw [found]
    dsimp only
    rw [refused]
    exact if_neg present
  | home unknown =>
    rw [resolve_of_expandHome?_eq_none unknown]
    rcases homeFault_cases c with h | h <;> rw [h] <;> rfl
  | null found mem null =>
    have hstart := (startCommand_eq_nullByte_iff (m := m) (direct_of_resolve direct found)).2
      ⟨_, mem, null⟩
    rw [found]
    dsimp only
    rw [hstart]
    rfl
  | started found started =>
    rw [found]
    dsimp only
    rw [started]
    rfl

end Launch

/-! ## Other faults of a run -/

section Faults

variable {f : Fault}

lemma family_ofHome_ne_invocation (unspeakable : Bool) :
    (Fault.ofHome unspeakable).family ≠ .invocation := by
  cases unspeakable <;> exact nofun

lemma family_of_projectRoot? {path : Path} (h : projectRoot? m path = .error f) :
    f.family ≠ .invocation := by
  unfold projectRoot? at h
  cases hhome : m.expandHome? path with
  | none =>
    rw [hhome] at h
    cases h
    exact family_ofHome_ne_invocation _
  | some p =>
    rw [hhome] at h
    rcases bind_eq_error_iff.1 h with hdirectory | ⟨isDirectory, -, h⟩
    · rw [mapError_ask_eq_error hdirectory]
      exact nofun
    · obtain ⟨path', rfl⟩ := firstWithManifest_eq_error h
      exact nofun

lemma family_of_detectProject [Platform] {file : Path} {workspace : Option Path}
    (h : detectProject m file workspace = .error f) : f.family ≠ .invocation := by
  rcases bind_eq_error_iff.1 h with hroot | ⟨found, -, h⟩
  · exact family_of_projectRoot? hroot
  cases found with
  | none => cases h
  | some root =>
    rcases bind_eq_error_iff.1 h with hmanifest | ⟨b, -, h⟩
    · rw [mapError_ask_eq_error hmanifest]
      exact nofun
    cases b with
    | true => cases h
    | false =>
      rcases bind_eq_error_iff.1 h with hgeneration | ⟨g, -, h⟩
      · rcases generationOfManifest_eq_error hgeneration with rfl | ⟨digits, rfl⟩ <;> exact nofun
      · cases h

/-- No process is started before a command is prepared. -/
lemma family_of_prepare [Platform] {r : CompileRequest} (h : r.prepare m = .error f) :
    f.family ≠ .invocation :=
  family_of_detectProject (CompileRequest.prepare_eq_error h)

lemma fault_collectLines_eq_some {read : String → Except Fault (List Diagnostic)}
    {lines : List Octets} {acc : List (List Diagnostic)}
    (h : (collectLines read lines acc).fault = some f) :
    ∃ line ∈ lines, read (lineText line) = .error f := by
  induction lines generalizing acc with
  | nil => cases h
  | cons line lines ih =>
    rw [collectLines] at h
    cases hread : read (lineText line) with
    | error f' =>
      rw [hread] at h
      cases h
      exact ⟨line, List.mem_cons_self .., hread⟩
    | ok ds =>
      rw [hread] at h
      obtain ⟨line', hmem, hfails⟩ := ih h
      exact ⟨line', List.mem_cons_of_mem line hmem, hfails⟩

/-- Collecting a report fails with a complaint about a line, or because a line is refused for its
size. -/
lemma fault_collectChunks_eq_some [Platform] {g : Generation} {target : String} {limit : Nat}
    {chunks : List Octets} {ended : Bool}
    (h : (collectChunks g target limit chunks ended).fault = some f) :
    (∃ cause line, f = .output cause line) ∨ ∃ line, RefusedForSize line f := by
  unfold collectChunks at h
  dsimp only at h
  split at h
  · cases h
    exact .inl ⟨_, _, rfl⟩
  · obtain ⟨line, -, hfails⟩ := fault_collectLines_eq_some h
    rcases readLine_error hfails with ⟨cause, rfl⟩ | hrefused
    · exact .inl ⟨cause, _, rfl⟩
    · exact .inr ⟨_, hrefused⟩

/-- A process that runs was started. -/
lemma family_of_supervise [Platform] {g : Generation} {r : CompileRequest} {x : Execution}
    (h : supervise g r c x = .error f) : f.family ≠ .invocation := by
  have hchunks : ∀ {chunks : List Octets} {ended : Bool},
      (collectChunks g r.file streamLineLimit chunks ended).fault = some f →
        f.family ≠ .invocation := by
    intro chunks ended hfault
    rcases fault_collectChunks_eq_some hfault with ⟨cause, line, rfl⟩ | ⟨line, hrefused⟩
    · exact nofun
    · rcases hrefused with ⟨rfl, -⟩ | ⟨digits, rfl, -⟩ <;> exact nofun
  unfold supervise at h
  dsimp only at h
  split at h
  · cases h
    exact nofun
  split at h
  · cases hfault : (collectChunks g r.file streamLineLimit
      [x.received r.config.timeout g.reportStream] false).fault
    · rw [hfault] at h
      cases h
      exact nofun
    · rw [hfault] at h
      cases h
      exact hchunks hfault
  · unfold conclude at h
    dsimp only at h
    split at h
    · rename_i f' hfault
      cases h
      exact hchunks hfault
    · split at h <;> cases h

end Faults

/-! ## The report of a missing compiler -/

section Outcome

variable {r : CompileRequest} {g : Generation} {l : Launch}

lemma Launch.outcome_reports_missing_iff [Platform] {x : RunResult} :
    ((l.outcome r c g).result = .ok x ∧ x.compilerMissing = true) ↔
      l = .missing ∧ x = ⟨[], c.cwd, g, c, true⟩ := by
  cases l with
  | missing =>
    constructor
    · rintro ⟨⟨⟩, -⟩
      exact ⟨rfl, rfl⟩
    · rintro ⟨-, rfl⟩
      exact ⟨rfl, rfl⟩
  | refused | failed => simp [Launch.outcome]
  | started e =>
    refine iff_of_false ?_ nofun
    rintro ⟨hresult, hmissing⟩
    obtain ⟨ds, -, rfl⟩ := map_eq_ok_iff.1 hresult
    cases hmissing

lemma Launch.notices_outcome_iff [Platform] {notice : String} {notices : List String} :
    (l.outcome r c g).notices = notice :: notices ↔
      l = .missing ∧ notice = missingNotice c.program ∧ notices = [] := by
  cases l <;> simp [Launch.outcome, CompilerRun.missing, eq_comm]

lemma Launches.outcome_refused_iff [Platform] (h : Launches m c l) {f : Fault} :
    ((l.outcome r c g).result = .error f ∧ f.family = .invocation) ↔
      ∃ cause, l = .refused cause ∧ f = .notStarted c.program cause c.words := by
  constructor
  · rintro ⟨hresult, hfamily⟩
    cases l with
    | missing => cases hresult
    | refused cause =>
      cases hresult
      exact ⟨cause, rfl, rfl⟩
    | failed f' =>
      cases hresult
      cases h with
      | home unknown => exact absurd hfamily (family_ofHome_ne_invocation _)
      | null => cases hfamily
    | started x =>
      exact absurd hfamily (family_of_supervise (map_eq_error_iff.1 hresult))
  · rintro ⟨cause, rfl, rfl⟩
    exact ⟨rfl, rfl⟩

lemma run_of_launches [Platform] (prepared : r.prepare m = .ok (c, g)) (h : Launches m c l) :
    run m r = l.outcome r c g := by
  rw [run, prepared]
  exact runCommand_of_launches (direct_of_prepare prepared) h r g

end Outcome

/-- **When the compiler is reported missing.**  It is so exactly when a command was prepared that
meets with the end `Launch.missing`: no program can be located, or what starting it takes does not
exist.  The run then yields nothing and the user is told once; in every other case nothing is told.
A run is refused, with the words of its command, exactly when the operating system refuses the
lookup or the start for another reason.  Every command that is prepared meets with an end of
`Launches`, and this end decides the run. -/
theorem run_reports_missing_iff [Platform] (m : Machine) (r : CompileRequest) :
    (∀ x, ((run m r).result = .ok x ∧ x.compilerMissing = true) ↔
      ∃ c g, r.prepare m = .ok (c, g) ∧ Launches m c .missing ∧ x = ⟨[], c.cwd, g, c, true⟩) ∧
    (∀ notice notices, (run m r).notices = notice :: notices ↔
      ∃ c g, r.prepare m = .ok (c, g) ∧ Launches m c .missing ∧
        notice = missingNotice c.program ∧ notices = []) ∧
    (∀ f, ((run m r).result = .error f ∧ f.family = .invocation) ↔
      ∃ c g cause, r.prepare m = .ok (c, g) ∧ Launches m c (.refused cause) ∧
        f = .notStarted c.program cause c.words) ∧
    ∀ c g, r.prepare m = .ok (c, g) → ∃ l, Launches m c l ∧ run m r = l.outcome r c g := by
  cases prepared : r.prepare m with
  | error f' =>
    have hrun : run m r = ⟨.error f', [], []⟩ := by rw [run, prepared]
    rw [hrun]
    have hnone : ∀ {command : Command × Generation}, Except.error f' ≠ .ok command := by
      rintro command ⟨⟩
    refine ⟨fun x => iff_of_false ?_ ?_, fun notice notices => iff_of_false ?_ ?_,
      fun f => iff_of_false ?_ ?_, fun c g h => absurd h hnone⟩
    · rintro ⟨⟨⟩, -⟩
    · rintro ⟨c, g, h, -⟩
      exact hnone h
    · rintro ⟨⟩
    · rintro ⟨c, g, h, -⟩
      exact hnone h
    · rintro ⟨⟨⟩, hfamily⟩
      exact family_of_prepare prepared hfamily
    · rintro ⟨c, g, cause, h, -⟩
      exact hnone h
  | ok command =>
    obtain ⟨c, g⟩ := command
    obtain ⟨l, hl⟩ := exists_launch (direct_of_prepare prepared) m
    have hrun := run_of_launches prepared hl
    refine ⟨fun x => ⟨fun h => ?_, ?_⟩, fun notice notices => ⟨fun h => ?_, ?_⟩,
      fun f => ⟨fun h => ?_, ?_⟩, ?_⟩
    · rw [hrun, Launch.outcome_reports_missing_iff] at h
      obtain ⟨rfl, rfl⟩ := h
      exact ⟨c, g, rfl, hl, rfl⟩
    · rintro ⟨c', g', ⟨⟩, hmissing, rfl⟩
      rw [run_of_launches prepared hmissing]
      exact ⟨rfl, rfl⟩
    · rw [hrun, Launch.notices_outcome_iff] at h
      obtain ⟨rfl, rfl, rfl⟩ := h
      exact ⟨c, g, rfl, hl, rfl, rfl⟩
    · rintro ⟨c', g', ⟨⟩, hmissing, rfl, rfl⟩
      rw [run_of_launches prepared hmissing]
      rfl
    · rw [hrun, hl.outcome_refused_iff] at h
      obtain ⟨cause, rfl, rfl⟩ := h
      exact ⟨c, g, cause, rfl, hl, rfl⟩
    · rintro ⟨c', g', cause, ⟨⟩, hrefused, rfl⟩
      rw [run_of_launches prepared hrefused]
      exact ⟨rfl, rfl⟩
    · rintro c' g' ⟨⟩
      exact ⟨l, hl, hrun⟩

/-- A machine with a compiler. -/
def equippedMachine : Machine :=
  ⟨⟨[(["Main.elm"], .file [] 0o644 none), (["bin"], .directory),
    (["bin", "elm"], .file [] 0o755 (some (.fixed ⟨[], [], none, 0⟩)))]⟩,
    "/", [("PATH", "/bin")], []⟩

/-- A request for a file outside every project, with a workspace that does not exist. -/
def strayRequest : CompileRequest :=
  .ofFile equippedMachine "Main.elm" (some "/nowhere") .standard

/-- The command for the file. -/
def strayCommand : Command :=
  ⟨"elm", ["make", "/Main.elm", "--report", "json", "--output", "/dev/null"],
    .ofString "/nowhere", false⟩

lemma strayRequest_prepared :
    strayRequest.prepare equippedMachine = .ok (strayCommand, .reportDocuments) := by
  decide +kernel

/-- The user is told that a compiler is missing which is there. -/
theorem present_compiler_is_told_missing :
    strayRequest.prepare equippedMachine = .ok (strayCommand, .reportDocuments) ∧
    strayCommand.resolve equippedMachine = .ok { strayCommand with program := "/bin/elm" } ∧
    (run equippedMachine strayRequest).notices = [missingNotice "elm"] ∧
    ∃ l, Launches equippedMachine strayCommand l ∧
      run equippedMachine strayRequest = l.outcome strayRequest strayCommand .reportDocuments := by
  have found : strayCommand.resolve equippedMachine =
      .ok { strayCommand with program := "/bin/elm" } := by decide +kernel
  have absent : equippedMachine.enter strayCommand.cwd.text =
      .error (.system ⟨.noEntry, strayCommand.cwd.text⟩) := by decide +kernel
  have missing : Launches equippedMachine strayCommand .missing :=
    .missingOnStart found (.directory (enter_eq_noEntry_iff.1 absent) (by decide +kernel))
  obtain ⟨-, told, -, launched⟩ := run_reports_missing_iff equippedMachine strayRequest
  exact ⟨strayRequest_prepared, found,
    (told _ _).2 ⟨_, _, strayRequest_prepared, missing, rfl, rfl⟩,
    launched _ _ strayRequest_prepared⟩

/-- The compiler is not reported missing only when no program can be located. -/
theorem not_forall_missing_iff_unlocatable :
    ¬ ∀ (m : Machine) (r : CompileRequest) (c : Command) (g : Generation),
      r.prepare m = .ok (c, g) →
        ((∃ x, (run m r).result = .ok x ∧ x.compilerMissing = true) ↔ c.Unlocatable m) := by
  intro h
  have hreported : (run equippedMachine strayRequest).result.map RunResult.compilerMissing =
      .ok true := by decide +kernel
  have hlocated : strayCommand.locate equippedMachine = .ok (some "/bin/elm") := by decide +kernel
  have hmissing : ∃ x, (run equippedMachine strayRequest).result = .ok x ∧
      x.compilerMissing = true := by
    cases hresult : (run equippedMachine strayRequest).result with
    | error f =>
      rw [hresult] at hreported
      cases hreported
    | ok x =>
      rw [hresult] at hreported
      exact ⟨x, rfl, Except.ok.inj hreported⟩
  have hnowhere := (h _ _ _ _ strayRequest_prepared).1 hmissing
  rw [hnowhere.locate] at hlocated
  cases hlocated

end ElmOnSave
