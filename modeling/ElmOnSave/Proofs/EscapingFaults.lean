import ElmOnSave.Proofs.LineFaults
import ElmOnSave.Proofs.ProjectLookup
import ElmOnSave.Proofs.WholeSave

/-!
# Faults that leave a save

A save reports the faults of the pipeline and goes on.  Nearly everything that goes wrong while a
run is prepared, started or read becomes such a fault.  `Escapes` lists what does not: a path too
long to be asked about, an old manifest that is refused for its size, a tilde without an account, a
word of the command with a null character, and a report with a line that is refused for its size.

`outcome_eq_error_iff` says that a run fails with a fault outside the pipeline only in one of these
ways; it goes through the parts of a run in their order, each with a lemma of its own
(`detectProject_eq_error_iff`, `startCommand_eq_nullByte_iff`, `runCommand_eq_error_iff`,
`supervise_eq_report_iff`).  `save_raised_iff_escapes` is the result for a whole save.
-/

namespace ElmOnSave

open CompilerOutput CompilerRun

/-! ## Finding and starting the program -/

/-- The character that no path and no argument may hold. -/
def nullCharacter : Char := Char.ofNat 0

section Start

variable {m : Machine}

/-- Looking for the program of a command fails for want of a home directory, or because a path is
too long to be asked about. -/
lemma locate_eq_error {c : Command} {f : Fault} (h : c.locate m = .error f) :
    (m.expandHome? (.ofString c.program) = none ∧ f = c.homeFault) ∨
      ∃ path, f = .system ⟨.nameTooLong, path⟩ := by
  unfold Command.locate at h
  cases hhome : m.expandHome? (.ofString c.program) with
  | none =>
    rw [hhome] at h
    cases h
    exact .inl ⟨rfl, rfl⟩
  | some path =>
    rw [hhome] at h
    dsimp only at h
    split at h
    · rcases bind_eq_error_iff.1 h with hexists | ⟨b, -, h⟩
      · exact .inr ⟨_, mapError_ask_eq_error hexists⟩
      · cases h
    · split at h <;> cases h

/-- The program of a command is found, or it is absent, or the lookup fails. -/
lemma resolve_eq_error {c : Command} {f : Fault} (h : c.resolve m = .error f) :
    (m.expandHome? (.ofString c.program) = none ∧ f = c.homeFault) ∨
      (∃ e, f = .system e) ∨ f = .programAbsent c.program := by
  rcases bind_eq_error_iff.1 h with hlocate | ⟨found, -, hfound⟩
  · rcases locate_eq_error hlocate with hhome | ⟨path, rfl⟩
    · exact .inl hhome
    · exact .inr (.inl ⟨_, rfl⟩)
  · cases found with
    | none =>
      cases hfound
      exact .inr (.inr rfl)
    | some program => cases hfound

lemma homeFault_cases (c : Command) : c.homeFault = .nullByte ∨ c.homeFault = .unknownHome := by
  unfold Command.homeFault Fault.ofHome
  split_ifs
  · exact .inl rfl
  · exact .inr rfl

lemma resolve_of_expandHome?_eq_none {c : Command}
    (h : m.expandHome? (.ofString c.program) = none) : c.resolve m = .error c.homeFault := by
  simp only [Command.resolve, Command.locate, h]
  rfl

/-- Only the program of a command is located. -/
lemma resolve_eq_ok {c located : Command} (h : c.resolve m = .ok located) :
    ∃ program, located = { c with program } := by
  obtain ⟨found, -, hfound⟩ := bind_eq_ok_iff.1 h
  cases found with
  | none => cases hfound
  | some program =>
    cases hfound
    exact ⟨program, rfl⟩

/-- A located command is handed to the operating system as it was. -/
lemma direct_of_resolve {c located : Command} (direct : c.shell = false)
    (h : c.resolve m = .ok located) : located.shell = false := by
  obtain ⟨program, rfl⟩ := resolve_eq_ok h
  exact direct

/-- No shell runs a command that was prepared. -/
lemma direct_of_prepare [Platform] {r : CompileRequest} {c : Command} {g : Generation}
    (h : r.prepare m = .ok (c, g)) : c.shell = false := by
  obtain ⟨root, -, rfl⟩ := CompileRequest.exists_detected_of_prepare h
  rfl

lemma statFrom_eq_nullByte_iff (start : List String) (path : String) :
    m.statFrom start path = .error .nullByte ↔ nullCharacter ∈ path.toList := by
  unfold Machine.statFrom
  split
  · rename_i hnull
    simpa [nullCharacter] using hnull
  · rename_i hnull
    have hnot : nullCharacter ∉ path.toList := by simpa [nullCharacter] using hnull
    refine iff_of_false (fun h => ?_) hnot
    split at h
    · cases h
    split at h
    · cases h
    generalize (if Path.isAbsoluteText path = true then [] else start) = origin at h
    cases hnode : m.tree.node? origin with
    | none => simp [hnode] at h
    | some n =>
      simp only [hnode] at h
      split at h <;> cases h

lemma enter_eq_nullByte_iff (cwd : String) :
    m.enter cwd = .error .nullByte ↔ nullCharacter ∈ cwd.toList := by
  rw [← statFrom_eq_nullByte_iff (m := m) m.cwdNames, Machine.enter]
  split <;> simp_all

/-- A process is refused for a null character if one stands in its directory or in its words. -/
lemma start_eq_nullByte_iff (cwd program : String) (args : List String) :
    m.start cwd program args = .error .nullByte ↔
      ∃ text ∈ cwd :: program :: args, nullCharacter ∈ text.toList := by
  unfold Machine.start
  by_cases hwords : ((program :: args).any fun a => a.toList.contains (Char.ofNat 0)) = true
  · rw [if_pos hwords]
    obtain ⟨word, hword, hnull⟩ := List.any_eq_true.1 hwords
    exact iff_of_true rfl ⟨word, List.mem_cons_of_mem cwd hword, by
      simpa [nullCharacter] using hnull⟩
  · have hclean : ∀ word ∈ program :: args, nullCharacter ∉ word.toList := by
      simpa [nullCharacter] using hwords
    rw [if_neg hwords, List.exists_mem_cons_iff]
    have hnone : ¬ ∃ word ∈ program :: args, nullCharacter ∈ word.toList :=
      fun ⟨word, hword, hnull⟩ => hclean word hword hnull
    rw [← enter_eq_nullByte_iff, or_iff_left hnone]
    cases m.enter cwd with
    | error e => simp
    | ok names =>
      dsimp only
      split <;> simp

lemma startCommand_eq_nullByte_iff {c : Command} (direct : c.shell = false) :
    startCommand m c = .error .nullByte ↔
      ∃ text ∈ c.cwd.text :: c.words, nullCharacter ∈ text.toList := by
  rw [startCommand, direct, if_neg Bool.false_ne_true, start_eq_nullByte_iff, Command.words]

end Start

/-! ## A run that fails outside the pipeline -/

section Run

variable {m : Machine} {f : Fault} (hf : f.isPipeline = false)

include hf

lemma notStarted_ne_error (c : Command) (g : Generation) (e : SystemFault) :
    (notStarted c g e).result ≠ .error f := by
  unfold notStarted
  split
  · rintro ⟨⟩
  · rintro ⟨⟩
    cases hf

/-- A program that is absent or cannot be started is no fault outside the pipeline. -/
lemma runCommand_eq_error_iff [Platform] (r : CompileRequest) (c : Command) (g : Generation) :
    (runCommand m r c g).result = .error f ↔
      (m.expandHome? (.ofString c.program) = none ∧ f = c.homeFault) ∨
      ∃ located, c.resolve m = .ok located ∧
        ((startCommand m located = .error .nullByte ∧ f = .nullByte) ∨
          ∃ x, startCommand m located = .ok x ∧ supervise g r c x = .error f) := by
  unfold runCommand
  cases hresolve : c.resolve m with
  | error f' =>
    rcases resolve_eq_error hresolve with ⟨hhome, rfl⟩ | hfound
    · rcases homeFault_cases c with h | h <;> simp [hhome, h, eq_comm]
    · have hhome : m.expandHome? (.ofString c.program) ≠ none := by
        intro hnone
        rw [resolve_of_expandHome?_eq_none hnone] at hresolve
        cases hresolve
        rcases hfound with ⟨e, he⟩ | habsent <;> rcases homeFault_cases c with h | h <;> simp_all
      rcases hfound with ⟨e, rfl⟩ | rfl
      · simpa [hhome] using notStarted_ne_error hf c g e
      · simp [hhome, missing]
  | ok located =>
    have hhome : m.expandHome? (.ofString c.program) ≠ none := by
      intro hnone
      rw [resolve_of_expandHome?_eq_none hnone] at hresolve
      cases hresolve
    simp only [hhome, false_and, false_or, Except.ok.injEq, exists_eq_left']
    cases hstart : startCommand m located with
    | error e =>
      cases e with
      | system e => simpa using notStarted_ne_error hf c g e
      | nullByte => simp [eq_comm]
    | ok x => cases hx : supervise g r c x <;> simp [hx, Except.map]

/-- A process fails outside the pipeline if the first line of its report that cannot be read is
refused for its size. -/
lemma supervise_eq_report_iff [Platform] {g : Generation} {r : CompileRequest} {c : Command}
    {x : Execution} :
    supervise g r c x = .error f ↔
      limitReached r.config.timeout Platform.startupTime = false ∧
      ∃ before line after,
        linesRead (x.received r.config.timeout g.reportStream) (x.isCutOff r.config.timeout) =
          before ++ line :: after ∧
        (∀ l ∈ before, ∃ ds, readStreamLine (g.readLine r.file) streamLineLimit l = .ok ds) ∧
        readStreamLine (g.readLine r.file) streamLineLimit line = .error f ∧
        RefusedForSize (lineText line) f := by
  rw [supervise_eq_error_iff hf, mapM_eq_error_iff]
  refine and_congr_right fun _ => exists_congr fun before => exists_congr fun line =>
    exists_congr fun after => and_congr_right fun _ => and_congr_right fun _ =>
    ⟨fun hline => ⟨hline, ?_⟩, And.left⟩
  unfold readStreamLine at hline
  split at hline
  · cases hline
    cases hf
  · rcases readLine_error hline with ⟨cause, rfl⟩ | hrefused
    · cases hf
    · exact hrefused

end Run

/-! ## What escapes -/

/-- What can go wrong with the save of a file and is no fault of the pipeline. -/
inductive Escapes [Platform] (m : Machine) (p : Publisher) (location : String) : Fault → Prop where
  /-- The project is looked for where a path is too long to be asked about. -/
  | lookup (path : String)
      (fails : projectRoot? m (.ofString location) = .error (.system ⟨.nameTooLong, path⟩)) :
      Escapes m p location (.system ⟨.nameTooLong, path⟩)
  /-- The project has an old manifest only, which is nested too deeply or asks for a version with
  too many digits. -/
  | manifest (root : Path) (f : Fault)
      (found : projectRoot? m (.ofString location) = .ok (some root))
      (old : m.isFile (root.child manifestName) = .ok false)
      (fails : generationOfManifest m (root.child oldManifestName) = .error f) :
      Escapes m p location f
  /-- The compiler is given by a tilde that names no account. -/
  | home (c : Command) (g : Generation)
      (prepared : (p.request m location).prepare m = .ok (c, g))
      (unknown : m.expandHome? (.ofString c.program) = none) :
      Escapes m p location c.homeFault
  /-- A null character stands in the directory or in a word of the command. -/
  | null (c located : Command) (g : Generation) (text : String)
      (prepared : (p.request m location).prepare m = .ok (c, g))
      (found : c.resolve m = .ok located)
      (mem : text ∈ located.cwd.text :: located.words) (holds : nullCharacter ∈ text.toList) :
      Escapes m p location .nullByte
  /-- The first line of the report that cannot be read is refused for its size. -/
  | report (c located : Command) (g : Generation) (x : Execution) (before : List Octets)
      (line : Octets) (after : List Octets) (f : Fault)
      (prepared : (p.request m location).prepare m = .ok (c, g))
      (found : c.resolve m = .ok located) (started : startCommand m located = .ok x)
      (inTime : limitReached p.config.timeout Platform.startupTime = false)
      (lines : linesRead (x.received p.config.timeout g.reportStream)
        (x.isCutOff p.config.timeout) = before ++ line :: after)
      (read : ∀ l ∈ before,
        ∃ ds, readStreamLine (g.readLine location) streamLineLimit l = .ok ds)
      (unread : readStreamLine (g.readLine location) streamLineLimit line = .error f)
      (refused : RefusedForSize (lineText line) f) :
      Escapes m p location f

section Escapes

variable {m : Machine} {p : Publisher} {location : String} {f : Fault}

/-- None of it belongs to the pipeline. -/
theorem Escapes.isPipeline_eq_false [Platform] (h : Escapes m p location f) :
    f.isPipeline = false := by
  cases h with
  | lookup | null => rfl
  | home c => rcases homeFault_cases c with h | h <;> rw [h] <;> rfl
  | manifest root f found old fails =>
    rcases generationOfManifest_eq_error fails with rfl | ⟨digits, rfl⟩ <;> rfl
  | report c located g x before line after f prepared found started inTime lines read unread
      refused =>
    rcases refused with ⟨rfl, -⟩ | ⟨digits, rfl, -⟩ <;> rfl

variable (normal : Path.absText m.cwd location = location)
  (absolute : Path.isAbsoluteText location = true)

include normal absolute

lemma prepare_eq_error_iff [Platform] :
    (p.request m location).prepare m = .error f ↔
      projectRoot? m (.ofString location) = .error f ∨
        ∃ root, projectRoot? m (.ofString location) = .ok (some root) ∧
          m.isFile (root.child manifestName) = .ok false ∧
          generationOfManifest m (root.child oldManifestName) = .error f := by
  rw [← Path.isAbsolute_ofString] at absolute
  rw [prepare_request normal, map_eq_error_iff,
    detectProject_eq_error_iff absolute (p.workspace.map Path.ofString)]

/-- What escapes ends the run. -/
lemma Escapes.outcome [Platform] (h : Escapes m p location f) :
    (p.outcome m location).result = .error f := by
  have hf := h.isPipeline_eq_false
  have hfile : (p.request m location).file = location := normal
  cases h with
  | lookup path fails =>
    rw [Publisher.outcome, run, (prepare_eq_error_iff normal absolute).2 (.inl fails)]
  | manifest root f found old fails =>
    rw [Publisher.outcome, run,
      (prepare_eq_error_iff normal absolute).2 (.inr ⟨root, found, old, fails⟩)]
  | home c g prepared unknown =>
    rw [Publisher.outcome, run, prepared]
    exact (runCommand_eq_error_iff hf _ c g).2 (.inl ⟨unknown, rfl⟩)
  | null c located g text prepared found mem holds =>
    have direct := direct_of_resolve (direct_of_prepare prepared) found
    have hnull : startCommand m located = .error .nullByte :=
      (startCommand_eq_nullByte_iff direct).2 ⟨text, mem, holds⟩
    rw [Publisher.outcome, run, prepared]
    exact (runCommand_eq_error_iff hf _ c g).2 (.inr ⟨located, found, .inl ⟨hnull, rfl⟩⟩)
  | report c located g x before line after f prepared found started inTime lines read unread
      refused =>
    have hreport : supervise g (p.request m location) c x = .error f := by
      rw [supervise_eq_report_iff hf, hfile]
      exact ⟨inTime, before, line, after, lines, read, unread, refused⟩
    rw [Publisher.outcome, run, prepared]
    exact (runCommand_eq_error_iff hf _ c g).2 (.inr ⟨located, found, .inr ⟨x, started, hreport⟩⟩)

/-- A run fails outside the pipeline exactly with what escapes. -/
theorem outcome_eq_error_iff [Platform] :
    ((p.outcome m location).result = .error f ∧ f.isPipeline = false) ↔
      Escapes m p location f := by
  refine ⟨?_, fun h => ⟨h.outcome normal absolute, h.isPipeline_eq_false⟩⟩
  rintro ⟨hfails, hf⟩
  have hfile : (p.request m location).file = location := normal
  rw [Publisher.outcome, run] at hfails
  cases hprepare : (p.request m location).prepare m with
  | error f' =>
    rw [hprepare] at hfails
    cases hfails
    rcases (prepare_eq_error_iff normal absolute).1 hprepare with
      hlookup | ⟨root, found, old, fails⟩
    · rw [← Path.isAbsolute_ofString] at absolute
      obtain ⟨path, rfl⟩ := projectRoot?_eq_error absolute hlookup
      exact .lookup path hlookup
    · exact .manifest root f found old fails
  | ok prepared =>
    obtain ⟨c, g⟩ := prepared
    rw [hprepare] at hfails
    rcases (runCommand_eq_error_iff hf _ c g).1 hfails with
      ⟨hhome, rfl⟩ | ⟨located, hfound, ⟨hnull, rfl⟩ | ⟨x, hstart, hx⟩⟩
    · exact .home c g hprepare hhome
    · have direct := direct_of_resolve (direct_of_prepare hprepare) hfound
      obtain ⟨text, hmem, hholds⟩ := (startCommand_eq_nullByte_iff direct).1 hnull
      exact .null c located g text hprepare hfound hmem hholds
    · rw [supervise_eq_report_iff hf, hfile] at hx
      obtain ⟨inTime, before, line, after, lines, read, unread, refused⟩ := hx
      exact .report c located g x before line after f hprepare hfound hstart inTime lines read
        unread refused

end Escapes

/-! ## The save -/

/-- A report that tells what became of a save. -/
structure Accounts [Platform] (m : Machine) (p : Publisher) (d : SavedDocument)
    (report : PublishReport) :
    Prop where
  document : report.document = Path.absText m.cwd d.path
  skipped : report.skipped = !p.handles d
  stale : report.stale = false
  /-- Every failure of the run is in the report, and nothing else is. -/
  error : ∀ f, report.error = some f ↔
    p.handles d = true ∧ (p.outcome m (Path.absText m.cwd d.path)).result = .error f
  /-- A run that failed is published for no file. -/
  files : report.error.isSome = true → report.compilerFiles = []

section Save

variable {m : Machine} {p : Publisher} {d : SavedDocument}

/-- A report on a save that was skipped. -/
lemma accounts_of_not_handles [Platform] (handled : p.handles d = false) :
    Accounts m p d { PublishReport.initial (Path.absText m.cwd d.path) with skipped := true } where
  document := rfl
  skipped := by rw [handled]; rfl
  stale := rfl
  error f := by simp [handled, PublishReport.initial]
  files := fun _ => rfl

variable (handled : p.handles d = true)

include handled

/-- A report on a run that found something. -/
lemma accounts_of_returned [Platform] {r : RunResult} (root : Option String)
    (returned : (p.outcome m (Path.absText m.cwd d.path)).result = .ok r)
    (files : List (String × Nat)) :
    Accounts m p d { (p.beginRun (Path.absText m.cwd d.path) root).2.report with
      compilerMissing := r.compilerMissing
      compilerFiles := files } where
  document := rfl
  skipped := by rw [handled]; rfl
  stale := rfl
  error f := by
    rw [returned]
    exact iff_of_false nofun fun h => nomatch h.2
  files := nofun

/-- A report on a run that failed. -/
lemma accounts_of_failed [Platform] {f : Fault} (root : Option String)
    (failed : (p.outcome m (Path.absText m.cwd d.path)).result = .error f) :
    Accounts m p d { (p.beginRun (Path.absText m.cwd d.path) root).2.report with
      error := some f } where
  document := rfl
  skipped := by rw [handled]; rfl
  stale := rfl
  error f' := by
    rw [failed]
    simp [handled]
  files := fun _ => rfl

variable (cwd : Path.isAbsoluteText m.cwd = true)

include cwd

/-- A save that is handled comes to a report, or it raises what escapes. -/
lemma end_of_save_cases [Platform] :
    (∃ report, (p.save m d).2.1 = .reported report ∧ Accounts m p d report ∧
        ∀ f, ¬ Escapes m p (Path.absText m.cwd d.path) f) ∨
      ∃ f, (p.save m d).2.1 = .raised f ∧ Escapes m p (Path.absText m.cwd d.path) f := by
  have normal := Path.absText_absText cwd d.path
  have absolute := Path.isAbsoluteText_absText cwd d.path
  cases hlookup : projectRoot? m (.ofString (Path.absText m.cwd d.path)) with
  | error f =>
    refine .inr ⟨f, by rw [Publisher.save_of_error handled (analyzerRoot_of_error hlookup)], ?_⟩
    rw [← Path.isAbsolute_ofString] at absolute
    obtain ⟨path, rfl⟩ := projectRoot?_eq_error absolute hlookup
    exact .lookup path hlookup
  | ok found =>
    have hend := Publisher.end_of_save handled (analyzerRoot_of_lookup hlookup)
    cases hresult : (p.outcome m (Path.absText m.cwd d.path)).result with
    | ok r =>
      simp only [hresult] at hend
      refine .inl ⟨_, hend, accounts_of_returned handled _ hresult _, fun f hf => ?_⟩
      rw [hf.outcome normal absolute] at hresult
      cases hresult
    | error f =>
      simp only [hresult] at hend
      cases hpipeline : f.isPipeline with
      | true =>
        rw [if_pos hpipeline] at hend
        refine .inl ⟨_, hend, accounts_of_failed handled _ hresult, fun f' hf' => ?_⟩
        rw [hf'.outcome normal absolute] at hresult
        cases hresult
        rw [hf'.isPipeline_eq_false] at hpipeline
        cases hpipeline
      | false =>
        rw [hpipeline, if_neg Bool.false_ne_true] at hend
        exact .inr ⟨f, hend, (outcome_eq_error_iff normal absolute).1 ⟨hresult, hpipeline⟩⟩

/-- Nothing else can be raised where something escapes. -/
lemma end_of_save_of_escapes [Platform] {f : Fault}
    (h : Escapes m p (Path.absText m.cwd d.path) f) :
    (p.save m d).2.1 = .raised f := by
  have normal := Path.absText_absText cwd d.path
  have absolute := Path.isAbsoluteText_absText cwd d.path
  rcases end_of_save_cases handled cwd with ⟨-, -, -, hnone⟩ | ⟨f', hend, hf'⟩
  · exact absurd h (hnone f)
  · have heq := (hf'.outcome normal absolute).symm.trans (h.outcome normal absolute)
    rw [hend, Except.error.inj heq]

omit cwd in
/-- A save whose run has started leaves no run of its file in flight. -/
lemma running_save [Platform] :
    match projectRoot? m (.ofString (Path.absText m.cwd d.path)) with
    | .error _ => (p.save m d).1.running = p.running
    | .ok _ => (p.save m d).1.running.get? (Path.absText m.cwd d.path) = none := by
  cases hlookup : projectRoot? m (.ofString (Path.absText m.cwd d.path)) with
  | error f =>
    rw [Publisher.save_of_error handled (analyzerRoot_of_error hlookup)]
    rfl
  | ok found =>
    rw [Publisher.save_of_root handled (analyzerRoot_of_lookup hlookup)]
    simp only [Publisher.get?_running_endRun_beginRun, if_true]

end Save

/-- **What leaves a save.**  The save of a document that is handled raises exactly what `Escapes`
lists.  If there is nothing of that kind, a report is returned which tells whatever went wrong with
the run.  In either case the file has no run in flight afterwards, except where its project could
not be looked up: then no run has started, and those in flight before still are.

The working directory must be there, for without it no relative path can be made absolute.  The
files are those a superuser sees: nobody is kept from asking about a path or from reading a file. -/
theorem save_raised_iff_escapes [Platform] {m : Machine} (working : m.HasWorkingDirectory)
    (p : Publisher) (d : SavedDocument) :
    let location := Path.absText m.cwd d.path
    let saved := p.save m d
    (∀ f, saved.2.1 = .raised f ↔ p.handles d = true ∧ Escapes m p location f) ∧
    ((∀ f, ¬ (p.handles d = true ∧ Escapes m p location f)) →
      ∃ report, saved.2.1 = .reported report ∧ Accounts m p d report) ∧
    (p.handles d = true → match projectRoot? m (.ofString location) with
      | .error _ => saved.1.running = p.running
      | .ok _ => saved.1.running.get? location = none) := by
  intro location saved
  have cwd := working.absolute
  cases handled : p.handles d with
  | false =>
    have hsaved : saved.2.1 = _ := congrArg (·.2.1) (Publisher.save_of_not_handles m handled)
    exact ⟨fun f => iff_of_false (by simp [hsaved]) (by simp),
      fun _ => ⟨_, hsaved, accounts_of_not_handles handled⟩, nofun⟩
  | true =>
    refine ⟨fun f => ⟨fun hraised => ⟨rfl, ?_⟩, fun h => end_of_save_of_escapes handled cwd h.2⟩,
      fun hnone => ?_, fun _ => running_save handled⟩
    · rcases end_of_save_cases handled cwd with ⟨report, hend, -, -⟩ | ⟨f', hend, hf'⟩
      · rw [hend] at hraised
        cases hraised
      · rw [hend] at hraised
        cases hraised
        exact hf'
    · rcases end_of_save_cases handled cwd with ⟨report, hend, haccounts, -⟩ | ⟨f, -, hf⟩
      · exact ⟨report, hend, haccounts⟩
      · exact absurd ⟨rfl, hf⟩ (hnone f)

/-! ## A home nobody has -/

/-- A machine without files, variables and accounts. -/
def bareMachine : Machine :=
  ⟨⟨[]⟩, "/", [], []⟩

/-- A publisher whose compiler goes by the name. -/
def compilingWith (compiler : String) : Publisher :=
  .initial { Config.standard with compiler } ⟨[]⟩ none "compiler" "analyzer"

/-- Whether a save ended with a report. -/
def SaveEnd.isReported : SaveEnd → Bool
  | .reported _ => true
  | _ => false

/-- A tilde without an account leaves the save, and a compiler that is missing does not. -/
theorem unknown_home_escapes :
    let document : SavedDocument := ⟨"/Main.elm", "elm", "file"⟩
    bareMachine.HasWorkingDirectory ∧
      ((compilingWith "~nobody/elm").save bareMachine document).2.1 = .raised .unknownHome ∧
      ∃ report, ((compilingWith "elm").save bareMachine document).2.1 = .reported report ∧
        Accounts bareMachine (compilingWith "elm") document report := by
  intro document
  have working : bareMachine.HasWorkingDirectory := Machine.hasWorkingDirectory_of_cwd_eq rfl
  refine ⟨working, ?_, ?_⟩
  · refine ((save_raised_iff_escapes working (compilingWith "~nobody/elm") document).1 _).2
      ⟨by decide +kernel, ?_⟩
    let command := Generation.reportDocuments.command "/Main.elm" ⟨.root, []⟩ false
      { Config.standard with compiler := "~nobody/elm" } false
    have hhome : command.homeFault = .unknownHome := by decide +kernel
    rw [← hhome]
    exact .home command .reportDocuments (by decide +kernel) (by decide +kernel)
  · obtain ⟨hraised, hreported, -⟩ :=
      save_raised_iff_escapes working (compilingWith "elm") document
    refine hreported fun f hf => ?_
    have hend : ((compilingWith "elm").save bareMachine document).2.1.isReported = true := by
      decide +kernel
    rw [(hraised f).2 hf] at hend
    cases hend

/-- Not every save that is handled comes to a report. -/
theorem not_forall_save_reported :
    ¬ ∀ (m : Machine) (p : Publisher) (d : SavedDocument), m.HasWorkingDirectory →
      p.handles d = true → ∃ report, (p.save m d).2.1 = .reported report := by
  intro h
  obtain ⟨report, hreport⟩ := h bareMachine (compilingWith "~nobody/elm")
    ⟨"/Main.elm", "elm", "file"⟩ (Machine.hasWorkingDirectory_of_cwd_eq rfl) (by decide +kernel)
  have hend : ((compilingWith "~nobody/elm").save bareMachine
      ⟨"/Main.elm", "elm", "file"⟩).2.1.isReported = false := by decide +kernel
  rw [hreport] at hend
  cases hend

end ElmOnSave
