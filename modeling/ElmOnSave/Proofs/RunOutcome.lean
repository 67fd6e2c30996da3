import ElmOnSave.Proofs.Intake

/-!
# What a finished run resolves to

`outcomeOf` says what a run of the compiler comes to in terms of the whole of what the compiler
wrote: the report stream read line by line, and for generation 0.18 the failure of the whole project
if anything was written beside it.  The exit status of the compiler has no part in it.

`run_agrees_outcomeOf` is the result.  It holds of `CompilerRun.run` without a time limit, and of
every course in which the output can arrive (`Delivers`): such a course resolves the run to the same
outcome, and a run that is resolved before all has arrived is resolved for good.
-/

namespace ElmOnSave

open CompilerOutput

/-- The diagnostic for what was written to a stream that should stay empty. -/
def wholeProject (target : String) (octets : Octets) : Diagnostic where
  tag := "error"
  overview := ""
  subregion := ""
  details := String.ofList (Utf8.decodeLossy octets)
  region := ⟨⟨1, 1⟩, ⟨1, 1⟩⟩
  type := "error"
  file := target

/-- What a run comes to, by what the compiler wrote. -/
def outcomeOf [Platform] (g : Generation) (target : String) (stdout stderr : Octets) :
    Except Fault (List Diagnostic) :=
  match g with
  | .issueArrays => (readStream (g.readLine target) streamLineLimit stdout).map fun ds =>
      if stderr = [] then ds else [wholeProject target stderr]
  | .reportDocuments => readStream (g.readLine target) streamLineLimit stderr

/-- A course in which the compiler writes to its two streams and exits. -/
structure Delivers (arrivals : List Arrival) (stdout stderr : Octets) : Prop where
  stdout : (chunksOf .stdout arrivals).flatten = stdout
  stderr : (chunksOf .stderr arrivals).flatten = stderr
  order : ∀ stream, InOrder stream arrivals
  closed : ∀ stream, .closed stream ∈ arrivals
  exited : ∃ status, .exited status ∈ arrivals

lemma Agree.map {α β : Type} {x y : Except Fault α} (h : Agree x y) (f : α → β) :
    Agree (x.map f) (y.map f) := by
  cases h with
  | same => exact .same _
  | lineTooLong a b => exact .lineTooLong a b

lemma Agree.eq_ok {α : Type} {x : Except Fault α} {a : α} (h : Agree x (.ok a)) : x = .ok a := by
  cases h
  rfl

section Conclude

variable (target : String) (report other : List Octets)

/-- Generation 0.18 yields what was read, or the failure of the whole project in its place. -/
lemma conclude_issueArrays [Platform] :
    CompilerRun.conclude .issueArrays target report other =
      (collectChunks .issueArrays target streamLineLimit report true).toExcept.map fun ds =>
        if other.flatten = [] then ds else [wholeProject target other.flatten] := by
  have hfailure : projectFailure? .issueArrays target other =
      if other.flatten = [] then none else some (wholeProject target other.flatten) := by
    rw [projectFailure?]
    cases other.flatten <;> rfl
  rw [CompilerRun.conclude, Collected.toExcept, hfailure]
  cases (collectChunks .issueArrays target streamLineLimit report true).fault with
  | some f => rfl
  | none =>
    by_cases hempty : other.flatten = []
    · simp only [hempty, if_true]
      rfl
    · simp only [hempty, if_false]
      rfl

/-- Generation 0.19 yields what was read. -/
lemma conclude_reportDocuments [Platform] :
    CompilerRun.conclude .reportDocuments target report other =
      (collectChunks .reportDocuments target streamLineLimit report true).toExcept := by
  rw [CompilerRun.conclude, Collected.toExcept]
  cases (collectChunks .reportDocuments target streamLineLimit report true).fault <;> rfl

end Conclude

/-- However the streams are cut into chunks, what a process yields is the outcome of what it
wrote. -/
lemma conclude_agrees [Platform] (g : Generation) (target : String)
    (chunks : OutputStream → List Octets) :
    Agree (CompilerRun.conclude g target (chunks g.reportStream) (chunks g.reportStream.other))
      (outcomeOf g target (chunks .stdout).flatten (chunks .stderr).flatten) := by
  have hread := collectChunks_agrees g target streamLineLimit (chunks g.reportStream)
  cases g with
  | issueArrays =>
    rw [conclude_issueArrays]
    exact hread.map _
  | reportDocuments =>
    rw [conclude_reportDocuments]
    exact hread

/-- No pause reaches a limit that there is not. -/
lemma pauseAtLimit?_none (time : Binary64) (ps : List Pause) :
    CompilerRun.pauseAtLimit? none time ps = none := by
  induction ps generalizing time with
  | nil => rfl
  | cons p ps ih => exact ih (time.add p.seconds)

lemma supervise_of_no_limit [Platform] {r : CompileRequest} (unlimited : r.config.timeout = none)
    (g : Generation) (c : Command) (x : Execution) :
    CompilerRun.supervise g r c x =
      CompilerRun.conclude g r.file [x.stream g.reportStream] [x.stream g.reportStream.other] := by
  have hpauses : x.cutOff? none = none := pauseAtLimit?_none _ x.pauses
  rw [CompilerRun.supervise, unlimited]
  simp only [Execution.received, Execution.isCutOff, hpauses]
  rfl

/-- **What a finished run resolves to.**  Whatever the compiler writes, in whatever chunks and order
it arrives and whatever the exit status is, a run without a time limit comes to the same outcome:
for generation 0.18 the first failure of the lines of standard output, else the failure of the
whole project if anything was written to standard error, else the diagnostics of the lines; for
generation 0.19 what the lines of standard error come to.  A run that is resolved before all has
arrived is resolved to that outcome. -/
theorem run_agrees_outcomeOf [Platform] (g : Generation) (target : String)
    (stdout stderr : Octets) :
    (∀ arrivals, Delivers arrivals stdout stderr →
      ∃ r, Agree r (outcomeOf g target stdout stderr) ∧
        (Intake.after g target arrivals).resolution g target = some r ∧
        ∀ before later r', arrivals = before ++ later →
          (Intake.after g target before).resolution g target = some r' → r' = r) ∧
    ∀ (m : Machine) (r : CompileRequest) (c located : Command) (x : Execution),
      r.config.timeout = none → r.prepare m = .ok (c, g) → c.resolve m = .ok located →
      CompilerRun.startCommand m located = .ok x → r.file = target → x.stdout = stdout →
      x.stderr = stderr →
      Agree (CompilerRun.run m r).result
        ((outcomeOf g target stdout stderr).map fun ds => ⟨ds, c.cwd, g, c, false⟩) := by
  refine ⟨fun arrivals delivers => ?_, ?_⟩
  · have hresolved := Intake.resolution_of_complete g target delivers.order delivers.closed
      delivers.exited
    have hagrees := conclude_agrees g target fun stream => chunksOf stream arrivals
    rw [delivers.stdout, delivers.stderr] at hagrees
    refine ⟨_, hagrees, hresolved, ?_⟩
    rintro before later r' rfl hearly
    have hlate := Intake.resolution_after hearly later
    rw [hresolved] at hlate
    exact (Option.some.inj hlate).symm
  · rintro m r c located x unlimited prepared hresolve hstart rfl rfl rfl
    have hagrees := conclude_agrees g r.file fun stream => [x.stream stream]
    simp only [List.flatten_singleton] at hagrees
    simp only [CompilerRun.run, prepared, CompilerRun.runCommand, hresolve, hstart,
      supervise_of_no_limit unlimited]
    exact hagrees.map _

/-! ## A failure that arrives in two pieces -/

/-- A machine whose compiler of generation 0.18 reports no issue, writes one character to standard
error and fails. -/
def failingCompiler : Machine :=
  ⟨⟨[(["p"], .directory), (["p", "elm-package.json"], .file [] 420 none), (["bin"], .directory),
    (["bin", "elm-make"], .file [] 493 (some (.fixed ⟨[91, 93, 10], [0xC3, 0xA9], none, 1⟩)))]⟩,
    "/", [("PATH", "/bin")], []⟩

/-- The two octets of the character arrive apart, with everything else between them. -/
def cutCharacter : List Arrival :=
  [.chunk .stderr [0xC3], .chunk .stdout [91, 93, 10], .closed .stdout, .exited (.code 1),
    .chunk .stderr [0xA9], .closed .stderr]

/-- A character that is cut in two is decoded as one. -/
theorem cut_character_is_decoded :
    let target := "/p/Main.elm"
    let request := CompileRequest.ofFile failingCompiler target none .standard
    let failure := wholeProject target [0xC3, 0xA9]
    failure.details = "é" ∧ Delivers cutCharacter [91, 93, 10] [0xC3, 0xA9] ∧
      (Intake.after .issueArrays target cutCharacter).resolution .issueArrays target =
        some (.ok [failure]) ∧
      ∃ result, (CompilerRun.run failingCompiler request).result = .ok result ∧
        result.diagnostics = [failure] := by
  intro target request failure
  have delivers : Delivers cutCharacter [91, 93, 10] [0xC3, 0xA9] := by
    refine ⟨by decide +kernel, by decide +kernel, ?_, ?_, .code 1, by decide +kernel⟩
    · rintro (_ | _) <;> decide +kernel
    · rintro (_ | _) <;> decide +kernel
  have houtcome : outcomeOf .issueArrays target [91, 93, 10] [0xC3, 0xA9] = .ok [failure] := by
    decide +kernel
  have hagrees := run_agrees_outcomeOf .issueArrays target [91, 93, 10] [0xC3, 0xA9]
  rw [houtcome] at hagrees
  obtain ⟨harrivals, hrun⟩ := hagrees
  refine ⟨by decide +kernel, delivers, ?_, ?_⟩
  · obtain ⟨r, hr, hresolved, -⟩ := harrivals cutCharacter delivers
    rw [hresolved, hr.eq_ok]
  · let command := Generation.issueArrays.command target ⟨.root, ["p"]⟩ false .standard false
    let located : Command := { command with program := "/bin/elm-make" }
    have prepared : request.prepare failingCompiler = .ok (command, .issueArrays) := by
      decide +kernel
    have hlocated : command.resolve failingCompiler = .ok located := by decide +kernel
    have hstart : (CompilerRun.startCommand failingCompiler located).toOption.map
        (fun x => (x.stdout, x.stderr)) = some ([91, 93, 10], [0xC3, 0xA9]) := by decide +kernel
    cases hx : CompilerRun.startCommand failingCompiler located with
    | error f =>
      rw [hx] at hstart
      cases hstart
    | ok x =>
      rw [hx] at hstart
      obtain ⟨hstdout, hstderr⟩ := Prod.mk.inj (Option.some.inj hstart)
      have hresult := hrun failingCompiler request command located x rfl prepared hlocated hx
        (by decide +kernel) hstdout hstderr
      exact ⟨_, hresult.eq_ok, rfl⟩

end ElmOnSave
