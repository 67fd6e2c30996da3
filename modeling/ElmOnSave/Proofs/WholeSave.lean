import ElmOnSave.Proofs.SessionStep

/-!
# A save from its beginning to its end

When nothing happens between the two moments of a save, the save is `Publisher.save`.  It is skipped
(`save_of_not_handles`), is over before its run starts (`save_of_error`), or begins a run and ends
it with the outcome of the compiler (`save_of_root`, `end_of_save`).  No other save has overtaken
such a run (`overtaken_beginRun`): it is not discarded, and whatever became of it the file has no
entry in `Publisher.running` afterwards (`get?_running_endRun_beginRun`).
-/

namespace ElmOnSave

/-- How a run ends that has the outcome. -/
def RunOutcome.ending (o : RunOutcome) : RunEnd :=
  match o.result with
  | .ok r => .returned r
  | .error f => .failed f

namespace Publisher

variable {m : Machine} {p : Publisher} {d : SavedDocument}

/-- The outcome of the run of the compiler for a saved file. -/
def outcome [Platform] (m : Machine) (p : Publisher) (location : String) : RunOutcome :=
  CompilerRun.run m (p.request m location)

theorem save_of_not_handles [Platform] (m : Machine) (h : p.handles d = false) :
    p.save m d = (p, .reported { PublishReport.initial (Path.absText m.cwd d.path) with
      skipped := true }, [], []) := by
  simp only [save, beginSave_of_not_handles m h]

theorem save_of_error [Platform] {f : Fault} (h : p.handles d = true)
    (hroot : p.analyzerRoot m (Path.absText m.cwd d.path) = .error f) :
    p.save m d = (p.clearFile (Path.absText m.cwd d.path), .raised f, [], []) := by
  simp only [save, beginSave_of_error h hroot]

/-- A save whose run has begun ends it with the outcome of the compiler. -/
lemma save_of_waiting [Platform] {q : Publisher} {run : PendingRun}
    (h : p.beginSave m d = (q, .waiting run)) :
    p.save m d =
      ((q.endRun run (q.outcome m run.location).ending).1,
        (q.endRun run (q.outcome m run.location).ending).2,
        (q.outcome m run.location).notices, (q.outcome m run.location).runs) := by
  simp only [save, h]
  rfl

lemma outcome_beginRun [Platform] (m : Machine) (p : Publisher) (location file : String)
    (root : Option String) : (p.beginRun location root).1.outcome m file = p.outcome m file := rfl

theorem save_of_root [Platform] {root : Option String} (h : p.handles d = true)
    (hroot : p.analyzerRoot m (Path.absText m.cwd d.path) = .ok root) :
    let location := Path.absText m.cwd d.path
    let begun := p.beginRun location root
    let o := p.outcome m location
    p.save m d =
      ((begun.1.endRun begun.2 o.ending).1, (begun.1.endRun begun.2 o.ending).2, o.notices,
        o.runs) := by
  rw [save_of_waiting (beginSave_of_root h hroot), outcome_beginRun, beginRun_location]

section BeginRun

variable (p) (location : String) (root : Option String)

/-- A run that has just begun is not overtaken. -/
@[simp] lemma overtaken_beginRun :
    (p.beginRun location root).1.overtaken (p.beginRun location root).2 = false := by
  simp [overtaken, Register.get?_put]

lemma not_discards_beginRun :
    ¬ (p.beginRun location root).1.discards (p.beginRun location root).2 := by
  simp [discards]

/-- The end of the run gives the file's entry up. -/
lemma get?_running_endRun_beginRun (how : RunEnd) (file : String) :
    ((p.beginRun location root).1.endRun (p.beginRun location root).2 how).1.running.get? file =
      if location = file then none else p.running.get? file := by
  rw [endRun_running, get?_running_release]
  simp only [beginRun_running, beginRun_location, beginRun_token, Register.get?_put]
  split <;> simp_all

end BeginRun

/-- A run that fails is reported, or its fault leaves the save. -/
lemma endRun_failed (p : Publisher) (run : PendingRun) (f : Fault) :
    p.endRun run (.failed f) =
      (p.release run,
        if f.isPipeline then .reported { run.report with error := some f } else .raised f) := by
  simp only [endRun]
  split <;> rfl

/-- What becomes of a save is what its run came to. -/
theorem end_of_save [Platform] {root : Option String} (h : p.handles d = true)
    (hroot : p.analyzerRoot m (Path.absText m.cwd d.path) = .ok root) :
    let location := Path.absText m.cwd d.path
    let report := (p.beginRun location root).2.report
    (p.save m d).2.1 = match (p.outcome m location).result with
      | .ok r => .reported { report with
          compilerMissing := r.compilerMissing
          compilerFiles := groupSizes (groupByFile r.diagnostics (some r.projectRoot.text)) }
      | .error f =>
        if f.isPipeline then .reported { report with error := some f } else .raised f := by
  intro location report
  rw [save_of_root h hroot]
  cases hresult : (p.outcome m location).result with
  | ok r =>
    have hending : (p.outcome m location).ending = .returned r := by
      rw [RunOutcome.ending, hresult]
    simp only [location, hending,
      endRun_returned_of_not_discards _ _ (not_discards_beginRun p _ root)]
    rfl
  | error f =>
    have hending : (p.outcome m location).ending = .failed f := by
      rw [RunOutcome.ending, hresult]
    simp only [location, hending, endRun_failed]
    rfl

end Publisher

end ElmOnSave
