import ElmOnSave.Proofs.Grouping
import ElmOnSave.Session.History

/-!
# What an event can do to a session

`Session.Step s o t` lists once, with the whole state that follows, what an event can come to: a
save is skipped, is over before its run starts, or leaves a run waiting; a run in flight ends; the
analyzer changes its list; or a run was to end that is not in flight.  `step_next` says that the
session does exactly this, and `history_induction` carries a relation between histories and
sessions along every course of events.  Later modules argue by cases on `Step` and open neither
`beginSave` nor `endRun`.

The two moments of a save are described before that, by equations for each field of the publisher:
`beginRun` is the state in which a save that is handled leaves its run waiting, and `discards` says
when a run that returns is thrown away.
-/

namespace ElmOnSave

namespace Publisher

/-! ## The beginning of a save -/

/-- A save of a file whose root is known: the file is cleared, the analyzer's issues are published
and a run starts. -/
def beginRun (p : Publisher) (location : String) (root : Option String) : Publisher × PendingRun :=
  let published := (p.clearFile location).publishAnalyzer root
  published.1.startRun location { PublishReport.initial location with analyzerFiles := published.2 }

lemma analyzerRoot_clearFile (m : Machine) (p : Publisher) (location file : String) :
    (p.clearFile file).analyzerRoot m location = p.analyzerRoot m location := rfl

/-- A save that is not to be handled is skipped. -/
theorem beginSave_of_not_handles {p : Publisher} {d : SavedDocument} (m : Machine)
    (h : p.handles d = false) :
    p.beginSave m d =
      (p, .skipped { PublishReport.initial (Path.absText m.cwd d.path) with skipped := true }) := by
  simp [beginSave, h]

/-- A save whose project cannot be looked up clears its file and is over. -/
theorem beginSave_of_error {p : Publisher} {d : SavedDocument} {m : Machine} {f : Fault}
    (h : p.handles d = true) (hroot : p.analyzerRoot m (Path.absText m.cwd d.path) = .error f) :
    p.beginSave m d = (p.clearFile (Path.absText m.cwd d.path), .raised f) := by
  simp [beginSave, h, analyzerRoot_clearFile, hroot]

/-- Every other save starts a run. -/
theorem beginSave_of_root {p : Publisher} {d : SavedDocument} {m : Machine} {root : Option String}
    (h : p.handles d = true) (hroot : p.analyzerRoot m (Path.absText m.cwd d.path) = .ok root) :
    p.beginSave m d =
      ((p.beginRun (Path.absText m.cwd d.path) root).1,
        .waiting (p.beginRun (Path.absText m.cwd d.path) root).2) := by
  simp [beginSave, h, analyzerRoot_clearFile, hroot, beginRun]

section BeginRun

variable (p : Publisher) (location : String) (root : Option String)

@[simp] lemma beginRun_config : (p.beginRun location root).1.config = p.config := rfl

@[simp] lemma beginRun_analyzer : (p.beginRun location root).1.analyzer = p.analyzer := rfl

@[simp] lemma beginRun_compilerShown :
    (p.beginRun location root).1.compilerShown = p.compilerShown.set location [] := rfl

@[simp] lemma beginRun_analyzerFiles :
    (p.beginRun location root).1.analyzerFiles = (groupByFile p.analyzer.issues root).keys := rfl

@[simp] lemma beginRun_nextToken :
    (p.beginRun location root).1.nextToken = p.nextToken + 1 := rfl

@[simp] lemma beginRun_running :
    (p.beginRun location root).1.running = p.running.put location p.nextToken := rfl

@[simp] lemma beginRun_location : (p.beginRun location root).2.location = location := rfl

@[simp] lemma beginRun_token : (p.beginRun location root).2.token = p.nextToken := rfl

@[simp] lemma beginRun_stale : (p.beginRun location root).2.report.stale = false := rfl

lemma beginRun_analyzerFiles_report :
    (p.beginRun location root).2.report.analyzerFiles =
      groupSizes (groupByFile p.analyzer.issues root) := rfl

end BeginRun

/-! ## The end of a run -/

/-- Whether a run that returns is thrown away: it was overtaken, and only the latest counts. -/
def discards (p : Publisher) (run : PendingRun) : Prop :=
  p.config.overlapPolicy = .latestStarted ∧ p.overtaken run = true

instance (p : Publisher) (run : PendingRun) : Decidable (p.discards run) :=
  inferInstanceAs (Decidable (_ ∧ _))

section Release

variable (p : Publisher) (run : PendingRun)

@[simp] lemma release_config : (p.release run).config = p.config := by
  unfold release; split <;> rfl

@[simp] lemma release_analyzer : (p.release run).analyzer = p.analyzer := by
  unfold release; split <;> rfl

@[simp] lemma release_workspace : (p.release run).workspace = p.workspace := by
  unfold release; split <;> rfl

@[simp] lemma release_compilerShown : (p.release run).compilerShown = p.compilerShown := by
  unfold release; split <;> rfl

@[simp] lemma release_analyzerShown : (p.release run).analyzerShown = p.analyzerShown := by
  unfold release; split <;> rfl

@[simp] lemma release_analyzerFiles : (p.release run).analyzerFiles = p.analyzerFiles := by
  unfold release; split <;> rfl

@[simp] lemma release_nextToken : (p.release run).nextToken = p.nextToken := by
  unfold release; split <;> rfl

/-- Only the latest run of a file gives up the file's entry. -/
theorem get?_running_release (file : String) :
    (p.release run).running.get? file =
      if run.location = file ∧ p.running.get? file = some run.token then none
      else p.running.get? file := by
  unfold release overtaken
  by_cases h : p.running.get? run.location = some run.token
  · simp only [h, bne_self_eq_false, Bool.false_eq_true, if_false, Register.get?_remove]
    by_cases hfile : run.location = file
    · subst hfile
      simp [h]
    · simp [hfile]
  · have hover : (p.running.get? run.location != some run.token) = true := bne_iff_ne.2 h
    rw [if_pos hover]
    by_cases hfile : run.location = file
    · subst hfile
      simp [h]
    · simp [hfile]

end Release

section EndRun

variable (p : Publisher) (run : PendingRun)

/-- A run that returns and is thrown away changes nothing but the bookkeeping. -/
theorem endRun_returned_of_discards {r : RunResult} (h : p.discards run) :
    p.endRun run (.returned r) =
      (p.release run,
        .reported { run.report with compilerMissing := r.compilerMissing, stale := true }) := by
  have hpolicy : (p.release run).config.overlapPolicy = .latestStarted ∧
      p.overtaken run = true := by
    rw [release_config]
    exact h
  simp only [endRun, publishResult, if_pos hpolicy]

/-- Every other run that returns is published. -/
theorem endRun_returned_of_not_discards {r : RunResult} (h : ¬ p.discards run) :
    p.endRun run (.returned r) =
      ({ p.release run with
          compilerShown := showGroups compilerSource p.compilerShown
            (groupByFile r.diagnostics (some r.projectRoot.text)) },
        .reported { run.report with
          compilerMissing := r.compilerMissing
          compilerFiles := groupSizes (groupByFile r.diagnostics (some r.projectRoot.text)) }) := by
  have hpolicy : ¬ ((p.release run).config.overlapPolicy = .latestStarted ∧
      p.overtaken run = true) := by
    rw [release_config]
    exact h
  simp only [endRun, publishResult, if_neg hpolicy, release_compilerShown]

variable (how : RunEnd)

/-- What a run leaves of the publisher is what releasing it leaves, up to the compiler's records.
-/
lemma endRun_fst :
    ∃ shown, (p.endRun run how).1 = { p.release run with compilerShown := shown } := by
  cases how with
  | returned r =>
    by_cases h : p.discards run
    · exact ⟨(p.release run).compilerShown, by rw [endRun_returned_of_discards p run h]⟩
    · exact ⟨_, by rw [endRun_returned_of_not_discards p run h]⟩
  | failed f =>
    refine ⟨(p.release run).compilerShown, ?_⟩
    simp only [endRun]
    split <;> rfl
  | cancelled => exact ⟨(p.release run).compilerShown, rfl⟩

@[simp] lemma endRun_config : (p.endRun run how).1.config = p.config := by
  obtain ⟨shown, h⟩ := endRun_fst p run how
  rw [h, release_config]

@[simp] lemma endRun_analyzer : (p.endRun run how).1.analyzer = p.analyzer := by
  obtain ⟨shown, h⟩ := endRun_fst p run how
  rw [h, release_analyzer]

@[simp] lemma endRun_workspace : (p.endRun run how).1.workspace = p.workspace := by
  obtain ⟨shown, h⟩ := endRun_fst p run how
  rw [h, release_workspace]

@[simp] lemma endRun_analyzerShown : (p.endRun run how).1.analyzerShown = p.analyzerShown := by
  obtain ⟨shown, h⟩ := endRun_fst p run how
  rw [h, release_analyzerShown]

@[simp] lemma endRun_analyzerFiles : (p.endRun run how).1.analyzerFiles = p.analyzerFiles := by
  obtain ⟨shown, h⟩ := endRun_fst p run how
  rw [h, release_analyzerFiles]

@[simp] lemma endRun_nextToken : (p.endRun run how).1.nextToken = p.nextToken := by
  obtain ⟨shown, h⟩ := endRun_fst p run how
  rw [h, release_nextToken]

@[simp] lemma endRun_running : (p.endRun run how).1.running = (p.release run).running := by
  obtain ⟨shown, h⟩ := endRun_fst p run how
  rw [h]

end EndRun

end Publisher

namespace Session

/-! ## Steps -/

/-- What an event can come to, and the session it leaves behind. -/
inductive Step (s : Session) : Occurrence → Session → Prop where
  | skipped (location : String) (report : PublishReport) :
      Step s (.saved location (.skipped report)) s
  | raised (location : String) (f : Fault) :
      Step s (.saved location (.raised f)) ⟨s.publisher.clearFile location, s.inFlight⟩
  | started (location : String) (root : Option String) :
      Step s (.saved location (.waiting (s.publisher.beginRun location root).2))
        ⟨(s.publisher.beginRun location root).1,
          (s.publisher.beginRun location root).2 :: s.inFlight⟩
  | ended (run : PendingRun) (how : RunEnd) (inFlight : run ∈ s.inFlight) :
      Step s (.ended run how (s.publisher.endRun run how).2)
        ⟨(s.publisher.endRun run how).1, s.inFlight.filter fun r => r.token != run.token⟩
  | analyzed (change : AnalyzerChange) : Step s (.analyzed change) (s.reanalyzed change)
  | missed (token : Nat) : Step s (.missed token) s

lemma begin_of_beginSave {s : Session} {m : Machine} {d : SavedDocument} {p : Publisher}
    {run : PendingRun} (h : s.publisher.beginSave m d = (p, .waiting run)) :
    s.begin m d = (⟨p, run :: s.inFlight⟩, .waiting run) := by
  simp only [begin, h]

lemma step_begin (s : Session) (m : Machine) (d : SavedDocument) :
    Step s (.saved (Path.absText m.cwd d.path) (s.begin m d).2) (s.begin m d).1 := by
  by_cases hd : s.publisher.handles d = true
  · cases hroot : s.publisher.analyzerRoot m (Path.absText m.cwd d.path) with
    | error f =>
      simp only [begin, Publisher.beginSave_of_error hd hroot]
      exact .raised _ f
    | ok root =>
      rw [begin_of_beginSave (Publisher.beginSave_of_root hd hroot)]
      exact .started _ root
  · simp only [begin, Publisher.beginSave_of_not_handles m (Bool.eq_false_iff.2 hd)]
    exact .skipped _ _

/-- The saves that count are those that are handled. -/
lemma isSaveOf_occurrence_save (s : Session) (m : Machine) (d : SavedDocument) (file : String) :
    (s.occurrence (.save m d)).isSaveOf file = true ↔
      s.publisher.handles d = true ∧ Path.absText m.cwd d.path = file := by
  by_cases hd : s.publisher.handles d = true
  · cases hroot : s.publisher.analyzerRoot m (Path.absText m.cwd d.path) with
    | error f =>
      simp only [occurrence, begin, Publisher.beginSave_of_error hd hroot, Occurrence.isSaveOf, hd,
        beq_iff_eq, true_and]
    | ok root =>
      simp only [occurrence, begin_of_beginSave (Publisher.beginSave_of_root hd hroot),
        Occurrence.isSaveOf, hd, beq_iff_eq, true_and]
  · simp only [occurrence, begin, Publisher.beginSave_of_not_handles m (Bool.eq_false_iff.2 hd),
      Occurrence.isSaveOf, hd, Bool.false_eq_true, false_and]

lemma isSaveOf_occurrence_runEnds (s : Session) (token : Nat) (how : RunEnd) (file : String) :
    (s.occurrence (.runEnds token how)).isSaveOf file = false := by
  cases hrun : s.run? token <;> simp [occurrence, hrun, Occurrence.isSaveOf]

lemma run?_eq_some {s : Session} {token : Nat} {run : PendingRun} (h : s.run? token = some run) :
    run ∈ s.inFlight ∧ run.token = token :=
  ⟨List.mem_of_find?_eq_some h, by simpa using List.find?_some h⟩

/-- The session does what `Step` says. -/
theorem step_next (s : Session) (e : SessionEvent) : Step s (s.occurrence e) (s.next e) := by
  cases e with
  | save m d => exact step_begin s m d
  | runEnds token how =>
    cases hrun : s.run? token with
    | none =>
      simp only [occurrence, next, finish, hrun]
      exact .missed token
    | some run =>
      obtain ⟨hmem, rfl⟩ := run?_eq_some hrun
      simp only [occurrence, next, finish, hrun]
      exact .ended run how hmem
  | analyzed change => exact .analyzed change

/-- No event changes the settings. -/
lemma Step.config_eq {s t : Session} {o : Occurrence} (step : Step s o t) :
    t.publisher.config = s.publisher.config := by
  cases step with
  | started location root => exact s.publisher.beginRun_config location root
  | ended run how => exact s.publisher.endRun_config run how
  | skipped | raised | analyzed | missed => rfl

/-- What holds at the start and is kept by every step holds of every course of events. -/
theorem history_induction {s : Session} {P : List Occurrence → Session → Prop} (start : P [] s)
    (step : ∀ h t o u, P h t → Step t o u → P (h ++ [o]) u) (es : List SessionEvent) :
    P (s.history es) (s.after es) := by
  induction es using List.reverseRecOn with
  | nil => exact start
  | append_singleton es e ih =>
    rw [history_concat, after_concat]
    exact step _ _ _ _ ih (step_next _ e)

lemma config_after (p : Publisher) (events : List SessionEvent) :
    ((ofPublisher p).after events).publisher.config = p.config :=
  history_induction (P := fun _ t => t.publisher.config = p.config) rfl
    (fun _ _ _ _ hconfig step => step.config_eq.trans hconfig) events

end Session

end ElmOnSave
