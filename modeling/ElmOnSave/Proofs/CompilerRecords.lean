import ElmOnSave.Proofs.RunHistory

/-!
# The compiler's records of a file

For each file the compiler collection is a register with a last writer.  Two kinds of occurrences
write to the register of a file: a run that is published and names the file writes the file's
records, and a save of the file that is not skipped writes nothing at all, that is, it clears them.
`LastWriter` says what the latest of these wrote, and `lastWriter_after` that a session shows
exactly this, along every course of events.

There is only one such writer (`LastWriter.eq_recordsAt`, `LastWriter.eq_nil_iff`), so for a session
that starts with an empty collection the register can be read off the history:
`compilerShown_last_writer`.
-/

namespace ElmOnSave

namespace RunResult

/-- The records a run yields for a file. -/
def recordsAt (r : RunResult) (file : String) : List EditorRecord :=
  ElmOnSave.recordsAt compilerSource r.diagnostics (some r.projectRoot.text) file

/-- Whether an issue of the run leads to a file. -/
def Names (r : RunResult) (file : String) : Prop :=
  ∃ d ∈ r.diagnostics, issuePath d.file (some r.projectRoot.text) = file

lemma recordsAt_eq_nil_iff (r : RunResult) (file : String) :
    r.recordsAt file = [] ↔ ¬ r.Names file := by
  rw [recordsAt, ElmOnSave.recordsAt_eq_nil_iff, issuesAt_eq_nil_iff]
  simp [Names]

end RunResult

namespace Occurrence

/-- A run was published, and it names a file. -/
def Publishes (file : String) (o : Occurrence) : Prop :=
  ∃ r, o.published? = some r ∧ r.Names file

/-- Neither a run that names the file was published nor a save of it began. -/
def Spares (file : String) (o : Occurrence) : Prop :=
  o.isSaveOf file = false ∧ ¬ o.Publishes file

lemma isSaveOf_eq_false_of_published {o : Occurrence} {r : RunResult} {file : String}
    (h : o.published? = some r) : o.isSaveOf file = false := by
  cases o with
  | ended => rfl
  | saved | analyzed | missed => simp [published?] at h

lemma Publishes.not_isSaveOf {file : String} {o : Occurrence} (h : o.Publishes file) :
    ¬ o.isSaveOf file = true := by
  obtain ⟨r, result, -⟩ := h
  exact Bool.eq_false_iff.1 (isSaveOf_eq_false_of_published result)

lemma Spares.not_isSaveOf {file : String} {o : Occurrence} (h : o.Spares file) :
    ¬ o.isSaveOf file = true :=
  Bool.eq_false_iff.1 h.1

end Occurrence

/-- What the last writer of a file's records left, given the records before the history. -/
inductive LastWriter (file : String) (before : List EditorRecord) (h : List Occurrence) :
    List EditorRecord → Prop where
  | published {pre post : List Occurrence} {o : Occurrence} {r : RunResult}
      (split : h = pre ++ o :: post) (result : o.published? = some r) (names : r.Names file)
      (quiet : ∀ q ∈ post, q.Spares file) : LastWriter file before h (r.recordsAt file)
  | cleared {pre post : List Occurrence} {o : Occurrence}
      (split : h = pre ++ o :: post) (save : o.isSaveOf file = true)
      (quiet : ∀ q ∈ post, q.Spares file) : LastWriter file before h []
  | untouched (quiet : ∀ q ∈ h, q.Spares file) : LastWriter file before h before

/-- An occurrence that spares the file does not change who wrote last. -/
lemma LastWriter.concat {file : String} {before rs : List EditorRecord} {h : List Occurrence}
    {o : Occurrence} (lw : LastWriter file before h rs) (ho : o.Spares file) :
    LastWriter file before (h ++ [o]) rs := by
  have hmem : ∀ {l : List Occurrence}, (∀ q ∈ l, q.Spares file) →
      ∀ q ∈ l ++ [o], q.Spares file := by
    intro l hl q hq
    rcases List.mem_append.1 hq with hq | hq
    · exact hl q hq
    · rw [List.mem_singleton.1 hq]
      exact ho
  cases lw with
  | published split result names quiet =>
    exact .published (by rw [split, List.append_assoc, List.cons_append]) result names (hmem quiet)
  | cleared split save quiet =>
    exact .cleared (by rw [split, List.append_assoc, List.cons_append]) save (hmem quiet)
  | untouched quiet => exact .untouched (hmem quiet)

section Unique

variable {file : String} {before rs : List EditorRecord} {h pre post : List Occurrence}
  {o : Occurrence}

/-- A published run that names the file has the last word if nothing wrote after it. -/
lemma LastWriter.eq_recordsAt (lw : LastWriter file before h rs) {r : RunResult}
    (split : h = pre ++ o :: post) (result : o.published? = some r) (names : r.Names file)
    (quiet : ∀ q ∈ post, q.Spares file) : rs = r.recordsAt file := by
  cases lw with
  | published split' result' names' quiet' =>
    -- Two writers at different places: the earlier one would have to spare the later one.
    rcases append_cons_cases (split.symm.trans split') with ⟨-, rfl, -⟩ | ⟨m, -, hm⟩ | ⟨m, -, hm⟩
    · rw [result] at result'
      cases result'
      rfl
    · exact absurd ⟨_, result', names'⟩ (quiet _ (by simp [hm])).2
    · exact absurd ⟨_, result, names⟩ (quiet' _ (by simp [hm])).2
  | cleared split' save quiet' =>
    rcases append_cons_cases (split.symm.trans split') with ⟨-, rfl, -⟩ | ⟨m, -, hm⟩ | ⟨m, -, hm⟩
    · have hpub : o.Publishes file := ⟨r, result, names⟩
      exact absurd save hpub.not_isSaveOf
    · exact absurd save (quiet _ (by simp [hm])).not_isSaveOf
    · exact absurd ⟨_, result, names⟩ (quiet' _ (by simp [hm])).2
  | untouched quiet' => exact absurd ⟨_, result, names⟩ (quiet' o (by simp [split])).2

/-- Nothing is left exactly when every published run that names the file is followed by a save of
it, unless the file was never written. -/
lemma LastWriter.eq_nil_iff (lw : LastWriter file before h rs)
    (start : before = [] ∨ ∃ q ∈ h, q.isSaveOf file = true) :
    rs = [] ↔ ∀ pre o post, h = pre ++ o :: post → o.Publishes file →
      ∃ q ∈ post, q.isSaveOf file = true := by
  cases lw with
  | published split result names quiet =>
    refine iff_of_false (fun hnil => (RunResult.recordsAt_eq_nil_iff _ file).1 hnil names) ?_
    intro hall
    obtain ⟨q, hq, hsave⟩ := hall _ _ _ split ⟨_, result, names⟩
    exact (quiet q hq).not_isSaveOf hsave
  | cleared split save quiet =>
    refine iff_of_true rfl ?_
    -- A published run that names the file comes before the save, because nothing wrote after it.
    intro pre o post split' hpub
    rcases append_cons_cases (split.symm.trans split') with ⟨-, rfl, -⟩ | ⟨m, -, hm⟩ | ⟨m, -, hm⟩
    · exact absurd save hpub.not_isSaveOf
    · exact absurd hpub (quiet _ (by simp [hm])).2
    · exact ⟨_, by simp [hm], save⟩
  | untouched quiet =>
    refine iff_of_true ?_ ?_
    · rcases start with hnil | ⟨q, hq, hsave⟩
      · exact hnil
      · exact absurd hsave (quiet q hq).not_isSaveOf
    · intro pre o post split hpub
      exact absurd hpub (quiet o (by simp [split])).2

end Unique

namespace Session

/-! ## What one step writes -/

/-- A run that ends and is not published leaves the compiler collection alone. -/
lemma compilerShown_endRun_of_not_published (p : Publisher) {run : PendingRun} {how : RunEnd}
    (hfresh : run.report.stale = false)
    (h : (Occurrence.ended run how (p.endRun run how).2).published? = none) :
    (p.endRun run how).1.compilerShown = p.compilerShown := by
  cases how with
  | returned r =>
    by_cases hd : p.discards run
    · rw [p.endRun_returned_of_discards run hd, Publisher.release_compilerShown]
    · rw [p.endRun_returned_of_not_discards run hd] at h
      simp [Occurrence.published?, hfresh] at h
  | failed f =>
    simp only [Publisher.endRun]
    split <;> exact p.release_compilerShown run
  | cancelled => exact p.release_compilerShown run

/-- A run that is published shows the records of every file it names and leaves the others alone.
-/
lemma get?_compilerShown_endRun_of_published (p : Publisher) {run : PendingRun} {how : RunEnd}
    {r : RunResult}
    (h : (Occurrence.ended run how (p.endRun run how).2).published? = some r) (file : String) :
    (p.endRun run how).1.compilerShown.get? file =
      if r.recordsAt file = [] then p.compilerShown.get? file else some (r.recordsAt file) := by
  cases how with
  | returned r' =>
    by_cases hd : p.discards run
    · rw [p.endRun_returned_of_discards run hd] at h
      simp [Occurrence.published?] at h
    · rw [p.endRun_returned_of_not_discards run hd] at h ⊢
      obtain ⟨-, rfl⟩ : run.report.stale = false ∧ r' = r := by
        simpa [Occurrence.published?] using h
      exact get?_showGroups _ _ _ _ file
  | failed f => simp [Occurrence.published?] at h
  | cancelled => simp [Occurrence.published?] at h

/-- A step that publishes nothing changes the records of no file but the one that was saved. -/
lemma get_compilerShown_of_not_published {s t : Session} {o : Occurrence} (hs : s.FreshReports)
    (step : Step s o t) (h : o.published? = none) (file : String) :
    t.publisher.compilerShown.get file =
      if o.isSaveOf file = true then [] else s.publisher.compilerShown.get file := by
  cases step with
  | raised location f =>
    simp [Publisher.clearFile, Collection.get_set, Occurrence.isSaveOf]
  | started location root =>
    simp [Collection.get_set, Occurrence.isSaveOf]
  | ended run how inFlight =>
    rw [compilerShown_endRun_of_not_published _ (hs run inFlight) h]
    rfl
  | skipped | analyzed | missed => rfl

/-- A step that publishes a run shows the records of the files it names. -/
lemma get_compilerShown_of_published {s t : Session} {o : Occurrence} {r : RunResult}
    (step : Step s o t) (h : o.published? = some r) (file : String) :
    t.publisher.compilerShown.get file =
      if r.recordsAt file = [] then s.publisher.compilerShown.get file else r.recordsAt file := by
  cases step with
  | ended run how inFlight =>
    rw [Collection.get_eq_getD, get?_compilerShown_endRun_of_published _ h]
    split <;> rfl
  | skipped | raised | started | analyzed | missed => simp [Occurrence.published?] at h

/-! ## The register -/

/-- What one step leaves is what its writer wrote. -/
lemma lastWriter_step {s t : Session} {o : Occurrence} {h : List Occurrence} {file : String}
    {before : List EditorRecord} (hs : s.FreshReports) (step : Step s o t)
    (lw : LastWriter file before h (s.publisher.compilerShown.get file)) :
    LastWriter file before (h ++ [o]) (t.publisher.compilerShown.get file) := by
  cases hpub : o.published? with
  | none =>
    rw [get_compilerShown_of_not_published hs step hpub]
    by_cases hsave : o.isSaveOf file = true
    · rw [if_pos hsave]
      exact .cleared rfl hsave (by simp)
    · rw [if_neg hsave]
      refine lw.concat ⟨Bool.eq_false_iff.2 hsave, ?_⟩
      rintro ⟨r, hr, -⟩
      rw [hpub] at hr
      cases hr
  | some r =>
    rw [get_compilerShown_of_published step hpub]
    by_cases hnames : r.Names file
    · rw [if_neg (fun hnil => (r.recordsAt_eq_nil_iff file).1 hnil hnames)]
      exact .published rfl hpub hnames (by simp)
    · rw [if_pos ((r.recordsAt_eq_nil_iff file).2 hnames)]
      refine lw.concat ⟨Occurrence.isSaveOf_eq_false_of_published hpub, ?_⟩
      rintro ⟨r', hr', hnames'⟩
      rw [hpub] at hr'
      cases hr'
      exact hnames hnames'

/-- Along every course of events the compiler collection shows what the last writer left. -/
theorem lastWriter_after (p : Publisher) (events : List SessionEvent) (file : String) :
    LastWriter file (p.compilerShown.get file) ((ofPublisher p).history events)
      (((ofPublisher p).after events).publisher.compilerShown.get file) := by
  have hinv := history_induction (s := ofPublisher p)
    (P := fun h t => t.FreshReports ∧ LastWriter file (p.compilerShown.get file) h
      (t.publisher.compilerShown.get file))
    ⟨fun run hrun => (List.not_mem_nil hrun).elim, .untouched (by simp)⟩
    (fun h t o u hP step => ⟨freshReports_step hP.1 step, lastWriter_step hP.1 step hP.2⟩)
  exact (hinv events).2

/-- **The compiler collection is a last-writer register per file.**  A session that starts with an
empty collection shows, for every file, the records of the latest run that was published and names
the file, unless a save of the file began after it; it shows nothing for the file exactly when
there is no such run.  Of the other events a save that is handled clears the file it saves, and
nothing else changes: not by a save that is skipped, not by the analyzer, and not by a run that
fails, is cancelled or is discarded. -/
theorem compilerShown_last_writer (config : Config) (analyzer : AnalyzerIssues)
    (workspace : Option String) (compilerName analyzerName : String) (events : List SessionEvent)
    (file : String) :
    let start := ofPublisher (.initial config analyzer workspace compilerName analyzerName)
    let s := start.after events
    let shown := fun es => (start.after es).publisher.compilerShown.get file
    (∀ pre o post r, start.history events = pre ++ o :: post → o.published? = some r →
      r.Names file → (∀ q ∈ post, q.Spares file) → shown events = r.recordsAt file) ∧
    (shown events = [] ↔ ∀ pre o post, start.history events = pre ++ o :: post →
      o.Publishes file → ∃ q ∈ post, q.isSaveOf file = true) ∧
    (∀ m d, shown (events ++ [.save m d]) =
      if s.publisher.handles d = true ∧ Path.absText m.cwd d.path = file then []
      else shown events) ∧
    (∀ change, shown (events ++ [.analyzed change]) = shown events) ∧
    ∀ token how, (s.occurrence (.runEnds token how)).published? = none →
      shown (events ++ [.runEnds token how]) = shown events := by
  intro start s shown
  have lw : LastWriter file [] (start.history events) (shown events) :=
    lastWriter_after (.initial config analyzer workspace compilerName analyzerName) events file
  have hquiet : ∀ e, (s.occurrence e).published? = none → shown (events ++ [e]) =
      if (s.occurrence e).isSaveOf file = true then [] else shown events := by
    intro e hnone
    have hstep := get_compilerShown_of_not_published (freshReports_after _ events) (step_next s e)
      hnone file
    rw [← after_concat] at hstep
    exact hstep
  refine ⟨fun pre o post r => lw.eq_recordsAt, lw.eq_nil_iff (.inl rfl), ?_, ?_, ?_⟩
  · intro m d
    rw [hquiet (.save m d) rfl]
    simp only [isSaveOf_occurrence_save]
  · intro change
    exact hquiet (.analyzed change) rfl
  · intro token how hnone
    rw [hquiet (.runEnds token how) hnone, isSaveOf_occurrence_runEnds]
    rfl

end Session

end ElmOnSave
