import ElmOnSave.Proofs.CompilerRecords

/-!
# Overlapping runs that are all published

Under the policy `lastResolved` every run that returns is published, whatever was started since.
If only one file is saved, one expects the run that completes last to have the last word about it.
`shown_eq_lastCompleted_iff` says when it does.  A run that names the file always does, for it
writes the file's records.  A run that does not name the file writes nothing for it: the file stays
as the runs before left it, and it is empty only if nothing was published for it since its last
save began.

So a run that finds nothing does not have the last word if another run that names the file
completed after the last save began (`not_forall_shown_eq_lastCompleted`).
-/

namespace ElmOnSave

namespace Occurrence

/-- Only one file is saved, and every run succeeds. -/
def RunsOnly (file : String) : Occurrence → Prop
  | saved location (.waiting _) => location = file
  | saved _ (.skipped _) => True
  | saved _ (.raised _) => False
  | ended _ (.returned _) _ => True
  | ended _ (.failed _) _ | ended _ .cancelled _ => False
  | analyzed _ | missed _ => True

instance (file : String) : DecidablePred (RunsOnly file)
  | saved _ (.waiting _) => decEq _ _
  | saved _ (.skipped _) | ended _ (.returned _) _ | analyzed _ | missed _ => .isTrue trivial
  | saved _ (.raised _) | ended _ (.failed _) _ | ended _ .cancelled _ => .isFalse not_false

end Occurrence

/-- Only `file` was saved, every run succeeded and is over, and the run that completed last
returned `r` after `earlier` had happened. -/
structure LastCompleted (file : String) (h : List Occurrence) (s : Session)
    (earlier : List Occurrence) (r : RunResult) : Prop where
  runsOnly : ∀ o ∈ h, o.RunsOnly file
  settled : s.inFlight = []
  last : ∃ run save rest, h = earlier ++ .ended run (.returned r) save :: rest ∧
    ∀ q ∈ rest, ∀ run, ¬ q.Ends run

namespace Session

variable {p : Publisher} {events : List SessionEvent} {file : String}

/-- Under `lastResolved` a run that returns is published. -/
lemma published_of_lastResolved (policy : p.config.overlapPolicy = .lastResolved)
    {run : PendingRun} {r : RunResult} {save : SaveEnd}
    (h : .ended run (.returned r) save ∈ (ofPublisher p).history events) :
    (Occurrence.ended run (.returned r) save).published? = some r := by
  have hinv := history_induction (s := ofPublisher p)
    (P := fun h t => (t.publisher.config = p.config ∧ t.FreshReports) ∧
      ∀ run r save, .ended run (.returned r) save ∈ h →
        (Occurrence.ended run (.returned r) save).published? = some r)
    ⟨⟨rfl, fun _ hrun => (List.not_mem_nil hrun).elim⟩,
      fun _ _ _ hmem => (List.not_mem_nil hmem).elim⟩
  refine (hinv ?_ events).2 run r save h
  rintro h s o t ⟨⟨hconfig, hfresh⟩, hpub⟩ step
  refine ⟨⟨step.config_eq.trans hconfig, freshReports_step hfresh step⟩, ?_⟩
  intro run r save hmem
  rcases List.mem_append.1 hmem with hmem | hmem
  · exact hpub run r save hmem
  · rw [← List.mem_singleton.1 hmem] at step
    cases step with
    | ended _ _ inFlight =>
      have hkept : ¬ s.publisher.discards run := by
        simp [Publisher.discards, hconfig, policy]
      rw [Publisher.endRun_returned_of_not_discards _ _ hkept]
      simp [Occurrence.published?, hfresh run inFlight]

/-- Once every run is over, nothing was written after the run that completed last. -/
lemma spares_of_settled {h earlier rest : List Occurrence} {s : Session} {o : Occurrence}
    (ledger : Ledger h s) (runsOnly : ∀ q ∈ h, q.RunsOnly file) (settled : s.inFlight = [])
    (split : h = earlier ++ o :: rest) (last : ∀ q ∈ rest, ∀ run, ¬ q.Ends run) :
    ∀ q ∈ rest, q.Spares file := by
  intro q hq
  have honly : q.RunsOnly file := runsOnly q (by simp [split, hq])
  cases q with
  | saved location start =>
    refine ⟨?_, by simp [Occurrence.Publishes, Occurrence.published?]⟩
    cases start with
    | skipped report => rfl
    | raised f => exact honly.elim
    | waiting run =>
      -- This run would not have ended since, but no run is in flight.
      obtain ⟨rest₁, rest₂, rfl⟩ := List.append_of_mem hq
      have hkept : run ∈ s.inFlight := by
        refine ledger.kept (earlier ++ o :: rest₁) location run rest₂ (by simp [split]) ?_
        exact fun q hq => last q (by simp [hq]) run
      rw [settled] at hkept
      exact (List.not_mem_nil hkept).elim
  | ended run how save => exact absurd ⟨how, save, rfl⟩ (last _ hq run)
  | analyzed | missed => exact ⟨rfl, by simp [Occurrence.Publishes, Occurrence.published?]⟩

/-- A run that ended in a history of saves of one file was started by a save of it. -/
lemma exists_save_of_ended {h : List Occurrence} {s : Session} (ledger : Ledger h s)
    (runsOnly : ∀ q ∈ h, q.RunsOnly file) {run : PendingRun} {how : RunEnd} {save : SaveEnd}
    (hend : .ended run how save ∈ h) : ∃ q ∈ h, q.isSaveOf file = true := by
  have hstarted := (ledger.finished run _ hend ⟨how, save, rfl⟩).1
  obtain ⟨location, hsave⟩ := mem_startedRuns_iff.1 hstarted
  obtain rfl : location = file := runsOnly _ hsave
  exact ⟨_, hsave, by simp [Occurrence.isSaveOf]⟩

/-- **When the run that completed last has the last word.**  Only one file was saved and every run
succeeded and is over.  Then what is shown for the file is what the run that completed last found,
exactly if that run names the file or every run published before that names the file is followed,
before the last run completed, by a save of the file. -/
theorem shown_eq_lastCompleted_iff (policy : p.config.overlapPolicy = .lastResolved)
    {earlier : List Occurrence} {r : RunResult}
    (completed : LastCompleted file ((ofPublisher p).history events) ((ofPublisher p).after events)
      earlier r) :
    ((ofPublisher p).after events).publisher.compilerShown.get file = r.recordsAt file ↔
      r.Names file ∨ ∀ pre o post, earlier = pre ++ o :: post → o.Publishes file →
        ∃ q ∈ post, q.isSaveOf file = true := by
  obtain ⟨runsOnly, settled, run, save, rest, split, last⟩ := completed
  have ledger := ledger_after p events
  have hmem : .ended run (.returned r) save ∈ (ofPublisher p).history events := by simp [split]
  have quiet := spares_of_settled ledger runsOnly settled split last
  have lw := lastWriter_after p events file
  by_cases hnames : r.Names file
  · have hshown := lw.eq_recordsAt split (published_of_lastResolved policy hmem) hnames quiet
    exact iff_of_true hshown (.inl hnames)
  -- The last run yields nothing for the file, so the question is whether nothing is shown.
  rw [(r.recordsAt_eq_nil_iff file).2 hnames,
    lw.eq_nil_iff (.inr (exists_save_of_ended ledger runsOnly hmem)), or_iff_right hnames]
  constructor
  · intro hall pre o post hearlier hpub
    obtain ⟨q, hq, hsave⟩ := hall pre o (post ++ .ended run (.returned r) save :: rest)
      (by simp [split, hearlier]) hpub
    rcases List.mem_append.1 hq with hq | hq
    · exact ⟨q, hq, hsave⟩
    · rcases List.mem_cons.1 hq with rfl | hq
      · cases hsave
      · exact absurd hsave (quiet q hq).not_isSaveOf
  · intro hall pre o post hsplit hpub
    have hcut := append_cons_cases (split.symm.trans hsplit)
    rcases hcut with ⟨-, rfl, -⟩ | ⟨m, -, hm⟩ | ⟨m, hm, hpost⟩
    · obtain ⟨r', hr', hnames'⟩ := hpub
      rw [published_of_lastResolved policy hmem] at hr'
      cases hr'
      exact absurd hnames' hnames
    · exact absurd hpub (quiet o (by simp [hm])).2
    · obtain ⟨q, hq, hsave⟩ := hall pre o m hm hpub
      exact ⟨q, by simp [hpost, hq], hsave⟩

/-! ## Two runs of one file -/

/-- A course that ends with the last run in flight has a run that completed last. -/
lemma lastCompleted_concat (p : Publisher) (events : List SessionEvent) (file : String)
    (token : Nat) (r : RunResult) (inFlight : (((ofPublisher p).after events).run? token).isSome)
    (runsOnly : ∀ o ∈ (ofPublisher p).history (events ++ [.runEnds token (.returned r)]),
      o.RunsOnly file)
    (settled : List.isEmpty
      ((ofPublisher p).after (events ++ [.runEnds token (.returned r)])).inFlight) :
    LastCompleted file ((ofPublisher p).history (events ++ [.runEnds token (.returned r)]))
      ((ofPublisher p).after (events ++ [.runEnds token (.returned r)]))
      ((ofPublisher p).history events) r := by
  obtain ⟨run, hrun⟩ := Option.isSome_iff_exists.1 inFlight
  refine ⟨runsOnly, List.isEmpty_iff.1 settled, run,
    (((ofPublisher p).after events).publisher.endRun run (.returned r)).2, [], ?_, by simp⟩
  simp only [history_concat, occurrence, hrun]

/-- A run in the root directory that yields issues. -/
def runYielding (ds : List Diagnostic) : RunResult :=
  ⟨ds, Path.ofString "/", .reportDocuments, default, false⟩

/-- Two saves of one file begin, and the run of the first one ends. -/
def overlappingSaves (first : RunResult) : List SessionEvent :=
  let machine : Machine := ⟨⟨[]⟩, "/", [], []⟩
  let document : SavedDocument := ⟨"/Main.elm", "elm", "file"⟩
  [.save machine document, .save machine document, .runEnds 1 (.returned first)]

/-- If the second of two runs finds an issue of the file, its record replaces that of the first. -/
theorem second_run_replaces_first :
    ((ofPublisher (.initial .standard ⟨[]⟩ none "compiler" "analyzer")).after
      (overlappingSaves (runYielding [.ofProject "FIRST" "" "/Main.elm"]) ++
        [.runEnds 2 (.returned (runYielding [.ofProject "SECOND" "" "/Main.elm"]))])
      ).publisher.compilerShown.get "/Main.elm" =
        (runYielding [.ofProject "SECOND" "" "/Main.elm"]).recordsAt "/Main.elm" := by
  have completed := lastCompleted_concat (.initial .standard ⟨[]⟩ none "compiler" "analyzer")
    (overlappingSaves (runYielding [.ofProject "FIRST" "" "/Main.elm"])) "/Main.elm" 2
    (runYielding [.ofProject "SECOND" "" "/Main.elm"])
    (by decide +kernel) (by decide +kernel) (by decide +kernel)
  exact (shown_eq_lastCompleted_iff rfl completed).2
    (.inl ⟨_, List.mem_singleton_self _, by decide +kernel⟩)

/-- If the second of two runs finds nothing, the records of the first one stay. -/
theorem not_forall_shown_eq_lastCompleted :
    ¬ ∀ (p : Publisher) (events : List SessionEvent) (file : String) (earlier : List Occurrence)
      (r : RunResult), p.config.overlapPolicy = .lastResolved →
      LastCompleted file ((ofPublisher p).history events) ((ofPublisher p).after events) earlier r →
      ((ofPublisher p).after events).publisher.compilerShown.get file = r.recordsAt file := by
  intro hall
  have completed := lastCompleted_concat (.initial .standard ⟨[]⟩ none "compiler" "analyzer")
    (overlappingSaves (runYielding [.ofProject "FIRST" "" "/Main.elm"])) "/Main.elm" 2
    (runYielding []) (by decide +kernel) (by decide +kernel) (by decide +kernel)
  have hshown := hall _ _ _ _ _ rfl completed
  exact absurd (congrArg List.isEmpty hshown) (by decide +kernel)

end Session

end ElmOnSave
