import ElmOnSave.Proofs.RunHistory

/-!
# Runs that were overtaken

A run is overtaken when another run of its file starts before it ends.  The publisher does not keep
the runs of a file; it keeps one number per file, which the latest run gives up when it ends, so
that an older run may meet a newer number, no number at all, or the number of a run that started
later still.  `Bookkeeping` is the invariant behind it: a file has the number of the latest run
that was ever started for it, as long as this run is in flight.  `Bookkeeping.step` says that each
step keeps it.

What follows is `Bookkeeping.overtaken_iff`, that a run in flight is overtaken exactly when a later
run of its file was started, and with it `stale_iff_superseded`: runs are discarded exactly when
they should be.
-/

namespace ElmOnSave

/-- Another run of its file started after a run did.  A save that is over before its run starts
supersedes nothing. -/
def Superseded (h : List Occurrence) (run : PendingRun) : Prop :=
  ∃ pre mid post run', h = pre ++ .saved run.location (.waiting run) ::
    (mid ++ .saved run.location (.waiting run') :: post)

/-- A file has a number exactly if it is that of the latest run started for it, and this run is in
flight. -/
def Bookkeeping (h : List Occurrence) (s : Session) : Prop :=
  ∀ location token, s.publisher.running.get? location = some token ↔
    ∃ run ∈ s.inFlight, run.location = location ∧ run.token = token ∧
      ∀ run' ∈ startedRuns h, run'.location = location → run'.token ≤ token

namespace Ledger

variable {h : List Occurrence} {s : Session}

/-- A run started when its file was saved. -/
lemma saved_mem_iff (ledger : Ledger h s) {location : String} {run : PendingRun} :
    .saved location (.waiting run) ∈ h ↔ run ∈ startedRuns h ∧ run.location = location := by
  constructor
  · intro hmem
    exact ⟨mem_startedRuns_iff.2 ⟨location, hmem⟩, ledger.located location run hmem⟩
  · rintro ⟨hrun, rfl⟩
    obtain ⟨location, hmem⟩ := mem_startedRuns_iff.1 hrun
    rwa [ledger.located location run hmem]

/-- Runs that start later have larger numbers. -/
lemma token_lt_token (ledger : Ledger h s) {pre rest : List Occurrence} {location : String}
    {run run' : PendingRun} (split : h = pre ++ .saved location (.waiting run) :: rest)
    (hrun' : run' ∈ startedRuns rest) : run.token < run'.token := by
  have hincreasing := ledger.increasing
  rw [split, startedRuns_append] at hincreasing
  exact List.rel_of_pairwise_cons (List.pairwise_append.1 hincreasing).2.1 hrun'

/-- Being superseded shows in the numbers. -/
lemma superseded_iff (ledger : Ledger h s) {run : PendingRun} (hrun : run ∈ startedRuns h) :
    Superseded h run ↔
      ∃ run' ∈ startedRuns h, run'.location = run.location ∧ run.token < run'.token := by
  constructor
  · rintro ⟨pre, mid, post, run', split⟩
    have hmem : .saved run.location (.waiting run') ∈ h := by simp [split]
    obtain ⟨hrun', hlocation⟩ := ledger.saved_mem_iff.1 hmem
    refine ⟨run', hrun', hlocation, ledger.token_lt_token split ?_⟩
    exact mem_startedRuns_iff.2 ⟨run.location, by simp⟩
  · rintro ⟨run', hrun', hlocation, hlt⟩
    obtain ⟨pre, rest, split⟩ := List.append_of_mem (ledger.saved_mem_iff.2 ⟨hrun, rfl⟩)
    have hmem := ledger.saved_mem_iff.2 ⟨hrun', hlocation⟩
    rw [split] at hmem
    rcases List.mem_append.1 hmem with hmem | hmem
    -- A run that started before `run` has a smaller number, not a larger one.
    · obtain ⟨pre₁, pre₂, hpre⟩ := List.append_of_mem hmem
      have hsplit : h = pre₁ ++ .saved run.location (.waiting run') ::
          (pre₂ ++ .saved run.location (.waiting run) :: rest) := by simp [split, hpre]
      have hgt : run'.token < run.token :=
        ledger.token_lt_token hsplit (mem_startedRuns_iff.2 ⟨run.location, by simp⟩)
      exact absurd hlt (Nat.lt_asymm hgt)
    · rcases List.mem_cons.1 hmem with heq | hmem
      · cases heq
        exact absurd hlt (Nat.lt_irrefl _)
      · obtain ⟨mid, post, hrest⟩ := List.append_of_mem hmem
        exact ⟨pre, mid, post, run', by rw [split, hrest]⟩

end Ledger

namespace Bookkeeping

variable {h : List Occurrence} {s t : Session}

/-- A step that starts no run and ends none keeps the bookkeeping. -/
lemma concat_quiet (book : Bookkeeping h s) {o : Occurrence} (hstart : o.started? = none)
    (hrunning : t.publisher.running = s.publisher.running) (hflight : t.inFlight = s.inFlight) :
    Bookkeeping (h ++ [o]) t := by
  intro location token
  rw [startedRuns_concat_of_none h hstart, hrunning, hflight]
  exact book location token

/-- The number of a starting run is larger than all before, so its file gets it. -/
lemma concat_started (book : Bookkeeping h s) (ledger : Ledger h s) (location : String)
    (root : Option String) :
    Bookkeeping (h ++ [.saved location (.waiting (s.publisher.beginRun location root).2)])
      ⟨(s.publisher.beginRun location root).1,
        (s.publisher.beginRun location root).2 :: s.inFlight⟩ := by
  have hstarts := startedRuns_concat_waiting h location (s.publisher.beginRun location root).2
  intro file token
  rw [hstarts, Publisher.beginRun_running, Register.get?_put]
  by_cases hfile : location = file
  · subst hfile
    rw [if_pos rfl]
    constructor
    · rintro ⟨⟩
      refine ⟨_, List.mem_cons_self, rfl, rfl, ?_⟩
      intro run hrun _
      rcases List.mem_append.1 hrun with hrun | hrun
      · exact Nat.le_of_lt (ledger.below run hrun)
      · rw [List.mem_singleton.1 hrun]
        exact Nat.le_refl _
    · rintro ⟨run, hrun, -, rfl, hmax⟩
      have hle : s.publisher.nextToken ≤ run.token :=
        hmax _ (List.mem_append_right _ (List.mem_singleton_self _)) rfl
      rcases List.mem_cons.1 hrun with rfl | hrun
      · rfl
      · exact absurd hle (Nat.not_le_of_lt (ledger.below run (ledger.known run hrun)))
  · rw [if_neg hfile, book file token]
    constructor
    · rintro ⟨run, hrun, hlocation, htoken, hmax⟩
      refine ⟨run, List.mem_cons_of_mem _ hrun, hlocation, htoken, ?_⟩
      intro run' hrun' hlocation'
      rcases List.mem_append.1 hrun' with hrun' | hrun'
      · exact hmax run' hrun' hlocation'
      · rw [List.mem_singleton.1 hrun'] at hlocation'
        exact absurd hlocation' hfile
    · rintro ⟨run, hrun, hlocation, htoken, hmax⟩
      rcases List.mem_cons.1 hrun with rfl | hrun
      · exact absurd hlocation hfile
      · exact ⟨run, hrun, hlocation, htoken,
          fun run' hrun' => hmax run' (List.mem_append_left _ hrun')⟩

/-- Only the latest run of a file gives up the file's number. -/
lemma concat_ended (book : Bookkeeping h s) (ledger : Ledger h s) {run : PendingRun} {how : RunEnd}
    {save : SaveEnd} (inFlight : run ∈ s.inFlight) :
    Bookkeeping (h ++ [.ended run how save])
      ⟨(s.publisher.endRun run how).1, s.inFlight.filter fun r => r.token != run.token⟩ := by
  intro location token
  have hstarts : startedRuns (h ++ [.ended run how save]) = startedRuns h :=
    startedRuns_concat_of_none h rfl
  rw [hstarts, Publisher.endRun_running, Publisher.get?_running_release]
  constructor
  · intro hget
    split at hget
    · cases hget
    · rename_i hkept
      obtain ⟨run', hrun', hlocation, htoken, hmax⟩ := (book location token).1 hget
      refine ⟨run', List.mem_filter.2 ⟨hrun', bne_iff_ne.2 fun heq => hkept ?_⟩, hlocation, htoken,
        hmax⟩
      -- If the ending run had this number, it would have given it up.
      obtain rfl := ledger.eq_of_token_eq (ledger.known run' hrun') (ledger.known run inFlight) heq
      exact ⟨hlocation, by rw [hget, htoken]⟩
  · rintro ⟨run', hrun', hlocation, htoken, hmax⟩
    obtain ⟨hrun', hne⟩ := List.mem_filter.1 hrun'
    have hget := (book location token).2 ⟨run', hrun', hlocation, htoken, hmax⟩
    rw [if_neg, hget]
    rintro ⟨-, hrun⟩
    rw [hget, ← htoken] at hrun
    exact bne_iff_ne.1 hne (Option.some.inj hrun)

lemma step (book : Bookkeeping h s) (ledger : Ledger h s) {o : Occurrence}
    (step : Session.Step s o t) : Bookkeeping (h ++ [o]) t := by
  cases step with
  | started location root => exact book.concat_started ledger location root
  | ended run how inFlight => exact book.concat_ended ledger inFlight
  | skipped | raised | analyzed | missed => exact book.concat_quiet rfl rfl rfl

/-- A run in flight is overtaken exactly if it is superseded. -/
lemma overtaken_iff (book : Bookkeeping h s) (ledger : Ledger h s) {run : PendingRun}
    (inFlight : run ∈ s.inFlight) : s.publisher.overtaken run = true ↔ Superseded h run := by
  have hrun := ledger.known run inFlight
  rw [ledger.superseded_iff hrun, Publisher.overtaken, bne_iff_ne, Ne, book]
  constructor
  · intro hnone
    refine Decidable.not_not.1 fun hmax => hnone ?_
    refine ⟨run, inFlight, rfl, rfl, fun run' hrun' hlocation => Nat.le_of_not_lt fun hlt => ?_⟩
    exact hmax ⟨run', hrun', hlocation, hlt⟩
  · rintro ⟨run', hrun', hlocation, hlt⟩ ⟨_, -, -, -, hmax⟩
    exact Nat.not_le_of_lt hlt (hmax run' hrun' hlocation)

end Bookkeeping

namespace Session

/-- Every course of events keeps the bookkeeping. -/
lemma bookkeeping_after {p : Publisher} (hp : p.running.entries = []) (events : List SessionEvent) :
    Bookkeeping ((ofPublisher p).history events) ((ofPublisher p).after events) := by
  have hinv := history_induction (s := ofPublisher p)
    (P := fun h t => Ledger h t ∧ Bookkeeping h t) ⟨ledger_after p [], ?_⟩
    (fun h t o u hP step => ⟨hP.1.step step, hP.2.step hP.1 step⟩)
  · exact (hinv events).2
  · intro location token
    have hnone : p.running.get? location = none := (Register.entries_eq_nil_iff _).1 hp location
    constructor
    · intro hget
      exact absurd (hnone.symm.trans hget) (Option.some_ne_none token).symm
    · rintro ⟨run, hrun, -⟩
      exact (List.not_mem_nil hrun).elim

/-- A run in flight that returns is reported, as stale exactly if it is thrown away, and then
nothing is written. -/
lemma exists_report_of_returned {s : Session} (hs : s.FreshReports) {token : Nat}
    {run : PendingRun} (hrun : s.run? token = some run) (r : RunResult) :
    ∃ report, s.occurrence (.runEnds token (.returned r)) =
        .ended run (.returned r) (.reported report) ∧
      (report.stale = true ↔ s.publisher.discards run) ∧
      (report.stale = true →
        (s.next (.runEnds token (.returned r))).publisher.compilerShown =
            s.publisher.compilerShown ∧
          (s.next (.runEnds token (.returned r))).publisher.analyzerShown =
            s.publisher.analyzerShown) := by
  simp only [occurrence, next, finish, hrun]
  by_cases hd : s.publisher.discards run
  · rw [Publisher.endRun_returned_of_discards _ _ hd]
    refine ⟨_, rfl, iff_of_true rfl hd, fun _ => ?_⟩
    exact ⟨Publisher.release_compilerShown _ _, Publisher.release_analyzerShown _ _⟩
  · rw [Publisher.endRun_returned_of_not_discards _ _ hd]
    have hfresh : run.report.stale ≠ true :=
      Bool.eq_false_iff.1 (hs run (run?_eq_some hrun).1)
    exact ⟨_, rfl, iff_of_false hfresh hd, fun hstale => absurd hstale hfresh⟩

/-- **A run is discarded exactly when it was superseded.**  Along every course of events a run in
flight that returns is reported as stale exactly if only the latest run counts and another run of
its file has started since, and if so, nothing is written.  A file has a number exactly if it is
the largest that a run of it ever got and the run is in flight, so without runs in flight there are
no numbers. -/
theorem stale_iff_superseded (config : Config) (analyzer : AnalyzerIssues)
    (workspace : Option String) (compilerName analyzerName : String)
    (events : List SessionEvent) :
    let start := ofPublisher (.initial config analyzer workspace compilerName analyzerName)
    let s := start.after events
    let h := start.history events
    (∀ token run r, s.run? token = some run →
      ∃ report, s.occurrence (.runEnds token (.returned r)) =
          .ended run (.returned r) (.reported report) ∧
        (report.stale = true ↔ config.overlapPolicy = .latestStarted ∧ Superseded h run) ∧
        (report.stale = true →
          (s.next (.runEnds token (.returned r))).publisher.compilerShown =
              s.publisher.compilerShown ∧
            (s.next (.runEnds token (.returned r))).publisher.analyzerShown =
              s.publisher.analyzerShown)) ∧
    (∀ location token, s.publisher.running.get? location = some token ↔
      ∃ run ∈ s.inFlight, run.token = token ∧ .saved location (.waiting run) ∈ h ∧
        ∀ run', .saved location (.waiting run') ∈ h → run'.token ≤ token) ∧
    (s.inFlight = [] → s.publisher.running.entries = []) := by
  intro start s h
  have ledger : Ledger h s := ledger_after _ events
  have book : Bookkeeping h s := bookkeeping_after rfl events
  have hconfig : s.publisher.config = config := config_after _ events
  refine ⟨?_, ?_, ?_⟩
  · intro token run r hrun
    obtain ⟨report, hends, hstale, hkept⟩ :=
      exists_report_of_returned (freshReports_after _ events) hrun r
    refine ⟨report, hends, ?_, hkept⟩
    rw [hstale, Publisher.discards, hconfig,
      book.overtaken_iff ledger (run?_eq_some hrun).1]
  · intro location token
    rw [book location token]
    simp only [ledger.saved_mem_iff]
    constructor
    · rintro ⟨run, hrun, hlocation, htoken, hmax⟩
      exact ⟨run, hrun, htoken, ⟨ledger.known run hrun, hlocation⟩,
        fun run' hrun' => hmax run' hrun'.1 hrun'.2⟩
    · rintro ⟨run, hrun, htoken, ⟨-, hlocation⟩, hmax⟩
      exact ⟨run, hrun, hlocation, htoken, fun run' hrun' hlocation' =>
        hmax run' ⟨hrun', hlocation'⟩⟩
  · intro hflight
    refine (Register.entries_eq_nil_iff _).2 fun location => ?_
    refine Option.eq_none_iff_forall_ne_some.2 fun token hget => ?_
    obtain ⟨run, hrun, -⟩ := (book location token).1 hget
    rw [hflight] at hrun
    exact List.not_mem_nil hrun

end Session

end ElmOnSave
