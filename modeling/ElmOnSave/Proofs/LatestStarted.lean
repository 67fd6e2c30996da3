import ElmOnSave.Proofs.LastResolved
import ElmOnSave.Proofs.Supersession

/-!
# Overlapping runs of which only the latest counts

Under the policy `latestStarted` a run that was superseded is thrown away when it returns, so the
order in which runs end should not matter.  `shown_eq_startedLast` says so for a file on which no
run of another file reports: once no run is in flight, the file shows what the run found that
started last for it, and nothing if that run did not return or did not name the file.

Two facts carry the argument.  What is published for the file is published by a run of the file that
no other run has superseded (`published_iff_not_superseded`); from the last start on, only one run
is such (`StartedLast.ended_of_publishes`).  And whatever was published before the last start was
cleared by it (`StartedLast.publishes_cases`).
-/

namespace ElmOnSave

namespace RunEnd

/-- The records that the end of a run leaves for a file: what the run found, and nothing if it did
not return. -/
def recordsAt (file : String) : RunEnd → List EditorRecord
  | returned r => r.recordsAt file
  | failed _ | cancelled => []

lemma recordsAt_eq_nil_iff (file : String) (how : RunEnd) :
    how.recordsAt file = [] ↔ ¬ ∃ r, how = .returned r ∧ r.Names file := by
  cases how with
  | returned r => simp [recordsAt, RunResult.recordsAt_eq_nil_iff]
  | failed | cancelled => simp [recordsAt]

end RunEnd

/-- Of all runs of a file, `run` started last: `pre` happened before, and `post` since. -/
structure StartedLast (file : String) (h pre : List Occurrence) (run : PendingRun)
    (post : List Occurrence) : Prop where
  split : h = pre ++ .saved file (.waiting run) :: post
  last : ∀ q ∈ post, ∀ run', q ≠ .saved file (.waiting run')

namespace Occurrence

/-- A run of another file reports on a file. -/
def IsForeign (file : String) : Occurrence → Prop
  | ended run (.returned r) _ => run.location ≠ file ∧ r.Names file
  | _ => False

instance (file : String) : DecidablePred (IsForeign file)
  | ended run (.returned r) _ =>
    inferInstanceAs (Decidable (run.location ≠ file ∧
      ∃ d ∈ r.diagnostics, issuePath d.file (some r.projectRoot.text) = file))
  | ended _ (.failed _) _ | ended _ .cancelled _ | saved .. | analyzed _ | missed _ =>
    .isFalse not_false

lemma exists_ended_of_published {o : Occurrence} {r : RunResult}
    (h : o.published? = some r) : ∃ run save, o = .ended run (.returned r) save := by
  cases o with
  | ended run how save =>
    cases how with
    | returned r' =>
      cases save with
      | reported report =>
        simp only [published?] at h
        split at h
        · cases h
        · cases h
          exact ⟨run, _, rfl⟩
      | raised | cancelled => cases h
    | failed | cancelled => cases h
  | saved | analyzed | missed => cases h

end Occurrence

/-- Under `latestStarted` a run that returns is published exactly if it was not superseded. -/
lemma Session.published_iff_not_superseded {p : Publisher} {events : List SessionEvent}
    (policy : p.config.overlapPolicy = .latestStarted) (idle : p.running.entries = [])
    {pre post : List Occurrence} {run : PendingRun} {r : RunResult} {save : SaveEnd}
    (split : (ofPublisher p).history events = pre ++ .ended run (.returned r) save :: post) :
    (Occurrence.ended run (.returned r) save).published? = some r ↔ ¬ Superseded pre run := by
  obtain ⟨es, rfl, inFlight, rfl⟩ := exists_inFlight_of_ended split
  have hover := (bookkeeping_after idle es).overtaken_iff (ledger_after p es) inFlight
  have hfresh := freshReports_after p es run inFlight
  by_cases hd : ((ofPublisher p).after es).publisher.discards run
  · rw [Publisher.endRun_returned_of_discards _ _ hd]
    exact iff_of_false (by simp [Occurrence.published?]) (not_not_intro (hover.1 hd.2))
  · rw [Publisher.endRun_returned_of_not_discards _ _ hd]
    refine iff_of_true (by simp [Occurrence.published?, hfresh]) fun hsuperseded => hd ?_
    exact ⟨by rw [config_after, policy], hover.2 hsuperseded⟩

namespace StartedLast

open Session

variable {p : Publisher} {events : List SessionEvent} {file : String}
  {pre post : List Occurrence} {run : PendingRun}

/-- A run that started before the last one is superseded from then on. -/
lemma superseded (start : StartedLast file ((ofPublisher p).history events) pre run post)
    {run' : PendingRun} (hrun' : run' ∈ startedRuns pre) (hfile : run'.location = file)
    (mid : List Occurrence) :
    Superseded (pre ++ .saved file (.waiting run) :: mid) run' := by
  obtain ⟨location, hmem⟩ := mem_startedRuns_iff.1 hrun'
  have hlocation : run'.location = location :=
    (ledger_after p events).located location run' (by simp [start.split, hmem])
  rw [← hlocation, hfile] at hmem
  obtain ⟨pre₁, pre₂, hpre⟩ := List.append_of_mem hmem
  exact ⟨pre₁, pre₂, mid, run, by simp [hpre, hfile]⟩

/-- The run that started last is never superseded. -/
lemma not_superseded (start : StartedLast file ((ofPublisher p).history events) pre run post)
    {mid rest : List Occurrence} (hpost : post = mid ++ rest) :
    ¬ Superseded (pre ++ .saved file (.waiting run) :: mid) run := by
  rintro ⟨pre', mid', post', run', split'⟩
  have ledger := ledger_after p events
  have hfile : run.location = file := ledger.located file run (by simp [start.split])
  rw [hfile] at split'
  rcases append_cons_cases split' with ⟨-, -, hmid⟩ | ⟨m, -, hmid⟩ | ⟨m, hpre, -⟩
  · exact start.last _ (by simp [hpost, hmid]) run' rfl
  · exact start.last _ (by simp [hpost, hmid]) run rfl
  -- The run would have started twice, with one number.
  · have hsplit : (ofPublisher p).history events =
        pre' ++ .saved file (.waiting run) :: (m ++ .saved file (.waiting run) :: post) := by
      simp [start.split, hpre]
    have hlt : run.token < run.token :=
      ledger.token_lt_token hsplit (mem_startedRuns_iff.2 ⟨file, by simp⟩)
    exact Nat.lt_irrefl _ hlt

section Published

variable (start : StartedLast file ((ofPublisher p).history events) pre run post)
  (policy : p.config.overlapPolicy = .latestStarted) (idle : p.running.entries = [])
  (others : ∀ o ∈ (ofPublisher p).history events, ¬ o.IsForeign file)

include start policy idle others

/-- From the last start on, nothing is published for the file but the run that started last. -/
lemma ended_of_publishes {mid rest : List Occurrence} {o : Occurrence}
    (hpost : post = mid ++ o :: rest) (hpub : o.Publishes file) :
    ∃ r save, o = .ended run (.returned r) save ∧ r.Names file := by
  obtain ⟨r, hresult, hnames⟩ := hpub
  obtain ⟨run', save, rfl⟩ := Occurrence.exists_ended_of_published hresult
  have split : (ofPublisher p).history events =
      (pre ++ .saved file (.waiting run) :: mid) ++ .ended run' (.returned r) save :: rest := by
    simp [start.split, hpost]
  have hfile : run'.location = file := by
    by_contra hne
    exact others (.ended run' (.returned r) save) (by simp [split]) ⟨hne, hnames⟩
  have hcurrent := (published_iff_not_superseded policy idle split).1 hresult
  suffices hsame : run' = run from ⟨r, save, by rw [hsame], hnames⟩
  have hstarted : run' ∈ startedRuns (pre ++ .saved file (.waiting run) :: mid) := by
    obtain ⟨es, hpre, inFlight, -⟩ := exists_inFlight_of_ended split
    rw [← hpre]
    exact (ledger_after p es).known run' inFlight
  -- A run of the file that ends after the last start started before it, or is the last one.
  rw [startedRuns_append, List.mem_append] at hstarted
  rcases hstarted with hstarted | hstarted
  · exact absurd (start.superseded hstarted hfile mid) hcurrent
  · obtain ⟨location, hmem⟩ := mem_startedRuns_iff.1 hstarted
    rcases List.mem_cons.1 hmem with heq | hmem
    · cases heq
      rfl
    · have hlocation : run'.location = location :=
        (ledger_after p events).located location run' (by simp [split, hmem])
      rw [← hlocation, hfile] at hmem
      exact absurd rfl (start.last _ (by simp [hpost, hmem]) run')

/-- What is published for the file is cleared later, unless the run that started last found it. -/
lemma publishes_cases {pre' post' : List Occurrence} {o : Occurrence}
    (split' : (ofPublisher p).history events = pre' ++ o :: post') (hpub : o.Publishes file) :
    (∃ q ∈ post', q.isSaveOf file = true) ∨
      ∃ r save, o = .ended run (.returned r) save ∧ r.Names file := by
  rcases append_cons_cases (start.split.symm.trans split') with
    ⟨-, rfl, -⟩ | ⟨m, -, hm⟩ | ⟨m, -, hm⟩
  · obtain ⟨r, hresult, -⟩ := hpub
    cases hresult
  · exact .inr (start.ended_of_publishes policy idle others hm hpub)
  · exact .inl ⟨.saved file (.waiting run), by simp [hm], by simp [Occurrence.isSaveOf]⟩

end Published

/-- Once no run is in flight, the run that started last has ended. -/
lemma exists_ended (start : StartedLast file ((ofPublisher p).history events) pre run post)
    (settled : ((ofPublisher p).after events).inFlight = []) :
    ∃ mid how save rest, post = mid ++ .ended run how save :: rest := by
  by_contra hnone
  have hkept : run ∈ ((ofPublisher p).after events).inFlight := by
    refine (ledger_after p events).kept pre file run post start.split ?_
    rintro q hq ⟨how, save, rfl⟩
    obtain ⟨mid, rest, hpost⟩ := List.append_of_mem hq
    exact hnone ⟨mid, how, save, rest, hpost⟩
  rw [settled] at hkept
  exact List.not_mem_nil hkept

end StartedLast

namespace Session

/-- **The run that started last has the last word.**  Only the latest run of a file counts, no run
of another file reports on the file, and no run is in flight.  Then the run of the file that started
last has ended, and what is shown for the file is what it found, in whatever order the runs ended.
A save of the file whose project cannot be looked up starts no run; it clears the file all the
same, so after such a save nothing is shown. -/
theorem shown_eq_startedLast {p : Publisher} {events : List SessionEvent} {file : String}
    (policy : p.config.overlapPolicy = .latestStarted) (idle : p.running.entries = [])
    (settled : ((ofPublisher p).after events).inFlight = [])
    (others : ∀ o ∈ (ofPublisher p).history events, ¬ o.IsForeign file)
    {pre post : List Occurrence} {run : PendingRun}
    (start : StartedLast file ((ofPublisher p).history events) pre run post) :
    ∃ mid how save rest, post = mid ++ .ended run how save :: rest ∧
      ((ofPublisher p).after events).publisher.compilerShown.get file =
        if rest.any (·.isSaveOf file) then [] else how.recordsAt file := by
  obtain ⟨mid, how, save, rest, hpost⟩ := start.exists_ended settled
  refine ⟨mid, how, save, rest, hpost, ?_⟩
  have split : (ofPublisher p).history events =
      (pre ++ .saved file (.waiting run) :: mid) ++ .ended run how save :: rest := by
    simp [start.split, hpost]
  have lw := lastWriter_after p events file
  have hnil := lw.eq_nil_iff
    (.inr ⟨.saved file (.waiting run), by simp [start.split], by simp [Occurrence.isSaveOf]⟩)
  by_cases hsaved : rest.any (·.isSaveOf file) = true
  · rw [if_pos hsaved, hnil]
    intro pre' o post' split' hpub
    rcases start.publishes_cases policy idle others split' hpub with hsave | ⟨r, save', rfl, -⟩
    · exact hsave
    · obtain ⟨-, rfl⟩ := ended_once split split'
      exact List.any_eq_true.1 hsaved
  rw [if_neg hsaved]
  by_cases hnames : ∃ r, how = .returned r ∧ r.Names file
  · obtain ⟨r, rfl, hnames⟩ := hnames
    have hresult := (published_iff_not_superseded policy idle split).2 (start.not_superseded hpost)
    refine lw.eq_recordsAt split hresult hnames fun q hq => ⟨?_, fun hpub => ?_⟩
    · by_contra hsave
      exact hsaved (List.any_eq_true.2 ⟨q, hq, by simpa using hsave⟩)
    · obtain ⟨rest₁, rest₂, rfl⟩ := List.append_of_mem hq
      have hcut : post = (mid ++ .ended run (.returned r) save :: rest₁) ++ q :: rest₂ := by
        simp [hpost]
      obtain ⟨r', save', rfl, -⟩ := start.ended_of_publishes policy idle others hcut hpub
      exact not_ends_after_ended split _ hq ⟨_, save', rfl⟩
  · rw [(how.recordsAt_eq_nil_iff file).2 hnames, hnil]
    intro pre' o post' split' hpub
    rcases start.publishes_cases policy idle others split' hpub with hsave | ⟨r, save', rfl, hr⟩
    · exact hsave
    · exact absurd ⟨r, (ended_once split split').1, hr⟩ hnames

/-! ## Two runs of one file -/

deriving instance DecidableEq for PublishReport, PendingRun, RunResult, RunEnd, SaveStart, SaveEnd,
  Occurrence

/-- A publisher for which only the latest run of a file counts. -/
def latestOnly : Publisher :=
  .initial { Config.standard with overlapPolicy := .latestStarted } ⟨[]⟩ none "compiler" "analyzer"

/-- Two saves of one file begin, and the run of the second one ends before that of the first. -/
def endingInReverse (first second : RunResult) : List SessionEvent :=
  let machine : Machine := ⟨⟨[]⟩, "/", [], []⟩
  let document : SavedDocument := ⟨"/Main.elm", "elm", "file"⟩
  [.save machine document, .save machine document, .runEnds 2 (.returned second),
    .runEnds 1 (.returned first)]

/-- The first of two runs, though it ends last, does not replace what the second one found. -/
theorem first_run_is_discarded :
    let first := runYielding [.ofProject "FIRST" "" "/Main.elm"]
    let second := runYielding [.ofProject "SECOND" "" "/Main.elm"]
    let h := (ofPublisher latestOnly).history (endingInReverse first second)
    let s := (ofPublisher latestOnly).after (endingInReverse first second)
    latestOnly.config.overlapPolicy = .latestStarted ∧ latestOnly.running.entries = [] ∧
      s.inFlight = [] ∧ (∀ o ∈ h, ¬ o.IsForeign "/Main.elm") ∧
      StartedLast "/Main.elm" h (h.take 1) ⟨"/Main.elm", 2, .initial "/Main.elm"⟩ (h.drop 2) ∧
      s.publisher.compilerShown.get "/Main.elm" = second.recordsAt "/Main.elm" := by
  intro first second h s
  have settled : s.inFlight = [] := by decide +kernel
  have others : ∀ o ∈ h, ¬ o.IsForeign "/Main.elm" := by decide +kernel
  have start : StartedLast "/Main.elm" h (h.take 1) ⟨"/Main.elm", 2, .initial "/Main.elm"⟩
      (h.drop 2) := by
    have hsaves : ∀ q ∈ h.drop 2, q.isSaveOf "/Main.elm" = false := by decide +kernel
    refine ⟨by decide +kernel, ?_⟩
    rintro q hq run rfl
    simpa [Occurrence.isSaveOf] using hsaves _ hq
  refine ⟨rfl, rfl, settled, others, start, ?_⟩
  obtain ⟨mid, how, save, rest, hpost, hshown⟩ :=
    shown_eq_startedLast rfl rfl settled others start
  have hend : h = h.take 2 ++ .ended ⟨"/Main.elm", 2, .initial "/Main.elm"⟩ (.returned second)
      (.reported { PublishReport.initial "/Main.elm" with compilerFiles := [("/Main.elm", 1)] }) ::
        h.drop 3 := by decide +kernel
  have hend' : h = (h.take 1 ++ .saved "/Main.elm"
      (.waiting ⟨"/Main.elm", 2, .initial "/Main.elm"⟩) :: mid) ++
        .ended ⟨"/Main.elm", 2, .initial "/Main.elm"⟩ how save :: rest := by
    rw [List.append_assoc, List.cons_append, ← hpost]
    exact start.split
  obtain ⟨rfl, rfl⟩ := ended_once hend hend'
  rw [hshown]
  decide +kernel

end Session

end ElmOnSave
