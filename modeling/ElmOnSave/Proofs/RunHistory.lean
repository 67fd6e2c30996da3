import ElmOnSave.Proofs.SessionStep
import ElmOnSave.Proofs.Splitting

/-!
# The runs of a history

A run starts when a save leaves it waiting and is over when it ends, and both can be read off the
history.  `Ledger h s` ties the two together with the session: the numbers of the runs started in `h`
increase and lie below the next number, so that a number belongs to one run only
(`Ledger.eq_of_token_eq`); a run that started and did not end is in flight (`kept`), a run in flight
has started (`known`), and a run that ended has started and is in flight no more (`finished`).
`ledger_after` says that this holds along every course of events of a session that begins without
runs in flight, and `ended_once` that a run ends only once.
-/

namespace ElmOnSave

/-- The runs that started, the first one first. -/
def startedRuns (h : List Occurrence) : List PendingRun :=
  h.filterMap Occurrence.started?

lemma startedRuns_append (h h' : List Occurrence) :
    startedRuns (h ++ h') = startedRuns h ++ startedRuns h' :=
  List.filterMap_append

lemma startedRuns_concat_of_none (h : List Occurrence) {o : Occurrence} (ho : o.started? = none) :
    startedRuns (h ++ [o]) = startedRuns h := by
  rw [startedRuns_append, startedRuns, startedRuns, List.filterMap_cons_none ho,
    List.filterMap_nil, List.append_nil]

lemma startedRuns_concat_waiting (h : List Occurrence) (location : String) (run : PendingRun) :
    startedRuns (h ++ [.saved location (.waiting run)]) = startedRuns h ++ [run] :=
  startedRuns_append h [.saved location (.waiting run)]

lemma mem_startedRuns_iff {h : List Occurrence} {run : PendingRun} :
    run ∈ startedRuns h ↔ ∃ location, .saved location (.waiting run) ∈ h := by
  rw [startedRuns, List.mem_filterMap]
  constructor
  · rintro ⟨o, ho, hrun⟩
    cases o with
    | saved location start =>
      cases start with
      | waiting run' =>
        cases hrun
        exact ⟨location, ho⟩
      | skipped | raised => cases hrun
    | ended | analyzed | missed => cases hrun
  · rintro ⟨location, ho⟩
    exact ⟨_, ho, rfl⟩

/-- Whether an occurrence is the end of a run. -/
def Occurrence.Ends (run : PendingRun) (o : Occurrence) : Prop :=
  ∃ how save, o = .ended run how save

/-- What a history and the session it leads to have to do with each other. -/
structure Ledger (h : List Occurrence) (s : Session) : Prop where
  /-- The numbers that were given are below the next one. -/
  below : ∀ run ∈ startedRuns h, run.token < s.publisher.nextToken
  /-- The numbers were given in increasing order. -/
  increasing : (startedRuns h).Pairwise fun run run' => run.token < run'.token
  /-- A run belongs to the file whose save started it. -/
  located : ∀ location run, .saved location (.waiting run) ∈ h → run.location = location
  /-- A run in flight has started. -/
  known : ∀ run ∈ s.inFlight, run ∈ startedRuns h
  /-- A run that started and has not ended since is in flight. -/
  kept : ∀ pre location run post, h = pre ++ .saved location (.waiting run) :: post →
    (∀ q ∈ post, ¬ q.Ends run) → run ∈ s.inFlight
  /-- A run that ended has started, and is in flight no more. -/
  finished : ∀ run, ∀ o ∈ h, o.Ends run → run ∈ startedRuns h ∧ run ∉ s.inFlight

namespace Ledger

variable {h : List Occurrence} {s t : Session}

/-- A number belongs to one run only. -/
lemma eq_of_token_eq (ledger : Ledger h s) {run run' : PendingRun} (hrun : run ∈ startedRuns h)
    (hrun' : run' ∈ startedRuns h) (htoken : run.token = run'.token) : run = run' := by
  obtain ⟨i, hi, rfl⟩ := List.getElem_of_mem hrun
  obtain ⟨j, hj, rfl⟩ := List.getElem_of_mem hrun'
  have hlt := List.pairwise_iff_getElem.1 ledger.increasing
  rcases Nat.lt_trichotomy i j with hij | rfl | hij
  · exact absurd htoken (Nat.ne_of_lt (hlt i j hi hj hij))
  · rfl
  · exact absurd htoken.symm (Nat.ne_of_lt (hlt j i hj hi hij))

/-- The number of a starting run is new. -/
lemma token_ne_nextToken (ledger : Ledger h s) {run : PendingRun} (hrun : run ∈ startedRuns h) :
    run.token ≠ s.publisher.nextToken :=
  Nat.ne_of_lt (ledger.below run hrun)

/-- A step that starts no run and ends none keeps the ledger, if the numbers do not go back. -/
lemma concat_quiet (ledger : Ledger h s) {o : Occurrence} (hstart : o.started? = none)
    (hend : ∀ run, ¬ o.Ends run) (hnext : s.publisher.nextToken ≤ t.publisher.nextToken)
    (hflight : t.inFlight = s.inFlight) : Ledger (h ++ [o]) t := by
  have hstarts := startedRuns_concat_of_none h hstart
  refine ⟨?below, ?increasing, ?located, ?known, ?kept, ?finished⟩
  case below =>
    intro run hrun
    rw [hstarts] at hrun
    exact Nat.lt_of_lt_of_le (ledger.below run hrun) hnext
  case increasing =>
    rw [hstarts]
    exact ledger.increasing
  case located =>
    intro location run hmem
    rcases List.mem_append.1 hmem with hmem | hmem
    · exact ledger.located location run hmem
    · rw [← List.mem_singleton.1 hmem] at hstart
      cases hstart
  case known =>
    intro run hrun
    rw [hflight] at hrun
    rw [hstarts]
    exact ledger.known run hrun
  case kept =>
    intro pre location run post split hpost
    rw [hflight]
    rcases concat_eq_append_cons split with ⟨-, rfl, -⟩ | ⟨post', split', rfl⟩
    · cases hstart
    · exact ledger.kept pre location run post' split'
        fun q hq => hpost q (List.mem_append_left _ hq)
  case finished =>
    intro run q hq hends
    rw [hstarts, hflight]
    rcases List.mem_append.1 hq with hq | hq
    · exact ledger.finished run q hq hends
    · rw [List.mem_singleton.1 hq] at hends
      exact absurd hends (hend run)

/-- The ledger after a run started. -/
lemma concat_started (ledger : Ledger h s) (location : String) (root : Option String) :
    Ledger (h ++ [.saved location (.waiting (s.publisher.beginRun location root).2)])
      ⟨(s.publisher.beginRun location root).1,
        (s.publisher.beginRun location root).2 :: s.inFlight⟩ := by
  have hstarts := startedRuns_concat_waiting h location (s.publisher.beginRun location root).2
  refine ⟨?below, ?increasing, ?located, ?known, ?kept, ?finished⟩
  case below =>
    intro run hrun
    rw [hstarts] at hrun
    rw [Publisher.beginRun_nextToken]
    rcases List.mem_append.1 hrun with hrun | hrun
    · exact Nat.lt_succ_of_lt (ledger.below run hrun)
    · rw [List.mem_singleton.1 hrun, Publisher.beginRun_token]
      exact Nat.lt_succ_self _
  case increasing =>
    rw [hstarts, List.pairwise_append]
    refine ⟨ledger.increasing, List.pairwise_singleton _ _, ?_⟩
    intro run hrun run' hrun'
    rw [List.mem_singleton.1 hrun', Publisher.beginRun_token]
    exact ledger.below run hrun
  case located =>
    intro location' run hmem
    rcases List.mem_append.1 hmem with hmem | hmem
    · exact ledger.located location' run hmem
    · cases List.mem_singleton.1 hmem
      rfl
  case known =>
    intro run hrun
    rw [hstarts]
    rcases List.mem_cons.1 hrun with rfl | hrun
    · exact List.mem_append_right _ (List.mem_singleton_self _)
    · exact List.mem_append_left _ (ledger.known run hrun)
  case kept =>
    intro pre location' run post split hpost
    rcases concat_eq_append_cons split with ⟨-, heq, -⟩ | ⟨post', split', rfl⟩
    · cases heq
      exact List.mem_cons_self
    · exact List.mem_cons_of_mem _ (ledger.kept pre location' run post' split'
        fun q hq => hpost q (List.mem_append_left _ hq))
  case finished =>
    intro run q hq hends
    rw [hstarts]
    rcases List.mem_append.1 hq with hq | hq
    · obtain ⟨hstarted, hover⟩ := ledger.finished run q hq hends
      refine ⟨List.mem_append_left _ hstarted, fun hmem => ?_⟩
      rcases List.mem_cons.1 hmem with heq | hmem
      · refine ledger.token_ne_nextToken hstarted ?_
        rw [heq, Publisher.beginRun_token]
      · exact hover hmem
    · rw [List.mem_singleton.1 hq] at hends
      obtain ⟨how, save, heq⟩ := hends
      cases heq

/-- The ledger after a run in flight ended. -/
lemma concat_ended (ledger : Ledger h s) {run : PendingRun} {how : RunEnd} {save : SaveEnd}
    (inFlight : run ∈ s.inFlight) (hnext : s.publisher.nextToken ≤ t.publisher.nextToken)
    (hflight : t.inFlight = s.inFlight.filter fun r => r.token != run.token) :
    Ledger (h ++ [.ended run how save]) t := by
  have hstarts : startedRuns (h ++ [.ended run how save]) = startedRuns h :=
    startedRuns_concat_of_none h rfl
  have hmem : ∀ r, r ∈ t.inFlight ↔ r ∈ s.inFlight ∧ r.token ≠ run.token := by
    intro r
    rw [hflight, List.mem_filter, bne_iff_ne]
  refine ⟨?below, ?increasing, ?located, ?known, ?kept, ?finished⟩
  case below =>
    intro r hr
    rw [hstarts] at hr
    exact Nat.lt_of_lt_of_le (ledger.below r hr) hnext
  case increasing =>
    rw [hstarts]
    exact ledger.increasing
  case located =>
    intro location r hr
    rcases List.mem_append.1 hr with hr | hr
    · exact ledger.located location r hr
    · cases List.mem_singleton.1 hr
  case known =>
    intro r hr
    rw [hstarts]
    exact ledger.known r ((hmem r).1 hr).1
  case kept =>
    intro pre location r post split hpost
    rcases concat_eq_append_cons split with ⟨-, heq, -⟩ | ⟨post', split', rfl⟩
    · cases heq
    · have hr := ledger.kept pre location r post' split'
        fun q hq => hpost q (List.mem_append_left _ hq)
      refine (hmem r).2 ⟨hr, fun htoken => ?_⟩
      -- A run with the number of the ending run is this run, and it ends here.
      obtain rfl := ledger.eq_of_token_eq (ledger.known r hr) (ledger.known run inFlight) htoken
      exact hpost _ (List.mem_append_right _ (List.mem_singleton_self _)) ⟨how, save, rfl⟩
  case finished =>
    intro r q hq hends
    rw [hstarts]
    rcases List.mem_append.1 hq with hq | hq
    · obtain ⟨hstarted, hover⟩ := ledger.finished r q hq hends
      exact ⟨hstarted, fun hr => hover ((hmem r).1 hr).1⟩
    · rw [List.mem_singleton.1 hq] at hends
      obtain ⟨how', save', heq⟩ := hends
      cases heq
      exact ⟨ledger.known run inFlight, fun hr => ((hmem run).1 hr).2 rfl⟩

lemma step (ledger : Ledger h s) {o : Occurrence} (step : Session.Step s o t) :
    Ledger (h ++ [o]) t := by
  cases step with
  | started location root => exact ledger.concat_started location root
  | ended run how inFlight =>
    have hnext := s.publisher.endRun_nextToken run how
    exact ledger.concat_ended inFlight (Nat.le_of_eq hnext.symm) rfl
  | skipped | raised | analyzed | missed =>
    refine ledger.concat_quiet rfl ?_ (Nat.le_refl _) rfl
    rintro run ⟨how, save, heq⟩
    cases heq

end Ledger

namespace Session

/-- Every course of events keeps the ledger. -/
theorem ledger_after (p : Publisher) (events : List SessionEvent) :
    Ledger ((ofPublisher p).history events) ((ofPublisher p).after events) := by
  have hstart : Ledger [] (ofPublisher p) :=
    { below := fun _ hrun => (List.not_mem_nil hrun).elim
      increasing := .nil
      located := fun _ _ hmem => (List.not_mem_nil hmem).elim
      known := fun _ hrun => (List.not_mem_nil hrun).elim
      kept := fun _ _ _ _ split => (List.append_ne_nil_of_right_ne_nil _
        (List.cons_ne_nil _ _) split.symm).elim
      finished := fun _ _ ho => (List.not_mem_nil ho).elim }
  exact history_induction (P := Ledger) hstart (fun h t o u ledger step => ledger.step step) events

/-! ## The end of a run -/

/-- An occurrence of a history is what an event came to in the session before it. -/
theorem exists_events_of_history {s : Session} {events : List SessionEvent}
    {pre post : List Occurrence} {o : Occurrence} (split : s.history events = pre ++ o :: post) :
    ∃ es e fs, events = es ++ e :: fs ∧ s.history es = pre ∧ (s.after es).occurrence e = o := by
  induction events generalizing s pre with
  | nil => simp at split
  | cons d ds ih =>
    cases pre with
    | nil => exact ⟨[], d, ds, rfl, rfl, (List.cons.inj split).1⟩
    | cons q pre =>
      obtain ⟨hq, htail⟩ := List.cons.inj split
      obtain ⟨es, e, fs, rfl, hpre, ho⟩ := ih htail
      exact ⟨d :: es, e, fs, rfl, by rw [history, hq, hpre], ho⟩

/-- A run that ends was in flight, and its save comes to what the publisher says. -/
lemma exists_inFlight_of_ended {s : Session} {events : List SessionEvent}
    {pre post : List Occurrence} {run : PendingRun} {how : RunEnd} {save : SaveEnd}
    (split : s.history events = pre ++ .ended run how save :: post) :
    ∃ es, s.history es = pre ∧ run ∈ (s.after es).inFlight ∧
      save = ((s.after es).publisher.endRun run how).2 := by
  obtain ⟨es, e, fs, -, hpre, ho⟩ := exists_events_of_history split
  have step := step_next (s.after es) e
  rw [ho] at step
  generalize (s.after es).next e = t at step
  cases step with
  | ended _ _ inFlight => exact ⟨es, hpre, inFlight, rfl⟩

section Ended

variable {p : Publisher} {events : List SessionEvent} {pre pre' post post' : List Occurrence}
  {run : PendingRun} {how how' : RunEnd} {save save' : SaveEnd}

lemma not_ends_after_ended
    (split : (ofPublisher p).history events = pre ++ .ended run how save :: post) :
    ∀ q ∈ post, ¬ q.Ends run := by
  rintro q hq ⟨how', save', rfl⟩
  obtain ⟨mid, rest, rfl⟩ := List.append_of_mem hq
  have hagain : (ofPublisher p).history events =
      (pre ++ .ended run how save :: mid) ++ .ended run how' save' :: rest := by simp [split]
  obtain ⟨es, hpre, inFlight, -⟩ := exists_inFlight_of_ended hagain
  have ledger := ledger_after p es
  rw [hpre] at ledger
  exact (ledger.finished run _ (by simp) ⟨how, save, rfl⟩).2 inFlight

/-- A run ends only once. -/
theorem ended_once (split : (ofPublisher p).history events = pre ++ .ended run how save :: post)
    (split' : (ofPublisher p).history events = pre' ++ .ended run how' save' :: post') :
    how = how' ∧ post = post' := by
  rcases append_cons_cases (split.symm.trans split') with ⟨-, heq, hpost⟩ | ⟨m, -, hm⟩ | ⟨m, -, hm⟩
  · cases heq
    exact ⟨rfl, hpost⟩
  · exact absurd ⟨how', save', rfl⟩ (not_ends_after_ended split _ (by simp [hm]))
  · exact absurd ⟨how, save, rfl⟩ (not_ends_after_ended split' _ (by simp [hm]))

end Ended

/-! ## Reports of runs in flight -/

/-- Every run in flight has a report that is not stale yet. -/
def FreshReports (s : Session) : Prop :=
  ∀ run ∈ s.inFlight, run.report.stale = false

lemma freshReports_step {s t : Session} {o : Occurrence} (hs : s.FreshReports) (step : Step s o t) :
    t.FreshReports := by
  cases step with
  | started location root =>
    intro run hrun
    rcases List.mem_cons.1 hrun with rfl | hrun
    · exact Publisher.beginRun_stale _ _ _
    · exact hs run hrun
  | ended run how inFlight => exact fun r hr => hs r (List.mem_of_mem_filter hr)
  | skipped | raised | analyzed | missed => exact hs

/-- No course of events lets a run in flight become stale. -/
lemma freshReports_after (p : Publisher) (events : List SessionEvent) :
    ((ofPublisher p).after events).FreshReports :=
  history_induction (P := fun _ t => t.FreshReports)
    (fun _ hrun => (List.not_mem_nil hrun).elim) (fun _ _ _ _ hs step => freshReports_step hs step)
    events

end Session

end ElmOnSave
