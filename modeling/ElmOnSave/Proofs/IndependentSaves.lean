import ElmOnSave.Proofs.AnalyzerRecords
import ElmOnSave.Proofs.LatestStarted
import ElmOnSave.Proofs.WholeSave

/-!
# Independent saves

Saves that have nothing to do with each other may begin and end in any order.  A `PlannedSave` is a
save with the end of its run, a `Moment` is its beginning or that end, and `SideBySide.after` takes
out moments of several saves on one publisher.  An order of moments is `Proper` if nothing happens
twice and no run ends that has not begun.  Such moments are a course of a session
(`SideBySide.exists_session`).

The saves are independent if they are of different files and no run names a file that another one
names or that another save is of (`Apart`).  Then each part of the publisher after some moments is a
matter of which moments these were, and not of their order:

* what the compiler collection shows for a file comes from the one run that names the file and has
  ended, if there is one, and a file that was saved shows nothing else;
* what the analyzer collection shows comes from the first beginning, and later ones repeat it;
* no save is overtaken, because the publisher holds the number of its run until the run ends, so
  every save ends with the report that its own run makes.

`Happened` is this invariant; `Happened.begins` and `Happened.ends` say that a moment keeps it.
`saves_commute` is what follows: orders of the same moments lead to the same records and the same
reports.
-/

namespace ElmOnSave

/-! ## What the end of a run brings -/

namespace RunEnd

/-- Whether a run returns an issue that leads to a file. -/
def Names (file : String) (how : RunEnd) : Prop :=
  ∃ r, how = .returned r ∧ r.Names file

/-- A run names the files for which it leaves records. -/
lemma names_iff {file : String} {how : RunEnd} : how.Names file ↔ how.recordsAt file ≠ [] := by
  rw [Ne, recordsAt_eq_nil_iff, not_not]
  rfl

/-- How a save ends whose run was not overtaken, given its report so far. -/
def completes (report : PublishReport) : RunEnd → SaveEnd
  | .returned r => .reported { report with
      compilerMissing := r.compilerMissing
      compilerFiles := Publisher.groupSizes
        (groupByFile r.diagnostics (some r.projectRoot.text)) }
  | .failed f =>
    if f.isPipeline then .reported { report with error := some f } else .raised f
  | .cancelled => .cancelled

end RunEnd

namespace Publisher

section NotOvertaken

variable {p : Publisher} {run : PendingRun} (latest : p.overtaken run = false) (how : RunEnd)

include latest

lemma not_discards_of_not_overtaken : ¬ p.discards run := by
  intro hdiscards
  rw [discards, latest] at hdiscards
  exact Bool.false_ne_true hdiscards.2

lemma endRun_snd_of_not_overtaken : (p.endRun run how).2 = how.completes run.report := by
  cases how with
  | returned r =>
    rw [endRun_returned_of_not_discards p run (not_discards_of_not_overtaken latest)]
    rfl
  | failed f => rw [endRun_failed]; rfl
  | cancelled => rfl

/-- The end of such a run shows its records, and leaves alone the files it does not name. -/
lemma get?_compilerShown_endRun_of_not_overtaken (file : String) :
    (p.endRun run how).1.compilerShown.get? file =
      if how.recordsAt file = [] then p.compilerShown.get? file else some (how.recordsAt file) := by
  cases how with
  | returned r =>
    rw [endRun_returned_of_not_discards p run (not_discards_of_not_overtaken latest)]
    exact get?_showGroups compilerSource p.compilerShown r.diagnostics _ file
  | failed f =>
    rw [endRun_failed]
    exact congrArg (Collection.get? · file) (release_compilerShown p run)
  | cancelled => exact congrArg (Collection.get? · file) (release_compilerShown p run)

end NotOvertaken

end Publisher

/-! ## Saves side by side -/

/-- A save that is to be made: the document, the machine on which the save begins, and how its run
ends. -/
structure PlannedSave where
  machine : Machine
  document : SavedDocument
  how : RunEnd

/-- The file that is saved. -/
def PlannedSave.location (a : PlannedSave) : String :=
  Path.absText a.machine.cwd a.document.path

/-- A moment of one of several saves. -/
inductive Moment (ι : Type) where
  | begins (i : ι)
  | ends (i : ι)
deriving DecidableEq

/-- Several saves on one publisher: what each has come to at its beginning and at its end. -/
structure SideBySide (ι : Type) where
  publisher : Publisher
  begun : ι → Option SaveStart
  ended : ι → Option SaveEnd

namespace SideBySide

variable {ι : Type} [DecidableEq ι]

/-- No save has begun. -/
def start (p : Publisher) : SideBySide ι :=
  ⟨p, fun _ => none, fun _ => none⟩

/-- A moment of one of the saves.  A run can end only if it has begun. -/
def next (saves : ι → PlannedSave) (s : SideBySide ι) : Moment ι → SideBySide ι
  | .begins i =>
    let (p, start) := s.publisher.beginSave (saves i).machine (saves i).document
    { s with publisher := p, begun := Function.update s.begun i (some start) }
  | .ends i =>
    match s.begun i with
    | some (.waiting run) =>
      let (p, ending) := s.publisher.endRun run (saves i).how
      { s with publisher := p, ended := Function.update s.ended i (some ending) }
    | _ => s

/-- What the moments, one after the other, make of a publisher. -/
def after (saves : ι → PlannedSave) (p : Publisher) (order : List (Moment ι)) : SideBySide ι :=
  order.foldl (next saves) (start p)

lemma after_concat (saves : ι → PlannedSave) (p : Publisher) (order : List (Moment ι))
    (e : Moment ι) : after saves p (order ++ [e]) = (after saves p order).next saves e := by
  rw [after, List.foldl_append]
  rfl

end SideBySide

/-- An order in which saves may begin and end: nothing happens twice, and a run ends after the
beginning of its save. -/
structure Proper {ι : Type} (order : List (Moment ι)) : Prop where
  nodup : order.Nodup
  begun : ∀ i, .ends i ∈ order → [.begins i, .ends i].Sublist order

/-- Two saves of different files, whose runs name different files and neither of them the file of
the other save. -/
structure Apart (a b : PlannedSave) : Prop where
  location : a.location ≠ b.location
  files : ∀ file, a.how.Names file → ¬ b.how.Names file
  spares : ¬ a.how.Names b.location

namespace Proper

variable {ι : Type} {order : List (Moment ι)} {e : Moment ι}

lemma not_mem (h : Proper (order ++ [e])) : e ∉ order := fun hmem =>
  List.disjoint_of_nodup_append h.nodup hmem (List.mem_singleton_self e)

lemma of_concat (h : Proper (order ++ [e])) : Proper order where
  nodup := h.nodup.of_append_left
  begun := by
    intro i hends
    have hne : e ≠ .ends i := fun he => h.not_mem (he ▸ hends)
    have hsub := h.begun i (List.mem_append_left _ hends)
    -- The last moment is not the end of this save, so both of its moments are before it.
    exact (List.sublist_append_iff.1 hsub).elim fun l ⟨r, hlr, hl, hr⟩ => by
      rcases List.sublist_singleton.1 hr with rfl | rfl
      · rwa [hlr, List.append_nil]
      · have hlast := congrArg List.getLast? hlr
        simp at hlast
        exact absurd hlast.symm hne

lemma begins_mem_of_ends_mem (h : Proper order) {i : ι} (hends : .ends i ∈ order) :
    .begins i ∈ order :=
  (h.begun i hends).subset List.mem_cons_self

lemma begins_mem {i : ι} (h : Proper (order ++ [.ends i])) : .begins i ∈ order := by
  have hmem := h.begins_mem_of_ends_mem (List.mem_append_right order (List.mem_singleton_self _))
  simpa using hmem

/-- A save that is only beginning is not over. -/
lemma ends_not_mem {i : ι} (h : Proper (order ++ [.begins i])) : .ends i ∉ order := fun hends =>
  h.not_mem (h.of_concat.begins_mem_of_ends_mem hends)

end Proper

/-! ## Saves side by side in a session -/

namespace Session

/-- A run in flight is found by its number. -/
lemma run?_of_mem {p : Publisher} {events : List SessionEvent} {run : PendingRun}
    (inFlight : run ∈ ((ofPublisher p).after events).inFlight) :
    ((ofPublisher p).after events).run? run.token = some run := by
  have ledger := ledger_after p events
  obtain ⟨found, hfound⟩ := Option.isSome_iff_exists.1
    (List.find?_isSome (p := fun r : PendingRun => r.token == run.token) |>.2
      ⟨run, inFlight, beq_self_eq_true run.token⟩)
  obtain ⟨hmem, htoken⟩ := run?_eq_some hfound
  rw [run?, hfound,
    ledger.eq_of_token_eq (ledger.known found hmem) (ledger.known run inFlight) htoken]

/-- The beginning of a save leaves the runs in flight where they are, and the run it starts is a new
one. -/
lemma next_save {h : List Occurrence} {t : Session} (ledger : Ledger h t) {m : Machine}
    {d : SavedDocument} {q : Publisher} {start : SaveStart}
    (hstart : t.publisher.beginSave m d = (q, start)) :
    (t.next (.save m d)).publisher = q ∧
      (∀ run ∈ t.inFlight, run ∈ (t.next (.save m d)).inFlight) ∧
      ∀ run, start = .waiting run → run ∈ (t.next (.save m d)).inFlight ∧ run ∉ t.inFlight := by
  cases start with
  | skipped | raised =>
    simp only [next, begin, hstart]
    exact ⟨trivial, fun _ h => h, fun _ h => by cases h⟩
  | waiting run =>
    have hnew : run ∉ t.inFlight := by
      intro hmem
      have hstep := step_begin t m d
      rw [begin_of_beginSave hstart] at hstep
      cases hstep with
      | started location root =>
        exact ledger.token_ne_nextToken (ledger.known _ hmem) (Publisher.beginRun_token _ _ _)
    simp only [next, begin, hstart]
    refine ⟨trivial, fun _ h => List.mem_cons_of_mem _ h, ?_⟩
    rintro _ ⟨⟩
    exact ⟨List.mem_cons_self .., hnew⟩

end Session

namespace SideBySide

variable {ι : Type} [DecidableEq ι] {saves : ι → PlannedSave} {p : Publisher}
  {order : List (Moment ι)}

/-- A session in which the moments of an order have come about: its publisher is the same, and the
runs of the saves that have not ended are in flight, one for each. -/
structure RunsIn (order : List (Moment ι)) (s : SideBySide ι) (t : Session) : Prop where
  publisher : t.publisher = s.publisher
  inFlight : ∀ i run, s.begun i = some (.waiting run) → .ends i ∉ order → run ∈ t.inFlight
  single : ∀ i j run, s.begun i = some (.waiting run) → s.begun j = some (.waiting run) →
    .ends i ∉ order → .ends j ∉ order → i = j

lemma RunsIn.begins {s : SideBySide ι} {events : List SessionEvent}
    (runs : RunsIn order s ((Session.ofPublisher p).after events)) (i : ι) :
    RunsIn (order ++ [.begins i]) (s.next saves (.begins i))
      ((Session.ofPublisher p).after (events ++ [.save (saves i).machine (saves i).document])) := by
  have ledger := Session.ledger_after p events
  obtain ⟨hpublisher, inFlight, single⟩ := runs
  rw [Session.after_concat]
  generalize (Session.ofPublisher p).after events = t at *
  cases hstart : t.publisher.beginSave (saves i).machine (saves i).document with
  | mk q start =>
    have hnext : s.next saves (.begins i) =
        ⟨q, Function.update s.begun i (some start), s.ended⟩ := by
      rw [next, ← hpublisher, hstart]
    have hold : ∀ {j : ι}, .ends j ∉ order ++ [.begins i] → .ends j ∉ order := fun h hmem =>
      h (List.mem_append_left _ hmem)
    obtain ⟨hq, hkept, hstarted⟩ := Session.next_save ledger hstart
    rw [hnext]
    have hself : ∀ run, Function.update s.begun i (some start) i = some (.waiting run) →
        start = .waiting run := by
      intro run hrun
      rw [Function.update_self] at hrun
      exact Option.some.inj hrun
    have hother : ∀ j run, j ≠ i → Function.update s.begun i (some start) j =
        some (.waiting run) → s.begun j = some (.waiting run) := by
      intro j run hji hrun
      rwa [Function.update_of_ne hji] at hrun
    -- The new run is nobody else's, because the runs of the others are in flight already.
    have halone : ∀ j run, j ≠ i → Function.update s.begun i (some start) j =
        some (.waiting run) → .ends j ∉ order ++ [.begins i] → start ≠ .waiting run := by
      intro j run hji hrun hends hstarts
      exact (hstarted run hstarts).2 (inFlight j run (hother j run hji hrun) (hold hends))
    refine ⟨hq, fun j run hrun hends => ?_, fun j k run hj hk hends hends' => ?_⟩
    · rcases eq_or_ne j i with rfl | hji
      · exact (hstarted run (hself run hrun)).1
      · exact hkept run (inFlight j run (hother j run hji hrun) (hold hends))
    · rcases eq_or_ne j i with rfl | hji
      · by_contra hjk
        exact halone k run (Ne.symm hjk) hk hends' (hself run hj)
      · rcases eq_or_ne k i with rfl | hki
        · exact absurd (hself run hk) (halone j run hji hj hends)
        · exact single j k run (hother j run hji hj) (hother k run hki hk) (hold hends)
            (hold hends')

lemma RunsIn.ends {s : SideBySide ι} {events : List SessionEvent}
    (runs : RunsIn order s ((Session.ofPublisher p).after events)) {i : ι}
    (running : .ends i ∉ order) : ∃ events',
    RunsIn (order ++ [.ends i]) (s.next saves (.ends i))
      ((Session.ofPublisher p).after events') := by
  have hold : ∀ {j : ι}, .ends j ∉ order ++ [.ends i] → .ends j ∉ order ∧ j ≠ i := by
    intro j h
    simpa [not_or] using h
  by_cases hbegun : ∃ run, s.begun i = some (.waiting run)
  · obtain ⟨run, hrun⟩ := hbegun
    have hmem := runs.inFlight i run hrun running
    have hfound := Session.run?_of_mem hmem
    have ledger := Session.ledger_after p events
    refine ⟨events ++ [.runEnds run.token (saves i).how], ?_⟩
    rw [Session.after_concat]
    obtain ⟨hpublisher, inFlight, single⟩ := runs
    generalize (Session.ofPublisher p).after events = t at *
    have hnext : s.next saves (.ends i) = ⟨(t.publisher.endRun run (saves i).how).1, s.begun,
        Function.update s.ended i (some (t.publisher.endRun run (saves i).how).2)⟩ := by
      simp only [next, hrun, hpublisher]
    have hend : t.next (.runEnds run.token (saves i).how) =
        ⟨(t.publisher.endRun run (saves i).how).1,
          t.inFlight.filter fun r => r.token != run.token⟩ := by
      simp only [Session.next, Session.finish, hfound]
    rw [hnext, hend]
    refine ⟨rfl, fun j run' hrun' hends => ?_, fun j k run' hj hk hends hends' =>
      single j k run' hj hk (hold hends).1 (hold hends').1⟩
    have hmem' := inFlight j run' hrun' (hold hends).1
    refine List.mem_filter.2 ⟨hmem', ?_⟩
    -- Another save that waits has another run, and so another number.
    by_contra htoken
    have hsame : run' = run := ledger.eq_of_token_eq (ledger.known run' hmem')
      (ledger.known run hmem) (by simpa using htoken)
    exact (hold hends).2 (single j i run (hsame ▸ hrun') hrun (hold hends).1 running)
  · have hnext : s.next saves (.ends i) = s := by
      simp only [next]
      split
      · rename_i run hrun
        exact absurd ⟨run, hrun⟩ hbegun
      · rfl
    rw [hnext]
    exact ⟨events, runs.publisher,
      fun j run hrun hends => runs.inFlight j run hrun (hold hends).1,
      fun j k run hj hk hends hends' => runs.single j k run hj hk (hold hends).1 (hold hends').1⟩

/-- **Saves side by side are a course of a session**: whatever their order, there are events that
make the same publisher. -/
theorem exists_session (saves : ι → PlannedSave) (p : Publisher) (proper : Proper order) :
    ∃ events,
      ((Session.ofPublisher p).after events).publisher = (after saves p order).publisher := by
  have hruns : ∃ events, RunsIn order (after saves p order)
      ((Session.ofPublisher p).after events) := by
    induction order using List.reverseRecOn with
    | nil => exact ⟨[], rfl, fun _ _ h => (by cases h), fun _ _ _ h => (by cases h)⟩
    | append_singleton order e ih =>
      obtain ⟨events, runs⟩ := ih proper.of_concat
      rw [after_concat]
      cases e with
      | begins i => exact ⟨_, runs.begins i⟩
      | ends i => exact runs.ends proper.not_mem
  obtain ⟨events, runs⟩ := hruns
  exact ⟨events, runs.publisher⟩

end SideBySide

/-! ## The state by what has happened -/

section Happened

variable {ι : Type} (saves : ι → PlannedSave) (p : Publisher) (root : Option String)
  (order : List (Moment ι))

/-- The files of the saves that have begun. -/
def savedFiles : List String :=
  order.filterMap fun
    | .begins i => some (saves i).location
    | .ends _ => none

/-- What the analyzer collection shows for a file.  Nothing changes before the first save begins;
then a file shows its issues, and one without issues shows nothing if it was saved or if the
collection was published for it before. -/
def issuesShown (file : String) : Option (List EditorRecord) :=
  if savedFiles saves order = [] then p.analyzerShown.get? file
  else if recordsAt analyzerSource p.analyzer.issues root file ≠ [] then
    some (recordsAt analyzerSource p.analyzer.issues root file)
  else if file ∈ p.analyzerFiles ∨ file ∈ savedFiles saves order then none
  else p.analyzerShown.get? file

/-- The report of a save at its beginning. -/
def startReport (location : String) : PublishReport :=
  { PublishReport.initial location with
    analyzerFiles := Publisher.groupSizes (groupByFile p.analyzer.issues root) }

/-- The state of the saves and their publisher, told by what has happened. -/
structure Happened (s : SideBySide ι) : Prop where
  config : s.publisher.config = p.config
  analyzer : s.publisher.analyzer = p.analyzer
  workspace : s.publisher.workspace = p.workspace
  analyzerFiles : s.publisher.analyzerFiles =
    if savedFiles saves order = [] then p.analyzerFiles
    else (groupByFile p.analyzer.issues root).keys
  issues : ∀ file, s.publisher.analyzerShown.get? file = issuesShown saves p root order file
  /-- A file shows the records of the run that names it. -/
  written : ∀ i file, .ends i ∈ order → (saves i).how.recordsAt file ≠ [] →
    s.publisher.compilerShown.get? file = some ((saves i).how.recordsAt file)
  /-- A file that no run names was cleared or is as it was. -/
  unwritten : ∀ file, (∀ i, .ends i ∈ order → (saves i).how.recordsAt file = []) →
    s.publisher.compilerShown.get? file =
      if file ∈ savedFiles saves order then none else p.compilerShown.get? file
  /-- A save that has begun waits for its run, whose number the publisher holds until the end. -/
  begun : ∀ i, .begins i ∈ order → ∃ token,
    s.begun i = some (.waiting ⟨(saves i).location, token, startReport p root (saves i).location⟩) ∧
      (.ends i ∉ order → s.publisher.running.get? (saves i).location = some token)
  /-- A save whose run has ended is what its run makes of its report. -/
  ended : ∀ i, .ends i ∈ order →
    s.ended i = some ((saves i).how.completes (startReport p root (saves i).location))
  waiting : ∀ i, .ends i ∉ order → s.ended i = none

end Happened

lemma savedFiles_concat_begins {ι : Type} (saves : ι → PlannedSave) (order : List (Moment ι))
    (i : ι) : savedFiles saves (order ++ [.begins i]) =
      savedFiles saves order ++ [(saves i).location] := by
  simp [savedFiles]

lemma savedFiles_concat_ends {ι : Type} (saves : ι → PlannedSave) (order : List (Moment ι))
    (i : ι) : savedFiles saves (order ++ [.ends i]) = savedFiles saves order := by
  simp [savedFiles]

namespace Happened

variable {ι : Type} {saves : ι → PlannedSave} {p : Publisher} {root : Option String}
  {order : List (Moment ι)} {s : SideBySide ι}

lemma start : Happened saves p root [] (.start p) where
  config := rfl
  analyzer := rfl
  workspace := rfl
  analyzerFiles := rfl
  issues := fun _ => rfl
  written := fun _ _ hends => (List.not_mem_nil hends).elim
  unwritten := fun _ _ => rfl
  begun := fun _ hbegins => (List.not_mem_nil hbegins).elim
  ended := fun _ hends => (List.not_mem_nil hends).elim
  waiting := fun _ _ => rfl

/-- The state in which a save leaves the others when it begins. -/
lemma next_begins [DecidableEq ι] (happened : Happened saves p root order s) {i : ι}
    (handled : p.handles (saves i).document = true)
    (hroot : p.analyzerRoot (saves i).machine (saves i).location = .ok root) :
    s.next saves (.begins i) =
      ⟨(s.publisher.beginRun (saves i).location root).1,
        Function.update s.begun i
          (some (.waiting (s.publisher.beginRun (saves i).location root).2)), s.ended⟩ := by
  have handled' : s.publisher.handles (saves i).document = true := by
    rw [Publisher.handles, happened.config]
    exact handled
  have hroot' : s.publisher.analyzerRoot (saves i).machine (saves i).location = .ok root := by
    rw [Publisher.analyzerRoot, happened.workspace]
    exact hroot
  have hbegin := Publisher.beginSave_of_root handled' hroot'
  simp only [SideBySide.next, hbegin]
  rfl

/-- A save that waits for its run has not been overtaken.  The end of the run leaves the others as
they are. -/
lemma next_ends [DecidableEq ι] (happened : Happened saves p root order s) {i : ι}
    (proper : Proper (order ++ [.ends i])) :
    ∃ run : PendingRun, run.location = (saves i).location ∧ s.publisher.overtaken run = false ∧
      s.next saves (.ends i) = ⟨(s.publisher.endRun run (saves i).how).1, s.begun,
        Function.update s.ended i
          (some ((saves i).how.completes (startReport p root (saves i).location)))⟩ := by
  obtain ⟨token, hrun, hnumber⟩ := happened.begun i proper.begins_mem
  have latest : s.publisher.overtaken
      ⟨(saves i).location, token, startReport p root (saves i).location⟩ = false := by
    rw [Publisher.overtaken, hnumber proper.not_mem]
    exact bne_self_eq_false _
  refine ⟨_, rfl, latest, ?_⟩
  rw [← Publisher.endRun_snd_of_not_overtaken latest]
  simp only [SideBySide.next, hrun]

/-- What the beginning of a save makes of the analyzer collection. -/
lemma issues_begins (happened : Happened saves p root order s) (i : ι) (file : String) :
    (s.publisher.beginRun (saves i).location root).1.analyzerShown.get? file =
      issuesShown saves p root (order ++ [.begins i]) file := by
  have hpublish := Publisher.get?_analyzerShown_publishAnalyzer
    (s.publisher.clearFile (saves i).location) root file
  have hclear : (s.publisher.clearFile (saves i).location).analyzerShown.get? file =
      if (saves i).location = file then none else issuesShown saves p root order file := by
    rw [Publisher.clearFile, Collection.get?_set, happened.issues]
    simp
  have hkeys : file ∈ (groupByFile p.analyzer.issues root).keys ↔
      recordsAt analyzerSource p.analyzer.issues root file ≠ [] := by
    rw [mem_keys_groupByFile, Ne, Ne, recordsAt_eq_nil_iff]
  have hbegun : (s.publisher.beginRun (saves i).location root).1.analyzerShown.get? file =
      ((s.publisher.clearFile (saves i).location).publishAnalyzer root).1.analyzerShown.get? file :=
    rfl
  have hfiles : (s.publisher.clearFile (saves i).location).analyzerFiles =
      if savedFiles saves order = [] then p.analyzerFiles
      else (groupByFile p.analyzer.issues root).keys := happened.analyzerFiles
  have hissues : (s.publisher.clearFile (saves i).location).analyzer.issues = p.analyzer.issues :=
    congrArg AnalyzerIssues.issues happened.analyzer
  rw [hbegun, hpublish, hclear, hissues, hfiles, issuesShown, issuesShown, savedFiles_concat_begins]
  by_cases hnil : recordsAt analyzerSource p.analyzer.issues root file = []
  · -- A file without issues was saved, is known from before, or is not touched at all.
    by_cases hfirst : savedFiles saves order = []
    · by_cases hfile : (saves i).location = file
      · simp [hnil, hfirst, hfile]
      · simp [hnil, hfirst, hfile, Ne.symm hfile]
    · by_cases hfile : (saves i).location = file
      · simp [hnil, hfirst, hkeys, hfile]
      · simp [hnil, hfirst, hkeys, hfile, Ne.symm hfile]
  · simp [hnil]

section Moments

variable [DecidableEq ι] (happened : Happened saves p root order s)
  (apart : ∀ i j, i ≠ j → Apart (saves i) (saves j)) {i : ι}

include happened apart

/-- The beginning of a save. -/
lemma begins (proper : Proper (order ++ [.begins i]))
    (handled : p.handles (saves i).document = true)
    (hroot : p.analyzerRoot (saves i).machine (saves i).location = .ok root) :
    Happened saves p root (order ++ [.begins i]) (s.next saves (.begins i)) := by
  have hends : ∀ j, .ends j ∈ order ++ [.begins i] ↔ .ends j ∈ order := by simp
  have hcleared : ∀ file,
      (s.publisher.beginRun (saves i).location root).1.compilerShown.get? file =
        if (saves i).location = file then none else s.publisher.compilerShown.get? file := by
    intro file
    rw [Publisher.beginRun_compilerShown, Collection.get?_set]
    simp
  rw [happened.next_begins handled hroot]
  refine ⟨happened.config, happened.analyzer, happened.workspace, ?analyzerFiles,
    happened.issues_begins i, ?written, ?unwritten, ?begun, ?ended, ?waiting⟩
  case analyzerFiles =>
    rw [savedFiles_concat_begins, if_neg (by simp), Publisher.beginRun_analyzerFiles,
      happened.analyzer]
  case written =>
    intro j file hj hrecords
    rw [hends] at hj
    have hne : j ≠ i := by
      rintro rfl
      exact proper.ends_not_mem hj
    have hfile : (saves i).location ≠ file := by
      rintro rfl
      exact (apart j i hne).spares (RunEnd.names_iff.2 hrecords)
    rw [hcleared, if_neg hfile]
    exact happened.written j file hj hrecords
  case unwritten =>
    intro file hnone
    have hold := happened.unwritten file fun j hj => hnone j ((hends j).2 hj)
    rw [hcleared, hold, savedFiles_concat_begins]
    by_cases hfile : (saves i).location = file
    · simp [hfile]
    · simp [hfile, Ne.symm hfile]
  case begun =>
    intro j hj
    by_cases hji : j = i
    · subst hji
      refine ⟨s.publisher.nextToken, ?_, ?_⟩
      · refine (Function.update_self ..).trans ?_
        rw [startReport, ← happened.analyzer]
        rfl
      · intro _
        rw [Publisher.beginRun_running, Register.get?_put, if_pos rfl]
    · have hj' : .begins j ∈ order := by simpa [hji] using hj
      obtain ⟨token, hrun, hnumber⟩ := happened.begun j hj'
      refine ⟨token, ?_, ?_⟩
      · exact (Function.update_of_ne hji ..).trans hrun
      · intro hopen
        rw [hends] at hopen
        rw [Publisher.beginRun_running, Register.get?_put,
          if_neg (apart i j (Ne.symm hji)).location]
        exact hnumber hopen
  case ended => exact fun j hj => happened.ended j ((hends j).1 hj)
  case waiting => exact fun j hj => happened.waiting j fun hmem => hj ((hends j).2 hmem)

/-- The end of a run, which no other save has overtaken. -/
lemma ends (proper : Proper (order ++ [.ends i])) :
    Happened saves p root (order ++ [.ends i]) (s.next saves (.ends i)) := by
  have hbegins : ∀ j, .begins j ∈ order ++ [.ends i] ↔ .begins j ∈ order := by simp
  have hends : ∀ j, .ends j ∈ order ++ [.ends i] ↔ .ends j ∈ order ∨ j = i := by simp
  obtain ⟨run, hlocation, latest, hnext⟩ := happened.next_ends proper
  have hshown := Publisher.get?_compilerShown_endRun_of_not_overtaken latest (saves i).how
  rw [hnext]
  refine ⟨?config, ?analyzer, ?workspace, ?analyzerFiles, ?issues, ?written, ?unwritten, ?begun,
    ?ended, ?waiting⟩
  case config => exact (Publisher.endRun_config ..).trans happened.config
  case analyzer => exact (Publisher.endRun_analyzer ..).trans happened.analyzer
  case workspace => exact (Publisher.endRun_workspace ..).trans happened.workspace
  case analyzerFiles =>
    rw [savedFiles_concat_ends]
    exact (Publisher.endRun_analyzerFiles ..).trans happened.analyzerFiles
  case issues =>
    intro file
    rw [Publisher.endRun_analyzerShown, happened.issues, issuesShown, issuesShown,
      savedFiles_concat_ends]
  case written =>
    intro j file hj hrecords
    rw [hshown]
    by_cases hji : j = i
    · subst hji
      rw [if_neg hrecords]
    · have hnil : (saves i).how.recordsAt file = [] := by
        by_contra hi
        exact (apart i j (Ne.symm hji)).files file (RunEnd.names_iff.2 hi)
          (RunEnd.names_iff.2 hrecords)
      rw [if_pos hnil]
      exact happened.written j file (by simpa [hji] using hj) hrecords
  case unwritten =>
    intro file hnone
    rw [hshown, if_pos (hnone i ((hends i).2 (.inr rfl))), savedFiles_concat_ends]
    exact happened.unwritten file fun j hj => hnone j ((hends j).2 (.inl hj))
  case begun =>
    intro j hj
    obtain ⟨number, hrun', hnumber'⟩ := happened.begun j ((hbegins j).1 hj)
    refine ⟨number, hrun', fun hopen => ?_⟩
    rw [hends, not_or] at hopen
    have hother : run.location ≠ (saves j).location :=
      hlocation ▸ (apart i j (Ne.symm hopen.2)).location
    rw [Publisher.endRun_running, Publisher.get?_running_release, if_neg fun h => hother h.1]
    exact hnumber' hopen.1
  case ended =>
    intro j hj
    by_cases hji : j = i
    · subst hji
      exact Function.update_self ..
    · exact (Function.update_of_ne hji ..).trans (happened.ended j (by simpa [hji] using hj))
  case waiting =>
    intro j hj
    rw [hends, not_or] at hj
    exact (Function.update_of_ne hj.2 ..).trans (happened.waiting j hj.1)

end Moments

end Happened

section Commute

variable {ι : Type} [DecidableEq ι] {saves : ι → PlannedSave} {p : Publisher}
  {root : Option String}
  (handled : ∀ i, p.handles (saves i).document = true)
  (sameRoot : ∀ i, p.analyzerRoot (saves i).machine (saves i).location = .ok root)
  (apart : ∀ i j, i ≠ j → Apart (saves i) (saves j))

include handled sameRoot apart

/-- After every proper order the state is told by what has happened. -/
theorem happened_after {order : List (Moment ι)} (proper : Proper order) :
    Happened saves p root order (SideBySide.after saves p order) := by
  induction order using List.reverseRecOn with
  | nil => exact Happened.start
  | append_singleton order e ih =>
    have happened := ih proper.of_concat
    rw [SideBySide.after_concat]
    cases e with
    | begins i => exact happened.begins apart proper (handled i) (sameRoot i)
    | ends i => exact happened.ends apart proper

/-- **Independent saves commute.**  Any number of saves of different files find the same root, and
no run names a file that another run names or that another save is of.  From every state of the
publisher, all proper orders of the same moments lead to the same records of every file in both
collections, every save that is over has ended, and each has the same report. -/
theorem saves_commute {order order' : List (Moment ι)} (proper : Proper order)
    (proper' : Proper order') (same : order.Perm order') :
    let s := SideBySide.after saves p order
    let s' := SideBySide.after saves p order'
    (∀ file, s.publisher.compilerShown.get? file = s'.publisher.compilerShown.get? file) ∧
      (∀ file, s.publisher.analyzerShown.get? file = s'.publisher.analyzerShown.get? file) ∧
      ∀ i, s.ended i = s'.ended i ∧ ((s.ended i).isSome = true ↔ .ends i ∈ order) := by
  intro s s'
  have happened : Happened saves p root order s := happened_after handled sameRoot apart proper
  have happened' : Happened saves p root order' s' := happened_after handled sameRoot apart proper'
  have hfiles : (savedFiles saves order).Perm (savedFiles saves order') := same.filterMap _
  have hsaved : ∀ file, file ∈ savedFiles saves order ↔ file ∈ savedFiles saves order' :=
    fun _ => hfiles.mem_iff
  have hfirst : savedFiles saves order = [] ↔ savedFiles saves order' = [] :=
    ⟨fun h => (h ▸ hfiles).nil_eq.symm, fun h => (h ▸ hfiles).eq_nil⟩
  refine ⟨fun file => ?_, fun file => ?_, fun i => ?_⟩
  · by_cases hnamed : ∃ i, .ends i ∈ order ∧ (saves i).how.recordsAt file ≠ []
    · obtain ⟨i, hi, hrecords⟩ := hnamed
      rw [happened.written i file hi hrecords,
        happened'.written i file (same.mem_iff.1 hi) hrecords]
    · push Not at hnamed
      rw [happened.unwritten file hnamed,
        happened'.unwritten file fun i hi => hnamed i (same.mem_iff.2 hi)]
      simp only [hsaved]
  · rw [happened.issues, happened'.issues, issuesShown, issuesShown]
    simp only [hsaved, hfirst]
  · by_cases hi : .ends i ∈ order
    · rw [happened.ended i hi, happened'.ended i (same.mem_iff.1 hi)]
      simp [hi]
    · rw [happened.waiting i hi, happened'.waiting i fun h => hi (same.mem_iff.2 h)]
      simp [hi]

end Commute

/-! ## Two saves of one project -/

/-- A save of a file of the first project, whose run finds one problem in the file. -/
def saveInProject (file problem : String) : PlannedSave :=
  ⟨Session.twoProjects, ⟨file, "elm", "file"⟩,
    .returned ⟨[.ofProject problem "" file], ⟨.root, ["p"]⟩, .reportDocuments, default, false⟩⟩

lemma eq_of_names_saveInProject {file problem named : String}
    (absolute : Path.isAbsoluteText file = true)
    (h : (saveInProject file problem).how.Names named) : named = file := by
  obtain ⟨r, hr, d, hd, hpath⟩ := h
  cases hr
  obtain rfl := List.mem_singleton.1 hd
  rw [← hpath]
  simp [issuePath, Diagnostic.ofProject, absolute]

/-- Saves of two files of the project, told apart by a Boolean. -/
def twoSaves (first : Bool) : PlannedSave :=
  if first then saveInProject "/p/A.elm" "FIRST" else saveInProject "/p/B.elm" "SECOND"

lemma apart_saveInProject {file file' : String} (absolute : Path.isAbsoluteText file = true)
    (absolute' : Path.isAbsoluteText file' = true) (problem problem' : String)
    (normal : Path.absText "/" file = file) (normal' : Path.absText "/" file' = file')
    (hne : file ≠ file') : Apart (saveInProject file problem) (saveInProject file' problem') where
  location := by
    rw [PlannedSave.location, PlannedSave.location]
    exact fun heq => hne (normal.symm.trans (heq.trans normal'))
  files := fun named h h' => hne
    ((eq_of_names_saveInProject absolute h).symm.trans (eq_of_names_saveInProject absolute' h'))
  spares := fun h => hne ((eq_of_names_saveInProject absolute h).symm.trans normal')

/-- One of two saves may be over before the other begins, or both may run at once. -/
theorem two_saves_commute :
    let inTurn := [Moment.begins false, .ends false, .begins true, .ends true]
    let atOnce := [Moment.begins true, .begins false, .ends false, .ends true]
    let s := SideBySide.after twoSaves Session.latestOnly inTurn
    let s' := SideBySide.after twoSaves Session.latestOnly atOnce
    (∀ i, Session.latestOnly.handles (twoSaves i).document = true) ∧
      (∀ i, Session.latestOnly.analyzerRoot (twoSaves i).machine (twoSaves i).location =
        .ok (some "/p")) ∧
      (∀ i j, i ≠ j → Apart (twoSaves i) (twoSaves j)) ∧
      Proper inTurn ∧ Proper atOnce ∧ inTurn.Perm atOnce ∧
      (∀ file, s.publisher.compilerShown.get? file = s'.publisher.compilerShown.get? file) ∧
      ∀ i, s.ended i = s'.ended i := by
  intro inTurn atOnce s s'
  have handled : ∀ i, Session.latestOnly.handles (twoSaves i).document = true := by decide +kernel
  have sameRoot : ∀ i, Session.latestOnly.analyzerRoot (twoSaves i).machine
      (twoSaves i).location = .ok (some "/p") := by decide +kernel
  have apart : ∀ i j, i ≠ j → Apart (twoSaves i) (twoSaves j) := by
    intro i j hij
    cases i <;> cases j
    · exact absurd rfl hij
    · exact apart_saveInProject (by decide +kernel) (by decide +kernel) _ _ (by decide +kernel)
        (by decide +kernel) (by decide +kernel)
    · exact apart_saveInProject (by decide +kernel) (by decide +kernel) _ _ (by decide +kernel)
        (by decide +kernel) (by decide +kernel)
    · exact absurd rfl hij
  have proper : Proper inTurn := ⟨by decide, by decide⟩
  have proper' : Proper atOnce := ⟨by decide, by decide⟩
  have same : inTurn.Perm atOnce := by decide
  obtain ⟨hcompiler, -, hended⟩ := saves_commute handled sameRoot apart proper proper' same
  exact ⟨handled, sameRoot, apart, proper, proper', same, hcompiler, fun i => (hended i).1⟩

end ElmOnSave
