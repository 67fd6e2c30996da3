import Mathlib
import ElmOnSave.Supervision

/-!
# Whether the cleanup comes to its end

A run is to leave nothing behind: once it has ended, both readers have ended and the process has
been reaped.  The readers keep to this on every course of events.  The process does not, because the
cleanup waits twice, and a cancellation may arrive where it waits: before the kill it takes the run
out of the cleanup with the process untouched, after the kill with its end not awaited.
`cleanup_accounts` says that this is the only way, and that every such cancellation has this way
out.

What one event does is said once (`Change`, `change_of_next`).  From it follows what the stage of a
run tells of the course before (`Course.accounted`).
-/

namespace ElmOnSave.Supervision

/-! ## One event -/

/-- What has ended has ended for good. -/
structure Progress (s t : Supervision) : Prop where
  reaped : s.process = .reaped → t.process = .reaped
  readers : s.readersDone = true → t.readersDone = true

/-- What an event changes. -/
inductive Change (s : Supervision) : SupervisionEvent → Supervision → Prop where
  /-- Something happens outside, or the run keeps waiting. -/
  | outside {t : Supervision} (e : SupervisionEvent) (same : t.stage = s.stage)
      (progress : Progress s t) : Change s e t
  /-- The run stops waiting for the compiler. -/
  | leave (e : SupervisionEvent) (why : Ending) : Change s e (s.enter (.stopping why))
  /-- The cleanup begins. -/
  | cleanUp (e : SupervisionEvent) (why : Ending) : Change s e (s.enter (.settling why false))
  /-- A cancellation arrives where the cleanup waits for the readers. -/
  | interrupt {why : Ending} {interrupted : Bool} (settling : s.stage = .settling why interrupted) :
      Change s .cancel (s.enter (.settling why true))
  /-- The readers have ended, and the process is killed. -/
  | kill (e : SupervisionEvent) (why : Ending) (readers : s.readersDone = true) :
      Change s e (s.killed.enter (.reaping why))
  /-- A cancellation arrives where the cleanup waits for the process. -/
  | abandon {why : Ending} (reaping : s.stage = .reaping why) :
      Change s .cancel (s.enter (.ended .cancelled))
  /-- The interrupted cleanup ends as soon as the readers have. -/
  | giveUp {why : Ending} (e : SupervisionEvent) (settling : s.stage = .settling why true)
      (readers : s.readersDone = true) : Change s e (s.enter (.ended .cancelled))
  /-- The cleanup ends with nothing left to wait for. -/
  | finish {why : Ending} (e : SupervisionEvent)
      (cleanup : s.stage = .settling why false ∧ s.readersDone = true ∨ s.stage = .reaping why)
      (reaped : s.process = .reaped) : Change s e (s.enter (.ended why))

section Change

variable {s t : Supervision}

lemma change_of_resume (e : SupervisionEvent) (h : t ∈ s.resume) : Change s e t := by
  unfold resume at h
  split at h
  case h_1 =>
    split_ifs at h
    · obtain rfl := List.mem_singleton.1 h
      exact .cleanUp e _
    · obtain rfl := List.mem_singleton.1 h
      exact .cleanUp e _
    · cases h
  case h_2 why hstage =>
    rcases List.mem_append.1 h with h | h
    · split_ifs at h
      · obtain rfl := List.mem_singleton.1 h
        exact .cleanUp e why
      · cases h
    · split_ifs at h
      · obtain rfl := List.mem_singleton.1 h
        exact .cleanUp e _
      · cases h
  case h_3 why interrupted hstage =>
    cases hreaders : s.readersDone with
    | false =>
      rw [hreaders] at h
      cases h
    | true =>
      rw [hreaders] at h
      cases interrupted with
      | true =>
        obtain rfl := List.mem_singleton.1 h
        exact .giveUp e hstage hreaders
      | false =>
        simp only [Bool.not_true, Bool.false_eq_true, if_false] at h
        split_ifs at h with hreaped
        · obtain rfl := List.mem_singleton.1 h
          exact .finish e (.inl ⟨hstage, hreaders⟩) hreaped
        · obtain rfl := List.mem_singleton.1 h
          exact .kill e why hreaders
  case h_4 why hstage =>
    split_ifs at h with hreaped
    · obtain rfl := List.mem_singleton.1 h
      exact .finish e (.inr hstage) hreaped
    · cases h
  case h_5 => cases h

lemma change_of_cancel (h : t ∈ s.cancel) : Change s .cancel t := by
  unfold cancel at h
  split at h
  case h_1 hstage =>
    split_ifs at h with hlimited hdone hjoined hjoined
    · rcases List.mem_append.1 h with h | h
      · exact change_of_resume .cancel h
      · obtain rfl := List.mem_singleton.1 h
        exact .leave .cancel _
    all_goals
      simp only [List.nil_append, List.append_nil, List.mem_append, List.mem_singleton,
        List.not_mem_nil] at h
    · subst h
      exact .cleanUp .cancel _
    · rcases h with rfl | rfl
      · exact .leave .cancel _
      · exact .cleanUp .cancel _
    · subst h
      exact .leave .cancel _
  case h_2 why hstage =>
    split_ifs at h
    · obtain rfl := List.mem_singleton.1 h
      exact .cleanUp .cancel _
    · rcases List.mem_cons.1 h with rfl | h
      · exact .outside .cancel rfl ⟨id, id⟩
      · obtain rfl := List.mem_singleton.1 h
        exact .cleanUp .cancel _
    · obtain rfl := List.mem_singleton.1 h
      exact .outside .cancel rfl ⟨id, id⟩
  case h_3 why interrupted hstage =>
    obtain rfl := List.mem_singleton.1 h
    exact .interrupt hstage
  case h_4 why hstage =>
    obtain rfl := List.mem_singleton.1 h
    exact .abandon hstage
  case h_5 => cases h

lemma progress_of_readerEnds {reader : ReaderName} {how : ReaderEnd}
    (h : s.readerEnds reader how = some t) : t.stage = s.stage ∧ Progress s t := by
  unfold readerEnds at h
  split at h
  · cases h
  · cases reader with
    | report =>
      dsimp only at h
      split at h
      · cases h
      · cases h
        refine ⟨rfl, id, fun hdone => ?_⟩
        rw [readersDone, Bool.and_eq_true] at hdone
        simp [readersDone, hdone.2]
    | other =>
      dsimp only at h
      split at h
      · cases h
      · cases h
        refine ⟨rfl, id, fun hdone => ?_⟩
        rw [readersDone, Bool.and_eq_true] at hdone
        simp [readersDone, hdone.1]

/-- **What an event can do to a run.** -/
theorem change_of_next {e : SupervisionEvent} (h : t ∈ s.next e) : Change s e t := by
  cases e with
  | processExits =>
    rw [next] at h
    split_ifs at h with hrunning
    · obtain rfl := List.mem_singleton.1 h
      exact .outside _ rfl ⟨fun hreaped => absurd (hrunning.symm.trans hreaped) nofun, id⟩
    · cases h
  | processReaped =>
    rw [next] at h
    split_ifs at h with hexited
    · obtain rfl := List.mem_singleton.1 h
      exact .outside _ rfl ⟨fun _ => rfl, id⟩
    · cases h
  | readerEnds reader how =>
    rw [next, Option.mem_toList] at h
    obtain ⟨same, progress⟩ := progress_of_readerEnds h
    exact .outside _ same progress
  | timeUp =>
    rw [next] at h
    split_ifs at h
    · rcases List.mem_append.1 h with h | h
      · exact change_of_resume _ h
      · obtain rfl := List.mem_singleton.1 h
        exact .leave _ _
    · cases h
  | cancel => exact change_of_cancel h
  | resume => exact change_of_resume _ h

end Change

/-! ## Courses of events -/

/-- A cancellation came while the cleanup was waiting and the process was not reaped. -/
def Disturbed (steps : List (Supervision × SupervisionEvent)) : Prop :=
  ∃ s, (s, .cancel) ∈ steps ∧ s.stage.isCleanup = true ∧ s.process ≠ .reaped

lemma Disturbed.append {steps : List (Supervision × SupervisionEvent)} (h : Disturbed steps)
    (more : List (Supervision × SupervisionEvent)) : Disturbed (steps ++ more) := by
  obtain ⟨s, hs, hcleanup⟩ := h
  exact ⟨s, List.mem_append_left more hs, hcleanup⟩

lemma disturbed_of_cancel {s : Supervision} (cleanup : s.stage.isCleanup = true)
    (unreaped : s.process ≠ .reaped) (steps : List (Supervision × SupervisionEvent)) :
    Disturbed (steps ++ [(s, .cancel)]) :=
  ⟨s, List.mem_append_right steps (List.mem_singleton.2 rfl), cleanup, unreaped⟩

/-- What the stage of a run tells of the course before. -/
structure Accounted (steps : List (Supervision × SupervisionEvent)) (s : Supervision) : Prop where
  interrupted : ∀ why, s.stage = .settling why true → s.process = .reaped ∨ Disturbed steps
  reaping : ∀ why, s.stage = .reaping why → s.readersDone = true
  ended : ∀ why, s.stage = .ended why →
    s.readersDone = true ∧ (s.process = .reaped ∨ why = .cancelled ∧ Disturbed steps)

/-- What changes no stage leaves the account right. -/
lemma Accounted.outside {steps : List (Supervision × SupervisionEvent)} {s t : Supervision}
    (h : Accounted steps s) (same : t.stage = s.stage) (progress : Progress s t)
    (more : List (Supervision × SupervisionEvent)) : Accounted (steps ++ more) t where
  interrupted why hstage :=
    (h.interrupted why (same ▸ hstage)).imp progress.reaped fun hdisturbed => hdisturbed.append more
  reaping why hstage := progress.readers (h.reaping why (same ▸ hstage))
  ended why hstage := by
    obtain ⟨hreaders, hprocess⟩ := h.ended why (same ▸ hstage)
    exact ⟨progress.readers hreaders,
      hprocess.imp progress.reaped fun hcancelled => ⟨hcancelled.1, hcancelled.2.append more⟩⟩

/-- Every course is accounted for by the stage to which it leads. -/
theorem Course.accounted {limited : Bool} {steps : List (Supervision × SupervisionEvent)}
    {s : Supervision} (course : Course (initial limited) steps s) : Accounted steps s := by
  induction course with
  | stay => exact ⟨nofun, nofun, nofun⟩
  | @step steps s t course e next ih =>
    cases change_of_next next with
    | outside _ same progress => exact ih.outside same progress _
    | leave => exact ⟨nofun, nofun, nofun⟩
    | cleanUp => exact ⟨nofun, nofun, nofun⟩
    | interrupt settling =>
      refine ⟨fun _ _ => ?_, nofun, nofun⟩
      by_cases hreaped : s.process = .reaped
      · exact .inl hreaped
      · exact .inr (disturbed_of_cancel (by rw [settling]; rfl) hreaped steps)
    | kill _ _ readers => exact ⟨nofun, fun _ _ => readers, nofun⟩
    | @abandon why reaping =>
      refine ⟨nofun, nofun, ?_⟩
      rintro _ ⟨⟩
      refine ⟨ih.reaping why reaping, ?_⟩
      by_cases hreaped : s.process = .reaped
      · exact .inl hreaped
      · exact .inr ⟨rfl, disturbed_of_cancel (by rw [reaping]; rfl) hreaped steps⟩
    | @giveUp why _ settling readers =>
      refine ⟨nofun, nofun, ?_⟩
      rintro _ ⟨⟩
      exact ⟨readers, (ih.interrupted why settling).imp_right fun h => ⟨rfl, h.append _⟩⟩
    | @finish why _ cleanup reaped =>
      refine ⟨nofun, nofun, ?_⟩
      rintro _ ⟨⟩
      refine ⟨?_, .inl reaped⟩
      rcases cleanup with ⟨-, readers⟩ | hstage
      · exact readers
      · exact ih.reaping why hstage

/-! ## Ways out of the cleanup -/

section WaysOut

variable {s : Supervision}

/-- Readers that were told to stop can stop. -/
lemma exists_course_readersDone (told : s.stage.stopsReaders = true) :
    ∃ more t, Course s more t ∧ t.readersDone = true ∧ t.stage = s.stage ∧
      t.process = s.process := by
  obtain ⟨more, t, course, hreport, hother, hstage, hprocess⟩ : ∃ more t, Course s more t ∧
      t.report.isSome = true ∧ t.other = s.other ∧ t.stage = s.stage ∧ t.process = s.process := by
    cases hreport : s.report with
    | some how => exact ⟨[], s, .stay, by rw [hreport]; rfl, rfl, rfl, rfl⟩
    | none =>
      refine ⟨_, { s with report := some .stopped }, .step .stay (.readerEnds .report .stopped) ?_,
        rfl, rfl, rfl, rfl⟩
      simp [next, readerEnds, told, hreport]
  cases hother' : t.other with
  | some how =>
    refine ⟨more, t, course, ?_, hstage, hprocess⟩
    rw [readersDone, hreport, hother']
    rfl
  | none =>
    refine ⟨_, { t with other := some .stopped }, course.step (.readerEnds .other .stopped) ?_, ?_,
      hstage, hprocess⟩
    · simp [next, readerEnds, hstage, told, hother']
    · rw [readersDone, hreport]
      rfl

/-- A cancellation in the cleanup can be the end of the run, whatever the process does. -/
lemma exists_course_ended (cleanup : s.stage.isCleanup = true) :
    ∃ more t, Course s ((s, .cancel) :: more) t ∧ t.stage = .ended .cancelled ∧
      t.process = s.process := by
  cases hstage : s.stage with
  | collecting | stopping why | ended why =>
    rw [hstage] at cleanup
    cases cleanup
  | reaping why =>
    exact ⟨[], s.enter (.ended .cancelled), .step .stay .cancel (by simp [next, cancel, hstage]),
      rfl, rfl⟩
  | settling why interrupted =>
    have hcancel : Course s [(s, .cancel)] (s.enter (.settling why true)) :=
      .step .stay .cancel (by simp [next, cancel, hstage])
    obtain ⟨more, t, course, hreaders, hsame, hprocess⟩ :=
      exists_course_readersDone (s := s.enter (.settling why true)) rfl
    have hlast : t.enter (.ended .cancelled) ∈ t.next .resume := by
      have hsettling : t.stage = .settling why true := hsame
      simp [next, resume, hsettling, hreaders]
    exact ⟨_, _, hcancel.trans (course.step .resume hlast), rfl, hprocess⟩

end WaysOut

/-- **The cleanup and cancellations.**  When a run has ended, with or without a limit and whatever
came in which order, both readers have ended; and the process has been reaped, unless the run was
cancelled and a cancellation came while the cleanup was waiting and the process was not reaped.
Every cancellation that comes while the cleanup is waiting can be the end of the run with the
process as it was. -/
theorem cleanup_accounts (limited : Bool) :
    (∀ steps s why, Course (initial limited) steps s → s.stage = .ended why →
      s.readersDone = true ∧ (s.process = .reaped ∨ why = .cancelled ∧ Disturbed steps)) ∧
    ∀ steps s, Course (initial limited) steps s → s.stage.isCleanup = true →
      ∃ more t, Course (initial limited) (steps ++ (s, .cancel) :: more) t ∧
        t.stage = .ended .cancelled ∧ t.process = s.process := by
  refine ⟨fun steps s why course hended => course.accounted.ended why hended, ?_⟩
  intro steps s course hcleanup
  obtain ⟨more, t, further, hended, hprocess⟩ := exists_course_ended hcleanup
  exact ⟨more, t, course.trans further, hended, hprocess⟩

/-- A run whose time is up and whose cleanup nobody disturbs leaves nothing behind. -/
theorem timed_out_run_reaped :
    ∃ steps s, Course (initial true) steps s ∧ s.stage = .ended .timedOut ∧
      s.readersDone = true ∧ s.process = .reaped := by
  have h₁ : Course (initial true) _ ⟨true, .running, none, none, .stopping .timedOut⟩ :=
    .step .stay .timeUp (by decide)
  have h₂ := h₁.step (t := ⟨true, .running, some .stopped, none, .stopping .timedOut⟩)
    (.readerEnds .report .stopped) (by decide)
  have h₃ := h₂.step (t := ⟨true, .running, some .stopped, none, .settling .timedOut false⟩)
    .resume (by decide)
  have h₄ := h₃.step (t := ⟨true, .running, some .stopped, some .stopped, .settling .timedOut false⟩)
    (.readerEnds .other .stopped) (by decide)
  have h₅ := h₄.step (t := ⟨true, .exited, some .stopped, some .stopped, .reaping .timedOut⟩)
    .resume (by decide)
  have h₆ := h₅.step (t := ⟨true, .reaped, some .stopped, some .stopped, .reaping .timedOut⟩)
    .processReaped (by decide)
  have h₇ := h₆.step (t := ⟨true, .reaped, some .stopped, some .stopped, .ended .timedOut⟩)
    .resume (by decide)
  obtain ⟨hreaders, hprocess⟩ := (cleanup_accounts true).1 _ _ _ h₇ rfl
  exact ⟨_, _, h₇, rfl, hreaders, hprocess.resolve_right fun h => nomatch h.1⟩

/-- Not every run that has ended has reaped its process: a second cancellation leaves it running. -/
theorem not_forall_ended_reaped :
    ¬ ∀ (limited : Bool) (steps : List (Supervision × SupervisionEvent)) (s : Supervision)
      (why : Ending), Course (initial limited) steps s → s.stage = .ended why →
        s.readersDone = true ∧ s.process = .reaped := by
  intro h
  have h₁ : Course (initial false) _ ⟨false, .running, none, none, .stopping .cancelled⟩ :=
    .step .stay .cancel (by decide)
  have h₂ := h₁.step (t := ⟨false, .running, some .stopped, none, .stopping .cancelled⟩)
    (.readerEnds .report .stopped) (by decide)
  have h₃ := h₂.step (t := ⟨false, .running, some .stopped, some .stopped, .stopping .cancelled⟩)
    (.readerEnds .other .stopped) (by decide)
  have h₄ := h₃.step (t := ⟨false, .running, some .stopped, some .stopped,
    .settling .cancelled false⟩) .resume (by decide)
  have h₅ := h₄.step (t := ⟨false, .running, some .stopped, some .stopped,
    .settling .cancelled true⟩) .cancel (by decide)
  have h₆ := h₅.step (t := ⟨false, .running, some .stopped, some .stopped, .ended .cancelled⟩)
    .resume (by decide)
  exact nomatch (h _ _ _ _ h₆ rfl).2

end ElmOnSave.Supervision
