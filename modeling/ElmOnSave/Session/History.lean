import ElmOnSave.Session

/-!
# Histories

What an event comes to depends on the state it meets: a save may be skipped, may end before its run
starts or may leave a run waiting, and a run that ends may have been overtaken.  An `Occurrence` is
an event together with what came of it, and `Session.history` lists the occurrences of a course of
events, the first one first.
-/

namespace ElmOnSave

/-- What an event of a session came to. -/
inductive Occurrence where
  /-- A save of a file began. -/
  | saved (location : String) (start : SaveStart)
  /-- A run ended, and its save with it. -/
  | ended (run : PendingRun) (how : RunEnd) (save : SaveEnd)
  /-- The analyzer changed its list. -/
  | analyzed (change : AnalyzerChange)
  /-- A run was to end that is not in flight; nothing happened. -/
  | missed (token : Nat)
deriving Inhabited

namespace Session

/-- What an event comes to in a session. -/
def occurrence (s : Session) : SessionEvent → Occurrence
  | .save m d => .saved (Path.absText m.cwd d.path) (s.begin m d).2
  | .runEnds token how =>
    match s.run? token with
    | some run => .ended run how (s.publisher.endRun run how).2
    | none => .missed token
  | .analyzed change => .analyzed change

/-- What the events of a course come to, one after the other. -/
def history (s : Session) : List SessionEvent → List Occurrence
  | [] => []
  | e :: es => s.occurrence e :: (s.next e).history es

@[simp] theorem history_nil (s : Session) : s.history [] = [] := rfl

theorem after_concat (s : Session) (es : List SessionEvent) (e : SessionEvent) :
    s.after (es ++ [e]) = (s.after es).next e := by
  rw [after_append]
  rfl

theorem history_concat (s : Session) (es : List SessionEvent) (e : SessionEvent) :
    s.history (es ++ [e]) = s.history es ++ [(s.after es).occurrence e] := by
  induction es generalizing s with
  | nil => rfl
  | cons d es ih =>
    rw [List.cons_append, history, history, ih]
    rfl

end Session

namespace Occurrence

/-- The run that started. -/
def started? : Occurrence → Option PendingRun
  | saved _ (.waiting run) => some run
  | _ => none

/-- The result of a run that was published: the run returned it and was not discarded. -/
def published? : Occurrence → Option RunResult
  | ended _ (.returned r) (.reported report) => if report.stale then none else some r
  | _ => none

/-- Whether a save of a file began that was not skipped. -/
def isSaveOf (file : String) : Occurrence → Bool
  | saved _ (.skipped _) => false
  | saved location _ => location == file
  | _ => false

end Occurrence

end ElmOnSave
