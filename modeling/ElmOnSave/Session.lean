import ElmOnSave.Publisher

/-!
# Sessions

While an editor is open, saves follow each other faster than the compiler works, so several runs may
be in flight at once and may end in any order.  A `Session` is a publisher together with its runs in
flight; `next` says what becomes of it when a save begins (`begin`), when a run ends (`finish`) and
when the analyzer changes its mind.  Every course of events is a list of `SessionEvent`s.
-/

namespace ElmOnSave

/-- A publisher with its runs in flight, the latest first. -/
structure Session where
  publisher : Publisher
  inFlight : List PendingRun
deriving Inhabited

/-- What can happen in a session. -/
inductive SessionEvent where
  /-- A document is saved, while the machine is in some state. -/
  | save (m : Machine) (d : SavedDocument)
  /-- The run with a number ends. -/
  | runEnds (token : Nat) (e : RunEnd)
  /-- The analyzer changes its list of issues. -/
  | analyzed (change : AnalyzerChange)
deriving Inhabited

namespace Session

/-- A session without runs in flight. -/
def ofPublisher (p : Publisher) : Session :=
  ⟨p, []⟩

/-- The run with a number, if it is in flight. -/
def run? (s : Session) (token : Nat) : Option PendingRun :=
  s.inFlight.find? fun r => r.token == token

/-- A save begins, and its run may be in flight from now on. -/
def begin (m : Machine) (s : Session) (d : SavedDocument) : Session × SaveStart :=
  let (p, start) := s.publisher.beginSave m d
  match start with
  | .waiting run => (⟨p, run :: s.inFlight⟩, start)
  | .skipped _ | .raised _ => (⟨p, s.inFlight⟩, start)

/-- A run ends, if it is in flight. -/
def finish (s : Session) (token : Nat) (e : RunEnd) : Session × Option SaveEnd :=
  match s.run? token with
  | none => (s, none)
  | some run =>
    let (p, ending) := s.publisher.endRun run e
    (⟨p, s.inFlight.filter fun r => r.token != token⟩, some ending)

/-- The analyzer changes its list of issues. -/
def reanalyzed (s : Session) (change : AnalyzerChange) : Session :=
  { s with publisher := { s.publisher with analyzer := s.publisher.analyzer.changed change } }

/-- The analyzer has other issues. -/
def analyzed (s : Session) (issues : List Diagnostic) : Session :=
  s.reanalyzed (.replaced issues)

/-- What an event makes of a session. -/
def next (s : Session) : SessionEvent → Session
  | .save m d => (s.begin m d).1
  | .runEnds token e => (s.finish token e).1
  | .analyzed change => s.reanalyzed change

/-- What a course of events makes of a session. -/
def after (s : Session) (events : List SessionEvent) : Session :=
  events.foldl next s

@[simp] theorem after_nil (s : Session) : s.after [] = s := rfl

theorem after_append (s : Session) (es fs : List SessionEvent) :
    s.after (es ++ fs) = (s.after es).after fs := by
  simp [after]

end Session

end ElmOnSave
