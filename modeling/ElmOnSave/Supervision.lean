/-!
# Supervision

While the compiler works, two readers take in its two streams, and the run waits for both of them
and for the process.  However the run ends, the readers and the process are to be cleaned up first:
the readers are stopped and awaited, a process that still runs is killed, and its end is awaited.

The run is a machine with a state (`Supervision`) that changes by events (`SupervisionEvent`).  Some
events come from outside: the process exits and its end becomes known, a reader ends, the time is
up, somebody cancels the run.  The event `resume` is the run itself going on once what it waits for
has come.  A cancellation arrives where the run is waiting, and that may be inside the cleanup.

An event can lead to several states.  Between the moment in which something has come and the moment
in which the run takes note of it, a cancellation or the end of the time may come first or second.
-/

namespace ElmOnSave

/-- The process of the compiler. -/
inductive ProcessState where
  | running
  /-- The process is over, but its end has not been taken note of. -/
  | exited
  /-- The end of the process has been taken note of. -/
  | reaped
deriving Repr, DecidableEq, Inhabited

/-- How a reader ends. -/
inductive ReaderEnd where
  /-- The stream is over. -/
  | finished
  /-- The stream holds what cannot be understood. -/
  | failed
  /-- The reader was told to stop. -/
  | stopped
deriving Repr, DecidableEq, Inhabited

/-- The two readers. -/
inductive ReaderName where
  | report
  | other
deriving Repr, DecidableEq, Inhabited

/-- How a run ends. -/
inductive Ending where
  | result
  | outputFailed
  | timedOut
  | cancelled
deriving Repr, DecidableEq, Inhabited

/-- What a run waits for. -/
inductive SupervisionStage where
  /-- The readers and the process. -/
  | collecting
  /-- That the readers heed the order to stop, which was given for a reason. -/
  | stopping (why : Ending)
  /-- In the cleanup, that both readers have ended; a cancellation may have come meanwhile. -/
  | settling (why : Ending) (interrupted : Bool)
  /-- In the cleanup, the end of the process. -/
  | reaping (why : Ending)
  /-- Nothing any more. -/
  | ended (why : Ending)
deriving Repr, DecidableEq, Inhabited

/-- A run with its process and its readers. -/
structure Supervision where
  /-- Whether there is a limit to the time the run may take. -/
  limited : Bool
  process : ProcessState
  /-- How the reader of the report ended, if it did. -/
  report : Option ReaderEnd
  /-- How the reader of the other stream ended, if it did. -/
  other : Option ReaderEnd
  stage : SupervisionStage
deriving Repr, DecidableEq, Inhabited

/-- What can happen. -/
inductive SupervisionEvent where
  | processExits
  | processReaped
  | readerEnds (reader : ReaderName) (how : ReaderEnd)
  | timeUp
  | cancel
  | resume
deriving Repr, DecidableEq, Inhabited

namespace SupervisionStage

/-- Whether the readers have been told to stop. -/
def stopsReaders : SupervisionStage → Bool
  | collecting => false
  | _ => true

/-- Whether the run is in its cleanup. -/
def isCleanup : SupervisionStage → Bool
  | settling .. | reaping _ => true
  | _ => false

end SupervisionStage

namespace Supervision

/-- A run whose process has just started. -/
def initial (limited : Bool) : Supervision :=
  ⟨limited, .running, none, none, .collecting⟩

/-- Whether both readers have ended. -/
def readersDone (s : Supervision) : Bool :=
  s.report.isSome && s.other.isSome

/-- Whether a reader failed. -/
def readerFailed (s : Supervision) : Bool :=
  s.report == some .failed || s.other == some .failed

/-- Whether the wait for the readers is over: both have ended, or one without finishing. -/
def readersJoined (s : Supervision) : Bool :=
  s.readersDone || s.report.any (· != .finished) || s.other.any (· != .finished)

/-- Whether the readers and the process have done their work. -/
def isComplete (s : Supervision) : Bool :=
  s.report == some .finished && s.other == some .finished && s.process == .reaped

/-- The process after it was killed. -/
def killed (s : Supervision) : Supervision :=
  { s with process := if s.process = .running then .exited else s.process }

/-- The run enters another stage. -/
def enter (s : Supervision) (stage : SupervisionStage) : Supervision :=
  { s with stage }

/-- Whether the failure of a reader counts more than the reason for which the readers were told to
stop.  Under a limit the run waits for the readers at one remove, and a cancellation cuts that. -/
def heedsFailure (s : Supervision) (why : Ending) : Bool :=
  why == .timedOut || !s.limited

/-- The ways in which the run goes on, if what it waits for has come. -/
def resume (s : Supervision) : List Supervision :=
  match s.stage with
  | .collecting =>
    if s.readerFailed then [s.enter (.settling .outputFailed false)]
    else if s.isComplete then [s.enter (.settling .result false)]
    else []
  | .stopping why =>
    (if s.readersJoined then [s.enter (.settling why false)] else []) ++
      if s.readerFailed && s.heedsFailure why then [s.enter (.settling .outputFailed false)] else []
  | .settling why interrupted =>
    if !s.readersDone then []
    else if interrupted then [s.enter (.ended .cancelled)]
    else if s.process = .reaped then [s.enter (.ended why)]
    else [s.killed.enter (.reaping why)]
  | .reaping why => if s.process = .reaped then [s.enter (.ended why)] else []
  | .ended _ => []

/-- Somebody cancels the run.  Under a limit a run that has all it waited for may go on as if nothing
had happened.  Without a limit a cancellation is passed on to the readers and waits for them, unless
both have ended. -/
def cancel (s : Supervision) : List Supervision :=
  match s.stage with
  | .collecting =>
    if s.limited then s.resume ++ [s.enter (.stopping .cancelled)]
    else
      (if s.readersDone then [] else [s.enter (.stopping .cancelled)]) ++
        if s.readersJoined then [s.enter (.settling .cancelled false)] else []
  | .stopping _ =>
    if s.limited then [s.enter (.settling .cancelled false)]
    else s :: if s.readersJoined then [s.enter (.settling .cancelled false)] else []
  | .settling why _ => [s.enter (.settling why true)]
  | .reaping _ => [s.enter (.ended .cancelled)]
  | .ended _ => []

/-- A reader ends; only a reader that was told to stop can have been stopped. -/
def readerEnds (s : Supervision) (reader : ReaderName) (how : ReaderEnd) : Option Supervision :=
  if how = .stopped ∧ !s.stage.stopsReaders then none
  else
    match reader with
    | .report => if s.report.isSome then none else some { s with report := some how }
    | .other => if s.other.isSome then none else some { s with other := some how }

/-- What an event can make of a run; some events cannot happen. -/
def next (s : Supervision) : SupervisionEvent → List Supervision
  | .processExits => if s.process = .running then [{ s with process := .exited }] else []
  | .processReaped => if s.process = .exited then [{ s with process := .reaped }] else []
  | .readerEnds reader how => (s.readerEnds reader how).toList
  | .timeUp =>
    if s.limited ∧ s.stage = .collecting then s.resume ++ [s.enter (.stopping .timedOut)] else []
  | .cancel => s.cancel
  | .resume => s.resume

/-- A course of events from one state of a run to another.  Each event stands with the state in
which it came. -/
inductive Course (start : Supervision) :
    List (Supervision × SupervisionEvent) → Supervision → Prop where
  | stay : Course start [] start
  | step {steps : List (Supervision × SupervisionEvent)} {s t : Supervision}
      (course : Course start steps s) (e : SupervisionEvent) (next : t ∈ s.next e) :
      Course start (steps ++ [(s, e)]) t

/-- One course after the other. -/
theorem Course.trans {start s t : Supervision} {steps more : List (Supervision × SupervisionEvent)}
    (course : Course start steps s) (further : Course s more t) :
    Course start (steps ++ more) t := by
  induction further with
  | stay =>
    rw [List.append_nil]
    exact course
  | step further e next ih =>
    rw [← List.append_assoc]
    exact ih.step e next

end Supervision

end ElmOnSave
