import ElmOnSave.CompilerRun
import ElmOnSave.Proofs.StreamLines

/-!
# Taking in the output of the compiler

While the compiler works, chunks of its two streams arrive in any order, each stream comes to its
end, and the process exits.  An `Intake` is a run that collects them: every line of the report is
read as soon as it is complete, what comes on the other stream is kept, and the run is resolved
(`Intake.resolution`) by the first line that cannot be read, or else once both streams have ended
and the process has exited.

`Intake.resolution_after` says that a run which is resolved stays so, whatever else arrives, and
`Intake.resolution_of_complete` that a course in which everything arrives resolves the run to what
`CompilerRun.conclude` makes of the chunks.  The invariant is `Intake.Reflects`.
-/

namespace ElmOnSave

open CompilerOutput

/-- What reaches a run while it collects. -/
inductive Arrival where
  | chunk (stream : OutputStream) (octets : Octets)
  /-- The end of a stream. -/
  | closed (stream : OutputStream)
  | exited (status : ExitStatus)
deriving Repr, DecidableEq

/-- The chunk that arrives on a stream, if it is one. -/
def Arrival.chunk? (stream : OutputStream) : Arrival → Option Octets
  | chunk s octets => if s = stream then some octets else none
  | closed _ | exited _ => none

/-- The chunks that arrive on a stream. -/
def chunksOf (stream : OutputStream) (arrivals : List Arrival) : List Octets :=
  arrivals.filterMap (Arrival.chunk? stream)

/-- Nothing arrives on a stream behind its end. -/
def InOrder (stream : OutputStream) (arrivals : List Arrival) : Prop :=
  arrivals.Pairwise fun a b => a = .closed stream → b.chunk? stream = none

instance (stream : OutputStream) (arrivals : List Arrival) : Decidable (InOrder stream arrivals) :=
  inferInstanceAs (Decidable (List.Pairwise _ arrivals))

namespace CompilerOutput

/-- Lines that are read after others, and whether a line that is too long follows them. -/
def Collected.readOn [Platform] (g : Generation) (target : String) (c : Collected)
    (lines : List Octets) (overrun : Option Bool) : Collected :=
  let d := collectLines (g.readLine target) lines [c.diagnostics]
  ⟨d.diagnostics, d.fault <|> overrun.map fun found => .output (.lineTooLong found) ""⟩

/-- A feed whose lines were taken away. -/
def LineFeed.drained (s : LineFeed) : LineFeed :=
  { s with lines := [] }

/-- A feed with older lines. -/
def LineFeed.behind (s : LineFeed) (older : List Octets) : LineFeed :=
  { s with lines := s.lines ++ older }

end CompilerOutput

/-- A run that collects the output of the compiler. -/
structure Intake where
  /-- The start of a line of the report. -/
  feed : LineFeed
  /-- What was read of the report. -/
  collected : Collected
  reportClosed : Bool
  /-- The chunks of the other stream. -/
  raw : List Octets
  otherClosed : Bool
  exit : Option ExitStatus

namespace Intake

/-- A run to which nothing has come. -/
def initial : Intake :=
  ⟨.initial, ⟨[], none⟩, false, [], false, none⟩

/-- Whether the report is still read. -/
def isReading (s : Intake) : Bool :=
  !s.reportClosed && s.collected.fault.isNone

/-- What one arrival makes of a run. -/
def next [Platform] (g : Generation) (target : String) (s : Intake) : Arrival → Intake
  | .chunk stream octets =>
    if stream = g.reportStream then
      if s.isReading then
        let feed := s.feed.feed streamLineLimit octets
        { s with
          feed := feed.drained
          collected := s.collected.readOn g target feed.lines.reverse feed.overrun }
      else s
    else if s.otherClosed then s
    else { s with raw := s.raw ++ [octets] }
  | .closed stream =>
    if stream = g.reportStream then
      if s.isReading then
        { s with
          collected := s.collected.readOn g target s.feed.finish none
          reportClosed := true }
      else { s with reportClosed := true }
    else { s with otherClosed := true }
  | .exited status => { s with exit := some status }

/-- What a course of arrivals makes of a run. -/
def after [Platform] (g : Generation) (target : String) (arrivals : List Arrival) : Intake :=
  arrivals.foldl (next g target) initial

/-- What a run is resolved to, if it is: the first failure of the report, or else, once everything
has arrived, the failure of the whole project or what was reported. -/
def resolution (g : Generation) (target : String) (s : Intake) :
    Option (Except Fault (List Diagnostic)) :=
  match s.collected.fault with
  | some f => some (.error f)
  | none =>
    if s.reportClosed && s.otherClosed && s.exit.isSome then
      match projectFailure? g target s.raw with
      | some d => some (.ok [d])
      | none => some (.ok s.collected.diagnostics)
    else none

end Intake

/-! ## Chunks of the report -/

namespace CompilerOutput

namespace LineFeed

lemma feedOctet_behind (limit : Nat) (s : LineFeed) (older : List Octets) (b : UInt8) :
    (s.behind older).feedOctet limit b = (s.feedOctet limit b).behind older := by
  rcases s with ⟨held, size, lines, _ | found⟩
  · by_cases hb : b = lineEnd
    · by_cases hlong : limit < size <;> simp [feedOctet, behind, hb, hlong]
    · simp [feedOctet, behind, hb]
  · rfl

lemma feed_behind (limit : Nat) (s : LineFeed) (older : List Octets) (chunk : Octets) :
    (s.behind older).feed limit chunk = (s.feed limit chunk).behind older := by
  have hfold : chunk.foldl (feedOctet limit) (s.behind older) =
      (chunk.foldl (feedOctet limit) s).behind older := by
    induction chunk generalizing s with
    | nil => rfl
    | cons b chunk ih => rw [List.foldl_cons, List.foldl_cons, feedOctet_behind, ih]
  unfold feed
  rw [hfold]
  rcases chunk.foldl (feedOctet limit) s with ⟨held, size, lines, _ | found⟩
  · by_cases hlong : limit < size <;> simp [behind, hlong]
  · rfl

lemma feed_of_overrun {limit : Nat} {s : LineFeed} {found : Bool} (h : s.overrun = some found)
    (chunk : Octets) : s.feed limit chunk = s := by
  have hfold : chunk.foldl (feedOctet limit) s = s := by
    induction chunk with
    | nil => rfl
    | cons b chunk ih =>
      have hstep : s.feedOctet limit b = s := by simp only [feedOctet, h]
      rw [List.foldl_cons, hstep, ih]
  simp only [feed, hfold, h, Option.isNone_some, Bool.false_and, Bool.false_eq_true, if_false]

lemma drained_behind (s : LineFeed) : s.drained.behind s.lines = s := rfl

lemma ofChunks_concat (limit : Nat) (chunks : List Octets) (chunk : Octets) :
    ofChunks limit (chunks ++ [chunk]) = (ofChunks limit chunks).feed limit chunk := by
  rw [ofChunks, ofChunks, List.foldl_append]
  rfl

/-- The lines that a chunk completes come after those that were complete. -/
lemma lines_feed (limit : Nat) (s : LineFeed) (chunk : Octets) :
    (s.feed limit chunk).lines = (s.drained.feed limit chunk).lines ++ s.lines := by
  conv_lhs => rw [← s.drained_behind, feed_behind]
  rfl

lemma overrun_feed (limit : Nat) (s : LineFeed) (chunk : Octets) :
    (s.feed limit chunk).overrun = (s.drained.feed limit chunk).overrun := by
  conv_lhs => rw [← s.drained_behind, feed_behind]
  rfl

lemma drained_feed (limit : Nat) (s : LineFeed) (chunk : Octets) :
    (s.feed limit chunk).drained = (s.drained.feed limit chunk).drained := by
  conv_lhs => rw [← s.drained_behind, feed_behind]
  rfl

lemma finish_of_open {s : LineFeed} (h : s.overrun = none) :
    s.finish = s.lines.reverse ++ s.drained.finish := by
  by_cases hsize : s.size = 0 <;> simp [finish, drained, h, hsize]

lemma finish_of_overrun {s : LineFeed} {found : Bool} (h : s.overrun = some found) :
    s.finish = s.lines.reverse := by
  simp [finish, h]

end LineFeed

/-- Reading stops at the first failure, and goes on behind what was read. -/
lemma collectLines_append (read : String → Except Fault (List Diagnostic))
    (lines lines' : List Octets) (acc : List (List Diagnostic)) :
    collectLines read (lines ++ lines') acc =
      match (collectLines read lines acc).fault with
      | some _ => collectLines read lines acc
      | none => collectLines read lines' [(collectLines read lines acc).diagnostics] := by
  induction lines generalizing acc with
  | nil =>
    simp only [collectLines, List.nil_append]
    rw [collectLines_eq, collectLines_eq lines' [acc.reverse.flatten]]
    simp
  | cons line lines ih =>
    cases hline : read (lineText line) with
    | error f => simp [collectLines, hline]
    | ok ds =>
      simp only [collectLines, hline, List.cons_append]
      exact ih (ds :: acc)

section CollectChunks

variable [Platform] {g : Generation} {target : String} {limit : Nat} {chunks : List Octets}

lemma collectChunks_eq_readOn (ended : Bool) :
    collectChunks g target limit chunks ended =
      (Collected.mk [] none).readOn g target
        (if ended then (LineFeed.ofChunks limit chunks).finish
          else (LineFeed.ofChunks limit chunks).lines.reverse)
        (LineFeed.ofChunks limit chunks).overrun := by
  have hnil : ∀ lines, collectLines (g.readLine target) lines [[]] =
      collectLines (g.readLine target) lines [] := fun lines => by
    rw [collectLines_eq]
    rfl
  simp only [collectChunks, Collected.readOn, hnil]
  generalize collectLines (g.readLine target) _ [] = c
  obtain ⟨ds, _ | f⟩ := c <;> cases (LineFeed.ofChunks limit chunks).overrun <;> rfl

/-- Lines that follow others are read on behind them, unless those end the reading. -/
lemma readOn_append (c : Collected) (lines lines' : List Octets) (overrun : Option Bool) :
    c.readOn g target (lines ++ lines') overrun =
      match (c.readOn g target lines none).fault with
      | some _ => c.readOn g target lines none
      | none => (c.readOn g target lines none).readOn g target lines' overrun := by
  simp only [Collected.readOn, collectLines_append, Option.map_none]
  cases hfault : (collectLines (g.readLine target) lines [c.diagnostics]).fault with
  | some f => simp [hfault]
  | none => rfl

lemma overrun_of_fault_eq_none {c : Collected} {lines : List Octets} {overrun : Option Bool}
    (h : (c.readOn g target lines overrun).fault = none) : overrun = none := by
  cases overrun with
  | none => rfl
  | some found =>
    simp only [Collected.readOn] at h
    generalize (collectLines (g.readLine target) lines [c.diagnostics]).fault = fault at h
    cases fault <;> cases h

section NoFault

variable (h : (collectChunks g target limit chunks false).fault = none)

include h

lemma overrun_of_collectChunks : (LineFeed.ofChunks limit chunks).overrun = none := by
  rw [collectChunks_eq_readOn] at h
  exact overrun_of_fault_eq_none h

/-- A report that is read without failure is read on where it was left. -/
lemma collectChunks_concat (chunk : Octets) :
    let feed := (LineFeed.ofChunks limit chunks).drained.feed limit chunk
    collectChunks g target limit (chunks ++ [chunk]) false =
      (collectChunks g target limit chunks false).readOn g target feed.lines.reverse
        feed.overrun := by
  intro feed
  have hopen := overrun_of_collectChunks h
  rw [collectChunks_eq_readOn] at h ⊢
  rw [collectChunks_eq_readOn, LineFeed.ofChunks_concat, LineFeed.lines_feed,
    LineFeed.overrun_feed]
  simp only [Bool.false_eq_true, if_false, List.reverse_append, hopen] at h ⊢
  rw [readOn_append, h]

/-- Its end may complete one more line. -/
lemma collectChunks_ended :
    collectChunks g target limit chunks true =
      (collectChunks g target limit chunks false).readOn g target
        (LineFeed.ofChunks limit chunks).drained.finish none := by
  have hopen := overrun_of_collectChunks h
  rw [collectChunks_eq_readOn] at h ⊢
  rw [collectChunks_eq_readOn, LineFeed.finish_of_open hopen]
  simp only [Bool.false_eq_true, if_false, if_true, hopen] at h ⊢
  rw [readOn_append, h]

end NoFault

section Fault

variable {f : Fault} (h : (collectChunks g target limit chunks false).fault = some f)

include h

/-- Nothing more is read of a report once that has failed. -/
lemma collectChunks_concat_of_fault (chunk : Octets) :
    collectChunks g target limit (chunks ++ [chunk]) false =
      collectChunks g target limit chunks false := by
  rw [collectChunks_eq_readOn] at h ⊢
  rw [collectChunks_eq_readOn, LineFeed.ofChunks_concat]
  cases hopen : (LineFeed.ofChunks limit chunks).overrun with
  | some found => rw [LineFeed.feed_of_overrun hopen, hopen]
  | none =>
    rw [LineFeed.lines_feed, LineFeed.overrun_feed]
    simp only [Bool.false_eq_true, if_false, List.reverse_append, hopen] at h ⊢
    rw [readOn_append, h]

lemma collectChunks_ended_of_fault :
    collectChunks g target limit chunks true = collectChunks g target limit chunks false := by
  rw [collectChunks_eq_readOn] at h ⊢
  rw [collectChunks_eq_readOn]
  cases hopen : (LineFeed.ofChunks limit chunks).overrun with
  | some found => simp only [LineFeed.finish_of_overrun hopen, ite_self]
  | none =>
    rw [LineFeed.finish_of_open hopen]
    simp only [Bool.false_eq_true, if_false, if_true, hopen] at h ⊢
    rw [readOn_append, h]

end Fault

end CollectChunks

end CompilerOutput

/-! ## What a run has taken in -/

lemma OutputStream.eq_other_of_ne {s t : OutputStream} (h : s ≠ t) : s = t.other := by
  cases s <;> cases t <;> first | rfl | exact absurd rfl h

lemma OutputStream.other_ne (s : OutputStream) : s.other ≠ s := by
  cases s <;> decide

@[simp] lemma chunksOf_concat_chunk (stream : OutputStream) (arrivals : List Arrival)
    (octets : Octets) :
    chunksOf stream (arrivals ++ [.chunk stream octets]) =
      chunksOf stream arrivals ++ [octets] := by
  simp [chunksOf, Arrival.chunk?]

lemma chunksOf_concat_of_none {stream : OutputStream} {a : Arrival} (h : a.chunk? stream = none)
    (arrivals : List Arrival) : chunksOf stream (arrivals ++ [a]) = chunksOf stream arrivals := by
  simp [chunksOf, h]

@[simp] lemma chunksOf_concat_closed (stream closed : OutputStream) (arrivals : List Arrival) :
    chunksOf stream (arrivals ++ [.closed closed]) = chunksOf stream arrivals :=
  chunksOf_concat_of_none rfl arrivals

@[simp] lemma chunksOf_concat_exited (stream : OutputStream) (arrivals : List Arrival)
    (status : ExitStatus) :
    chunksOf stream (arrivals ++ [.exited status]) = chunksOf stream arrivals :=
  chunksOf_concat_of_none rfl arrivals

lemma InOrder.of_append {stream : OutputStream} {arrivals : List Arrival} {a : Arrival}
    (h : InOrder stream (arrivals ++ [a])) : InOrder stream arrivals :=
  (List.pairwise_append.1 h).1

lemma InOrder.closed_not_mem {stream : OutputStream} {arrivals : List Arrival} {octets : Octets}
    (h : InOrder stream (arrivals ++ [.chunk stream octets])) : .closed stream ∉ arrivals := by
  intro hclosed
  have hnone := (List.pairwise_append.1 h).2.2 _ hclosed _ (List.mem_singleton_self _) rfl
  simp [Arrival.chunk?] at hnone

namespace Intake

variable {g : Generation} {target : String} {arrivals : List Arrival} {s : Intake}

/-- A run has taken in what arrived. -/
structure Reflects [Platform] (g : Generation) (target : String) (arrivals : List Arrival)
    (s : Intake) :
    Prop where
  feed : s.isReading = true →
    s.feed = (LineFeed.ofChunks streamLineLimit (chunksOf g.reportStream arrivals)).drained
  collected : s.collected =
    collectChunks g target streamLineLimit (chunksOf g.reportStream arrivals) s.reportClosed
  reportClosed : s.reportClosed = true ↔ .closed g.reportStream ∈ arrivals
  raw : s.raw = chunksOf g.reportStream.other arrivals
  otherClosed : s.otherClosed = true ↔ .closed g.reportStream.other ∈ arrivals
  exit : s.exit.isSome = true ↔ ∃ status, .exited status ∈ arrivals

lemma reflects_initial [Platform] : Reflects g target [] initial :=
  ⟨fun _ => rfl, rfl, by simp [initial], rfl, by simp [initial], by simp [initial]⟩

lemma isReading_iff : s.isReading = true ↔ s.reportClosed = false ∧ s.collected.fault = none := by
  simp [isReading]

lemma Reflects.reportClosed_eq_false [Platform] (h : Reflects g target arrivals s)
    (order : .closed g.reportStream ∉ arrivals) : s.reportClosed = false :=
  Bool.eq_false_iff.2 fun hclosed => order (h.reportClosed.1 hclosed)

lemma Reflects.concat_report_chunk [Platform] (h : Reflects g target arrivals s) (octets : Octets)
    (order : .closed g.reportStream ∉ arrivals) :
    Reflects g target (arrivals ++ [.chunk g.reportStream octets])
      (s.next g target (.chunk g.reportStream octets)) := by
  have hopen := h.reportClosed_eq_false order
  have hcollected := h.collected
  have hother : (Arrival.chunk g.reportStream octets).chunk? g.reportStream.other = none :=
    if_neg g.reportStream.other_ne.symm
  have hraw := (chunksOf_concat_of_none hother arrivals).symm ▸ h.raw
  rw [hopen] at hcollected
  cases hfault : s.collected.fault with
  | none =>
    have hreading := isReading_iff.2 ⟨hopen, hfault⟩
    have hfeed := h.feed hreading
    rw [hcollected] at hfault
    simp only [next, if_true, hreading]
    refine ⟨fun _ => ?_, ?_, by simpa using h.reportClosed, hraw, by simpa using h.otherClosed,
      by simpa using h.exit⟩
    · rw [hfeed, chunksOf_concat_chunk, LineFeed.ofChunks_concat]
      exact (LineFeed.drained_feed _ _ octets).symm
    · simp only
      rw [hopen, chunksOf_concat_chunk, collectChunks_concat hfault, ← hcollected, ← hfeed]
  | some f =>
    have hreading : s.isReading = false := by simp [isReading, hfault]
    rw [hcollected] at hfault
    simp only [next, if_true, hreading, Bool.false_eq_true, if_false]
    refine ⟨fun hread => ?_, ?_, by simpa using h.reportClosed, hraw, by simpa using h.otherClosed,
      by simpa using h.exit⟩
    · rw [hreading] at hread
      cases hread
    · rw [hopen, chunksOf_concat_chunk, collectChunks_concat_of_fault hfault, hcollected]

lemma Reflects.concat_other_chunk [Platform] (h : Reflects g target arrivals s) (octets : Octets)
    (order : .closed g.reportStream.other ∉ arrivals) :
    Reflects g target (arrivals ++ [.chunk g.reportStream.other octets])
      (s.next g target (.chunk g.reportStream.other octets)) := by
  have hopen : s.otherClosed = false :=
    Bool.eq_false_iff.2 fun hclosed => order (h.otherClosed.1 hclosed)
  have hreport : (Arrival.chunk g.reportStream.other octets).chunk? g.reportStream = none :=
    if_neg g.reportStream.other_ne
  have hchunks := chunksOf_concat_of_none hreport arrivals
  simp only [next, g.reportStream.other_ne, if_false, hopen, Bool.false_eq_true]
  refine ⟨?_, ?_, by simpa using h.reportClosed, ?_, by simpa [hopen] using h.otherClosed,
    by simpa using h.exit⟩
  · rw [hchunks]
    exact h.feed
  · rw [hchunks]
    exact h.collected
  · rw [chunksOf_concat_chunk, ← h.raw]

lemma Reflects.concat_report_closed [Platform] (h : Reflects g target arrivals s) :
    Reflects g target (arrivals ++ [.closed g.reportStream])
      (s.next g target (.closed g.reportStream)) := by
  have hcollected := h.collected
  have hother : s.otherClosed = true ↔
      .closed g.reportStream.other ∈ arrivals ++ [.closed g.reportStream] := by
    simpa [g.reportStream.other_ne] using h.otherClosed
  by_cases hreading : s.isReading = true
  · obtain ⟨hopen, hfault⟩ := isReading_iff.1 hreading
    rw [hopen] at hcollected
    rw [hcollected] at hfault
    simp only [next, if_true, hreading]
    refine ⟨fun hread => ?_, ?_, by simp, by simpa using h.raw, hother, by simpa using h.exit⟩
    · simp [isReading] at hread
    · rw [chunksOf_concat_closed, collectChunks_ended hfault, ← hcollected, h.feed hreading]
  · have hended : s.collected = collectChunks g target streamLineLimit
        (chunksOf g.reportStream arrivals) true := by
      cases hclosed : s.reportClosed with
      | true => rw [hcollected, hclosed]
      | false =>
        rw [hclosed] at hcollected
        cases hfault : s.collected.fault with
        | none => exact absurd (isReading_iff.2 ⟨hclosed, hfault⟩) hreading
        | some f =>
          rw [hcollected] at hfault ⊢
          rw [collectChunks_ended_of_fault hfault]
    simp only [next, if_true, hreading]
    refine ⟨fun hread => ?_, by simpa using hended, by simp, by simpa using h.raw, hother,
      by simpa using h.exit⟩
    simp [isReading] at hread

lemma Reflects.concat_other_closed [Platform] (h : Reflects g target arrivals s) :
    Reflects g target (arrivals ++ [.closed g.reportStream.other])
      (s.next g target (.closed g.reportStream.other)) := by
  simp only [next, g.reportStream.other_ne, if_false]
  refine ⟨?_, by simpa using h.collected,
    by simpa [g.reportStream.other_ne.symm] using h.reportClosed, by simpa using h.raw, by simp,
    by simpa using h.exit⟩
  rw [chunksOf_concat_closed]
  exact h.feed

lemma Reflects.concat_exited [Platform] (h : Reflects g target arrivals s) (status : ExitStatus) :
    Reflects g target (arrivals ++ [.exited status]) (s.next g target (.exited status)) := by
  refine ⟨?_, by simpa [next] using h.collected, by simpa [next] using h.reportClosed,
    by simpa [next] using h.raw, by simpa [next] using h.otherClosed, by simp [next]⟩
  rw [chunksOf_concat_exited]
  exact h.feed

/-- A run takes in one arrival more. -/
lemma Reflects.concat [Platform] (h : Reflects g target arrivals s) {a : Arrival}
    (order : ∀ stream, InOrder stream (arrivals ++ [a])) :
    Reflects g target (arrivals ++ [a]) (s.next g target a) := by
  cases a with
  | chunk stream octets =>
    by_cases hstream : stream = g.reportStream
    · subst hstream
      exact h.concat_report_chunk octets (order _).closed_not_mem
    · obtain rfl := OutputStream.eq_other_of_ne hstream
      exact h.concat_other_chunk octets (order _).closed_not_mem
  | closed stream =>
    by_cases hstream : stream = g.reportStream
    · subst hstream
      exact h.concat_report_closed
    · obtain rfl := OutputStream.eq_other_of_ne hstream
      exact h.concat_other_closed
  | exited status => exact h.concat_exited status

lemma reflects_after [Platform] (order : ∀ stream, InOrder stream arrivals) :
    Reflects g target arrivals (after g target arrivals) := by
  induction arrivals using List.reverseRecOn with
  | nil => exact reflects_initial
  | append_singleton arrivals a ih =>
    rw [after, List.foldl_append]
    exact (ih fun stream => (order stream).of_append).concat order

/-- Nothing of a run to which everything has come changes any more, but for the exit status. -/
lemma next_of_settled [Platform] (g : Generation) (target : String)
    (hreport : s.reportClosed = true) (hother : s.otherClosed = true)
    (hexit : s.exit.isSome = true) (a : Arrival) :
    ∃ exit, exit.isSome = true ∧ s.next g target a = { s with exit } := by
  have hreading : s.isReading = false := by simp [isReading, hreport]
  cases a with
  | chunk stream octets =>
    refine ⟨s.exit, hexit, ?_⟩
    have hnext : s.next g target (.chunk stream octets) = s := by
      simp only [next, hreading, hother, Bool.false_eq_true, if_false, if_true, ite_self]
    rw [hnext]
  | closed stream =>
    refine ⟨s.exit, hexit, ?_⟩
    obtain ⟨feed, collected, reportClosed, raw, otherClosed, exit⟩ := s
    cases hreport
    cases hother
    simp only [next, hreading, Bool.false_eq_true, if_false, ite_self]
  | exited status => exact ⟨some status, rfl, rfl⟩

/-- Nor does what was read of a report that has failed. -/
lemma fault_next [Platform] {f : Fault} (h : s.collected.fault = some f) (a : Arrival) :
    (s.next g target a).collected.fault = some f := by
  have hreading : s.isReading = false := by simp [isReading, h]
  cases a with
  | chunk stream octets =>
    simp only [next, hreading, Bool.false_eq_true, if_false]
    split
    · exact h
    · split <;> exact h
  | closed stream =>
    simp only [next, hreading, Bool.false_eq_true, if_false]
    split <;> exact h
  | exited status => exact h

/-- A run that is resolved stays so. -/
lemma resolution_next [Platform] {r : Except Fault (List Diagnostic)}
    (h : s.resolution g target = some r) (a : Arrival) :
    (s.next g target a).resolution g target = some r := by
  cases hfault : s.collected.fault with
  | some f =>
    rw [resolution, hfault] at h
    rw [resolution, fault_next hfault a]
    exact h
  | none =>
    rw [resolution, hfault] at h
    split at h
    · rename_i hnone
      cases hnone
    · split at h
      · rename_i hsettled
        simp only [Bool.and_eq_true] at hsettled
        obtain ⟨⟨hreport, hother⟩, hexit⟩ := hsettled
        obtain ⟨exit, hsome, hnext⟩ := next_of_settled g target hreport hother hexit a
        rw [hnext, resolution, hfault]
        simp only [hreport, hother, hsome]
        exact h
      · cases h

theorem resolution_after [Platform] {before : List Arrival} {r : Except Fault (List Diagnostic)}
    (h : (after g target before).resolution g target = some r) (later : List Arrival) :
    (after g target (before ++ later)).resolution g target = some r := by
  induction later using List.reverseRecOn with
  | nil => rwa [List.append_nil]
  | append_singleton later a ih =>
    rw [← List.append_assoc, after, List.foldl_append]
    exact resolution_next ih a

/-- Once everything has arrived, the run is resolved to what its chunks come to. -/
theorem resolution_of_complete [Platform] (g : Generation) (target : String)
    (order : ∀ stream, InOrder stream arrivals) (closed : ∀ stream, .closed stream ∈ arrivals)
    (exited : ∃ status, .exited status ∈ arrivals) :
    (after g target arrivals).resolution g target =
      some (CompilerRun.conclude g target (chunksOf g.reportStream arrivals)
        (chunksOf g.reportStream.other arrivals)) := by
  have h : Reflects g target arrivals (after g target arrivals) := reflects_after order
  have hreport := h.reportClosed.2 (closed _)
  have hother := h.otherClosed.2 (closed _)
  have hexit := h.exit.2 exited
  rw [resolution, CompilerRun.conclude, h.collected, hreport, hother, hexit, h.raw]
  cases (collectChunks g target streamLineLimit (chunksOf g.reportStream arrivals) true).fault with
  | some f => rfl
  | none =>
    cases projectFailure? g target (chunksOf g.reportStream.other arrivals) <;> rfl

end Intake

end ElmOnSave
