import ElmOnSave.CompilerOutput.Collector
import ElmOnSave.Proofs.Splitting

/-!
# The lines of a stream

A stream is read line by line while it arrives, in chunks that end anywhere.  What reading it comes
to is said here of its octets alone: `streamLines` cuts them at line ends, and `readStream` reads
the lines in order up to the first failure, a line that is too long being one.

`collectChunks_cases` says how far the reader of chunks comes, and `collectChunks_agrees` that it
comes to the same, however the octets are cut.  Only one thing depends on the cut: whether a line
that is too long had arrived to its end when that was noticed, which is left open by `Agree`.  The
invariant is `Describes`: the complete lines and the start of a line that a `LineFeed` holds are the
pieces of the octets it was given.
-/

namespace ElmOnSave

/-- Two outcomes that agree, except for how far a line that is too long had arrived. -/
inductive Agree {α : Type} : Except Fault α → Except Fault α → Prop where
  | same (x : Except Fault α) : Agree x x
  | lineTooLong (a b : Bool) :
      Agree (.error (.output (.lineTooLong a) "")) (.error (.output (.lineTooLong b) ""))

namespace CompilerOutput

/-! ## What there is to read -/

/-- The pieces of a stream between its line ends. -/
def streamPieces (octets : Octets) : List Octets :=
  Text.splitAll (· == lineEnd) octets

/-- The lines of a stream, without their ends; what follows the last line end is a line too, unless
it is empty. -/
def streamLines (octets : Octets) : List Octets :=
  let pieces := streamPieces octets
  if pieces.getLastD [] = [] then pieces.dropLast else pieces

/-- Reads one line; it must not be longer than the limit. -/
def readStreamLine (read : String → Except Fault (List Diagnostic)) (limit : Nat) (line : Octets) :
    Except Fault (List Diagnostic) :=
  if limit < line.length then .error (.output (.lineTooLong true) "") else read (lineText line)

/-- Reads the lines of a stream, one after the other, up to the first failure. -/
def readStream (read : String → Except Fault (List Diagnostic)) (limit : Nat) (octets : Octets) :
    Except Fault (List Diagnostic) :=
  ((streamLines octets).mapM (readStreamLine read limit)).map List.flatten

/-- A stream has a last piece, which may be empty. -/
lemma exists_streamPieces (octets : Octets) :
    ∃ init last, streamPieces octets = init ++ [last] := by
  have hne : streamPieces octets ≠ [] := by
    rw [streamPieces, Text.splitAll_eq_splitOnP]
    exact List.splitOnP_ne_nil _ octets
  exact (List.eq_nil_or_concat' _).resolve_left hne

/-- A line end cuts a stream wherever it stands. -/
lemma streamPieces_append_cons (before after : Octets) :
    streamPieces (before ++ lineEnd :: after) = streamPieces before ++ streamPieces after :=
  Text.splitAll_append_cons before after (beq_self_eq_true lineEnd)

/-- Octets without a line end are one piece. -/
lemma streamPieces_of_not_mem {octets : Octets} (h : lineEnd ∉ octets) :
    streamPieces octets = [octets] :=
  Text.splitAll_of_forall_not fun _ hb => beq_eq_false_iff_ne.2 fun heq => h (heq ▸ hb)

lemma streamPieces_concat_lineEnd (octets : Octets) :
    streamPieces (octets ++ [lineEnd]) = streamPieces octets ++ [[]] :=
  Text.splitAll_concat_of_pos octets (beq_self_eq_true lineEnd)

lemma streamPieces_concat_of_ne {octets last : Octets} {init : List Octets} {b : UInt8}
    (hb : b ≠ lineEnd) (h : streamPieces octets = init ++ [last]) :
    streamPieces (octets ++ [b]) = init ++ [last ++ [b]] :=
  Text.splitAll_concat_of_neg (beq_eq_false_iff_ne.2 hb) h

/-! ## What a feed holds -/

/-- What a feed holds are the pieces of the octets it was given: its lines, none too long, and then
the start of another one, or a piece that is too long and whatever follows. -/
inductive Describes (limit : Nat) (octets : Octets) (s : LineFeed) : Prop where
  | growing (overrun : s.overrun = none) (size : s.size = s.held.length)
      (fits : ∀ line ∈ s.lines, line.length ≤ limit)
      (pieces : streamPieces octets = s.lines.reverse ++ [s.held.reverse])
  | stuck (found : Bool) (long : Octets) (rest : List Octets) (overrun : s.overrun = some found)
      (exceeds : limit < long.length) (fits : ∀ line ∈ s.lines, line.length ≤ limit)
      (pieces : streamPieces octets = s.lines.reverse ++ long :: rest)

/-- One octet more behind a piece that is too long. -/
lemma exists_stuck_pieces {limit : Nat} {octets long : Octets} {lines rest : List Octets}
    (exceeds : limit < long.length)
    (pieces : streamPieces octets = lines ++ long :: rest) (b : UInt8) :
    ∃ long' rest', limit < long'.length ∧
      streamPieces (octets ++ [b]) = lines ++ long' :: rest' := by
  by_cases hb : b = lineEnd
  · refine ⟨long, rest ++ [[]], exceeds, ?_⟩
    rw [hb, streamPieces_concat_lineEnd, pieces, List.append_assoc, List.cons_append]
  · rcases List.eq_nil_or_concat' rest with rfl | ⟨init, last, rfl⟩
    · refine ⟨long ++ [b], [], ?_, streamPieces_concat_of_ne hb pieces⟩
      rw [List.length_append]
      omega
    · have hpieces : streamPieces octets = (lines ++ long :: init) ++ [last] := by
        rw [pieces, List.append_assoc, List.cons_append]
      refine ⟨long, init ++ [last ++ [b]], exceeds, ?_⟩
      rw [streamPieces_concat_of_ne hb hpieces, List.append_assoc, List.cons_append]

lemma Describes.feedOctet {limit : Nat} {octets : Octets} {s : LineFeed}
    (h : Describes limit octets s) (b : UInt8) :
    Describes limit (octets ++ [b]) (s.feedOctet limit b) := by
  cases h with
  | growing overrun size fits pieces =>
    by_cases hb : b = lineEnd
    · have hpieces :
          streamPieces (octets ++ [b]) = s.lines.reverse ++ [s.held.reverse] ++ [[]] := by
        rw [hb, streamPieces_concat_lineEnd, pieces]
      by_cases hlong : limit < s.size
      · have hstep : s.feedOctet limit b = { s with overrun := some true } := by
          simp only [LineFeed.feedOctet, overrun, hb, hlong, if_true]
        rw [hstep]
        refine .stuck true s.held.reverse [[]] rfl ?_ fits (by simpa using hpieces)
        rwa [List.length_reverse, ← size]
      · have hstep : s.feedOctet limit b = ⟨[], 0, s.held.reverse :: s.lines, none⟩ := by
          simp only [LineFeed.feedOctet, overrun, hb, hlong, if_true, if_false]
        rw [hstep]
        refine .growing rfl rfl ?_ (by simpa using hpieces)
        rintro line hline
        rcases List.mem_cons.1 hline with rfl | hline
        · rw [List.length_reverse, ← size]
          exact Nat.le_of_not_lt hlong
        · exact fits line hline
    · have hstep : s.feedOctet limit b = { s with held := b :: s.held, size := s.size + 1 } := by
        simp only [LineFeed.feedOctet, overrun, hb, if_false]
      rw [hstep]
      refine .growing overrun ?_ fits ?_
      · rw [List.length_cons, size]
      · rw [List.reverse_cons]
        exact streamPieces_concat_of_ne hb pieces
  | stuck found long rest overrun exceeds fits pieces =>
    have hstep : s.feedOctet limit b = s := by simp only [LineFeed.feedOctet, overrun]
    obtain ⟨long', rest', exceeds', pieces'⟩ := exists_stuck_pieces exceeds pieces b
    rw [hstep]
    exact .stuck found long' rest' overrun exceeds' fits pieces'

lemma Describes.foldl {limit : Nat} {octets : Octets} {s : LineFeed}
    (h : Describes limit octets s) (chunk : Octets) :
    Describes limit (octets ++ chunk) (chunk.foldl (LineFeed.feedOctet limit) s) := by
  induction chunk generalizing octets s with
  | nil => rwa [List.append_nil]
  | cons b chunk ih =>
    rw [List.append_cons]
    exact ih (h.feedOctet b)

/-- A chunk more, and what is held back has been found not to be too long. -/
lemma Describes.feed {limit : Nat} {octets : Octets} {s : LineFeed}
    (h : Describes limit octets s) (chunk : Octets) :
    Describes limit (octets ++ chunk) (s.feed limit chunk) ∧
      ((s.feed limit chunk).overrun = none → (s.feed limit chunk).size ≤ limit) := by
  have hchunk := h.foldl chunk
  unfold LineFeed.feed
  generalize chunk.foldl (LineFeed.feedOctet limit) s = t at hchunk
  cases hchunk with
  | growing overrun size fits pieces =>
    by_cases hlong : limit < t.size
    · simp only [overrun, Option.isNone_none, hlong, decide_true, Bool.and_self, if_true]
      refine ⟨.stuck false t.held.reverse [] rfl ?_ fits pieces, fun hnone => ?_⟩
      · rwa [List.length_reverse, ← size]
      · cases hnone
    · simp only [overrun, Option.isNone_none, hlong, decide_false, Bool.and_false,
        Bool.false_eq_true, if_false]
      exact ⟨.growing overrun size fits pieces, fun _ => Nat.le_of_not_lt hlong⟩
  | stuck found long rest overrun exceeds fits pieces =>
    simp only [overrun, Option.isNone_some, Bool.false_and, Bool.false_eq_true, if_false]
    refine ⟨.stuck found long rest overrun exceeds fits pieces, fun hnone => ?_⟩
    cases hnone

lemma describes_initial (limit : Nat) : Describes limit [] .initial :=
  .growing rfl rfl (by simp [LineFeed.initial]) rfl

/-- However a stream is cut into chunks, the feed describes its octets. -/
theorem describes_ofChunks (limit : Nat) (chunks : List Octets) :
    Describes limit chunks.flatten (.ofChunks limit chunks) ∧
      ((LineFeed.ofChunks limit chunks).overrun = none →
        (LineFeed.ofChunks limit chunks).size ≤ limit) := by
  induction chunks using List.reverseRecOn with
  | nil => exact ⟨describes_initial limit, fun _ => Nat.zero_le limit⟩
  | append_singleton chunks chunk ih =>
    have hfeed := ih.1.feed chunk
    rw [List.flatten_append, List.flatten_singleton, LineFeed.ofChunks, List.foldl_append]
    exact hfeed

/-! ## Reading what a feed holds -/

/-- The outcome of a reading: the failure that ended it, or the diagnostics. -/
def Collected.toExcept (c : Collected) : Except Fault (List Diagnostic) :=
  match c.fault with
  | some f => .error f
  | none => .ok c.diagnostics

lemma Collected.toExcept_prepend (c : Collected) (ds : List Diagnostic) :
    (Collected.mk (ds ++ c.diagnostics) c.fault).toExcept = c.toExcept.map (ds ++ ·) := by
  unfold Collected.toExcept
  cases c.fault <;> rfl

lemma Collected.toExcept_eq_error_iff {c : Collected} {f : Fault} :
    c.toExcept = .error f ↔ c.fault = some f := by
  unfold Collected.toExcept
  cases c.fault <;> simp

lemma Collected.toExcept_eq_ok_iff {c : Collected} {ds : List Diagnostic} :
    c.toExcept = .ok ds ↔ c.fault = none ∧ c.diagnostics = ds := by
  unfold Collected.toExcept
  cases c.fault <;> simp

section CollectLines

variable {read : String → Except Fault (List Diagnostic)}

/-- What was gathered before stands in front of what the lines yield. -/
lemma collectLines_eq (lines : List Octets) (acc : List (List Diagnostic)) :
    collectLines read lines acc =
      ⟨acc.reverse.flatten ++ (collectLines read lines []).diagnostics,
        (collectLines read lines []).fault⟩ := by
  induction lines generalizing acc with
  | nil => simp [collectLines]
  | cons line lines ih =>
    cases hline : read (lineText line) with
    | error f => simp [collectLines, hline]
    | ok ds =>
      simp only [collectLines, hline]
      rw [ih (ds :: acc), ih [ds]]
      simp

lemma toExcept_collectLines (lines : List Octets) :
    (collectLines read lines []).toExcept =
      (lines.mapM fun line => read (lineText line)).map List.flatten := by
  induction lines with
  | nil => rfl
  | cons line lines ih =>
    rw [List.mapM_cons]
    cases hline : read (lineText line) with
    | error f => simp only [collectLines, hline]; rfl
    | ok ds =>
      rw [collectLines, hline]
      simp only
      rw [collectLines_eq, Collected.toExcept_prepend, ih]
      cases lines.mapM fun line => read (lineText line) with
      | error f => rfl
      | ok dss => simp [Except.map, bind, Except.bind, pure, Except.pure]

end CollectLines

/-- Cut off behind its last piece: the lines of a stream. -/
lemma streamLines_of_pieces {octets last : Octets} {init : List Octets}
    (h : streamPieces octets = init ++ [last]) :
    streamLines octets = if last = [] then init else init ++ [last] := by
  simp [streamLines, h]

/-- A piece that is too long is a line, even at the end of the stream. -/
lemma exists_streamLines_of_long {limit : Nat} {octets long : Octets} {lines rest : List Octets}
    (exceeds : limit < long.length) (h : streamPieces octets = lines ++ long :: rest) :
    ∃ rest', streamLines octets = lines ++ long :: rest' := by
  rcases List.eq_nil_or_concat' rest with rfl | ⟨init, last, rfl⟩
  · have hne : long ≠ [] := List.ne_nil_of_length_pos (Nat.zero_lt_of_lt exceeds)
    exact ⟨[], by rw [streamLines_of_pieces h, if_neg hne]⟩
  · have hpieces : streamPieces octets = (lines ++ long :: init) ++ [last] := by
      rw [h, List.append_assoc, List.cons_append]
    rw [streamLines_of_pieces hpieces]
    split
    · exact ⟨init, rfl⟩
    · exact ⟨init ++ [last], by rw [List.append_assoc, List.cons_append]⟩

/-- Lines that are not too long are read as they are. -/
lemma mapM_readStreamLine_of_fits {read : String → Except Fault (List Diagnostic)} {limit : Nat}
    {lines : List Octets} (fits : ∀ line ∈ lines, line.length ≤ limit) :
    lines.mapM (readStreamLine read limit) = lines.mapM fun line => read (lineText line) := by
  induction lines with
  | nil => rfl
  | cons line lines ih =>
    have hline : readStreamLine read limit line = read (lineText line) :=
      if_neg (Nat.not_lt.2 (fits line (List.mem_cons_self ..)))
    rw [List.mapM_cons, List.mapM_cons, hline,
      ih fun line' hline' => fits line' (List.mem_cons_of_mem line hline')]

/-- A stream whose lines all fit is read to its end. -/
lemma readStream_of_fits {read : String → Except Fault (List Diagnostic)} {limit : Nat}
    {octets : Octets} (fits : ∀ line ∈ streamLines octets, line.length ≤ limit) :
    readStream read limit octets = (collectLines read (streamLines octets) []).toExcept := by
  rw [readStream, mapM_readStreamLine_of_fits fits, toExcept_collectLines]

/-- A stream with a line that is too long is read up to that line. -/
lemma readStream_of_long {read : String → Except Fault (List Diagnostic)} {limit : Nat}
    {octets long : Octets} {lines rest : List Octets}
    (hlines : streamLines octets = lines ++ long :: rest)
    (fits : ∀ line ∈ lines, line.length ≤ limit) (exceeds : limit < long.length) :
    readStream read limit octets =
      match (collectLines read lines []).fault with
      | some f => .error f
      | none => .error (.output (.lineTooLong true) "") := by
  have hlong : readStreamLine read limit long = .error (.output (.lineTooLong true) "") :=
    if_pos exceeds
  have hcollect : (collectLines read lines []).toExcept = _ := toExcept_collectLines lines
  rw [readStream, hlines, List.mapM_append, mapM_readStreamLine_of_fits fits, List.mapM_cons, hlong]
  cases hmap : lines.mapM fun line => read (lineText line) with
  | error f =>
    rw [hmap] at hcollect
    rw [Collected.toExcept_eq_error_iff.1 hcollect]
    rfl
  | ok dss =>
    rw [hmap] at hcollect
    rw [(Collected.toExcept_eq_ok_iff.1 hcollect).1]
    rfl

/-- A stream is read to its end, or up to the first line that is too long. -/
lemma collectChunks_cases [Platform] (g : Generation) (target : String) (limit : Nat)
    (chunks : List Octets) :
    ((∀ line ∈ streamLines chunks.flatten, line.length ≤ limit) ∧
      collectChunks g target limit chunks true =
        collectLines (g.readLine target) (streamLines chunks.flatten) []) ∨
    ∃ before long after found, streamLines chunks.flatten = before ++ long :: after ∧
      (∀ line ∈ before, line.length ≤ limit) ∧ limit < long.length ∧
      collectChunks g target limit chunks true =
        ⟨(collectLines (g.readLine target) before []).diagnostics,
          (collectLines (g.readLine target) before []).fault.or
            (some (.output (.lineTooLong found) ""))⟩ := by
  obtain ⟨hdescribes, hsize⟩ := describes_ofChunks limit chunks
  rw [collectChunks]
  generalize LineFeed.ofChunks limit chunks = s at hdescribes hsize
  cases hdescribes with
  | growing overrun size fits pieces =>
    have hlines := streamLines_of_pieces pieces
    have hfinish : s.finish = streamLines chunks.flatten := by
      rw [hlines]
      by_cases hheld : s.held = [] <;> simp [LineFeed.finish, overrun, size, hheld]
    have hheld : s.held.length ≤ limit := size ▸ hsize overrun
    refine .inl ⟨fun line hline => ?_, ?_⟩
    · rw [hlines] at hline
      have hmem : line ∈ s.lines ∨ line = s.held.reverse := by
        split at hline
        · exact .inl (List.mem_reverse.1 hline)
        · simpa using hline
      rcases hmem with hmem | rfl
      · exact fits line hmem
      · rwa [List.length_reverse]
    · simp only [overrun, hfinish, if_true]
      split
      · rename_i hnone
        cases hnone
      · rfl
  | stuck found long rest overrun exceeds fits pieces =>
    have hfinish : s.finish = s.lines.reverse := by simp [LineFeed.finish, overrun]
    obtain ⟨rest', hlines⟩ := exists_streamLines_of_long exceeds pieces
    refine .inr ⟨s.lines.reverse, long, rest', found, hlines,
      fun line hline => fits line (List.mem_reverse.1 hline), exceeds, ?_⟩
    simp only [overrun, hfinish, if_true]
    cases collectLines (g.readLine target) s.lines.reverse [] with
    | mk diagnostics fault => cases fault <;> rfl

/-- However the octets of a stream are cut into chunks, reading it to its end comes to the reading
of its lines. -/
theorem collectChunks_agrees [Platform] (g : Generation) (target : String) (limit : Nat)
    (chunks : List Octets) :
    Agree (collectChunks g target limit chunks true).toExcept
      (readStream (g.readLine target) limit chunks.flatten) := by
  obtain ⟨hfits, hcollect⟩ | ⟨before, long, after, found, hlines, hfits, exceeds, hcollect⟩ :=
    collectChunks_cases g target limit chunks
  · rw [hcollect, readStream_of_fits hfits]
    exact .same _
  · rw [hcollect, readStream_of_long hlines hfits exceeds]
    cases hfault : (collectLines (g.readLine target) before []).fault with
    | some f => exact .same _
    | none => exact .lineTooLong found true

end CompilerOutput

end ElmOnSave
