import ElmOnSave.Proofs.OversizedLines
import ElmOnSave.Proofs.WholeText

/-!
# Line ends and blank lines

A compiler may end its lines with CR LF, and it may write blank lines between them.  `Respacing` is
one such change to a stream: a CR comes before a line end, or a whole line of white space comes
between two lines.  Any number of them is `Respaced`.

A change to the stream is a change to one of the lines that are read (`Respacing.lineChange`), since
a line end cuts the stream wherever it stands (`linesRead_append_cons`).  A CR at the end of a line
is decoded by itself, even behind a character that was begun and not finished, and dropped with the
line end (`lineText_concat_carriageReturn`); a line of white space is read as nothing by either
generation (`readLine_of_isBlankText`).  So nothing that is gathered changes
(`LineChange.collectLines_congr`), and since the lines of the shorter stream fit if those of the
longer one do (`LineChange.fits`), this holds of any number of changes.
-/

namespace ElmOnSave

namespace CompilerOutput

/-- The octet CR. -/
def carriageReturn : UInt8 := 13

/-- A CR comes before a line end, or a whole line of white space comes between lines.  White space
is what the decoder makes of its octets. -/
inductive Respacing : Octets → Octets → Prop where
  | lineEnding (before after : Octets) :
      Respacing (before ++ lineEnd :: after) (before ++ carriageReturn :: lineEnd :: after)
  | blankLine {before blank : Octets} (after : Octets)
      (between : ∀ b ∈ before.getLast?, b = lineEnd)
      (whole : lineEnd ∉ blank)
      (white : Text.isBlankText (Utf8.decodeLossy blank) = true) :
      Respacing (before ++ after) (before ++ (blank ++ lineEnd :: after))

/-- Any number of changes to line ends and blank lines. -/
def Respaced : Octets → Octets → Prop :=
  Relation.ReflTransGen Respacing

/-! ## Lines that are read -/

/-- What a change does to the lines that are read: one of them ends in a CR, or a line of white
space comes between them. -/
inductive LineChange : List Octets → List Octets → Prop where
  | lineEnding (before after : List Octets) (line : Octets) :
      LineChange (before ++ line :: after) (before ++ (line ++ [carriageReturn]) :: after)
  | blankLine (before after : List Octets) {blank : Octets}
      (white : Text.isBlankText (Utf8.decodeLossy blank) = true) :
      LineChange (before ++ after) (before ++ blank :: after)

lemma Respacing.lineChange {octets octets' : Octets} (h : Respacing octets octets')
    (cutOff : Bool) : LineChange (linesRead octets cutOff) (linesRead octets' cutOff) := by
  cases h with
  | lineEnding before after =>
    obtain ⟨init, last, hbefore⟩ := exists_streamPieces before
    have hconcat : streamPieces (before ++ [carriageReturn]) = init ++ [last ++ [carriageReturn]] :=
      streamPieces_concat_of_ne (by decide) hbefore
    have hchange := LineChange.lineEnding init (linesRead after cutOff) last
    rw [linesRead_append_cons, List.append_cons, linesRead_append_cons, hbefore, hconcat]
    simpa using hchange
  | @blankLine before blank after between whole white =>
    rcases List.eq_nil_or_concat' before with rfl | ⟨lines, b, rfl⟩
    · have hchange := LineChange.blankLine [] (linesRead after cutOff) white
      rw [List.nil_append, List.nil_append, linesRead_append_cons, streamPieces_of_not_mem whole]
      exact hchange
    · obtain rfl : b = lineEnd := between b List.getLast?_concat
      have hchange := LineChange.blankLine (streamPieces lines)
        (linesRead after cutOff) white
      rw [← List.append_cons, ← List.append_cons, linesRead_append_cons, linesRead_append_cons,
        linesRead_append_cons, streamPieces_of_not_mem whole]
      exact hchange

/-! ## What is read on them -/

/-- A CR at the end of a line is no part of its text. -/
lemma lineText_concat_carriageReturn (line : Octets) :
    lineText (line ++ [carriageReturn]) = lineText line := by
  have hdecoded : Utf8.decodeLossy (line ++ [carriageReturn]) =
      Utf8.decodeLossy line ++ ['\r'] := by
    rw [Utf8.decodeLossy_append_ascii line [] (b := carriageReturn) (by decide)]
    rfl
  have hdropped : ∀ cs : List Char,
      ((cs ++ ['\r']).reverse.dropWhile Text.isLineEnd) = cs.reverse.dropWhile Text.isLineEnd :=
    fun cs => by
      rw [List.reverse_append]
      exact List.dropWhile_cons_of_pos rfl
  rw [lineText, lineText, hdecoded, hdropped]

/-- A line of white space is read as nothing. -/
lemma readLine_of_isBlankText [Platform] {blank : Octets}
    (white : Text.isBlankText (Utf8.decodeLossy blank) = true) (g : Generation) (target : String) :
    g.readLine target (lineText blank) = .ok [] := by
  refine readLine_of_passesOver ?_ target
  have hblank : Text.isBlankText (lineText blank).toList = true := by
    rw [Text.isBlankText, List.all_eq_true] at white ⊢
    intro c hc
    rw [lineText, String.toList_ofList, List.mem_reverse] at hc
    exact white c (List.mem_reverse.1 ((List.dropWhile_sublist _).subset hc))
  rw [Generation.passesOver, hblank, Bool.true_or]

section LineChange

variable {lines lines' : List Octets}

/-- A change to the lines does not change what is gathered. -/
lemma LineChange.collectLines_congr [Platform] (h : LineChange lines lines') (g : Generation)
    (target : String) :
    collectLines (g.readLine target) lines' [] = collectLines (g.readLine target) lines [] := by
  cases h with
  | lineEnding before after line =>
    rw [collectLines_append, collectLines_append]
    simp only [collectLines, lineText_concat_carriageReturn]
  | @blankLine before after blank white =>
    have hskip : ∀ acc, collectLines (g.readLine target) (blank :: after) acc =
        collectLines (g.readLine target) after acc := fun acc => by
      simp only [collectLines, readLine_of_isBlankText white]
      rw [collectLines_eq after ([] :: acc), collectLines_eq after acc]
      simp
    rw [collectLines_append, collectLines_append, hskip]

/-- The lines before a change fit if those behind it do. -/
lemma LineChange.fits (h : LineChange lines lines') {limit : Nat}
    (fits : ∀ line ∈ lines', line.length ≤ limit) : ∀ line ∈ lines, line.length ≤ limit := by
  cases h with
  | lineEnding before after line =>
    simp only [List.forall_mem_append, List.forall_mem_cons, List.length_append,
      List.length_singleton] at fits ⊢
    exact ⟨fits.1, Nat.le_of_succ_le fits.2.1, fits.2.2⟩
  | blankLine before after white =>
    simp only [List.forall_mem_append, List.forall_mem_cons] at fits ⊢
    exact ⟨fits.1, fits.2.2⟩

end LineChange

/-! ## Streams -/

/-- A stream whose lines all fit is gathered line by line. -/
lemma collectChunks_of_fits [Platform] {g : Generation} {target : String} {limit : Nat}
    {chunks : List Octets}
    (fits : ∀ line ∈ streamLines chunks.flatten, line.length ≤ limit) (ended : Bool) :
    collectChunks g target limit chunks ended =
      collectLines (g.readLine target) (linesRead chunks.flatten (!ended)) [] := by
  obtain ⟨hdescribes, -⟩ := describes_ofChunks limit chunks
  rw [collectChunks]
  generalize LineFeed.ofChunks limit chunks = s at hdescribes
  cases hdescribes with
  | growing overrun size hfits pieces =>
    have hlines : (if ended then s.finish else s.lines.reverse) =
        linesRead chunks.flatten (!ended) := by
      rw [linesRead_of_pieces pieces]
      cases ended <;> by_cases hheld : s.held = [] <;> simp [LineFeed.finish, overrun, size, hheld]
    rw [hlines, overrun]
    split
    · rename_i hnone
      cases hnone
    · rfl
  | stuck found long rest overrun exceeds hfits pieces =>
    obtain ⟨rest', hlines⟩ := exists_streamLines_of_long exceeds pieces
    have hlong : long.length ≤ limit := fits long (by rw [hlines]; simp)
    omega

/-- **Line ends and blank lines do not matter.**  Let CRs be put before line ends of a stream, and
whole lines of white space between its lines, in any number.  If all lines of the resulting stream
fit, then the same is gathered from both streams, however they are cut into chunks and whether or
not they are read to their ends: the same diagnostics, and if a line fails, the same failure with
the text of the same line. -/
theorem collectChunks_respaced [Platform] (g : Generation) (target : String) {limit : Nat}
    {chunks chunks' : List Octets} (respaced : Respaced chunks.flatten chunks'.flatten)
    (fits : ∀ line ∈ streamLines chunks'.flatten, line.length ≤ limit) (ended : Bool) :
    collectChunks g target limit chunks' ended = collectChunks g target limit chunks ended := by
  have hlines : (∀ line ∈ streamLines chunks.flatten, line.length ≤ limit) ∧
      collectLines (g.readLine target) (linesRead chunks'.flatten (!ended)) [] =
        collectLines (g.readLine target) (linesRead chunks.flatten (!ended)) [] := by
    generalize chunks'.flatten = octets' at respaced fits
    induction respaced with
    | refl => exact ⟨fits, rfl⟩
    | tail _ hstep ih =>
      obtain ⟨hfits, heq⟩ := ih ((hstep.lineChange false).fits fits)
      exact ⟨hfits, ((hstep.lineChange (!ended)).collectLines_congr g target).trans heq⟩
  rw [collectChunks_of_fits fits, collectChunks_of_fits hlines.1, hlines.2]

/-- An empty list, and a list that ends within a character. -/
def brokenList : List Octets :=
  [[91, 93, 10, 91, 0xE2, 0x82, 10]]

/-- The same lines with a no-break space on a line between them and a CR behind the broken
character. -/
def brokenListSpaced : List Octets :=
  [[91, 93, 10, 0xC2], [0xA0, 10, 91, 0xE2, 0x82], [13, 10]]

theorem brokenList_respaced :
    Respaced brokenList.flatten brokenListSpaced.flatten ∧
      (∀ line ∈ streamLines brokenListSpaced.flatten, line.length ≤ 8) ∧
      collectChunks .issueArrays "Main.elm" 8 brokenListSpaced true =
        collectChunks .issueArrays "Main.elm" 8 brokenList true := by
  have hcarriageReturn : Respacing [91, 93, 10, 91, 0xE2, 0x82, 10]
      [91, 93, 10, 91, 0xE2, 0x82, 13, 10] :=
    .lineEnding [91, 93, 10, 91, 0xE2, 0x82] []
  have hblank : Respacing [91, 93, 10, 91, 0xE2, 0x82, 13, 10]
      [91, 93, 10, 0xC2, 0xA0, 10, 91, 0xE2, 0x82, 13, 10] :=
    @Respacing.blankLine [91, 93, 10] [0xC2, 0xA0] [91, 0xE2, 0x82, 13, 10]
      (by rintro b ⟨⟩; rfl) (by decide) (by decide)
  have hrespaced : Respaced brokenList.flatten brokenListSpaced.flatten :=
    (Relation.ReflTransGen.single hcarriageReturn).tail hblank
  have hfits : ∀ line ∈ streamLines brokenListSpaced.flatten, line.length ≤ 8 := by decide
  exact ⟨hrespaced, hfits, collectChunks_respaced .issueArrays "Main.elm" hrespaced hfits true⟩

end CompilerOutput

end ElmOnSave
