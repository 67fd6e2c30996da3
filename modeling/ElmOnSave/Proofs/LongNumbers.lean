import ElmOnSave.Proofs.EscapingFaults
import ElmOnSave.Proofs.JsonReading

/-!
# Numbers that are too long to be read

An integer with more digits than `Decimal.digitLimit` is refused by the JSON reader wherever a value
is due.  In a report it takes no more than a line that consists of such a number to end the save: it
is well-formed JSON, but the refusal is not a complaint about the line.

The lemmas follow the number from the outside in: the octets are characters of their own
(`decodeLossy_of_ascii`), the characters are one number, which ends the reading of the text
(`read_of_digits`) and of the line (`readLine_of_digits`).
`end_of_save_of_digits` is what becomes of a save.
-/

namespace ElmOnSave

namespace Utf8

lemma feed_of_ascii (ps : List Piece) {b : UInt8} (h : b.toNat < 128) :
    State.feed ⟨ps, none⟩ b = ⟨.char (Char.ofNat b.toNat) 1 :: ps, none⟩ := by
  simp only [State.feed, State.restart, lead, if_pos h]

/-- Octets of ASCII are characters of their own. -/
lemma pieces_of_ascii {bytes : Octets} (h : ∀ b ∈ bytes, b.toNat < 128) :
    pieces bytes = bytes.map fun b => .char (Char.ofNat b.toNat) 1 := by
  have hfold : ∀ ps : List Piece, bytes.foldl State.feed ⟨ps, none⟩ =
      ⟨(bytes.map fun b => Piece.char (Char.ofNat b.toNat) 1).reverse ++ ps, none⟩ := by
    induction bytes with
    | nil => intro ps; rfl
    | cons b bytes ih =>
      intro ps
      rw [List.foldl_cons, feed_of_ascii ps (h b (List.mem_cons_self ..)),
        ih fun c hc => h c (List.mem_cons_of_mem b hc)]
      simp
  rw [pieces, State.initial, hfold []]
  simp [State.finish]

lemma decodeLossy_of_ascii {bytes : Octets} (h : ∀ b ∈ bytes, b.toNat < 128) :
    decodeLossy bytes = bytes.map fun b => Char.ofNat b.toNat := by
  rw [decodeLossy, pieces_of_ascii h, List.map_map]
  rfl

end Utf8

namespace CompilerOutput

/-! ## Numbers as JSON texts -/

section LongNumber

variable {d : Char} {ds : List Char} (digits : ∀ c ∈ d :: ds, Text.isAsciiDigit c = true)
  (zero : d ≠ '0')

include digits zero

variable (long : Decimal.digitLimit < ds.length + 1)

include long

/-- A number with too many digits is refused for its size. -/
lemma read_of_digits [Platform] :
    Json.read (d :: ds) = .error (.integerTooLong (ds.length + 1)) := by
  obtain ⟨n, hwritten, integer, hwhole⟩ : ∃ n : Json.Numeral,
      n.written = d :: ds ∧ n.isInteger = true ∧ n.whole = d :: ds := by
    refine ⟨⟨false, d :: ds, [], none, digits, List.cons_ne_nil d ds,
      fun h => absurd (Option.some.inj h) zero, fun _ h => absurd h List.not_mem_nil⟩,
      ?_, rfl, rfl⟩
    simp [Json.Numeral.written, Json.Numeral.unsigned, Json.Numeral.fractionWritten,
      Json.Numeral.exponentWritten]
  have hlong : Decimal.digitLimit < n.whole.length := by
    rw [hwhole]
    exact long
  have hreads : Json.Stage.Reads ⟨[], .value⟩ (n.written ++ [])
      (.error (.integerTooLong n.whole.length)) :=
    Json.Stage.Reads.longNumber n integer hlong Json.ends_nil fun _ => rfl
  rw [List.append_nil, hwritten, hwhole] at hreads
  exact hreads.read_long

/-- So is a line that consists of it. -/
theorem readLine_of_digits [Platform] (g : Generation) (target : String) :
    g.readLine target (String.ofList (d :: ds)) = .error (.integerTooLong (ds.length + 1)) := by
  have hd := digits d (List.mem_cons_self ..)
  have hblank : Text.isBlankText (d :: ds) = false := by
    simp only [Text.isAsciiDigit, Bool.and_eq_true, decide_eq_true_eq] at hd
    have hnone : Text.isBlank d = false := by
      simp [Text.isBlank]
      omega
    rw [Text.isBlankText, List.all_cons, hnone, Bool.false_and]
  have hbanner : successBanner.toList.isPrefixOf (d :: ds) = false := by
    refine Bool.eq_false_iff.2 fun hprefix => ?_
    obtain ⟨rfl, -⟩ := List.cons_prefix_cons.1 (List.isPrefixOf_iff_prefix.1 hprefix)
    revert hd
    decide
  have hread : readLine (String.ofList (d :: ds)) = .error (.integerTooLong (ds.length + 1)) := by
    rw [readLine, String.toList_ofList, read_of_digits digits zero long]
    rfl
  cases g with
  | issueArrays =>
    simp only [Generation.readLine, readIssueArray, String.toList_ofList, hblank, hbanner, hread]
    rfl
  | reportDocuments =>
    simp only [Generation.readLine, readReportDocument, String.toList_ofList, hblank, hread]
    rfl

end LongNumber

/-! ## Lines of digits -/

lemma isAsciiDigit_of_toNat {b : UInt8} (h : 48 ≤ b.toNat ∧ b.toNat ≤ 57) :
    Text.isAsciiDigit (Char.ofNat b.toNat) = true := by
  obtain ⟨hlow, hhigh⟩ := h
  generalize b.toNat = n at hlow hhigh
  interval_cases n <;> decide

/-- The text of a line of digits. -/
lemma lineText_of_digits {number : Octets} (digits : ∀ b ∈ number, 48 ≤ b.toNat ∧ b.toNat ≤ 57) :
    lineText number = String.ofList (number.map fun b => Char.ofNat b.toNat) := by
  have hascii : ∀ b ∈ number, b.toNat < 128 := fun b hb =>
    Nat.lt_of_le_of_lt (digits b hb).2 (by decide)
  have hend : ∀ c ∈ (number.map fun b => Char.ofNat b.toNat).reverse,
      Text.isLineEnd c = false := by
    intro c hc
    obtain ⟨b, hb, rfl⟩ := List.mem_map.1 (List.mem_reverse.1 hc)
    have hdigit := isAsciiDigit_of_toNat (digits b hb)
    refine Bool.eq_false_iff.2 fun hline => ?_
    simp only [Text.isLineEnd, Bool.or_eq_true, beq_iff_eq] at hline
    rcases hline with heq | heq <;> rw [heq] at hdigit <;> revert hdigit <;> decide
  rw [lineText, Utf8.decodeLossy_of_ascii hascii]
  generalize (number.map fun b => Char.ofNat b.toNat) = cs at hend ⊢
  have hkept : cs.reverse.dropWhile Text.isLineEnd = cs.reverse := by
    cases hcs : cs.reverse with
    | nil => rfl
    | cons c cs' => exact List.dropWhile_cons_of_neg (by simp [hend c (by simp [hcs])])
  rw [hkept, List.reverse_reverse]

/-- A line of digits is refused for its size, unless the stream refuses it as a line. -/
lemma readStreamLine_of_digits [Platform] {number : Octets}
    (digits : ∀ b ∈ number, 48 ≤ b.toNat ∧ b.toNat ≤ 57) (zero : number.head? ≠ some 48)
    (long : Decimal.digitLimit < number.length) {limit : Nat} (fits : number.length ≤ limit)
    (g : Generation) (target : String) :
    readStreamLine (g.readLine target) limit number = .error (.integerTooLong number.length) := by
  rw [readStreamLine, if_neg (Nat.not_lt.2 fits), lineText_of_digits digits]
  cases number with
  | nil => cases long
  | cons b bs =>
    have hdigits : ∀ c ∈ (b :: bs).map fun b => Char.ofNat b.toNat,
        Text.isAsciiDigit c = true := by
      intro c hc
      obtain ⟨o, ho, rfl⟩ := List.mem_map.1 hc
      exact isAsciiDigit_of_toNat (digits o ho)
    have hzero : Char.ofNat b.toNat ≠ '0' := by
      have hb : b.toNat ≠ 48 := fun heq => zero (congrArg some (UInt8.toNat_inj.1 heq))
      obtain ⟨hlow, hhigh⟩ := digits b (List.mem_cons_self ..)
      generalize b.toNat = n at hb hlow hhigh ⊢
      interval_cases n <;> first | exact absurd rfl hb | decide
    have hread := readLine_of_digits hdigits hzero (by simpa using long) g target
    simpa using hread

end CompilerOutput

/-! ## The save -/

open CompilerOutput CompilerRun

/-- Whatever else the compiler writes, what it yields is the refusal of the number. -/
lemma supervise_of_digits [Platform] {g : Generation} {r : CompileRequest} {c : Command}
    {x : Execution} {number rest : Octets}
    (inTime : limitReached r.config.timeout Platform.startupTime = false)
    (report : x.received r.config.timeout g.reportStream = number ++ lineEnd :: rest)
    (digits : ∀ b ∈ number, 48 ≤ b.toNat ∧ b.toNat ≤ 57) (zero : number.head? ≠ some 48)
    (long : Decimal.digitLimit < number.length) (fits : number.length ≤ streamLineLimit) :
    supervise g r c x = .error (.integerTooLong number.length) := by
  have hend : lineEnd ∉ number := fun hb => absurd (digits lineEnd hb).1 (by decide)
  have hlines : linesRead (x.received r.config.timeout g.reportStream)
      (x.isCutOff r.config.timeout) = number :: linesRead rest (x.isCutOff r.config.timeout) := by
    rw [report, linesRead_append_cons, streamPieces_of_not_mem hend, List.singleton_append]
  rw [supervise_eq_error_iff (by rfl), mapM_eq_error_iff]
  exact ⟨inTime, [], number, _, hlines, by simp,
    readStreamLine_of_digits digits zero long fits g r.file⟩

/-- **A number that is too long ends the save.**  The compiler of a saved file was started, and the
first line of its report is an integer with more digits than are read.  Then the save raises the
refusal of the number, whatever else the compiler writes and however it exits. -/
theorem end_of_save_of_digits [Platform] {m : Machine} {p : Publisher} {d : SavedDocument}
    (working : m.HasWorkingDirectory) (handled : p.handles d = true)
    {c located : Command} {g : Generation} {x : Execution}
    (prepared : (p.request m (Path.absText m.cwd d.path)).prepare m = .ok (c, g))
    (found : c.resolve m = .ok located) (started : startCommand m located = .ok x)
    (inTime : limitReached p.config.timeout Platform.startupTime = false) {number rest : Octets}
    (report : x.received p.config.timeout g.reportStream = number ++ lineEnd :: rest)
    (digits : ∀ b ∈ number, 48 ≤ b.toNat ∧ b.toNat ≤ 57) (zero : number.head? ≠ some 48)
    (long : Decimal.digitLimit < number.length) (fits : number.length ≤ streamLineLimit) :
    (p.save m d).2.1 = .raised (.integerTooLong number.length) := by
  have normal := Path.absText_absText working.absolute d.path
  have absolute := Path.isAbsoluteText_absText working.absolute d.path
  have hoff : (Fault.integerTooLong number.length).isPipeline = false := rfl
  have hrun : supervise g (p.request m (Path.absText m.cwd d.path)) c x =
      .error (.integerTooLong number.length) :=
    supervise_of_digits inTime report digits zero long fits
  have houtcome : (p.outcome m (Path.absText m.cwd d.path)).result =
      .error (.integerTooLong number.length) := by
    rw [Publisher.outcome, run, prepared]
    exact (runCommand_eq_error_iff hoff _ c g).2
      (.inr ⟨located, found, .inr ⟨x, started, hrun⟩⟩)
  exact end_of_save_of_escapes handled working.absolute
    ((outcome_eq_error_iff normal absolute).1 ⟨houtcome, hoff⟩)

end ElmOnSave
