import ElmOnSave.Proofs.FailingSteps
import ElmOnSave.Proofs.RunOutcome

/-!
# Reports that cannot be read

A line of a report that cannot be understood is a complaint about that line, whatever is wrong with
it, with one exception: what the JSON reader refuses for its size is passed on as it is
(`readLine_error`).  So a run fails with a fault that is no fault of the pipeline only through the
first line that cannot be read (`supervise_eq_error_iff`).
-/

namespace ElmOnSave

namespace CompilerOutput

/-! ## The steps of a reader -/

lemma readProblemEntry_eq (line : String) (path problem : Value) :
    readProblemEntry line path problem =
      (asObject line "problems[]" problem).bind fun p => accept line (readProblem path p) := by
  unfold readProblemEntry
  cases asObject line "problems[]" problem <;> rfl

lemma readGroup_eq (line : String) (group : Value) :
    readGroup line group = (asObject line "errors[]" group).bind fun g =>
      (asList line "problems" (g.getD "problems")).bind
        (List.mapM (readProblemEntry line (g.getD "path"))) := by
  unfold readGroup
  cases asObject line "errors[]" group with
  | error f => rfl
  | ok g =>
    simp only [Except.bind]
    cases asList line "problems" (g.getD "problems") <;> rfl

lemma readCompileErrors_eq (line : String) (report : Value) :
    readCompileErrors line report = (asList line "errors" (report.getD "errors")).bind fun groups =>
      (groups.mapM (readGroup line)).map List.flatten := by
  unfold readCompileErrors
  cases asList line "errors" (report.getD "errors") <;> rfl

/-- A line that is not blank holds a report. -/
lemma readReportDocument_eq [Platform] {line : String} (h : Text.isBlankText line.toList = false)
    (target : String) :
    readReportDocument target line = (readLine line).bind fun v =>
      (asObject line "document" v).bind (readReport target line) := by
  rw [readReportDocument, h, if_neg Bool.false_ne_true]
  cases readLine line with
  | error f => rfl
  | ok v =>
    simp only [Except.bind]
    cases asObject line "document" v <;> rfl

/-! ## Complaints about a line -/

/-- A step of reading a line fails with complaints about the line only. -/
def OnlyComplains {α : Type} (line : String) (x : Except Fault α) : Prop :=
  ∀ f, x = .error f → ∃ cause, f = .output cause line

section OnlyComplains

variable {α β : Type} {line : String}

lemma onlyComplains_ok (a : α) : OnlyComplains line (.ok a) := by
  rintro f ⟨⟩

lemma onlyComplains_refuse (cause : OutputFault) :
    OnlyComplains line (refuse line cause : Except Fault α) := by
  rintro f ⟨⟩
  exact ⟨cause, rfl⟩

lemma OnlyComplains.map {x : Except Fault α} (h : OnlyComplains line x) (f : α → β) :
    OnlyComplains line (x.map f) :=
  fun e he => h e (map_eq_error_iff.1 he)

lemma OnlyComplains.mapM {f : α → Except Fault β} (h : ∀ a, OnlyComplains line (f a))
    (as : List α) : OnlyComplains line (as.mapM f) :=
  fun _ => forall_error_of_mapM fun a _ => h a

lemma OnlyComplains.bind {x : Except Fault α} {f : α → Except Fault β} (hx : OnlyComplains line x)
    (hf : ∀ a, OnlyComplains line (f a)) : OnlyComplains line (x.bind f) := by
  intro e he
  rcases bind_eq_error_iff.1 he with he | ⟨a, -, he⟩
  · exact hx e he
  · exact hf a e he

lemma onlyComplains_accept (d : Checked Diagnostic) : OnlyComplains line (accept line d) := by
  unfold accept
  split
  · exact onlyComplains_ok _
  · exact onlyComplains_refuse _

lemma onlyComplains_asList (field : String) (v : Value) :
    OnlyComplains line (asList line field v) := by
  unfold asList
  split
  · exact onlyComplains_ok _
  · exact onlyComplains_ok _
  · exact onlyComplains_refuse _

lemma onlyComplains_asObject (field : String) (v : Value) :
    OnlyComplains line (asObject line field v) := by
  unfold asObject
  split
  · exact onlyComplains_ok _
  · exact onlyComplains_refuse _

lemma onlyComplains_readIssue (target : String) (v : Value) :
    OnlyComplains line (readIssue target line v) := by
  unfold readIssue
  split
  · exact onlyComplains_accept _
  · exact onlyComplains_refuse _

lemma onlyComplains_readProblemEntry (path problem : Value) :
    OnlyComplains line (readProblemEntry line path problem) := by
  rw [readProblemEntry_eq]
  exact (onlyComplains_asObject _ _).bind fun p => onlyComplains_accept _

lemma onlyComplains_readGroup (group : Value) : OnlyComplains line (readGroup line group) := by
  rw [readGroup_eq]
  exact (onlyComplains_asObject _ _).bind fun g =>
    (onlyComplains_asList _ _).bind (.mapM (onlyComplains_readProblemEntry _))

lemma onlyComplains_readCompileErrors (report : Value) :
    OnlyComplains line (readCompileErrors line report) := by
  rw [readCompileErrors_eq]
  exact (onlyComplains_asList _ _).bind fun groups =>
    (OnlyComplains.mapM onlyComplains_readGroup groups).map _

lemma onlyComplains_readReport (target : String) (report : Value) :
    OnlyComplains line (readReport target line report) := by
  unfold readReport
  split
  · split
    · exact onlyComplains_readCompileErrors report
    · split
      · exact (onlyComplains_accept _).map _
      · exact onlyComplains_ok _
  · exact onlyComplains_ok _

end OnlyComplains

/-! ## Refusals for size -/

/-- A fault of the JSON reader that has no place in the text: the text is refused for its size. -/
def RefusedForSize [Platform] (line : String) (f : Fault) : Prop :=
  (f = .nestedTooDeep ∧ Json.read line.toList = .error .nestedTooDeep) ∨
    ∃ digits, f = .integerTooLong digits ∧ Json.read line.toList = .error (.integerTooLong digits)

lemma readLine_eq_error [Platform] {line : String} {f : Fault} (h : readLine line = .error f) :
    (∃ cause, f = .output cause line) ∨ RefusedForSize line f := by
  obtain ⟨jf, hread, rfl⟩ := mapError_eq_error_iff.1 h
  cases jf with
  | malformed c p o => exact .inl ⟨.malformed c p o, rfl⟩
  | integerTooLong digits => exact .inr (.inr ⟨digits, rfl, hread⟩)
  | nestedTooDeep => exact .inr (.inl ⟨rfl, hread⟩)

/-- Reading a line fails with a complaint about it, unless its JSON text is refused for its size. -/
theorem readLine_error [Platform] {g : Generation} {target line : String} {f : Fault}
    (h : g.readLine target line = .error f) :
    (∃ cause, f = .output cause line) ∨ RefusedForSize line f := by
  cases g with
  | issueArrays =>
    simp only [Generation.readLine, readIssueArray] at h
    split at h
    · cases h
    · split at h
      · rename_i hline
        cases h
        exact readLine_eq_error hline
      · exact .inl (OnlyComplains.mapM (onlyComplains_readIssue target) _ f h)
      · exact .inl (onlyComplains_refuse _ f h)
  | reportDocuments =>
    rw [Generation.readLine] at h
    cases hblank : Text.isBlankText line.toList with
    | true =>
      rw [readReportDocument, hblank] at h
      cases h
    | false =>
      rw [readReportDocument_eq hblank] at h
      rcases bind_eq_error_iff.1 h with hline | ⟨v, -, hdocument⟩
      · exact readLine_eq_error hline
      · exact .inl (((onlyComplains_asObject _ v).bind (onlyComplains_readReport target)) f hdocument)

/-! ## The lines that are read -/

/-- The lines of a report that are read.  Of a report that is cut off they are those that have their
ends. -/
def linesRead (octets : Octets) (cutOff : Bool) : List Octets :=
  if cutOff then (streamPieces octets).dropLast else streamLines octets

lemma linesRead_of_pieces {octets last : Octets} {init : List Octets}
    (h : streamPieces octets = init ++ [last]) (cutOff : Bool) :
    linesRead octets cutOff = if cutOff = true ∨ last = [] then init else init ++ [last] := by
  cases cutOff with
  | true => simp [linesRead, h]
  | false => simpa [linesRead] using streamLines_of_pieces h

/-- The pieces before a line end are lines, whatever follows. -/
lemma linesRead_append_cons (before after : Octets) (cutOff : Bool) :
    linesRead (before ++ lineEnd :: after) cutOff =
      streamPieces before ++ linesRead after cutOff := by
  obtain ⟨init, last, hafter⟩ := exists_streamPieces after
  have hpieces : streamPieces (before ++ lineEnd :: after) =
      (streamPieces before ++ init) ++ [last] := by
    rw [streamPieces_append_cons, hafter, List.append_assoc]
  rw [linesRead_of_pieces hpieces, linesRead_of_pieces hafter]
  split <;> simp

lemma fault_collectLines_iff {read : String → Except Fault (List Diagnostic)} {limit : Nat}
    {lines : List Octets} (fits : ∀ line ∈ lines, line.length ≤ limit) {f : Fault} :
    (collectLines read lines []).fault = some f ↔
      lines.mapM (readStreamLine read limit) = .error f := by
  rw [← Collected.toExcept_eq_error_iff, toExcept_collectLines, mapM_readStreamLine_of_fits fits]
  cases lines.mapM fun line => read (lineText line) <;> simp [Except.map]

section Faults

variable {g : Generation} {target : String} {limit : Nat} {chunks : List Octets} {f : Fault}
  (hf : f.isPipeline = false)

include hf

lemma ne_lineTooLong_of_not_isPipeline (found : Bool) : .output (.lineTooLong found) "" ≠ f := by
  rintro rfl
  cases hf

lemma Agree.eq_error_iff {α : Type} {x y : Except Fault α} (h : Agree x y) :
    x = .error f ↔ y = .error f := by
  cases h with
  | same => exact Iff.rfl
  | lineTooLong a b =>
    simp [ne_lineTooLong_of_not_isPipeline hf]

/-- Behind lines that are read, a line that is too long fails in a way of its own. -/
lemma mapM_append_long_iff {read : String → Except Fault (List Diagnostic)}
    {lines tail : List Octets} (htail : ∀ long ∈ tail.head?, limit < long.length) :
    (lines ++ tail).mapM (readStreamLine read limit) = .error f ↔
      lines.mapM (readStreamLine read limit) = .error f := by
  cases tail with
  | nil => rw [List.append_nil]
  | cons long rest =>
    have hlong : readStreamLine read limit long = .error (.output (.lineTooLong true) "") :=
      if_pos (htail long rfl)
    rw [List.mapM_append, List.mapM_cons, hlong]
    cases lines.mapM (readStreamLine read limit) with
    | error e => rfl
    | ok dss => simpa [bind, Except.bind] using ne_lineTooLong_of_not_isPipeline hf true

/-- A report that has come to its end. -/
lemma fault_collectChunks_ended_iff [Platform] :
    (collectChunks g target limit chunks true).fault = some f ↔
      (linesRead chunks.flatten false).mapM (readStreamLine (g.readLine target) limit) =
        .error f := by
  rw [← Collected.toExcept_eq_error_iff,
    Agree.eq_error_iff hf (collectChunks_agrees g target limit chunks), readStream, linesRead,
    if_neg Bool.false_ne_true]
  cases (streamLines chunks.flatten).mapM (readStreamLine (g.readLine target) limit) <;>
    simp [Except.map]

/-- A report that is cut off. -/
lemma fault_collectChunks_cutOff_iff [Platform] :
    (collectChunks g target limit chunks false).fault = some f ↔
      (linesRead chunks.flatten true).mapM (readStreamLine (g.readLine target) limit) =
        .error f := by
  obtain ⟨hdescribes, -⟩ := describes_ofChunks limit chunks
  rw [collectChunks, linesRead, if_pos rfl]
  generalize LineFeed.ofChunks limit chunks = s at hdescribes
  cases hdescribes with
  | growing overrun size fits pieces =>
    have hfits : ∀ line ∈ s.lines.reverse, line.length ≤ limit :=
      fun line hline => fits line (List.mem_reverse.1 hline)
    rw [pieces, List.dropLast_concat, ← fault_collectLines_iff hfits]
    simp only [overrun, Bool.false_eq_true, if_false]
    split
    · rename_i hnone
      cases hnone
    · exact Iff.rfl
  | stuck found long rest overrun exceeds fits pieces =>
    have hfits : ∀ line ∈ s.lines.reverse, line.length ≤ limit :=
      fun line hline => fits line (List.mem_reverse.1 hline)
    have htail : ∀ line ∈ (long :: rest).dropLast.head?, limit < line.length := by
      cases rest with
      | nil => simp
      | cons next rest => simpa using exceeds
    rw [pieces, List.dropLast_append_of_ne_nil (List.cons_ne_nil long rest),
      mapM_append_long_iff hf htail, ← fault_collectLines_iff hfits]
    simp only [overrun, Bool.false_eq_true, if_false]
    cases hfault : (collectLines (g.readLine target) s.lines.reverse []).fault with
    | some f' => simp [hfault]
    | none => simpa using ne_lineTooLong_of_not_isPipeline hf found

end Faults

end CompilerOutput

open CompilerOutput

/-- A process fails with a fault that is none of the pipeline if its report does, in the lines that
are read before the time is up. -/
theorem supervise_eq_error_iff [Platform] {g : Generation} {r : CompileRequest} {c : Command}
    {x : Execution} {f : Fault} (hf : f.isPipeline = false) :
    CompilerRun.supervise g r c x = .error f ↔
      CompilerRun.limitReached r.config.timeout Platform.startupTime = false ∧
        (linesRead (x.received r.config.timeout g.reportStream)
            (x.isCutOff r.config.timeout)).mapM
          (readStreamLine (g.readLine r.file) streamLineLimit) = .error f := by
  have hlate : Fault.timedOut c.words (r.config.timeout.getD .zero) ≠ f := by
    rintro rfl
    cases hf
  rw [CompilerRun.supervise]
  generalize x.received r.config.timeout g.reportStream = report
  cases hstart : CompilerRun.limitReached r.config.timeout Platform.startupTime with
  | true => simpa using hlate
  | false =>
    cases x.isCutOff r.config.timeout with
    | true =>
      have hiff : (collectChunks g r.file streamLineLimit [report] false).fault = some f ↔ _ :=
        fault_collectChunks_cutOff_iff hf
      rw [List.flatten_singleton] at hiff
      rw [← hiff]
      cases (collectChunks g r.file streamLineLimit [report] false).fault with
      | none => simpa using hlate
      | some f' => simp
    | false =>
      have hiff : (collectChunks g r.file streamLineLimit [report] true).fault = some f ↔ _ :=
        fault_collectChunks_ended_iff hf
      rw [List.flatten_singleton] at hiff
      rw [← hiff]
      simp only [Bool.false_eq_true, if_false, true_and, CompilerRun.conclude]
      cases (collectChunks g r.file streamLineLimit [report] true).fault with
      | none =>
        generalize projectFailure? g r.file _ = failure
        cases failure <;> simp
      | some f' => simp

end ElmOnSave
