import ElmOnSave.Proofs.IssueArrays
import ElmOnSave.Proofs.JsonLineEnds
import ElmOnSave.Proofs.ReportLoading

/-!
# Two readers of issues

A list of issues is read from the report of the analyzer and from a line of compiler output.  The
readers are written separately: each takes the entries of the list one by one, and each has
complaints of its own.

An issue that names its file is the same to both, since the compiled file is filled in only where
none is named.  So each entry has the same outcome (`sameOutcome_entry`): the same diagnostic, or
complaints that correspond, and so has a list up to the first entry that is refused
(`SameOutcome.mapM`).  What stands around the list makes no difference: a line that holds a list is
neither blank nor the banner of a successful run (`not_banner_of_read`), and on one line the text of
a file has the value it has as it stands (`Json.read_universalNewlines_eq_ok_iff`).
-/

namespace ElmOnSave

open CompilerOutput

/-- What is made of a report at a path and what is made of a line are the same, or they are refused
for the same reason, each in its own words. -/
inductive SameOutcome (path line : String) {α : Type} : Except Fault α → Except Fault α → Prop where
  | read (a : α) : SameOutcome path line (.ok a) (.ok a)
  | noObject : SameOutcome path line (.error (.report path .notObject))
      (.error (.output .notIssueObject line))
  | refused (r : Refusal) : SameOutcome path line (.error (.report path (.invalid r)))
      (.error (.output (.unexpectedShape r) line))

namespace SameOutcome

variable {path line : String} {α : Type} {x y : Except Fault α}

lemma eq_ok_iff (h : SameOutcome path line x y) (a : α) : x = .ok a ↔ y = .ok a := by
  cases h with
  | read b => exact Iff.rfl
  | noObject => exact iff_of_false nofun nofun
  | refused r => exact iff_of_false nofun nofun

/-- One complains exactly when the other does. -/
lemma complains_iff (h : SameOutcome path line x y) :
    (∃ cause, x = .error (.report path cause)) ↔ ∃ cause, y = .error (.output cause line) := by
  cases h with
  | read b => exact iff_of_false nofun nofun
  | noObject => exact iff_of_true ⟨_, rfl⟩ ⟨_, rfl⟩
  | refused r => exact iff_of_true ⟨_, rfl⟩ ⟨_, rfl⟩

/-- What is refused for one reason ends what follows. -/
lemma bind {β : Type} {f g : α → Except Fault β} (h : SameOutcome path line x y)
    (rest : ∀ a, SameOutcome path line (f a) (g a)) :
    SameOutcome path line (x >>= f) (y >>= g) := by
  cases h with
  | read a => exact rest a
  | noObject => exact .noObject
  | refused r => exact .refused r

/-- Items with the same outcomes one by one have the same outcome as a list. -/
lemma mapM {β : Type} {f g : β → Except Fault α} {items : List β}
    (h : ∀ i ∈ items, SameOutcome path line (f i) (g i)) :
    SameOutcome path line (items.mapM f) (items.mapM g) := by
  induction items with
  | nil => exact .read []
  | cons i items ih =>
    rw [List.forall_mem_cons] at h
    rw [List.mapM_cons, List.mapM_cons]
    exact h.1.bind fun a => (ih h.2).bind fun as => .read (a :: as)

end SameOutcome

/-! ## Entries -/

lemma withTarget_of_named {fields : List (Text × Value)}
    (named : Entries.get? fields (.whole "file") ≠ none) (target : String) :
    withTarget target fields = fields := by
  obtain ⟨file, hfile⟩ := Option.ne_none_iff_exists'.1 named
  rw [withTarget, hfile]

/-- An entry that names its file, if it is an object, has the same outcome in a report and on a
line. -/
lemma sameOutcome_entry (path line target : String) {entry : Value}
    (named : ∀ fields, entry = .table fields → Entries.get? fields (.whole "file") ≠ none) :
    SameOutcome path line (AnalyzerReport.readEntry path entry) (readIssue target line entry) := by
  cases entry with
  | table fields =>
    rw [AnalyzerReport.readEntry, readIssue, withTarget_of_named (named fields rfl), accept]
    cases (Diagnostic.ofEntries fields).toExcept Diagnostic.subject with
    | ok d => exact .read d
    | error r => exact .refused r
  | _ => exact .noObject

/-! ## Lines -/

/-- A line with a value is not the banner of a successful run. -/
lemma not_banner_of_read [Platform] {cs : List Char} {v : Value} (h : Json.read cs = .ok v) :
    successBanner.toList.isPrefixOf cs = false := by
  rw [Bool.eq_false_iff, ne_eq, List.isPrefixOf_iff_prefix]
  rintro ⟨rest, rfl⟩
  have htokens : Json.tokens (successBanner.toList ++ rest) = ([] ++ [(.stray, 0)], 0) := by
    rfl
  exact Json.read_ne_ok_of_tokens htokens v h

/-- The issues of a line that holds a list. -/
lemma readIssueArray_of_read [Platform] {line : String} {entries : List Value}
    (array : Json.read line.toList = .ok (.list entries)) (target : String) :
    readIssueArray target line = entries.mapM (readIssue target line) := by
  have hline : readLine line = .ok (.list entries) := by
    rw [readLine, array]
    rfl
  rw [readIssueArray, not_banner_of_read array, Json.isBlankText_of_read array, hline]
  rfl

/-- **The readers of issues agree.**  Let a line hold a list whose objects all name their file.  A
report with this text is loaded exactly when the line is read, for whatever target file; both yield
the same diagnostics.  Otherwise there is a complaint about the report and a complaint about the
line, for the same reason.  The line may hold CRs, which are LFs in the text of the report. -/
theorem load_agrees_readIssueArray [Platform] {m : Machine} {path : Path} {content : Octets}
    {line : String} {entries : List Value} (octets : m.readFile path.text = .ok content)
    (text : Utf8.decodeStrict content = .ok line.toList) (oneLine : '\n' ∉ line.toList)
    (array : Json.read line.toList = .ok (.list entries))
    (named : ∀ fields, .table fields ∈ entries → Entries.get? fields (.whole "file") ≠ none) :
    ((∃ ds, AnalyzerReport.load m path = .ok ds) ↔
      ∀ target, ∃ ds, readIssueArray target line = .ok ds) ∧
    ∀ target,
      (∀ ds, AnalyzerReport.load m path = .ok ds ↔ readIssueArray target line = .ok ds) ∧
      ((∃ cause, AnalyzerReport.load m path = .error (.report path.text cause)) ↔
        ∃ cause, readIssueArray target line = .error (.output cause line)) ∧
      SameOutcome path.text line (AnalyzerReport.load m path) (readIssueArray target line) := by
  have hread : Json.read (Text.universalNewlines line.toList) = .ok (.list entries) :=
    (Json.read_universalNewlines_eq_ok_iff oneLine).2 array
  have hload : AnalyzerReport.load m path =
      entries.mapM (AnalyzerReport.readEntry path.text) := by
    rw [AnalyzerReport.load_of_holdsText (.decoded octets text), AnalyzerReport.ofText, hread]
  have hsame : ∀ target,
      SameOutcome path.text line (AnalyzerReport.load m path) (readIssueArray target line) := by
    intro target
    rw [hload, readIssueArray_of_read array]
    refine SameOutcome.mapM fun entry hentry => sameOutcome_entry _ _ _ fun fields hfields => ?_
    exact named fields (hfields ▸ hentry)
  refine ⟨⟨?_, fun h => ?_⟩, fun target =>
    ⟨(hsame target).eq_ok_iff, (hsame target).complains_iff, hsame target⟩⟩
  · rintro ⟨ds, hds⟩ target
    exact ⟨ds, ((hsame target).eq_ok_iff ds).1 hds⟩
  · obtain ⟨ds, hds⟩ := h ""
    exact ⟨ds, ((hsame "").eq_ok_iff ds).2 hds⟩

/-- An object that names no text as its file, and behind a CR an entry that is no object. -/
def mixedIssues : String := "[\x7b\"file\":1\x7d,\r2]"

/-- The octets of these issues. -/
def mixedOctets : Octets :=
  [91, 123, 34, 102, 105, 108, 101, 34, 58, 49, 125, 44, 13, 50, 93]

/-- A machine whose only file is a report of these issues. -/
def mixedReport : Machine :=
  ⟨⟨[(["report.json"], .file mixedOctets 0o644 none)]⟩, "/", [], []⟩

theorem mixedReport_agrees :
    mixedReport.readFile (Path.ofString "/report.json").text = .ok mixedOctets ∧
      Utf8.decodeStrict mixedOctets = .ok mixedIssues.toList ∧ '\n' ∉ mixedIssues.toList ∧
      Json.read mixedIssues.toList = .ok (.list [.table [(.whole "file", .int 1)], .int 2]) ∧
      ∀ target, SameOutcome "/report.json" mixedIssues
        (AnalyzerReport.load mixedReport (.ofString "/report.json"))
        (readIssueArray target mixedIssues) := by
  have hoctets : mixedReport.readFile (Path.ofString "/report.json").text = .ok mixedOctets := by
    decide +kernel
  have htext : Utf8.decodeStrict mixedOctets = .ok mixedIssues.toList := by decide +kernel
  have hline : '\n' ∉ mixedIssues.toList := by decide
  have harray : Json.read mixedIssues.toList =
      .ok (.list [.table [(.whole "file", .int 1)], .int 2]) := by rfl
  have hnamed : ∀ fields, .table fields ∈ [Value.table [(.whole "file", .int 1)], .int 2] →
      Entries.get? fields (.whole "file") ≠ none := by
    intro fields hfields
    simp only [List.mem_cons, Value.table.injEq, reduceCtorEq, List.not_mem_nil, or_false]
      at hfields
    rw [hfields]
    exact nofun
  have hagree := load_agrees_readIssueArray hoctets htext hline harray hnamed
  exact ⟨hoctets, htext, hline, harray, fun target => (hagree.2 target).2.2⟩

end ElmOnSave
